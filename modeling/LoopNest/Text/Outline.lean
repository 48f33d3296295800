import LoopNest.Text.Extending
import LoopNest.Text.Unprintable

namespace LoopNest
namespace Text

/-!
# Outlines of values

Diagnostics show a value by the name of its kind and its parts: a tuple of
unnamed parts, a record of named ones, or a list.  A record that keeps some of
its fields to itself says so with two dots before it closes.

Names stand between double quotes.  The quote and the backslash are written
after a backslash, five control characters have short forms, and a character
that could not be seen by itself is written by its number: one without a
printed form, one that may be left out of print, or one that is drawn on its
neighbour.
-/

/-- The parts, separated by commas. -/
def separated (parts : List String) : String :=
  ", ".intercalate parts

/-- A head with unnamed parts. -/
def tuple (head : String) (parts : List String) : String :=
  head ++ "(" ++ separated parts ++ ")"

/-- The parts between square brackets. -/
def items (parts : List String) : String :=
  "[" ++ separated parts ++ "]"

/-- A field of a record, by name. -/
def field (name value : String) : String :=
  name ++ ": " ++ value

/-- A head with named parts, all of them shown. -/
def record (head : String) (fields : List String) : String :=
  head ++ " \x7b " ++ separated fields ++ " \x7d"

/-- A head with named parts, of which some are not shown. -/
def openRecord (head : String) (fields : List String) : String :=
  head ++ " \x7b " ++ separated fields ++ ", .. \x7d"

/-! ## Text between quotes -/

/-- The digits of a number to the base sixteen, in small letters. -/
def hexDigits (n : Nat) : String :=
  String.ofList (Nat.toDigits 16 n)

/-- Could the character not be seen, or not be told apart, by itself? -/
def isHidden (c : Char) : Bool :=
  isExtending c || isIgnorable c || isUnprintable c

/-- A character as it stands between double quotes. -/
def quotedChar (c : Char) : String :=
  if c = '\x00' then "\\0"
  else if c = '\t' then "\\t"
  else if c = '\r' then "\\r"
  else if c = '\n' then "\\n"
  else if c = '\\' then "\\\\"
  else if c = '"' then "\\\""
  else if isHidden c then "\\u\x7b" ++ hexDigits c.toNat ++ "\x7d"
  else c.toString

/-- The text between double quotes. -/
def quoted (text : String) : String :=
  "\"" ++ String.join (text.toList.map quotedChar) ++ "\""

end Text
end LoopNest
