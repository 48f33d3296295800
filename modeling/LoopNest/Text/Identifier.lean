import LoopNest.Text.Alphabetic

namespace LoopNest
namespace Text

/-!
# Identifiers

Functions and the values that they capture are named by identifiers: an
alphabetic character or an underscore, then any number of alphabetic
characters, numeric characters and underscores.  The empty text is no
identifier.
-/

/-- May the character begin an identifier? -/
def beginsIdentifier (c : Char) : Bool :=
  isAlphabetic c || c == '_'

/-- May the character stand in an identifier after its first? -/
def continuesIdentifier (c : Char) : Bool :=
  isAlphabetic c || isNumeric c || c == '_'

def isIdentifier (name : String) : Bool :=
  match name.toList with
  | [] => false
  | first :: rest => beginsIdentifier first && rest.all continuesIdentifier

theorem isIdentifier_iff (name : String) :
    isIdentifier name = true <->
      ∃ first rest, name.toList = first :: rest ∧ beginsIdentifier first = true ∧
        ∀ c ∈ rest, continuesIdentifier c = true := by
  unfold isIdentifier
  cases name.toList with
  | nil => simp
  | cons first rest =>
      simp only [Bool.and_eq_true, List.all_eq_true]
      constructor
      · intro fine
        exact ⟨first, rest, rfl, fine⟩
      · rintro ⟨_, _, same, fine⟩
        obtain ⟨rfl, rfl⟩ := List.cons.inj same
        exact fine

end Text
end LoopNest
