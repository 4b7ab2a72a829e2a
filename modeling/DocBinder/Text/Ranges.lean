/-!
# Ranges of code points

A property of characters is given by a table of closed ranges of code points.
-/

namespace DocBinder.Text.Ranges

/-- The range of the table that holds the character. -/
def find? (ranges : Array (Nat × Nat)) (character : Char) : Option (Nat × Nat) :=
  ranges.find? fun range => range.1 ≤ character.toNat && character.toNat ≤ range.2

end DocBinder.Text.Ranges
