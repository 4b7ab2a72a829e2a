import DocBinder.Text.Basic

/-!
# Similar texts

Two texts are the more alike, the more characters they have in common in their longest common piece
and, on both sides of it, again in the longest common pieces there.
-/

namespace DocBinder.Text

/-- The length of the longest beginning that two texts have in common. -/
def commonPrefix : Text → Text → Nat
  | first :: firsts, second :: seconds =>
      if first == second then commonPrefix firsts seconds + 1 else 0
  | _, _ => 0

/-- A common piece of two texts: its places in them, and its length. -/
structure CommonPiece where
  firstPlace : Nat
  secondPlace : Nat
  length : Nat
deriving DecidableEq, Repr, Inhabited

/-- The longest common piece of two texts; of several, the one that comes first in the first text,
then in the second. -/
def longestCommon (first second : Text) : CommonPiece :=
  let candidates := (List.range first.length).flatMap fun firstPlace =>
    (List.range second.length).map fun secondPlace =>
      (⟨firstPlace, secondPlace,
        commonPrefix (first.drop firstPlace) (second.drop secondPlace)⟩ : CommonPiece)
  candidates.foldl
    (fun best candidate => if best.length < candidate.length then candidate else best)
    ⟨0, 0, 0⟩

/-- The number of characters in the common pieces of two texts. Each step of the recursion uses up a
character, so that `depth` need not exceed the length of a text. -/
def commonSize (depth : Nat) (first second : Text) : Nat :=
  match depth with
  | 0 => 0
  | depth + 1 =>
      let piece := longestCommon first second
      if piece.length == 0 then 0
      else
        piece.length
          + commonSize depth (first.take piece.firstPlace) (second.take piece.secondPlace)
          + commonSize depth (first.drop (piece.firstPlace + piece.length))
              (second.drop (piece.secondPlace + piece.length))

/-- How alike two texts are: the share of the characters of both that are in common, as a numerator
and a denominator. -/
def likeness (first second : Text) : Nat × Nat :=
  (2 * commonSize first.length first second, first.length + second.length)

/-- Whether a likeness is greater than another. -/
def moreAlike (first second : Nat × Nat) : Bool :=
  second.1 * first.2 < first.1 * second.2

/-- The texts that are most like a text: at most three, and only those of which at least three
fifths are in common. -/
def mostAlike (text : Text) (others : List Text) : List Text :=
  let rated := (others.map fun other => (likeness other text, other)).filter fun entry =>
    3 * entry.1.2 ≤ 5 * entry.1.1
  ((rated.mergeSort fun first second => !moreAlike second.1 first.1).take 3).map (·.2)

end DocBinder.Text
