import DocBinder.Total

/-!
# Text

A text is a list of characters, so that positions count code points and every operation on it is
a recursion on the list. This module holds blank characters, trimming, lines, searching and the
width of a text in the index units of a remote document.
-/

namespace DocBinder

/-- A text as the list of its characters. -/
abbrev Text := List Char

namespace Text

/-- The characters that count as white space: the Unicode separators and the ASCII controls that
move the print position or separate records. -/
def isBlank (character : Char) : Bool :=
  let code := character.toNat
  (0x09 ≤ code && code ≤ 0x0D) || (0x1C ≤ code && code ≤ 0x20) || code == 0x85 || code == 0xA0
    || code == 0x1680 || (0x2000 ≤ code && code ≤ 0x200A) || code == 0x2028 || code == 0x2029
    || code == 0x202F || code == 0x205F || code == 0x3000

/-- Every character that core calls white space is blank. -/
theorem isBlank_of_isWhitespace {character : Char} (h : character.isWhitespace = true) :
    isBlank character = true := by
  simp only [Char.isWhitespace, Bool.or_eq_true, decide_eq_true_eq] at h
  rcases h with ((h | h) | h) | h <;> subst h <;> decide

/-- Drop the blank characters at the start. -/
def trimStart (text : Text) : Text :=
  text.dropWhile isBlank

/-- Drop the blank characters at the end. -/
def trimEnd (text : Text) : Text :=
  (text.reverse.dropWhile isBlank).reverse

/-- Drop the blank characters at both ends. -/
def strip (text : Text) : Text :=
  trimEnd (trimStart text)

/-- Cut a text at every occurrence of a separator. The result is never empty, and joining it with
the separator gives the text back. -/
def splitOn (separator : Char) : Text → List Text
  | [] => [[]]
  | character :: rest =>
      if character = separator then [] :: splitOn separator rest
      else
        match splitOn separator rest with
        | [] => [[character]]
        | piece :: pieces => (character :: piece) :: pieces

/-- Join pieces with a separator between each two. -/
def join (separator : Text) : List Text → Text
  | [] => []
  | [piece] => piece
  | piece :: pieces => piece ++ separator ++ join separator pieces

/-- The lines of a text, cut at line feeds. -/
def lines (text : Text) : List Text :=
  splitOn '\n' text

/-- Join lines with line feeds. -/
def joinLines (pieces : List Text) : Text :=
  join ['\n'] pieces

/-- Turn carriage returns, alone or before a line feed, into line feeds. -/
def normalizeNewlines : Text → Text
  | [] => []
  | '\r' :: '\n' :: rest => '\n' :: normalizeNewlines rest
  | character :: rest =>
      (if character = '\r' then '\n' else character) :: normalizeNewlines rest

/-- The text after a beginning, when the text begins with it. -/
def drop? : (beginning text : Text) → Option Text
  | [], text => some text
  | _ :: _, [] => none
  | expected :: beginning, character :: text =>
      if expected = character then drop? beginning text else none

/-- Whether a text begins with another. -/
def startsWith (text beginning : Text) : Bool :=
  beginning.isPrefixOf text

/-- The first position, counted from `position`, at which the needle stands in the text. -/
def findFrom? (needle : Text) (position : Nat) : Text → Option Nat
  | [] => if needle.isEmpty then some position else none
  | character :: rest =>
      if needle.isPrefixOf (character :: rest) then some position
      else findFrom? needle (position + 1) rest

/-- The first position at or after `start` at which the needle stands. A start past the end finds
nothing, not even the empty needle. -/
def find? (text needle : Text) (start : Nat) : Option Nat :=
  if start ≤ text.length then findFrom? needle start (text.drop start) else none

/-- Whether the needle stands anywhere in the text. -/
def contains (text needle : Text) : Bool :=
  (findFrom? needle 0 text).isSome

/-- The positions of the needle, each search starting where the last match ended; `skip` counts
the characters of a match still to pass. -/
def occurrencesFrom (needle : Text) (position skip : Nat) : Text → List Nat
  | [] => []
  | character :: rest =>
      match skip with
      | skip + 1 => occurrencesFrom needle (position + 1) skip rest
      | 0 =>
          if needle.isPrefixOf (character :: rest) then
            position :: occurrencesFrom needle (position + 1) (needle.length - 1) rest
          else occurrencesFrom needle (position + 1) 0 rest

/-- The positions of a non-empty needle in a text, left to right and without overlap. -/
def occurrences (text needle : Text) : List Nat :=
  if needle.isEmpty then [] else occurrencesFrom needle 0 0 text

/-- Replace every occurrence of a non-empty needle; `skip` counts the characters of a match still
to drop. -/
def replaceFrom (needle replacement : Text) (skip : Nat) : Text → Text
  | [] => []
  | character :: rest =>
      match skip with
      | skip + 1 => replaceFrom needle replacement skip rest
      | 0 =>
          if needle.isPrefixOf (character :: rest) then
            replacement ++ replaceFrom needle replacement (needle.length - 1) rest
          else character :: replaceFrom needle replacement 0 rest

/-- Replace every occurrence of a non-empty needle, left to right and without overlap. -/
def replace (text needle replacement : Text) : Text :=
  if needle.isEmpty then text else replaceFrom needle replacement 0 text

/-- The index units of one character: two outside the basic plane, else one. -/
def charWidth (character : Char) : Nat :=
  if character.toNat > 0xFFFF then 2 else 1

/-- The length of a text in the index units of a remote document, which count UTF-16 code
units. -/
def width (text : Text) : Nat :=
  total (text.map charWidth)

/-- The characters that end a line when a text is only counted in lines. -/
def isLineEnd (character : Char) : Bool :=
  let code := character.toNat
  (0x0A ≤ code && code ≤ 0x0D) || (0x1C ≤ code && code ≤ 0x1E) || code == 0x85
    || code == 0x2028 || code == 0x2029

/-- The number of lines of a text, counting every Unicode line end and no empty line at the
end. `opened` tells that the current line has begun. -/
def countLinesFrom (opened : Bool) : Text → Nat
  | [] => if opened then 1 else 0
  | '\r' :: '\n' :: rest => countLinesFrom false rest + 1
  | character :: rest =>
      if isLineEnd character then countLinesFrom false rest + 1 else countLinesFrom true rest

/-- The number of lines of a text, counting every Unicode line end. -/
def countLines (text : Text) : Nat :=
  countLinesFrom false text

end Text

end DocBinder
