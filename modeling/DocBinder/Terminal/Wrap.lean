import DocBinder.Terminal.Markup
import DocBinder.Terminal.Width

/-!
# Lines of a terminal

A text is broken into lines that fit a number of columns: between words where that helps, and inside
a word that fits on no line, if that is allowed. A line that still does not fit is cut.
-/

namespace DocBinder.Terminal

open Text

/-- The columns between two tab stops. -/
def tabStop : Nat := 8

/-- Replace tabs by blanks up to the next tab stop; `place` is the column that has been reached. -/
def expandTabs (place : Nat) : Text → Text
  | [] => []
  | character :: rest =>
      if character == '\t' then
        let blanks := tabStop - place % tabStop
        List.replicate blanks ' ' ++ expandTabs (place + blanks) rest
      else character :: expandTabs (place + charColumns character) rest

/-- A word with the blanks after it, the first word of a line also with the blanks before it. -/
def wordsWithBlanks (line : Text) : List Text :=
  let leading := line.takeWhile isBlank
  let pieces := (line.drop leading.length).splitBy fun first second =>
    !(isBlank first && !isBlank second)
  match pieces with
  | [] => []
  | first :: rest => (leading ++ first) :: rest

/-- Cut a word into pieces that fit a number of columns; `used` counts those used by the current
piece. -/
def chop (limit used : Nat) : Text → List Text
  | [] => [[]]
  | character :: rest =>
      let size := charColumns character
      if limit < used + size then
        match chop limit size rest with
        | [] => [[], [character]]
        | piece :: pieces => [] :: (character :: piece) :: pieces
      else
        match chop limit (used + size) rest with
        | [] => [[character]]
        | piece :: pieces => (character :: piece) :: pieces

/-- Put words on lines. `line` is the current line, which takes `used` columns. `fold` tells
whether a word that fits on no line is broken. -/
def fill (limit : Nat) (fold : Bool) (line : Text) (used : Nat) : List Text → List Text
  | [] => [line]
  | word :: rest =>
      let size := columns (trimEnd word)
      let started (next : Text) : List Text := fill limit fold next (columns next) rest
      if used + size ≤ limit then fill limit fold (line ++ word) (used + columns word) rest
      else if fold && limit < size then
        let pieces := chop limit 0 word
        (if line.isEmpty then [] else [line]) ++ pieces.dropLast ++ started (pieces.getLastD [])
      else if line.isEmpty then started word
      else line :: started word

/-- Drop blanks from the end of a line as far as it takes more columns than it may. -/
def dropExcess (limit : Nat) (line : Text) : Text :=
  let excess := line.length - limit
  let blanks := (line.reverse.takeWhile isBlank).length
  line.take (line.length - min blanks excess)

/-- The beginning of a text that fits a number of columns; a wide character that fits only in part
leaves a blank. -/
def fitting (limit : Nat) : Text → Text
  | [] => []
  | character :: rest =>
      let size := charColumns character
      if size ≤ limit then character :: fitting (limit - size) rest
      else List.replicate limit ' '

/-- A line that fits a number of columns. What is cut from it leaves an ellipsis, if that is
wanted. -/
def cut (limit : Nat) (ellipsis : Bool) (line : Text) : Text :=
  if columns line ≤ limit then line
  else if ellipsis then fitting (limit - 1) line ++ ['…']
  else fitting limit line

/-- The lines of a text in a number of columns: a word that fits on no line is either broken, or cut
with an ellipsis. -/
def wrap (limit : Nat) (fold : Bool) (text : Text) : List Text :=
  (lines text).flatMap fun line =>
    let expanded := expandTabs 0 line
    let parts := wordsWithBlanks expanded
    let filled := if parts.isEmpty then [expanded] else fill limit fold [] 0 parts
    filled.map fun filledLine => cut limit (!fold) (dropExcess limit filledLine)

/-- The columns of a terminal. -/
def terminalColumns : Nat := 1000

/-- What a terminal shows of a message. -/
def shown (message : String) : Except Failure Text :=
  (shownText message.toList).map fun text => joinLines (wrap terminalColumns true text) ++ ['\n']

end DocBinder.Terminal
