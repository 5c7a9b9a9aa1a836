import FilingName.Console.Line

/-!
Breaking a line that is too wide. A line breaks before a word that no longer fits; a word that is
too wide for a line of its own is either folded or left to be cut off.
-/
namespace FilingName.Console

/-- What does not fit within a width: folded words, or words cut off with an ellipsis. -/
inductive Overflow where
  | fold | ellipsis
  deriving DecidableEq, Repr

/-- The words of a line with the blanks behind them, the first one with those before it too. -/
def spacedWords (t : Text) : List Text :=
  let blanks := t.takeWhile Text.isBlank
  match _h : t.dropWhile Text.isBlank with
  | [] => []
  | c :: rest =>
    let word := rest.takeWhile (!Text.isBlank ·)
    let after := rest.dropWhile (!Text.isBlank ·)
    (blanks ++ c :: word ++ after.takeWhile Text.isBlank)
      :: spacedWords (after.dropWhile Text.isBlank)
termination_by t.length
decreasing_by
  have hstart := (List.dropWhile_suffix (l := t) Text.isBlank).length_le
  rw [_h] at hstart
  have hword := (List.dropWhile_suffix (l := rest) (!Text.isBlank ·)).length_le
  have hafter :=
    (List.dropWhile_suffix (l := rest.dropWhile (!Text.isBlank ·)) Text.isBlank).length_le
  simp only [List.length_cons] at hstart
  exact Nat.lt_of_lt_of_le (Nat.lt_succ_of_le (Nat.le_trans hafter hword)) hstart

/-- Cuts a text into parts that fit; `used` cells of the first part are taken by `part`. -/
def fold (width used : Nat) (part : Text) : Text → List Text
  | [] => [part]
  | c :: rest =>
    if used + Text.charWidth c ≤ width then
      fold width (used + Text.charWidth c) (part ++ [c]) rest
    else part :: fold width (Text.charWidth c) [c] rest

/-- Puts words into lines; `line` holds the words so far and takes `used` cells. -/
def fill (width : Nat) (overflow : Overflow) (line : Text) (used : Nat) : List Text → List Text
  | [] => [line]
  | word :: rest =>
    let needed := Text.cellWidth (Text.trimEnd word)
    let finished := if line.isEmpty then [] else [line]
    if used + needed ≤ width then
      fill width overflow (line ++ word) (used + Text.cellWidth word) rest
    else if width < needed ∧ overflow = .fold then
      let parts := fold width 0 [] word
      let last := parts.getLastD []
      finished ++ parts.dropLast ++ fill width overflow last (Text.cellWidth last) rest
    else finished ++ fill width overflow word (Text.cellWidth word) rest

/-- Drops blanks at the end of a line as long as it has more characters than cells. -/
def dropEndBlanks (width : Nat) (line : Text) : Text :=
  let blanks := line.length - (Text.trimEnd line).length
  line.take (line.length - min blanks (line.length - width))

/-- The lines of one line that is too wide for the width. -/
def wrap (width : Nat) (overflow : Overflow) (line : Text) : List Text :=
  let words := spacedWords line
  let filled := if words.isEmpty then [line] else fill width overflow [] 0 words
  filled.map (dropEndBlanks width)

/-- The start of a line that takes a number of cells; half a wide character at its end becomes a
space. It ends between `low` and `high`, where halving looks for it: marks without a width leave
several ends, and the one that is found first counts. -/
def takeCellsBetween (cells : Nat) (line : Text) (low high : Nat) : Text :=
  let middle := (low + high) / 2
  let start := line.take (middle + 1)
  let used := Text.cellWidth start
  if used = cells then start
  else if used = cells + 1 ∧ (start.getLast?.map Text.charWidth) = some 2 then
    start.dropLast ++ [' ']
  else if low < middle ∧ middle < high then
    if used < cells then takeCellsBetween cells line middle high
    else takeCellsBetween cells line low middle
  else start
termination_by high - low

/-- The first cells of a line that has more of them. -/
def takeCells (cells : Nat) (line : Text) : Text :=
  if cells = 0 then [] else takeCellsBetween cells line 0 line.length

/-- Makes a line no wider than the width. -/
def cut (width : Nat) (overflow : Overflow) (line : Text) : Text :=
  if Text.cellWidth line ≤ width then line
  else
    match overflow with
    | .fold => takeCells width line
    | .ellipsis => takeCells (width - 1) line ++ ['…']

def spaces (n : Nat) : Text := List.replicate n ' '

/-- A line at the left of the width. -/
def alignLeft (width : Nat) (overflow : Overflow) (line : Text) : Text :=
  let line := cut width overflow line
  line ++ spaces (width - Text.cellWidth line)

/-- A line in the middle of the width, or as little to the left of it as can be. -/
def alignCenter (width : Nat) (overflow : Overflow) (line : Text) : Text :=
  let line := cut width overflow (Text.trimEnd line)
  let left := (width - Text.cellWidth line) / 2
  spaces left ++ line ++ spaces (width - left - Text.cellWidth line)

end FilingName.Console
