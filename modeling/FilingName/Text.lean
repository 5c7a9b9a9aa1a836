/-!
Text as the library reads it: blank characters and words, pieces between marks, numbers in decimal.
-/
namespace FilingName

/-- Text is a list of characters, so lengths and positions count characters. -/
abbrev Text := List Char

namespace Text

/-- Spaces of every width, line and paragraph ends, and the separator controls. -/
def isBlank (c : Char) : Bool :=
  let n := c.toNat
  (9 ≤ n && n ≤ 13) || (28 ≤ n && n ≤ 32) || n == 0x85 || n == 0xA0 || n == 0x1680
    || (0x2000 ≤ n && n ≤ 0x200A) || n == 0x2028 || n == 0x2029 || n == 0x202F || n == 0x205F
    || n == 0x3000

def trimEnd (t : Text) : Text := (t.reverse.dropWhile isBlank).reverse

/-- Drops the blanks at both ends. -/
def trim (t : Text) : Text := trimEnd (t.dropWhile isBlank)

/-- Whether a word goes on here; the end of the text ends a word like a blank does. -/
def startsWord : Text → Bool
  | [] => false
  | c :: _ => !isBlank c

/-- The maximal runs without blanks, in order. -/
def words : Text → List Text
  | [] => []
  | c :: rest =>
    if isBlank c then words rest
    else if startsWord rest then
      match words rest with
      | [] => [[c]]
      | w :: ws => (c :: w) :: ws
    else [c] :: words rest

/-- Writes one dash for every maximal run of blanks. -/
def dashed : Text → Text
  | [] => []
  | c :: rest =>
    if isBlank c then if rest.head?.any isBlank then dashed rest else '-' :: dashed rest
    else c :: dashed rest

/-- The pieces between marks; there is one more of them than there are marks. -/
def splitOn (mark : Char) : Text → List Text
  | [] => [[]]
  | c :: rest =>
    if c = mark then [] :: splitOn mark rest
    else
      match splitOn mark rest with
      | [] => [[c]]
      | piece :: pieces => (c :: piece) :: pieces

/-- What stands before and after the last mark. -/
def splitLast? (mark : Char) : Text → Option (Text × Text)
  | [] => none
  | c :: rest =>
    match splitLast? mark rest with
    | some (before, after) => some (c :: before, after)
    | none => if c = mark then some ([], rest) else none

/-- What stands before and after the first mark. -/
def splitFirst? (mark : Char) : Text → Option (Text × Text)
  | [] => none
  | c :: rest =>
    if c = mark then some ([], rest)
    else (splitFirst? mark rest).map fun (before, after) => (c :: before, after)

/-- Joins the parts with a separator between neighbours. -/
def join (separator : Text) (parts : List Text) : Text := separator.intercalate parts

/-- Every item once, where it first occurs. -/
def distinct : List Text → List Text
  | [] => []
  | t :: rest => t :: (distinct rest).filter (· ≠ t)

/-- Whether one text stands somewhere within another. -/
def occursIn (part : Text) : Text → Bool
  | [] => part.isEmpty
  | c :: rest => part.isPrefixOf (c :: rest) || occursIn part rest

/-- Puts a character in front until the text has the given length. -/
def padStart (length : Nat) (c : Char) (t : Text) : Text :=
  List.replicate (length - t.length) c ++ t

/-- A number in decimal, without leading zeros. -/
def ofNat (n : Nat) : Text := Nat.toDigits 10 n

def ofInt : Int → Text
  | .ofNat n => ofNat n
  | .negSucc n => '-' :: ofNat (n + 1)

/-- The number that a row of decimal digits denotes. -/
def toNat (t : Text) : Nat := t.foldl (fun n c => 10 * n + (c.toNat - 48)) 0

end Text
end FilingName
