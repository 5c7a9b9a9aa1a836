import FilingName.Text
import FilingName.Text.WordCharacter
import FilingName.Text.LetterCase.Shifts
import FilingName.Text.LetterCase.Context

/-!
Upper, lower and title case of text in any script. Case is changed character by character; only the
lower-case sigma looks at its neighbours, for it has a form of its own at the end of a word.
-/
namespace FilingName.Text

/-- The shift of a code point, if the run that it falls into holds it. -/
def CaseRun.shift? : List CaseRun → Nat → Option Int
  | [], _ => none
  | run :: runs, n =>
    if n < run.first then none
    else if run.last < n then shift? runs n
    else if (n - run.first) % run.step = 0 then some run.shift
    else none

/-- A character without an entry keeps its form. -/
def changeCase (expansions : List (Nat × List Nat)) (runs : List CaseRun) (c : Char) : Text :=
  match expansions.lookup c.toNat with
  | some codes => codes.map Char.ofNat
  | none =>
    match CaseRun.shift? runs c.toNat with
    | some shift => [Char.ofNat (c.toNat + shift).toNat]
    | none => [c]

/-- The upper case of one character, which may be several. -/
def upperOf (c : Char) : Text := changeCase upperExpansions CaseRun.upper c

/-- The lower case of one character on its own. -/
def lowerOf (c : Char) : Text := changeCase lowerExpansions CaseRun.lower c

def upper (t : Text) : Text := t.flatMap upperOf

/-- Whether a cased letter comes next, past what does not end a word. -/
def beforeCased (t : Text) : Bool := (t.dropWhile isCaseIgnorable).head?.any isCased

/-- Lower case of the rest of a text; `afterCased` tells whether a cased letter came before it. -/
def lowerAfter (afterCased : Bool) : Text → Text
  | [] => []
  | c :: rest =>
    let form :=
      if c = 'Σ' then if afterCased && !beforeCased rest then ['ς'] else ['σ'] else lowerOf c
    form ++ lowerAfter (if isCaseIgnorable c then afterCased else isCased c) rest

def lower (t : Text) : Text := lowerAfter false t

/-- In every run without blanks, the first word character becomes upper case and what follows it
lower case; so `o'brien` has one capital. -/
def titleCase : Text → Text
  | [] => []
  | c :: rest =>
    if isWordCharacter c then
      upperOf c ++ lower (rest.takeWhile (!isBlank ·)) ++ titleCase (rest.dropWhile (!isBlank ·))
    else c :: titleCase rest
termination_by t => t.length
decreasing_by
  · exact Nat.lt_succ_of_le (List.dropWhile_suffix _).length_le
  · simp

end FilingName.Text
