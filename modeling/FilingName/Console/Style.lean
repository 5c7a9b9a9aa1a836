import FilingName.Console.ColorNames
import FilingName.Text.DecimalDigit
import FilingName.Text.LetterCase
import FilingName.Value.Fault

/-!
Styles by their names. Two names of one style have the same normal form, so `b red` and `red bold`
are one style; a name that is no style is its own normal form, but for letter case. A color by its
parts of light is at fault, and not merely unknown, where a part is no number.
-/
namespace FilingName.Console

structure Style where
  /-- Attributes that are set to true or to false. -/
  attributes : List (Text × Bool) := []
  color : Option Text := none
  background : Option Text := none
  link : Option Text := none

namespace Style

/-- The attributes in the order in which they are written, each with its short name, if any. -/
def attributeNames : List (String × String) :=
  [("bold", "b"), ("dim", "d"), ("italic", "i"), ("underline", "u"), ("blink", ""), ("blink2", ""),
    ("reverse", "r"), ("conceal", "c"), ("strike", "s"), ("underline2", "uu"), ("frame", ""),
    ("encircle", ""), ("overline", "o")]

def attribute? (word : Text) : Option Text :=
  (attributeNames.find? fun names => names.1.toList == word
    || (!names.2.isEmpty && names.2.toList == word)).map (·.1.toList)

/-- A row of digits that denotes at most 255. -/
def isByte (t : Text) : Bool := !t.isEmpty && t.all Text.isDigit && Text.toNat t ≤ 255

def isHexDigit (c : Char) : Bool := Text.isDigit c || ('a' ≤ c && c ≤ 'f')

/-- What stands between an opening and the parenthesis that ends the text. -/
def between? (opening : Text) (t : Text) : Option Text :=
  if opening.isPrefixOf t && t.getLast? = some ')' then some (t.drop opening.length).dropLast
  else none

/-- The number that a row of digits of any script denotes. -/
def number (t : Text) : Except ValueFault Nat :=
  if t.isEmpty then .error .noNumeral
  else if digitLimit < t.length then .error (.numeralTooLong t.length)
  else .ok (t.foldl (fun n c => 10 * n + Text.digitValue c) 0)

/-- Three parts of light with commas between them. All parts have to be numbers, even where one is
too great for a color. -/
def isLight (parts : Text) : Except ValueFault Bool :=
  if parts.isEmpty || !parts.all fun c => Text.isDecimalDigit c || c == ',' then .ok false
  else
    match Text.splitOn ',' parts with
    | [red, green, blue] => do
      let red ← number red
      let green ← number green
      let blue ← number blue
      return red ≤ 255 && green ≤ 255 && blue ≤ 255
    | _ => .ok false

/-- A name, a code in hexadecimal, a number of the palette or three parts of light. -/
def isColor (word : Text) : Except ValueFault Bool :=
  let word := Text.lower word
  if colorNames.contains word
      || (word.head? = some '#' && word.length = 7 && word.tail.all isHexDigit)
      || ((between? "color(".toList word).any fun number => number.length ≤ 3 && isByte number) then
    .ok true
  else
    match between? "rgb(".toList word with
    | some parts => isLight parts
    | none => .ok false

def set (feature : Text) (value : Bool) (style : Style) : Style :=
  { style with attributes := (feature, value) :: style.attributes.filter (·.1 ≠ feature) }

/-- Adds the words of a definition to a style; nothing if one of them means nothing. -/
def ofWords? (style : Style) : List Text → Except ValueFault (Option Style)
  | [] => .ok (some style)
  | word :: rest =>
    let lowered := Text.lower word
    if lowered = "on".toList then
      match rest with
      | color :: rest => do
        if ← isColor color then ofWords? { style with background := some (Text.lower color) } rest
        else return none
      | [] => .ok none
    else if lowered = "not".toList then
      match rest with
      | word :: rest =>
        match attribute? word with
        | some feature => ofWords? (style.set feature false) rest
        | none => .ok none
      | [] => .ok none
    else if lowered = "link".toList then
      match rest with
      | target :: rest => ofWords? { style with link := some target } rest
      | [] => .ok none
    else
      match attribute? lowered with
      | some feature => ofWords? (style.set feature true) rest
      | none => do
        if ← isColor lowered then ofWords? { style with color := some lowered } rest
        else return none

/-- The style that a definition denotes, if it denotes one. -/
def parse? (definition : Text) : Except ValueFault (Option Style) :=
  if definition.isEmpty || Text.trim definition = "none".toList then .ok (some {})
  else ofWords? {} (Text.words definition)

/-- The words of a style in their order, `none` if there are none. -/
def text (style : Style) : Text :=
  let attributes := attributeNames.filterMap fun names =>
    (style.attributes.lookup names.1.toList).map fun value =>
      if value then names.1.toList else "not ".toList ++ names.1.toList
  let words := attributes ++ style.color.toList
    ++ (style.background.map ("on ".toList ++ ·)).toList
    ++ (style.link.map ("link ".toList ++ ·)).toList
  if words.isEmpty then "none".toList else Text.join " ".toList words

def normalForm (name : Text) : Except ValueFault Text := do
  match ← parse? name with
  | some style => return style.text
  | none => return Text.lower (Text.trim name)

end Style
end FilingName.Console
