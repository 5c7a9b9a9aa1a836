import FilingName.Console.Emoji.Codes
import FilingName.Text.LetterCase

/-!
Emoji codes: a name between colons stands for an emoji. A code that names none stays as it is, and
its second colon starts no further code.
-/
namespace FilingName.Console.Emoji

def lookUp (name : String) : List String → Option String
  | code :: emoji :: rest => if code = name then some emoji else lookUp name rest
  | _ => none

def table : List String := (codes.splitOn "\n").flatMap (·.splitOn " ")

/-- The selectors that ask for an emoji to be shown as text or as a picture. -/
def variants : List (Text × Char) :=
  [("-emoji".toList, '\ufe0f'), ("-text".toList, '\ufe0e')]

/-- A name without the variant that it ends in, and the selector of the variant. -/
def splitVariant (name : Text) : Text × Text :=
  match variants.find? (·.1.isSuffixOf name) with
  | some (variant, selector) => (name.take (name.length - variant.length), [selector])
  | none => (name, [])

/-- The emoji of a name in any letter case. -/
def ofName? (name : Text) : Option Text :=
  let (name, selector) := splitVariant name
  (lookUp (String.ofList (Text.lower name)) table).map (·.toList ++ selector)

def isNameCharacter (c : Char) : Bool := c ≠ ':' && !Text.isBlank c

/-- Replaces the codes in a text from left to right. -/
def replace : Text → Text
  | [] => []
  | c :: rest =>
    if c = ':' then
      let name := rest.takeWhile isNameCharacter
      match _h : rest.dropWhile isNameCharacter with
      | ':' :: after => (ofName? name).getD (':' :: name ++ [':']) ++ replace after
      | _ => c :: replace rest
    else c :: replace rest
termination_by t => t.length
decreasing_by
  · have hsuffix := (List.dropWhile_suffix (l := rest) isNameCharacter).length_le
    rw [_h] at hsuffix
    simp only [List.length_cons] at hsuffix ⊢
    omega
  · simp
  · simp

end FilingName.Console.Emoji
