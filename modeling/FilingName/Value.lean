import FilingName.Number.Binary64
import FilingName.Text.Quoted
import FilingName.Value.Fault

/-!
Values: what a record holds under its keys, and what the entries of a people file are made of. Every
value can be written as text, and most operations take blank values for absent ones.
-/
namespace FilingName

/-- A mapping keeps its entries in the order in which their keys first came. -/
inductive Value where
  | null
  | truth (b : Bool)
  | whole (n : Int)
  | real (x : Binary64)
  | text (t : Text)
  | list (items : List Value)
  | mapping (entries : List (Text × Value))
  deriving Inhabited

namespace Value

def kind : Value → Kind
  | null => .null
  | truth _ => .truth
  | whole _ => .whole
  | real _ => .real
  | text _ => .text
  | list _ => .list
  | mapping _ => .mapping

/-- Null, false, zero and whatever is empty. -/
def isBlank : Value → Bool
  | null => true
  | truth b => !b
  | whole n => n == 0
  | real x => x.isZero
  | text t => t.isEmpty
  | list items => items.isEmpty
  | mapping entries => entries.isEmpty

/-- A field is missing when it is null or the empty text; zero and false are values. -/
def isMissing : Value → Bool
  | null => true
  | text t => t.isEmpty
  | _ => false

/-- The text that the value is, for an operation that only text can do. -/
def textFor (ability : Ability) : Value → Except ValueFault Text
  | text t => .ok t
  | v => .error (.lacks v.kind ability)

/-- A whole number is written in full or not at all. -/
def writeWhole (n : Int) : Except ValueFault Text :=
  if digitLimit < (Text.ofNat n.natAbs).length then .error .numberTooLong else .ok (Text.ofInt n)

private def writeTruth (b : Bool) : Text := if b then "True".toList else "False".toList

mutual

/-- A value as it stands within a list or a mapping, where text is quoted. -/
def writeQuoted : Value → Except ValueFault Text
  | null => .ok "None".toList
  | truth b => .ok (writeTruth b)
  | whole n => writeWhole n
  | real x => .ok x.write
  | text t => .ok (Text.quoted t)
  | list items => do return '[' :: (← writeItems items) ++ [']']
  | mapping entries => do return '{' :: (← writeEntries entries) ++ ['}']

/-- Items with a comma and a space between neighbours. -/
def writeItems : List Value → Except ValueFault Text
  | [] => .ok []
  | [item] => writeQuoted item
  | item :: next :: rest => do
    return (← writeQuoted item) ++ ", ".toList ++ (← writeItems (next :: rest))

def writeEntries : List (Text × Value) → Except ValueFault Text
  | [] => .ok []
  | [(key, item)] => do return Text.quoted key ++ ": ".toList ++ (← writeQuoted item)
  | (key, item) :: next :: rest => do
    return Text.quoted key ++ ": ".toList ++ (← writeQuoted item) ++ ", ".toList
      ++ (← writeEntries (next :: rest))

end

/-- Text stands for itself; every other value is written as within a list. -/
def write : Value → Except ValueFault Text
  | text t => .ok t
  | v => writeQuoted v

/-- What a mapping holds under a key, null when it holds nothing there. -/
def lookUp : Value → Value → Except ValueFault Value
  | mapping entries, text t => .ok ((entries.lookup t).getD null)
  | mapping _, list items => .error (.notKey (list items).kind)
  | mapping _, mapping entries => .error (.notKey (mapping entries).kind)
  | mapping _, _ => .ok null
  | v, _ => .error (.lacks v.kind .lookUp)

/-- Whether a name is a key of a mapping, an item of a list or part of a text. -/
def holds (name : Text) : Value → Except ValueFault Bool
  | mapping entries => .ok (entries.any (·.1 == name))
  | list items => .ok (items.any fun | text t => t == name | _ => false)
  | text t => .ok (name.occursIn t)
  | v => .error (.notContainer v.kind)

/-- The items of a list, the characters of a text, the keys of a mapping. -/
def items : Value → Except ValueFault (List Value)
  | list items => .ok items
  | text t => .ok (t.map fun c => text [c])
  | mapping entries => .ok (entries.map fun entry => text entry.1)
  | v => .error (.notIterable v.kind)

end Value
end FilingName
