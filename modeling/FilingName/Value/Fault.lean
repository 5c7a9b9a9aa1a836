import FilingName.Text

/-!
Kinds of values, and the faults of an operation that is given a value of a kind it does not take.
-/
namespace FilingName

inductive Kind where
  | null | truth | whole | real | text | list | mapping
  deriving DecidableEq, Repr

/-- The word for a kind in messages. -/
def Kind.word : Kind → Text
  | null => "NoneType".toList
  | truth => "bool".toList
  | whole => "int".toList
  | real => "float".toList
  | text => "str".toList
  | list => "list".toList
  | mapping => "dict".toList

/-- What is asked of a value and only text, or only a mapping, can do. -/
inductive Ability where
  | trim | toUpper | toLower | split | splitLast | testAscii | substitute | lookUp
  deriving DecidableEq, Repr

def Ability.word : Ability → Text
  | trim => "strip".toList
  | toUpper => "upper".toList
  | toLower => "lower".toList
  | split => "split".toList
  | splitLast => "rpartition".toList
  | testAscii => "isascii".toList
  | substitute => "translate".toList
  | lookUp => "get".toList

inductive ValueFault where
  /-- The value cannot do what was asked of it. -/
  | lacks (kind : Kind) (ability : Ability)
  /-- A pattern is searched for in text only. -/
  | notSearchable (kind : Kind)
  | notIterable (kind : Kind)
  | notIndexable (kind : Kind)
  /-- Only text, lists and mappings can be asked what they hold. -/
  | notContainer (kind : Kind)
  | notUnpackable (kind : Kind)
  /-- Lists and mappings are no keys. -/
  | notKey (kind : Kind)
  | noEntry (key : Nat)
  | tooFewItems (expected found : Nat)
  | tooManyItems (expected : Nat)
  /-- Only texts can be joined; the position counts from zero. -/
  | notJoinable (position : Nat) (kind : Kind)
  | notPath (kind : Kind)
  /-- A cell or a title that is no text. -/
  | cellNotText (kind : Kind)
  | titleNotText (written : Text)
  /-- A numeral with more digits than are read as a number; leading zeros count. -/
  | numeralTooLong (digits : Nat)
  /-- A number with more digits than are written. -/
  | numberTooLong
  /-- A numeral without digits. -/
  | noNumeral
  deriving DecidableEq, Repr

/-- Numbers of more digits are neither read nor written. -/
def digitLimit : Nat := 4300

namespace ValueFault

private def attributed (kind : Kind) : Text := '\x27' :: kind.word ++ "' object".toList

private def limit : Text := "Exceeds the limit (4300 digits) for integer string conversion".toList

private def remedy : Text := "; use sys.set_int_max_str_digits() to increase the limit".toList

def message : ValueFault → Text
  | lacks kind ability =>
    attributed kind ++ " has no attribute '".toList ++ ability.word ++ "'".toList
  | notSearchable kind =>
    "expected string or bytes-like object, got '".toList ++ kind.word ++ "'".toList
  | notIterable kind => attributed kind ++ " is not iterable".toList
  | notIndexable kind => attributed kind ++ " is not subscriptable".toList
  | notContainer kind => "argument of type '".toList ++ kind.word ++ "' is not iterable".toList
  | notUnpackable kind => "cannot unpack non-iterable ".toList ++ kind.word ++ " object".toList
  | notKey kind => "unhashable type: '".toList ++ kind.word ++ "'".toList
  | noEntry key => Text.ofNat key
  | tooFewItems expected found =>
    "not enough values to unpack (expected ".toList ++ Text.ofNat expected ++ ", got ".toList
      ++ Text.ofNat found ++ ")".toList
  | tooManyItems expected =>
    "too many values to unpack (expected ".toList ++ Text.ofNat expected ++ ")".toList
  | notJoinable position kind =>
    "sequence item ".toList ++ Text.ofNat position ++ ": expected str instance, ".toList
      ++ kind.word ++ " found".toList
  | notPath kind => "expected str, bytes or os.PathLike object, not ".toList ++ kind.word
  | cellNotText kind =>
    "unable to render ".toList ++ kind.word
      ++ "; a string or other renderable object is required".toList
  | titleNotText written =>
    "Unable to render ".toList ++ written
      ++ "; A str, Segment or object with __rich_console__ method is required".toList
  | numeralTooLong digits =>
    limit ++ ": value has ".toList ++ Text.ofNat digits ++ " digits".toList ++ remedy
  | numberTooLong => limit ++ remedy
  | noNumeral => "invalid literal for int() with base 10: ''".toList

end ValueFault
end FilingName
