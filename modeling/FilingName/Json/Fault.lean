import FilingName.Text
import FilingName.Value.Fault

/-! Why a text is no JSON document, and where. -/
namespace FilingName.Json

inductive Reason where
  | byteOrderMark
  | value
  | propertyName
  | colon
  | comma
  | extraData
  | unterminatedString
  | controlCharacter
  | escape
  | codeEscape
  deriving DecidableEq, Repr

def Reason.message : Reason → Text
  | byteOrderMark => "Unexpected UTF-8 BOM (decode using utf-8-sig)".toList
  | value => "Expecting value".toList
  | propertyName => "Expecting property name enclosed in double quotes".toList
  | colon => "Expecting ':' delimiter".toList
  | comma => "Expecting ',' delimiter".toList
  | extraData => "Extra data".toList
  | unterminatedString => "Unterminated string starting at".toList
  | controlCharacter => "Invalid control character at".toList
  | escape => "Invalid \\escape".toList
  | codeEscape => "Invalid \\uXXXX escape".toList

/-- The place is given by its line and column, from one, and by the characters before it. -/
structure SyntaxFault where
  reason : Reason
  line : Nat
  column : Nat
  position : Nat
  deriving DecidableEq, Repr

/-- The place that lies `position` characters into a document. -/
def SyntaxFault.ofPosition (document : Text) (reason : Reason) (position : Nat) : SyntaxFault :=
  let before := document.take position
  { reason, position
    line := before.count '\n' + 1
    column := (before.reverse.takeWhile (· ≠ '\n')).length + 1 }

def SyntaxFault.message (fault : SyntaxFault) : Text :=
  fault.reason.message ++ ": line ".toList ++ Text.ofNat fault.line ++ " column ".toList
    ++ Text.ofNat fault.column ++ " (char ".toList ++ Text.ofNat fault.position ++ ")".toList

/-- A document is malformed, or holds a number that has too many digits to be read. -/
inductive Fault where
  | malformed (reason : Reason) (position : Nat)
  | value (fault : ValueFault)
  deriving DecidableEq, Repr

end FilingName.Json
