import FilingName.Text
import FilingName.Text.Printable

/-!
Quoted text: in single quotes, or in double quotes when it holds single ones only, with an escape
for the quote, for the backslash and for whatever does not print.
-/
namespace FilingName.Text

/-- A code point in hexadecimal, with zeros in front up to the given number of digits. -/
def hexadecimal (digits : Nat) (n : Nat) : Text := padStart digits '0' (Nat.toDigits 16 n)

/-- What stands for one character between quotes. -/
def escape (quote c : Char) : Text :=
  if c = quote ∨ c = '\\' then ['\\', c]
  else if c = '\t' then "\\t".toList
  else if c = '\n' then "\\n".toList
  else if c = '\r' then "\\r".toList
  else if isPrintable c then [c]
  else if c.toNat < 0x100 then "\\x".toList ++ hexadecimal 2 c.toNat
  else if c.toNat < 0x10000 then "\\u".toList ++ hexadecimal 4 c.toNat
  else "\\U".toList ++ hexadecimal 8 c.toNat

/-- Single quotes unless the text holds one and no double quote. -/
def quoted (t : Text) : Text :=
  let quote := if t.contains '\x27' && !t.contains '\x22' then '\x22' else '\x27'
  quote :: t.flatMap (escape quote) ++ [quote]

end FilingName.Text
