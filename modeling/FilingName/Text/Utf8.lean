import FilingName.Text
import FilingName.Text.Quoted

/-!
Text from bytes. Every character has one encoding, surrogates have none, and the first byte that no
encoding can have where it stands is a fault, named with the bytes before it that began a character.
-/
namespace FilingName.Text.Utf8

inductive Reason where
  /-- No character starts with the byte. -/
  | start
  /-- The byte does not go on with the character that was begun. -/
  | continuation
  /-- The bytes end within a character. -/
  | ended
  deriving DecidableEq, Repr

/-- The bytes of a fault by the position of the first, their number and the first byte. -/
structure Fault where
  reason : Reason
  position : Nat
  length : Nat
  byte : UInt8
  deriving DecidableEq, Repr

def Reason.message : Reason → Text
  | start => "invalid start byte".toList
  | continuation => "invalid continuation byte".toList
  | ended => "unexpected end of data".toList

/-- A single byte is named, several by their positions. -/
def Fault.message (fault : Fault) : Text :=
  "'utf-8' codec can't decode ".toList
    ++ (if fault.length = 1 then
          "byte 0x".toList ++ hexadecimal 2 fault.byte.toNat ++ " in position ".toList
            ++ ofNat fault.position
        else
          "bytes in position ".toList ++ ofNat fault.position ++ '-'
            :: ofNat (fault.position + fault.length - 1))
    ++ ": ".toList ++ fault.reason.message

/-- A character that was begun: where and by which byte, how many bytes it still needs, the bounds
of the next one, and the bits so far. -/
structure Begun where
  position : Nat
  byte : UInt8
  owed : Nat
  low : Nat := 0x80
  high : Nat := 0xBF
  bits : Nat

/-- What the first byte of a character of several bytes asks for. -/
def begin? (position : Nat) (byte : UInt8) : Option Begun :=
  let b := byte.toNat
  if 0xC2 ≤ b ∧ b ≤ 0xDF then some { position, byte, owed := 1, bits := b - 0xC0 }
  else if 0xE0 ≤ b ∧ b ≤ 0xEF then
    some { position, byte, owed := 2, bits := b - 0xE0,
           low := if b = 0xE0 then 0xA0 else 0x80, high := if b = 0xED then 0x9F else 0xBF }
  else if 0xF0 ≤ b ∧ b ≤ 0xF4 then
    some { position, byte, owed := 3, bits := b - 0xF0,
           low := if b = 0xF0 then 0x90 else 0x80, high := if b = 0xF4 then 0x8F else 0xBF }
  else none

def decodeFrom (position : Nat) (begun : Option Begun) : List UInt8 → Except Fault Text
  | [] =>
    match begun with
    | none => .ok []
    | some b => .error ⟨.ended, b.position, position - b.position, b.byte⟩
  | byte :: rest =>
    match begun with
    | none =>
      if byte.toNat < 0x80 then do
        return Char.ofNat byte.toNat :: (← decodeFrom (position + 1) none rest)
      else
        match begin? position byte with
        | none => .error ⟨.start, position, 1, byte⟩
        | some b => decodeFrom (position + 1) (some b) rest
    | some b =>
      if b.low ≤ byte.toNat ∧ byte.toNat ≤ b.high then
        let bits := 64 * b.bits + (byte.toNat - 0x80)
        if b.owed = 1 then do
          return Char.ofNat bits :: (← decodeFrom (position + 1) none rest)
        else
          decodeFrom (position + 1)
            (some { position := b.position, byte := b.byte, owed := b.owed - 1, bits }) rest
      else .error ⟨.continuation, b.position, position - b.position, b.byte⟩

def decode (bytes : List UInt8) : Except Fault Text := decodeFrom 0 none bytes

/-- Every line end becomes a line feed, whether it was a carriage return, a line feed or both. -/
def unifyLineEnds : Text → Text
  | [] => []
  | '\r' :: '\n' :: rest => '\n' :: unifyLineEnds rest
  | '\r' :: rest => '\n' :: unifyLineEnds rest
  | c :: rest => c :: unifyLineEnds rest

end FilingName.Text.Utf8
