import FilingName.Text

/-!
Double-precision numbers. Reading a decimal numeral takes the nearest number, ties to the even
significand; writing one takes the fewest digits that read back.
-/
namespace FilingName

/-- A finite number is its sign and `significand * 2 ^ exponent`. -/
inductive Binary64 where
  | finite (negative : Bool) (significand : Nat) (exponent : Int)
  | infinite (negative : Bool)
  | notANumber
  deriving DecidableEq, Repr

namespace Binary64

def isZero : Binary64 → Bool
  | finite _ significand _ => significand == 0
  | _ => false

/-- The whole number nearest to a quotient; a tie goes to the even one. -/
def roundQuotient (numerator denominator : Nat) : Nat :=
  let quotient := numerator / denominator
  let rest := numerator % denominator
  if 2 * rest < denominator then quotient
  else if denominator < 2 * rest then quotient + 1
  else quotient + quotient % 2

/-- The rounded quotient of a number and `2 ^ exponent`. -/
private def scaled (numerator denominator : Nat) (exponent : Int) : Nat :=
  if exponent < 0 then roundQuotient (numerator <<< (-exponent).toNat) denominator
  else roundQuotient numerator (denominator <<< exponent.toNat)

/-- A significand has 53 bits. -/
def significandLimit : Nat := 1 <<< 53

/-- The number nearest to a positive quotient: a significand below the limit and an exponent between
-1074 and 971, or an infinity. -/
def ofQuotient (negative : Bool) (numerator denominator : Nat) : Binary64 :=
  let guess : Int := (numerator.log2 : Int) - denominator.log2 - 53
  let fits (e : Int) : Bool := scaled numerator denominator e ≤ significandLimit
  let low := max (-1074) guess
  let exponent := if fits low then low else if fits (low + 1) then low + 1 else low + 2
  let significand := scaled numerator denominator exponent
  let (significand, exponent) :=
    if significand = significandLimit then (significandLimit / 2, exponent + 1)
    else (significand, exponent)
  if 971 < exponent then infinite negative else finite negative significand exponent

/-- The number nearest to `digits * 10 ^ scale`. Beyond 310 places before the point every numeral is
infinite, and beyond 330 zeros behind it none differs from zero. -/
def ofDecimal (negative : Bool) (digits : Nat) (scale : Int) : Binary64 :=
  let places : Int := (Text.ofNat digits).length + scale
  if digits = 0 ∨ places < -330 then finite negative 0 (-1074)
  else if 310 < places then infinite negative
  else if scale < 0 then ofQuotient negative digits (Nat.pow 10 (-scale).toNat)
  else ofQuotient negative (digits * Nat.pow 10 scale.toNat) 1

/-- Reads a numeral: a sign, digits with or without a point, and an exponent. -/
def ofNumeral (t : Text) : Binary64 :=
  let (negative, t) := match t with
    | '-' :: rest => (true, rest)
    | _ => (false, t)
  let isExponentMark (c : Char) := c = 'e' || c = 'E'
  let mantissa := t.takeWhile (!isExponentMark ·)
  let exponent : Int := match (t.dropWhile (!isExponentMark ·)).drop 1 with
    | '-' :: rest => -(Text.toNat rest : Int)
    | '+' :: rest => Text.toNat rest
    | rest => Text.toNat rest
  let (whole, fraction) := (Text.splitFirst? '.' mantissa).getD (mantissa, [])
  ofDecimal negative (Text.toNat (whole ++ fraction)) (exponent - fraction.length)

/-- The value of a finite number without its sign, as a quotient. -/
private def quotient (significand : Nat) (exponent : Int) : Nat × Nat :=
  if exponent < 0 then (significand, 1 <<< (-exponent).toNat)
  else (significand <<< exponent.toNat, 1)

/-- The decimal exponent of the first digit: the largest `k` with `10 ^ k ≤ value`. -/
private def leadingPlace (numerator denominator : Nat) : Int :=
  if denominator ≤ numerator then ((Text.ofNat (numerator / denominator)).length : Int) - 1
  else
    let inverse := (denominator + numerator - 1) / numerator
    Int.negOfNat (Text.ofNat (inverse - 1)).length

/-- The neighbour on the grid of multiples of `10 ^ place` that reads back as the number and lies
nearest to it; of two equally near the even one. -/
private def onGrid? (number : Binary64) (numerator denominator : Nat) (place : Int) :
    Option (Nat × Int) :=
  let (top, bottom) :=
    if place < 0 then (numerator * Nat.pow 10 (-place).toNat, denominator)
    else (numerator, denominator * Nat.pow 10 place.toNat)
  let below := top / bottom
  let rest := top % bottom
  let near := roundQuotient top bottom
  let far := if near = below then below + 1 else below
  let readsBack (n : Nat) : Bool := ofDecimal false n place == number
  if readsBack near then some (near, place)
  else if rest ≠ 0 ∧ readsBack far then some (far, place)
  else none

/-- The first grid with a hit, from one significant digit to seventeen. -/
private def shortestFrom (number : Binary64) (numerator denominator : Nat) (lead : Int) :
    Nat → Nat × Int
  | 0 => (numerator / denominator, 0)
  | more + 1 =>
    match onGrid? number numerator denominator (lead - (16 - more : Nat)) with
    | some hit => hit
    | none => shortestFrom number numerator denominator lead more

/-- The fewest digits that read back, nearest to the value, and the place of the last of them. -/
def shortestDigits (significand : Nat) (exponent : Int) : Nat × Int :=
  let (numerator, denominator) := quotient significand exponent
  shortestFrom (finite false significand exponent) numerator denominator
    (leadingPlace numerator denominator) 17

/-- Digits with the point after the first `point` of them: written out from four zeros behind the
point up to sixteen places before it, and with an exponent of at least two digits beyond. -/
def writeDigits (digits : Text) (point : Int) : Text :=
  if -4 < point ∧ point ≤ 16 then
    if point ≤ 0 then "0.".toList ++ List.replicate (-point).toNat '0' ++ digits
    else
      let whole := point.toNat
      if digits.length ≤ whole then
        digits ++ List.replicate (whole - digits.length) '0' ++ ".0".toList
      else digits.take whole ++ '.' :: digits.drop whole
  else
    let fraction := digits.drop 1
    let exponent := point - 1
    digits.take 1 ++ (if fraction.isEmpty then [] else '.' :: fraction)
      ++ (if exponent < 0 then "e-".toList else "e+".toList)
      ++ Text.padStart 2 '0' (Text.ofNat exponent.natAbs)

/-- The shortest text that reads back. -/
def write : Binary64 → Text
  | notANumber => "nan".toList
  | infinite negative => if negative then "-inf".toList else "inf".toList
  | finite negative significand exponent =>
    let sign := if negative then ['-'] else []
    if significand = 0 then sign ++ "0.0".toList
    else
      let (digits, place) := shortestDigits significand exponent
      let written := Text.ofNat digits
      let kept := (written.reverse.dropWhile (· = '0')).reverse
      sign ++ writeDigits kept (place + written.length)

end Binary64
end FilingName
