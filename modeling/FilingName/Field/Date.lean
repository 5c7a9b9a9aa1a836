import FilingName.Field.Record
import FilingName.Text.DecimalDigit
import FilingName.Text.WordCharacter

/-!
Dates in genealogical text. A full date is tried first, then a year with or without a month, then
the same anywhere in the text after a qualifier, and last any year that stands alone. Neither months
nor days are checked against the calendar.
-/
namespace FilingName.Field

structure Date where
  year : Text := unknown
  month : Text := unknown
  day : Text := unknown
  deriving DecidableEq, Repr

namespace Date

def fields (date : Date) : List (String × Text) :=
  [("year", date.year), ("month", date.month), ("day", date.day)]

/-- The first `n` characters, if they are digits, and what follows them. -/
def digits? (n : Nat) (t : Text) : Option (Text × Text) :=
  let digits := t.take n
  if digits.length = n ∧ digits.all Text.isDigit then some (digits, t.drop n) else none

/-- Two digits after a dash. -/
def part? : Text → Option (Text × Text)
  | '-' :: rest => digits? 2 rest
  | _ => none

/-- Nothing but year, month and day. -/
def full? (t : Text) : Option Date := do
  let (year, t) ← digits? 4 t
  let (month, t) ← part? t
  let (day, t) ← part? t
  if t.isEmpty then some ⟨year, month, day⟩ else none

/-- Nothing but a year, or a year and a month. -/
def yearMonth? (t : Text) : Option Date := do
  let (year, t) ← digits? 4 t
  if t.isEmpty then some ⟨year, unknown, unknown⟩
  else
    let (month, t) ← part? t
    if t.isEmpty then some ⟨year, month, unknown⟩ else none

/-- About, before and after, as they are abbreviated in records. -/
def qualifiers : List Text := ["Abt".toList, "Bef".toList, "Aft".toList]

def dropQualifier (t : Text) : Text :=
  match qualifiers.find? (·.isPrefixOf t) with
  | some qualifier => t.drop qualifier.length
  | none => t

/-- A date at the start of a text, behind a qualifier and blanks; as many of its parts as follow. -/
def qualified? (t : Text) : Option Date := do
  let (year, t) ← digits? 4 ((dropQualifier t).dropWhile Text.isBlank)
  match part? t with
  | none => return ⟨year, unknown, unknown⟩
  | some (month, t) =>
    match part? t with
    | none => return ⟨year, month, unknown⟩
    | some (day, _) => return ⟨year, month, day⟩

/-- The first place in a text where a date can be read. -/
def search (read? : Text → Option Date) : Text → Option Date
  | [] => read? []
  | c :: rest =>
    match read? (c :: rest) with
    | some date => some date
    | none => search read? rest

/-- Four digits with no word character before them or behind them. -/
def standalone? (afterWord : Bool) : Text → Option Date
  | [] => none
  | c :: rest =>
    match if afterWord then none else digits? 4 (c :: rest) with
    | some (year, after) =>
      if after.head?.any Text.isWordCharacter then standalone? (Text.isWordCharacter c) rest
      else some ⟨year, unknown, unknown⟩
    | none => standalone? (Text.isWordCharacter c) rest

def ofText (t : Text) : Date :=
  let t := Text.trim t
  (full? t <|> yearMonth? t <|> search qualified? t <|> standalone? false t).getD {}

end Date
end FilingName.Field
