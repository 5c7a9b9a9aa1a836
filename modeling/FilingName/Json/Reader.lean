import FilingName.Json.Fault
import FilingName.Text.DecimalDigit
import FilingName.Value

/-!
Reads a JSON document. Lists and mappings that are still open wait on a stack, so every step takes
something off the document. No limit is set to how deep they stand within one another, as it would
be for a reader that calls itself. Not-a-number and the infinities are read as well. A text holds
characters only, which limits what can be told of escapes: one for a surrogate without its partner
gives the replacement character.
-/
namespace FilingName.Json

/-- What is left of a document, and how many characters came before. -/
structure Cursor where
  rest : Text
  position : Nat

def isSpace (c : Char) : Bool := c == ' ' || c == '\t' || c == '\n' || c == '\r'

def Cursor.skipSpaces (c : Cursor) : Cursor :=
  ⟨c.rest.dropWhile isSpace, c.position + (c.rest.takeWhile isSpace).length⟩

def Cursor.skip (c : Cursor) (n : Nat) : Cursor := ⟨c.rest.drop n, c.position + n⟩

theorem Cursor.skipSpaces_le (c : Cursor) : c.skipSpaces.rest.length ≤ c.rest.length :=
  (List.dropWhile_suffix _).length_le

def hexDigit? (c : Char) : Option Nat :=
  let n := c.toNat
  if 48 ≤ n ∧ n ≤ 57 then some (n - 48)
  else if 97 ≤ n ∧ n ≤ 102 then some (n - 87)
  else if 65 ≤ n ∧ n ≤ 70 then some (n - 55)
  else none

/-- The number of four hexadecimal digits; the string has to go on behind them. -/
def codeUnit? : Text → Option Nat
  | a :: b :: c :: d :: _ :: _ => do
    return (((← hexDigit? a) * 16 + (← hexDigit? b)) * 16 + (← hexDigit? c)) * 16 + (← hexDigit? d)
  | _ => none

def isHighSurrogate (n : Nat) : Bool := 0xD800 ≤ n && n ≤ 0xDBFF

def isLowSurrogate (n : Nat) : Bool := 0xDC00 ≤ n && n ≤ 0xDFFF

/-- A surrogate without its partner is no character and is replaced. -/
def characterOf (unit : Nat) : Char :=
  if isHighSurrogate unit || isLowSurrogate unit then Char.ofNat 0xFFFD else Char.ofNat unit

/-- The character of a code escape, from behind the letter `u` that stands at `position`, and the
number of characters that it takes there. -/
def readCode (position : Nat) (t : Text) : Except Fault (Char × Nat) :=
  match codeUnit? t with
  | none => .error (.malformed .codeEscape position)
  | some unit =>
    let after := t.drop 4
    if isHighSurrogate unit && 6 < after.length && "\\u".toList.isPrefixOf after then
      match codeUnit? (after.drop 2) with
      | none => .error (.malformed .codeEscape (position + 6))
      | some low =>
        if isLowSurrogate low then
          .ok (Char.ofNat (0x10000 + (unit - 0xD800) * 0x400 + (low - 0xDC00)), 10)
        else .ok (characterOf unit, 4)
    else .ok (characterOf unit, 4)

def simpleEscape? : Char → Option Char
  | '\x22' => some '\x22'
  | '\\' => some '\\'
  | '/' => some '/'
  | 'b' => some '\x08'
  | 'f' => some '\x0c'
  | 'n' => some '\n'
  | 'r' => some '\r'
  | 't' => some '\t'
  | _ => none

/-- One item of a string: the character that it stands for and how much it takes behind its first
character, or nothing at the closing quote. The opening quote stands at `opened`. -/
def readItem (opened position : Nat) (c : Char) (rest : Text) :
    Except Fault (Option (Char × Nat)) :=
  if c = '\x22' then .ok none
  else if c = '\\' then
    match rest with
    | [] => .error (.malformed .unterminatedString opened)
    | 'u' :: rest => do
      let (character, taken) ← readCode (position + 1) rest
      return some (character, taken + 1)
    | e :: _ =>
      match simpleEscape? e with
      | some character => .ok (some (character, 1))
      | none => .error (.malformed .escape position)
  else if c.toNat ≤ 0x1F then .error (.malformed .controlCharacter position)
  else .ok (some (c, 0))

/-- Reads on from behind an opening quote, past the closing one. -/
def readString (opened position : Nat) : Text → Except Fault (Text × Cursor)
  | [] => .error (.malformed .unterminatedString opened)
  | c :: rest => do
    match ← readItem opened position c rest with
    | none => return ([], ⟨rest, position + 1⟩)
    | some (character, taken) =>
      let (t, cursor) ← readString opened (position + 1 + taken) (rest.drop taken)
      return (character :: t, cursor)
termination_by t => t.length

private theorem readString_length_lt {opened position : Nat} {t s : Text} {c : Cursor}
    (h : readString opened position t = .ok (s, c)) : c.rest.length < t.length := by
  induction hn : t.length using Nat.strongRecOn generalizing position t s with
  | _ n ih =>
    subst hn
    unfold readString at h
    split at h
    · cases h
    · next head rest =>
      cases hitem : readItem opened position head rest with
      | error fault => simp [hitem, bind, Except.bind] at h
      | ok item =>
        cases item with
        | none =>
          simp only [hitem, bind, Except.bind, pure, Except.pure, Except.ok.injEq,
            Prod.mk.injEq] at h
          obtain ⟨-, rfl⟩ := h
          simp
        | some found =>
          obtain ⟨character, taken⟩ := found
          simp only [hitem, bind, Except.bind, pure, Except.pure] at h
          split at h
          · cases h
          · next u hu =>
            obtain ⟨-, rfl⟩ := Prod.mk.inj (Except.ok.inj h)
            have hlt : (rest.drop taken).length < (head :: rest).length := by
              simp only [List.length_drop, List.length_cons]
              omega
            exact Nat.lt_trans (ih _ hlt hu rfl) hlt

def digitCount (t : Text) : Nat := (t.takeWhile Text.isDigit).length

/-- The lengths of sign, whole part, fraction and exponent of the numeral that a text starts with.
The whole part has no leading zero; a fraction and an exponent have at least one digit. -/
def numeral? (t : Text) : Option (Nat × Nat × Nat × Nat) :=
  let sign := if t.head? = some '-' then 1 else 0
  let t := t.drop sign
  let whole := if t.head? = some '0' then 1 else digitCount t
  if whole = 0 then none
  else
    let t := t.drop whole
    let fraction :=
      if t.head? = some '.' ∧ digitCount (t.drop 1) ≠ 0 then digitCount (t.drop 1) + 1 else 0
    let t := t.drop fraction
    let exponent :=
      if t.head? = some 'e' ∨ t.head? = some 'E' then
        let mark := if (t.drop 1).head? = some '+' ∨ (t.drop 1).head? = some '-' then 2 else 1
        if digitCount (t.drop mark) = 0 then 0 else mark + digitCount (t.drop mark)
      else 0
    some (sign, whole, fraction, exponent)

/-- A numeral without fraction and exponent is a whole number, of limited length. -/
def readNumber (t : Text) (sign whole fraction exponent : Nat) : Except ValueFault Value :=
  if fraction + exponent = 0 then
    if digitLimit < whole then .error (.numeralTooLong whole)
    else
      let n : Int := Text.toNat ((t.drop sign).take whole)
      .ok (.whole (if sign = 0 then n else -n))
  else .ok (.real (Binary64.ofNumeral (t.take (sign + whole + fraction + exponent))))

def literals : List (Text × Value) :=
  [("null".toList, .null), ("true".toList, .truth true), ("false".toList, .truth false),
    ("NaN".toList, .real .notANumber), ("Infinity".toList, .real (.infinite false)),
    ("-Infinity".toList, .real (.infinite true))]

/-- The word or number that a text starts with, and its length. -/
def scalar? (t : Text) : Option (Except ValueFault Value × Nat) :=
  match literals.find? (·.1.isPrefixOf t) with
  | some (word, value) => some (.ok value, word.length)
  | none =>
    (numeral? t).map fun (sign, whole, fraction, exponent) =>
      (readNumber t sign whole fraction exponent, sign + whole + fraction + exponent)

/-- A list or a mapping that is still open. The items of a list wait last one first, the entries of
a mapping in order together with the key of the next value. -/
inductive Frame where
  | list (items : List Value)
  | mapping (entries : List (Text × Value)) (key : Text)

/-- A key that comes again keeps its place and takes the new value. -/
def put (key : Text) (value : Value) : List (Text × Value) → List (Text × Value)
  | [] => [(key, value)]
  | entry :: rest =>
    if entry.1 = key then (key, value) :: rest else entry :: put key value rest

/-- Reads a key and the colon behind it. -/
def readKey (c : Cursor) : Except Fault (Text × Cursor) :=
  match c.rest with
  | '\x22' :: rest => do
    let (key, after) ← readString c.position (c.position + 1) rest
    let after := after.skipSpaces
    match after.rest with
    | ':' :: rest => return (key, ⟨rest, after.position + 1⟩)
    | _ => .error (.malformed .colon after.position)
  | _ => .error (.malformed .propertyName c.position)

private theorem readKey_length_lt {c d : Cursor} {key : Text} (h : readKey c = .ok (key, d)) :
    d.rest.length < c.rest.length := by
  unfold readKey at h
  split at h
  · next rest hc =>
    cases hs : readString c.position (c.position + 1) rest with
    | error fault => simp [hs, bind, Except.bind] at h
    | ok found =>
      obtain ⟨t, after⟩ := found
      have hlt := readString_length_lt hs
      have hle := after.skipSpaces_le
      simp only [hs, bind, Except.bind, pure, Except.pure] at h
      split at h
      · next rest' hr =>
        obtain ⟨-, rfl⟩ := Prod.mk.inj (Except.ok.inj h)
        rw [hr] at hle
        rw [hc]
        simp only [List.length_cons] at hle ⊢
        omega
      · cases h
  · cases h

mutual

/-- Reads the value that starts here; what is open around it waits on the stack. -/
def readValue (stack : List Frame) (c : Cursor) : Except Fault (Value × Cursor) :=
  let here := c.skipSpaces
  have _hhere : here.rest.length ≤ c.rest.length := c.skipSpaces_le
  match _hr : here.rest with
  | [] => .error (.malformed .value here.position)
  | '[' :: rest =>
    let inside := Cursor.skipSpaces ⟨rest, here.position + 1⟩
    have _hinside : inside.rest.length ≤ rest.length :=
      Cursor.skipSpaces_le ⟨rest, here.position + 1⟩
    match _hi : inside.rest with
    | ']' :: rest => closeValue stack (.list []) ⟨rest, inside.position + 1⟩
    | _ => readValue (.list [] :: stack) inside
  | '{' :: rest =>
    let inside := Cursor.skipSpaces ⟨rest, here.position + 1⟩
    have _hinside : inside.rest.length ≤ rest.length :=
      Cursor.skipSpaces_le ⟨rest, here.position + 1⟩
    match _hi : inside.rest with
    | '}' :: rest => closeValue stack (.mapping []) ⟨rest, inside.position + 1⟩
    | _ =>
      match _hk : readKey inside with
      | .error fault => .error fault
      | .ok (key, after) => readValue (.mapping [] key :: stack) after
  | '\x22' :: rest =>
    match _hs : readString here.position (here.position + 1) rest with
    | .error fault => .error fault
    | .ok (t, after) => closeValue stack (.text t) after
  | _ :: _ =>
    match scalar? here.rest with
    | none => .error (.malformed .value here.position)
    | some (.error fault, _) => .error (.value fault)
    | some (.ok value, length) => closeValue stack value (here.skip (max 1 length))
termination_by c.rest.length
decreasing_by
  all_goals
    have hlength := congrArg List.length _hr
    simp only [List.length_cons] at hlength
  · have := congrArg List.length _hi
    simp only [List.length_cons] at this
    omega
  · exact Nat.lt_of_le_of_lt _hinside (by omega)
  · have := congrArg List.length _hi
    simp only [List.length_cons] at this
    omega
  · have := readKey_length_lt _hk; omega
  · have := readString_length_lt _hs; omega
  · have := Nat.le_max_left 1 length
    simp only [Cursor.skip, here, List.length_drop] at hlength _hhere ⊢
    omega

/-- Gives a finished value to what waits for it, and reads on from there. -/
def closeValue (stack : List Frame) (value : Value) (c : Cursor) : Except Fault (Value × Cursor) :=
  let here := c.skipSpaces
  have _hhere : here.rest.length ≤ c.rest.length := c.skipSpaces_le
  match stack with
  | [] => .ok (value, c)
  | .list items :: stack =>
    match _hr : here.rest with
    | ']' :: rest =>
      closeValue stack (.list (value :: items).reverse) ⟨rest, here.position + 1⟩
    | ',' :: rest => readValue (.list (value :: items) :: stack) ⟨rest, here.position + 1⟩
    | _ => .error (.malformed .comma here.position)
  | .mapping entries key :: stack =>
    let entries := put key value entries
    match _hr : here.rest with
    | '}' :: rest => closeValue stack (.mapping entries) ⟨rest, here.position + 1⟩
    | ',' :: rest =>
      have _hnext := Cursor.skipSpaces_le ⟨rest, here.position + 1⟩
      match _hk : readKey (Cursor.skipSpaces ⟨rest, here.position + 1⟩) with
      | .error fault => .error fault
      | .ok (key, after) => readValue (.mapping entries key :: stack) after
    | _ => .error (.malformed .comma here.position)
termination_by c.rest.length
decreasing_by
  all_goals
    have hlength := congrArg List.length _hr
    simp only [List.length_cons] at hlength
  · omega
  · omega
  · omega
  · have := readKey_length_lt _hk; simp only at _hnext; omega

end

/-- A document is one value with nothing but spaces around it. -/
def read (document : Text) : Except Fault Value :=
  if document.head? = some (Char.ofNat 0xFEFF) then .error (.malformed .byteOrderMark 0)
  else do
    let (value, after) ← readValue [] ⟨document, 0⟩
    let after := after.skipSpaces
    if after.rest.isEmpty then return value
    else .error (.malformed .extraData after.position)

end FilingName.Json
