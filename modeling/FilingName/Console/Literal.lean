import FilingName.Text.DecimalDigit
import FilingName.Text.Utf8
import FilingName.Text.WordCharacter
import FilingName.Value.Fault

/-!
Literals, in which the parameters of a handler are written: numbers, texts and bytes in quotes, the
words for truth and nothing, and rows, sets and mappings of literals. Here they are only told from
everything else. There are two limits: every name by which an escape calls a character is taken for
the name of one, and a first line may be indented.
-/
namespace FilingName.Console.Literal

inductive Token where
  | number (imaginary : Bool)
  | quoted (bytes : Bool)
  | word (name : Text)
  | mark (c : Char)
  | lineEnd
  deriving DecidableEq, Repr

def isHexDigit (c : Char) : Bool :=
  Text.isDigit c || ('a' ≤ c && c ≤ 'f') || ('A' ≤ c && c ≤ 'F')

/-- The digits that a text starts with, without the underscores before and between them, and the
rest of it. -/
def digits (isDigit : Char → Bool) : Text → Text × Text
  | [] => ([], [])
  | c :: rest =>
    if isDigit c then
      let (found, after) := digits isDigit rest
      (c :: found, after)
    else if c = '_' && rest.head?.any isDigit then digits isDigit rest
    else ([], c :: rest)

/-- Like `digits`, where there has to be a digit at the start. -/
def decimals (t : Text) : Text × Text :=
  if t.head?.any Text.isDigit then digits Text.isDigit t else ([], t)

/-- The digits of a base, by the letter that stands for it behind a zero. -/
def baseDigit (letter : Char) : Option (Char → Bool) :=
  match letter.toLower with
  | 'x' => some isHexDigit
  | 'o' => some fun c => '0' ≤ c && c ≤ '7'
  | 'b' => some fun c => c == '0' || c == '1'
  | _ => none

/-- What follows a whole number with a base before its digits. -/
def basedNumber? : Text → Option Text
  | '0' :: letter :: rest => do
    let (found, after) := digits (← baseDigit letter) rest
    if found.isEmpty then none else some after
  | _ => none

/-- What follows the exponent at the start of a text. -/
def exponent? : Text → Option Text
  | e :: rest =>
    if e.toLower = 'e' then
      let unsigned := if rest.head?.any fun c => c == '+' || c == '-' then rest.tail else rest
      let (found, after) := decimals unsigned
      if found.isEmpty then none else some after
    else none
  | [] => none

/-- A whole number may have zeros in front only if it is zero, and not too many digits. -/
def isWhole (found : Text) : Bool :=
  if found.head? = some '0' then found.all (· == '0') else found.length ≤ digitLimit

/-- The number that a text starts with, by whether it is imaginary, and what follows it. -/
def number? (t : Text) : Option (Bool × Text) :=
  match basedNumber? t with
  | some after => some (false, after)
  | none =>
    let (whole, behindWhole) := decimals t
    let (fraction, behindFraction) :=
      match behindWhole with
      | '.' :: rest => (decimals rest).map some id
      | _ => (none, behindWhole)
    if whole.isEmpty && (fraction.getD []).isEmpty then none
    else
      let exponent := exponent? behindFraction
      let after := exponent.getD behindFraction
      if after.head?.any (·.toLower == 'j') then some (true, after.tail)
      else if fraction.isSome || exponent.isSome || isWhole whole then some (false, after)
      else none

/-- What may stand before quotes: whether backslashes stay as they are, and whether there are bytes
between the quotes. -/
def quoteKinds : List (String × Bool × Bool) :=
  [("", false, false), ("u", false, false), ("r", true, false), ("b", false, true),
    ("br", true, true), ("rb", true, true)]

/-- What stands before the quotes that end here, and what follows them. Only three quotes may stand
around several lines. -/
def within? (quotes : Text) : Text → Option (Text × Text)
  | [] => none
  | c :: rest =>
    if quotes.isPrefixOf (c :: rest) then some ([], (c :: rest).drop quotes.length)
    else if c = '\\' then
      match rest with
      | [] => none
      | d :: rest => (within? quotes rest).map fun (inside, after) => (c :: d :: inside, after)
    else if c = '\n' && quotes.length = 1 then none
    else (within? quotes rest).map fun (inside, after) => (c :: inside, after)

def hexValue (t : Text) : Nat :=
  t.foldl (fun n c => 16 * n + if Text.isDigit c then c.toNat - 48 else c.toLower.toNat - 87) 0

/-- Whether the rest behind an escape's letter starts with so many hexadecimal digits. -/
def hasCode (count : Nat) (rest : Text) : Bool :=
  (rest.take count).length = count && (rest.take count).all isHexDigit
    && hexValue (rest.take count) ≤ 0x10FFFF

/-- Whether a character is called by some name in braces. -/
def hasName : Text → Bool
  | '\x7b' :: rest => rest.head? ≠ some '\x7d' && rest.contains '\x7d'
  | _ => false

/-- Whether every escape stands for a character or a byte. -/
def areEscapes (bytes : Bool) : Text → Bool
  | [] => true
  | '\\' :: letter :: rest =>
    (match letter with
      | 'x' => hasCode 2 rest
      | 'u' => bytes || hasCode 4 rest
      | 'U' => bytes || hasCode 8 rest
      | 'N' => bytes || hasName rest
      | _ => true) && areEscapes bytes rest
  | _ :: rest => areEscapes bytes rest

/-- The text in quotes at the start, by whether it is one of bytes, and what follows it. -/
def quoted? (t : Text) : Option (Bool × Text) := do
  let letters := t.takeWhile Char.isAlpha
  let (_, raw, bytes) ← quoteKinds.find? (·.1.toList == letters.map Char.toLower)
  let rest := t.drop letters.length
  let quote ← rest.head?
  if quote ≠ '\x27' ∧ quote ≠ '\x22' then none
  else
    let three := List.replicate 3 quote
    let quotes := if three.isPrefixOf rest then three else [quote]
    let (inside, after) ← within? quotes (rest.drop quotes.length)
    if (raw || areEscapes bytes inside) && (!bytes || inside.all (·.toNat < 0x80)) then
      some (bytes, after)
    else none

def marks : Text := "()\x7b\x7d,:+-".toList

/-- The token at the start of a text, if there is one, and what follows it. Blanks and comments are
no tokens. -/
def token? (c : Char) (rest : Text) : Option (Option Token × Text) :=
  let t := c :: rest
  if c = ' ' || c = '\t' || c = '\x0c' then some (none, rest)
  else if c = '#' then some (none, rest.dropWhile (· ≠ '\n'))
  else if c = '\n' then some (some .lineEnd, rest)
  else if c = '\\' then if rest.head? = some '\n' then some (none, rest.tail) else none
  else if "...".toList.isPrefixOf t then some (some (.word "...".toList), t.drop 3)
  else if marks.contains c then some (some (.mark c), rest)
  else
    match quoted? t, number? t with
    | some (bytes, after), _ => some (some (.quoted bytes), after)
    | none, some (imaginary, after) => some (some (.number imaginary), after)
    | none, none =>
      if Text.isWordCharacter c then
        some (some (.word (t.takeWhile Text.isWordCharacter)), t.dropWhile Text.isWordCharacter)
      else none

/-- The tokens of a text. Every one takes a character at least. -/
def tokens? : Text → Option (List Token)
  | [] => some []
  | c :: rest => do
    let (token, after) ← token? c rest
    let later ← tokens? (rest.drop (rest.length - after.length))
    return token.toList ++ later
termination_by t => t.length
decreasing_by
  rw [List.length_drop, List.length_cons]
  omega

/-- What a literal is, as far as it matters where it can stand. -/
inductive Kind where
  | number (signed imaginary : Bool)
  /-- Whether it can be a key of a mapping and an item of a set. -/
  | other (key : Bool)
  deriving DecidableEq, Repr

def Kind.isKey : Kind → Bool
  | number .. => true
  | other key => key

/-- What stands between two brackets, with nothing left of the brackets in it. -/
inductive Item where
  | literal (kind : Kind)
  /-- A row without items. -/
  | emptyRow
  | quoted (bytes : Bool)
  | word (name : Text)
  | mark (c : Char)
  | lineEnd
  deriving DecidableEq, Repr

def isSign (c : Char) : Bool := c == '+' || c == '-'

/-- One literal without a comma. A complex number is written as a sum. -/
def kind? : List Item → Option Kind
  | [.literal kind] => some kind
  | [.emptyRow] => some (.other true)
  | [.word name] =>
    if ["True", "False", "None", "..."].any (·.toList == name) then some (.other true) else none
  | [.word name, .emptyRow] => if name = "set".toList then some (.other false) else none
  | [.mark sign, .literal (.number false imaginary)] =>
    if isSign sign then some (.number true imaginary) else none
  | [.literal (.number _ false), .mark sign, .literal (.number false true)] =>
    if isSign sign then some (.other true) else none
  | [.mark first, .literal (.number false false), .mark sign, .literal (.number false true)] =>
    if isSign first && isSign sign then some (.other true) else none
  | .quoted bytes :: rest =>
    if rest.all (· == .quoted bytes) then some (.other true) else none
  | _ => none

/-- What stands between marks. -/
def splitOn (mark : Char) : List Item → List (List Item)
  | [] => [[]]
  | item :: rest =>
    if item = .mark mark then [] :: splitOn mark rest
    else
      match splitOn mark rest with
      | [] => [[item]]
      | piece :: pieces => (item :: piece) :: pieces

/-- What stands between commas; one more comma may stand at the end. -/
def listed (items : List Item) : List (List Item) :=
  let pieces := splitOn ',' items
  if 1 < pieces.length && pieces.getLast? = some [] then pieces.dropLast else pieces

/-- What is in parentheses is a literal again, or a row if there is a comma. -/
def parenthesized? (items : List Item) : Option Item :=
  if items.isEmpty then some .emptyRow
  else if items.contains (.mark ',') then
    ((listed items).mapM kind?).map fun kinds => .literal (.other (kinds.all Kind.isKey))
  else (kind? items).map .literal

def isKey (items : List Item) : Bool := (kind? items).any Kind.isKey

/-- What is in braces is a set, or a mapping if there is a colon. -/
def braced? (items : List Item) : Option Item :=
  let pieces := listed items
  let isEntry (piece : List Item) : Bool :=
    match splitOn ':' piece with
    | [key, value] => isKey key && (kind? value).isSome
    | _ => false
  if items.isEmpty || pieces.all isKey || pieces.all isEntry then some (.literal (.other false))
  else none

/-- How deep brackets may stand within one another. -/
def depthLimit : Nat := 200

/-- Reads tokens. Every bracket that is open waits with the items before it, the last one first. -/
def items? (waiting : List (Char × List Item)) (items : List Item) : List Token → Option (List Item)
  | [] => if waiting.isEmpty then some items else none
  | token :: rest =>
    match token, waiting with
    | .mark '(', _ =>
      if waiting.length < depthLimit then items? (('(', items) :: waiting) [] rest else none
    | .mark '\x7b', _ =>
      if waiting.length < depthLimit then items? (('\x7b', items) :: waiting) [] rest else none
    | .mark ')', ('(', before) :: waiting => do
      items? waiting (before ++ [← parenthesized? items]) rest
    | .mark '\x7d', ('\x7b', before) :: waiting => do
      items? waiting (before ++ [← braced? items]) rest
    | .mark c, _ => items? waiting (items ++ [.mark c]) rest
    | .number imaginary, _ => items? waiting (items ++ [.literal (.number false imaginary)]) rest
    | .quoted bytes, _ => items? waiting (items ++ [.quoted bytes]) rest
    | .word name, _ => items? waiting (items ++ [.word name]) rest
    | .lineEnd, [] => items? [] (items ++ [.lineEnd]) rest
    | .lineEnd, _ => items? waiting items rest

/-- Whether a text is a literal. It may be a row without parentheses, and lines around it may hold
comments. -/
def reads (t : Text) : Bool :=
  let literal := do
    let tokens ← tokens? (Text.Utf8.unifyLineEnds t)
    let items ← items? [] [] tokens
    let trimStart (items : List Item) := items.dropWhile (· == Item.lineEnd)
    let items := (trimStart (trimStart items).reverse).reverse
    if items.isEmpty then none else parenthesized? items
  !t.contains '\x00' && literal.isSome

end FilingName.Console.Literal
