import FilingName.Console.Emoji
import FilingName.Console.Line
import FilingName.Console.Literal
import FilingName.Console.Style

/-!
Markup: text with style tags between brackets. Tags are not shown, whether there is such a style or
not. A closing tag closes the style of its name that was opened last, or any style if it names none.
A handler is a tag that starts with an at sign. Its parameters are read when it is closed, and every
other style is looked up when its text is printed.
-/
namespace FilingName.Console.Markup

inductive Fault where
  /-- A closing tag whose style is not open, and the position at which it stands. -/
  | notOpen (tag : Text) (position : Nat)
  | nothingOpen (position : Nat)
  /-- Parameters of a handler that cannot be read. -/
  | unreadable (parameters : Text)
  /-- A style with a color whose parts are no numbers. -/
  | color (fault : ValueFault)
  deriving DecidableEq, Repr

/-- Why parameters cannot be read is left out. -/
def Fault.message : Fault → Text
  | notOpen tag position =>
    "closing tag '".toList ++ tag ++ "' at position ".toList ++ Text.ofNat position
      ++ " doesn't match any open tag".toList
  | nothingOpen position =>
    "closing tag '[/]' at position ".toList ++ Text.ofNat position
      ++ " has nothing to close".toList
  | unreadable parameters => "error parsing ".toList ++ Text.quoted parameters
  | color fault => fault.message

inductive Piece where
  | plain (text : Text)
  /-- Backslashes before a tag, or a tag that they keep from being one. -/
  | escaped (text : Text)
  /-- What stands between the brackets of a tag. -/
  | tag (inner : Text) (position : Nat)
  deriving DecidableEq, Repr

def startsTag (c : Char) : Bool := ('a' ≤ c && c ≤ 'z') || c == '#' || c == '/' || c == '@'

def isTagCharacter (c : Char) : Bool := c ≠ '[' && c ≠ ']'

/-- The inside of the tag at the start of a text, and what follows the tag. -/
def bracket? : Text → Option (Text × Text)
  | '[' :: rest =>
    if rest.head?.any startsTag then
      match rest.dropWhile isTagCharacter with
      | ']' :: after => some (rest.takeWhile isTagCharacter, after)
      | _ => none
    else none
  | _ => none

/-- A tag at the start of a text, behind any number of backslashes. -/
def tag? (t : Text) : Option (Nat × Text × Text) :=
  (bracket? (t.dropWhile (· == '\\'))).map fun (inner, after) =>
    ((t.takeWhile (· == '\\')).length, inner, after)

private theorem bracket?_length_lt {t inner after : Text} (h : bracket? t = some (inner, after)) :
    after.length < t.length := by
  unfold bracket? at h
  split at h
  · next rest =>
    split at h
    · split at h
      · next after' he =>
        obtain ⟨-, rfl⟩ := Prod.mk.inj (Option.some.inj h)
        have hsuffix := (List.dropWhile_suffix (l := rest) isTagCharacter).length_le
        rw [he] at hsuffix
        simp only [List.length_cons] at hsuffix ⊢
        omega
      · cases h
    · cases h
  · cases h

private theorem tag?_length_lt {t inner after : Text} {n : Nat}
    (h : tag? t = some (n, inner, after)) : after.length < t.length := by
  unfold tag? at h
  obtain ⟨⟨i, a⟩, hb, he⟩ := Option.map_eq_some_iff.mp h
  simp only [Prod.mk.injEq] at he
  obtain ⟨-, -, rfl⟩ := he
  exact Nat.lt_of_lt_of_le (bracket?_length_lt hb) (List.dropWhile_suffix _).length_le

/-- Of the backslashes before a tag every second one is shown; an odd one escapes the tag. -/
def tagPieces (position backslashes : Nat) (inner : Text) : List Piece :=
  let shown := backslashes / 2
  (if shown = 0 then [] else [.escaped (List.replicate shown '\\')])
    ++ [if backslashes % 2 = 1 then .escaped ('[' :: inner ++ [']'])
        else .tag inner (position + 2 * shown)]

def addPlain (c : Char) : List Piece → List Piece
  | .plain text :: rest => .plain (c :: text) :: rest
  | pieces => .plain [c] :: pieces

/-- The pieces of a text that starts at a position. A backslash right before a bracket is not shown,
even where the bracket starts no tag. -/
def pieces (position : Nat) (t : Text) : List Piece :=
  match _h : tag? t with
  | some (backslashes, inner, after) =>
    tagPieces position backslashes inner
      ++ pieces (position + backslashes + inner.length + 2) after
  | none =>
    match t with
    | [] => []
    | c :: rest =>
      let following := pieces (position + 1) rest
      if c = '\\' ∧ rest.head? = some '[' then following else addPlain c following
termination_by t.length
decreasing_by
  · exact tag?_length_lt _h
  · exact Nat.lt_succ_self _

/-- The name of a tag ends where its parameters start. -/
def tagName (inner : Text) : Text := inner.takeWhile (· ≠ '=')

def tagParameters (inner : Text) : Option Text :=
  match inner.dropWhile (· ≠ '=') with
  | _ :: parameters => some parameters
  | [] => none

/-- The parameters of a handler are a name, to which a row in parentheses may belong, or a
literal. -/
def areReadable (parameters : Text) : Bool :=
  let t := Text.trim parameters
  let row := t.dropWhile fun c => Text.isWordCharacter c || c == '.'
  if row.head? = some '(' && row.getLast? = some ')' && !row.contains '\n' then Literal.reads row
  else row.isEmpty || Literal.reads t

/-- A style that is open, by the number of characters that are shown before it. -/
structure Opened where
  start : Nat
  name : Text
  parameters : Option Text
  deriving DecidableEq, Repr

/-- A part of a text, and the definition of its style. -/
structure Span where
  start : Nat
  stop : Nat
  style : Text
  deriving DecidableEq, Repr

def Opened.span (stop : Nat) (opened : Opened) : Span :=
  let parameters := opened.parameters.map (' ' :: ·)
  ⟨opened.start, stop, opened.name ++ parameters.getD []⟩

/-- A handler that is closed has no style that is looked up later. -/
def Opened.close (stop : Nat) (opened : Opened) : Except Fault (List Span) :=
  if opened.name.head? = some '@' then
    match opened.parameters with
    | some parameters =>
      if parameters.isEmpty || areReadable parameters then .ok []
      else .error (.unreadable parameters)
    | none => .ok []
  else .ok [opened.span stop]

/-- What a closing tag closes, and what stays open. -/
def closedBy (name inner : Text) (position : Nat) (opened : List Opened) :
    Except Fault (Opened × List Opened) :=
  if (Text.trim name).isEmpty then
    match opened with
    | [] => .error (.nothingOpen position)
    | last :: opened => .ok (last, opened)
  else do
    let style ← (Style.normalForm (Text.trim name)).mapError .color
    match opened.find? (·.name == style) with
    | some last => return (last, opened.eraseP (·.name == style))
    | none => throw (.notOpen ('[' :: inner ++ [']']) position)

/-- Shows pieces behind `length` characters, with the parts that have a style. `shown` is what
becomes of plain text, and `opened` are the styles that are open, last one first. -/
def showPieces (shown : Text → Text) (length : Nat) (opened : List Opened) :
    List Piece → Except Fault (Text × List Span)
  | [] => .ok ([], opened.map (·.span length))
  | .plain text :: rest | .escaped text :: rest => do
    let length := length + (dropControls (shown text)).length
    let (later, spans) ← showPieces shown length opened rest
    return (shown text ++ later, spans)
  | .tag inner position :: rest =>
    match tagName inner with
    | '/' :: name => do
      let (last, opened) ← closedBy name inner position opened
      let closed ← last.close length
      let (later, spans) ← showPieces shown length opened rest
      return (later, closed ++ spans)
    | name => do
      let name ← (Style.normalForm name).mapError .color
      showPieces shown length (⟨length, name, tagParameters inner⟩ :: opened) rest

/-- Whether the style of a part is looked up. In a text of several lines, or with tabs, this takes a
character of the part that is no line end. -/
def Span.counts (t : Text) (span : Span) : Bool :=
  (t.all fun c => c ≠ '\n' && c ≠ '\t') || ((t.take span.stop).drop span.start).any (· ≠ '\n')

/-- Looks up styles from the start of a text on, outer ones first. -/
def checkStyles (t : Text) (spans : List Span) : Except Fault Unit :=
  let ordered := spans.reverse.mergeSort fun first second => first.start ≤ second.start
  (ordered.filter (·.counts t)).forM fun span => do
    let _ ← (Style.parse? span.style).mapError Fault.color

def renderWith (shown : Text → Text) (t : Text) : Except Fault Text := do
  let (text, spans) ← showPieces shown 0 [] (pieces 0 t)
  checkStyles (dropControls text) spans
  return text

/-- The text that markup shows. -/
def render (t : Text) : Except Fault Text := renderWith id t

/-- The text that markup shows when emoji codes in it are replaced. -/
def renderEmoji (t : Text) : Except Fault Text := renderWith Emoji.replace t

end FilingName.Console.Markup
