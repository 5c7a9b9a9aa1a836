import FilingName.Text

/-!
Templates are text with placeholders between braces. A placeholder has a name of capitals and, after
a colon, may have a chain of modifiers; any other brace is ordinary text.
-/
namespace FilingName.Template

def isNameLetter (c : Char) : Bool := 'A' ≤ c && c ≤ 'Z'

/-- Modifiers in a chain are letters of either case with colons between them, before or after. -/
def isChainCharacter (c : Char) : Bool := isNameLetter c || ('a' ≤ c && c ≤ 'z') || c == ':'

/-- A placeholder as it stands in a template. -/
structure Token where
  name : Text
  chain : Option Text
  deriving DecidableEq, Repr

/-- The characters of a token in the template. -/
def Token.text (token : Token) : Text :=
  match token.chain with
  | none => '{' :: token.name ++ ['}']
  | some chain => '{' :: token.name ++ ':' :: chain ++ ['}']

inductive Segment where
  | literal (text : Text)
  | placeholder (token : Token)
  deriving DecidableEq, Repr

def Segment.text : Segment → Text
  | literal text => text
  | placeholder token => token.text

/-- Writes segments one after the other. -/
def write (segments : List Segment) : Text := segments.flatMap Segment.text

/-- Reads the token at the start of a text, if there is one, and what follows it. -/
def token? : Text → Option (Token × Text)
  | '{' :: rest =>
    let name := rest.takeWhile isNameLetter
    if name.isEmpty then none
    else
      match rest.dropWhile isNameLetter with
      | '}' :: after => some (⟨name, none⟩, after)
      | ':' :: rest =>
        let chain := rest.takeWhile isChainCharacter
        if chain.isEmpty then none
        else
          match rest.dropWhile isChainCharacter with
          | '}' :: after => some (⟨name, some chain⟩, after)
          | _ => none
      | _ => none
  | _ => none

private theorem token?_length_lt {t after : Text} {token : Token}
    (h : token? t = some (token, after)) : after.length < t.length := by
  unfold token? at h
  split at h
  · next rest =>
    have hname := (List.dropWhile_suffix (l := rest) isNameLetter).length_le
    dsimp only at h
    split at h
    · cases h
    · split at h
      · next after' he =>
        obtain ⟨-, rfl⟩ := Prod.mk.inj (Option.some.inj h)
        rw [he] at hname
        simp only [List.length_cons] at hname ⊢
        omega
      · next rest' he =>
        have hchain := (List.dropWhile_suffix (l := rest') isChainCharacter).length_le
        rw [he] at hname
        split at h
        · cases h
        · split at h
          · next after' he' =>
            obtain ⟨-, rfl⟩ := Prod.mk.inj (Option.some.inj h)
            rw [he'] at hchain
            simp only [List.length_cons] at hname hchain ⊢
            omega
          · cases h
      · cases h
  · cases h

/-- Puts a character in front of the text that the segments start with. -/
def addLiteral (c : Char) : List Segment → List Segment
  | .literal text :: rest => .literal (c :: text) :: rest
  | segments => .literal [c] :: segments

/-- Splits a template from left to right; text between tokens is kept in one piece. -/
def parse (t : Text) : List Segment :=
  match _h : token? t with
  | some (token, after) => .placeholder token :: parse after
  | none =>
    match t with
    | [] => []
    | c :: rest => addLiteral c (parse rest)
termination_by t.length
decreasing_by
  · exact token?_length_lt _h
  · simp

def tokens (segments : List Segment) : List Token :=
  segments.filterMap fun
    | .literal _ => none
    | .placeholder token => some token

/-- The names that a template asks for, known or not, each where it first occurs. -/
def required (t : Text) : List Text := Text.distinct ((tokens (parse t)).map Token.name)

end FilingName.Template
