import FilingName.Proofs.Template.Modifier
import FilingName.Proofs.Template.Process

/-! Chains of modifiers. Tokens can take the place of tokens in any template, for they never join
with the text around them; and a token is not told from another one that asks for the same field and
the same modifier. So a chain counts for its last modifier, in whatever letter case that is. -/
namespace FilingName.Template
open Text (SameLetters)

/-- A segment in the place of another one: literals stay, and tokens make room for tokens. -/
inductive Segment.Replaces (P : Token → Token → Prop) : Segment → Segment → Prop
  | literal (text : Text) : Replaces P (.literal text) (.literal text)
  | placeholder {token other : Token} : P token other →
      Replaces P (.placeholder token) (.placeholder other)

/-- The text is the template with other tokens in the place of its own. -/
def Rewrites (P : Token → Token → Prop) (t u : Text) : Prop :=
  ∃ segments, List.Forall₂ (Segment.Replaces P) (parse t) segments ∧ u = write segments

section
variable {P : Token → Token → Prop} {t u : Text} {token other : Token}
  {segments others : List Segment}

/-- Literals are neither made nor lost, so none comes to stand next to another. -/
private theorem isLiteral_head?_of_replaces
    (h : List.Forall₂ (Segment.Replaces P) segments others)
    (hhead : ∀ next ∈ segments.head?, next.isLiteral = false) :
    ∀ next ∈ others.head?, next.isLiteral = false := by
  cases h with
  | nil => exact hhead
  | cons hfirst _ =>
    cases hfirst with
    | literal text => exact hhead
    | placeholder _ => simp [Segment.isLiteral]

private theorem Splits.replace
    (hP : ∀ token other, token.WellFormed → P token other → other.WellFormed)
    (hreplaces : List.Forall₂ (Segment.Replaces P) segments others) (h : Splits t segments) :
    Splits (write others) others := by
  induction hreplaces generalizing t with
  | nil => exact h.write_eq ▸ h
  | cons hfirst hrest ih =>
    cases hfirst with
    | literal text =>
      exact (ih h.tail).literal (h.literal_ne_nil text List.mem_cons_self)
        (h.tokenFree text List.mem_cons_self)
        (isLiteral_head?_of_replaces hrest h.isLiteral_head?)
    | placeholder hother =>
      exact (ih h.tail).token (hP _ _ (h.wellFormed _ List.mem_cons_self) hother)

/-- The tokens that were put in are read back where they stand. -/
private theorem parse_of_replaces
    (hP : ∀ token other, token.WellFormed → P token other → other.WellFormed)
    (h : List.Forall₂ (Segment.Replaces P) (parse t) segments) :
    parse (write segments) = segments :=
  ((splits_iff_eq_parse _ _).mp ((splits_parse t).replace hP h)).symm

/-- Only the empty template is rewritten to the empty one. -/
theorem Rewrites.eq_nil_iff
    (hP : ∀ token other, token.WellFormed → P token other → other.WellFormed)
    (h : Rewrites P t u) : u = [] ↔ t = [] := by
  obtain ⟨segments, hreplaces, rfl⟩ := h
  constructor
  · intro hnil
    have hparse := parse_of_replaces hP hreplaces
    rw [hnil, parse_nil] at hparse
    rw [← hparse, List.forall₂_nil_right_iff] at hreplaces
    rw [← (splits_parse t).write_eq, hreplaces, write_nil]
  · rintro rfl
    rw [parse_nil, List.forall₂_nil_left_iff] at hreplaces
    rw [hreplaces, write_nil]

end

namespace Engine
variable {engine : Engine} {record field : Value} {token other : Token} {t u : Text}

/-- What a token for a field comes to. -/
private theorem part_field (h : engine.keyMap.lookUp (.text token.name) = .ok field)
    (hfield : field ≠ .null) : engine.part record (.placeholder token) = (do
      let value ← record.lookUp field
      if value.isMissing then return engine.missing
      let recorded ← value.write
      let formatted ← format token.name recorded
      return .text (← modify token.modifier formatted)) := by
  rw [part_placeholder, resolve_field h hfield, map_bind]
  congr 1
  funext value
  split_ifs
  · rfl
  · rw [map_bind]
    congr 1
    funext recorded
    rw [map_bind]
    congr 1
    funext formatted
    rw [Token.modifier]
    cases token.chain with
    | none => simp [modify, Resolution.final]
    | some chain => simp [Resolution.final]

/-- Tokens for the same field are not told apart if their modifiers do the same. -/
private theorem part_of_same_name (h : engine.keyMap.lookUp (.text token.name) = .ok field)
    (hfield : field ≠ .null) (hname : other.name = token.name)
    (hmodifier : ∀ v, modify other.modifier v = modify token.modifier v) :
    engine.part record (.placeholder other) = engine.part record (.placeholder token) := by
  rw [part_field (hname ▸ h) hfield, part_field h hfield]
  simp only [hname, hmodifier]

private theorem mapM_part_of_replaces {P : Token → Token → Prop} {segments others : List Segment}
    (h : List.Forall₂ (Segment.Replaces P) segments others)
    (hpart : ∀ token ∈ tokens segments, ∀ other, P token other →
      engine.part record (.placeholder other) = engine.part record (.placeholder token)) :
    others.mapM (engine.part record) = segments.mapM (engine.part record) := by
  induction h with
  | nil => rfl
  | cons hfirst _ ih =>
    rw [List.mapM_cons, List.mapM_cons]
    cases hfirst with
    | literal text => rw [ih hpart]
    | placeholder hother =>
      rw [tokens_placeholder, List.forall_mem_cons] at hpart
      rw [hpart.1 _ hother, ih hpart.2]

/-- A template is processed as before with tokens in it that come to the same. -/
theorem process_of_rewrites {P : Token → Token → Prop}
    (hP : ∀ token other, token.WellFormed → P token other → other.WellFormed)
    (hpart : ∀ token ∈ tokens (parse t), ∀ other, P token other →
      engine.part record (.placeholder other) = engine.part record (.placeholder token))
    (h : Rewrites P t u) : engine.process u record = engine.process t record := by
  obtain ⟨segments, hreplaces, rfl⟩ := h
  rw [process, process, parse_of_replaces hP hreplaces, mapM_part_of_replaces hreplaces hpart]

end Engine

/-- The token without the chain, but with the last modifier of it if there is one. -/
def Token.shortened (token : Token) : Token :=
  ⟨token.name, if token.modifier = [] then none else some token.modifier⟩

def Segment.shortened : Segment → Segment
  | literal text => literal text
  | placeholder token => placeholder token.shortened

/-- The template with every token shortened. -/
def shortened (t : Text) : Text := write ((parse t).map Segment.shortened)

/-- The token with its modifier in other letter case, if it has one modifier and that exists. -/
inductive Token.Recased : Token → Token → Prop
  | same (token : Token) : Recased token token
  | modifier {name written recased : Text} : Text.lower written ∈ modifierNames →
      SameLetters written recased → Recased ⟨name, some written⟩ ⟨name, some recased⟩

variable {token other : Token} {t u : Text}

private theorem lastModifier_of_not_mem {written : Text} (h : ':' ∉ written) :
    lastModifier written = written :=
  Text.isLastPiece_iff.mp ⟨h, .inl rfl⟩

private theorem colon_not_mem_modifier (token : Token) : ':' ∉ token.modifier := by
  cases hchain : token.chain with
  | none => simp [Token.modifier, hchain]
  | some chain => exact (token.isLastPiece_modifier hchain).1

private theorem modifier_shortened (token : Token) : token.shortened.modifier = token.modifier := by
  by_cases h : token.modifier = []
  · rw [Token.shortened, if_pos h, h]
    rfl
  · rw [Token.shortened, if_neg h]
    exact lastModifier_of_not_mem (colon_not_mem_modifier token)

private theorem isChainCharacter_of_isLetter {c : Char} (h : isLetter c) : isChainCharacter c := by
  rw [isChainCharacter]
  exact Bool.or_eq_true_iff.mpr (.inl h)

private theorem Token.WellFormed.shortened (h : token.WellFormed) : token.shortened.WellFormed where
  name_ne_nil := h.name_ne_nil
  name_letters := h.name_letters
  chain_ne_nil := by
    intro chain hchain
    rw [Token.shortened] at hchain
    split_ifs at hchain with hnil
    · cases hchain
    · rwa [← Option.some.inj hchain]
  chain_characters := by
    intro chain hchain c hc
    rw [Token.shortened] at hchain
    split_ifs at hchain with hnil
    · cases hchain
    · rw [← Option.some.inj hchain] at hc
      exact isChainCharacter_of_isLetter (h.letters_modifier c hc)

private theorem replaces_shortened (segments : List Segment) :
    List.Forall₂ (Segment.Replaces fun token other => other = token.shortened) segments
      (segments.map Segment.shortened) := by
  rw [List.forall₂_map_right_iff, List.forall₂_same]
  intro segment _
  cases segment with
  | literal text => exact .literal text
  | placeholder token => exact .placeholder rfl

private theorem rewrites_shortened (t : Text) :
    Rewrites (fun token other => other = token.shortened) t (shortened t) :=
  ⟨_, replaces_shortened (parse t), rfl⟩

private theorem parse_shortened (t : Text) :
    parse (shortened t) = (parse t).map Segment.shortened := by
  refine parse_of_replaces ?_ (replaces_shortened (parse t))
  rintro token _ htoken rfl
  exact htoken.shortened

private theorem tokens_map_shortened (segments : List Segment) :
    tokens (segments.map Segment.shortened) = (tokens segments).map Token.shortened := by
  induction segments with
  | nil => rfl
  | cons segment segments ih =>
    cases segment with
    | literal text => exact ih
    | placeholder token =>
      rw [List.map_cons, Segment.shortened, tokens_placeholder, ih, tokens_placeholder,
        List.map_cons]

private theorem colon_not_mem_of_name {written : Text} (h : Text.lower written ∈ modifierNames) :
    ':' ∉ written := by
  intro hin
  have hlower := Text.mem_lower (by decide +kernel) hin
  have hnames : ∀ name ∈ modifierNames, ':' ∉ name := by decide
  exact hnames _ h hlower

private theorem Token.Recased.wellFormed (h : token.Recased other) (htoken : token.WellFormed) :
    other.WellFormed := by
  cases h with
  | same => exact htoken
  | @modifier name written recased hname hletters =>
    have hcharacter (c : Char) : isChainCharacter c.toLower = isChainCharacter c :=
      Text.toLower_congr isChainCharacter (by decide) c
    refine ⟨htoken.name_ne_nil, htoken.name_letters, ?_, ?_⟩
    · rintro chain ⟨⟩ rfl
      exact htoken.chain_ne_nil written rfl (List.map_eq_nil_iff.mp hletters)
    · rintro chain ⟨⟩
      exact SameLetters.forall_mem hletters isChainCharacter hcharacter
        (htoken.chain_characters written rfl)

private theorem Token.Recased.name_eq (h : token.Recased other) : other.name = token.name := by
  cases h <;> rfl

/-- Letter case makes no difference to what a modifier does. -/
private theorem Token.Recased.modify_eq (h : token.Recased other) (v : Text) :
    modify other.modifier v = modify token.modifier v := by
  cases h with
  | same => rfl
  | @modifier name written recased hname hletters =>
    have hlower : Text.lower written = Text.lower recased := Text.lower_of_sameLetters hletters
    have hwritten : Token.modifier ⟨name, some written⟩ = written :=
      lastModifier_of_not_mem (colon_not_mem_of_name hname)
    have hrecased : Token.modifier ⟨name, some recased⟩ = recased :=
      lastModifier_of_not_mem (colon_not_mem_of_name (hlower ▸ hname))
    obtain ⟨modifier, hmodifier⟩ := Option.isSome_iff_exists.mp (ofName?_isSome.mpr hname)
    have hname' := ofName?_eq_some_iff.mp hmodifier
    rw [hwritten, hrecased, modify_of_name hname', modify_of_name (hlower ▸ hname')]

/-- Where every name of a template stands for a field, a chain is worth its last modifier: with that
alone in its place, or with nothing where the chain ends in a colon, the template is processed as
before. The letter case of the modifiers that there are makes no difference to it either. -/
theorem chain_counts_for_last_modifier (engine : Engine) (record : Value) (t : Text)
    (hnames : ∀ token ∈ tokens (parse t), ∃ field,
      engine.keyMap.lookUp (.text token.name) = .ok field ∧ field ≠ .null) :
    parse (shortened t) = (parse t).map Segment.shortened ∧
      Operation.run engine (.process (.text (shortened t)) record) =
        Operation.run engine (.process (.text t) record) ∧
      ∀ u, Rewrites Token.Recased (shortened t) u →
        Operation.run engine (.process (.text u) record) =
          Operation.run engine (.process (.text t) record) := by
  have hshortened : engine.process (shortened t) record = engine.process t record := by
    refine Engine.process_of_rewrites ?_ ?_ (rewrites_shortened t)
    · rintro token _ htoken rfl
      exact htoken.shortened
    · rintro token hin _ rfl
      obtain ⟨field, hfield, hne⟩ := hnames token hin
      exact Engine.part_of_same_name hfield hne rfl fun v => by rw [modifier_shortened]
  have hrecased (u : Text) (h : Rewrites Token.Recased (shortened t) u) :
      engine.process u record = engine.process (shortened t) record := by
    refine Engine.process_of_rewrites (fun token other htoken h => h.wellFormed htoken) ?_ h
    intro token hin other hother
    rw [parse_shortened, tokens_map_shortened] at hin
    obtain ⟨original, horiginal, rfl⟩ := List.mem_map.mp hin
    obtain ⟨field, hfield, hne⟩ := hnames original horiginal
    have hfield' : engine.keyMap.lookUp (.text original.shortened.name) = .ok field := hfield
    exact Engine.part_of_same_name hfield' hne hother.name_eq hother.modify_eq
  simp only [Operation.run_process, OnValues.templateText]
  exact ⟨parse_shortened t, by rw [hshortened], fun u hu => by rw [hrecased u hu, hshortened]⟩

/-- Two modifiers of which one counts, and one that counts for nothing for the colon behind it. -/
theorem titled_name_written_in_capitals :
    let engine : Engine := ⟨.mapping [("GIVEN".toList, .text "given".toList)], .text ['x']⟩
    let record := Value.mapping [("given".toList, .text "ann".toList)]
    shortened "{GIVEN:upper:title}, {GIVEN:shout:}".toList = "{GIVEN:title}, {GIVEN}".toList ∧
      Operation.run engine (.process (.text "{GIVEN:TITLE}, {GIVEN}".toList) record) =
        Operation.run engine
          (.process (.text "{GIVEN:upper:title}, {GIVEN:shout:}".toList) record) := by
  intro engine record
  have hparse : parse "{GIVEN:upper:title}, {GIVEN:shout:}".toList =
      [.placeholder ⟨"GIVEN".toList, some "upper:title".toList⟩, .literal ", ".toList,
        .placeholder ⟨"GIVEN".toList, some "shout:".toList⟩] := by
    decide +kernel
  have hshortened : (parse "{GIVEN:upper:title}, {GIVEN:shout:}".toList).map Segment.shortened =
      [.placeholder ⟨"GIVEN".toList, some "title".toList⟩, .literal ", ".toList,
        .placeholder ⟨"GIVEN".toList, none⟩] := by
    rw [hparse]
    decide
  have hnames : ∀ token ∈ tokens (parse "{GIVEN:upper:title}, {GIVEN:shout:}".toList), ∃ field,
      engine.keyMap.lookUp (.text token.name) = .ok field ∧ field ≠ .null := by
    rw [hparse]
    intro token hin
    refine ⟨.text "given".toList, ?_, by simp⟩
    rcases List.mem_pair.mp hin with rfl | rfl <;> rfl
  obtain ⟨hread, -, hrecased⟩ := chain_counts_for_last_modifier engine record _ hnames
  refine ⟨by rw [shortened, hshortened]; rfl, hrecased _ ?_⟩
  refine ⟨[.placeholder ⟨"GIVEN".toList, some "TITLE".toList⟩, .literal ", ".toList,
    .placeholder ⟨"GIVEN".toList, none⟩], ?_, rfl⟩
  rw [hread, hshortened]
  exact .cons (.placeholder (.modifier (by decide +kernel) (by decide)))
    (.cons (.literal _) (.cons (.placeholder (.same _)) .nil))

end FilingName.Template
