import FilingName.Proofs.Text
import FilingName.Template.Segment
import Mathlib.Data.List.Chain
import Mathlib.Data.List.Infix

/-! The split of a template into literals and tokens. A token is read wherever one stands, and
tokens never overlap, so a template splits in one way only. -/
namespace FilingName.Template
open Text (takeWhile_run dropWhile_run)

/-- A token whose name and chain can be read back from its text. -/
structure Token.WellFormed (token : Token) : Prop where
  name_ne_nil : token.name ≠ []
  name_letters : ∀ c ∈ token.name, isNameLetter c
  chain_ne_nil : ∀ chain ∈ token.chain, chain ≠ []
  chain_characters : ∀ chain ∈ token.chain, ∀ c ∈ chain, isChainCharacter c

theorem Token.text_ne_nil (token : Token) : token.text ≠ [] := by
  obtain ⟨name, _ | chain⟩ := token <;> simp [Token.text]

private theorem token?_text_append {token : Token} (h : token.WellFormed) (after : Text) :
    token? (token.text ++ after) = some (token, after) := by
  obtain ⟨name, chain⟩ := token
  have hname : name.isEmpty = false := by simpa using h.name_ne_nil
  cases chain with
  | none =>
    have hclose : isNameLetter '}' = false := by decide
    simp only [Token.text, List.cons_append, List.append_assoc, List.nil_append, token?,
      takeWhile_run h.name_letters hclose, dropWhile_run h.name_letters hclose, hname,
      Bool.false_eq_true, if_false]
  | some chain =>
    have hcolon : isNameLetter ':' = false := by decide
    have hclose : isChainCharacter '}' = false := by decide
    have hrun : ∀ c ∈ chain, isChainCharacter c := h.chain_characters chain rfl
    have hchain : chain.isEmpty = false := by simpa using h.chain_ne_nil chain rfl
    simp only [Token.text, List.cons_append, List.append_assoc, List.nil_append, token?,
      takeWhile_run h.name_letters hcolon, dropWhile_run h.name_letters hcolon, hname,
      takeWhile_run hrun hclose, dropWhile_run hrun hclose, hchain, Bool.false_eq_true, if_false]

private theorem wellFormed_of_token? {t after : Text} {token : Token}
    (h : token? t = some (token, after)) : token.WellFormed ∧ t = token.text ++ after := by
  unfold token? at h
  split at h
  · next rest =>
    have hletters : ∀ c ∈ rest.takeWhile isNameLetter, isNameLetter c :=
      fun c hc => List.mem_takeWhile_imp hc
    have hrest := List.takeWhile_append_dropWhile (p := isNameLetter) (l := rest)
    dsimp only at h
    split at h
    · cases h
    · next hname =>
      split at h
      · next after' he =>
        obtain ⟨rfl, rfl⟩ := Prod.mk.inj (Option.some.inj h)
        refine ⟨⟨by simpa using hname, hletters, by simp, by simp⟩, ?_⟩
        rw [he] at hrest
        simp [Token.text, hrest]
      · next rest' he =>
        have hcharacters : ∀ c ∈ rest'.takeWhile isChainCharacter, isChainCharacter c :=
          fun c hc => List.mem_takeWhile_imp hc
        have hrest' := List.takeWhile_append_dropWhile (p := isChainCharacter) (l := rest')
        split at h
        · cases h
        · next hchain =>
          split at h
          · next after' he' =>
            obtain ⟨rfl, rfl⟩ := Prod.mk.inj (Option.some.inj h)
            refine ⟨⟨by simpa using hname, hletters, ?_, ?_⟩, ?_⟩
            · simpa using hchain
            · simpa using hcharacters
            · rw [he] at hrest
              rw [he'] at hrest'
              simp [Token.text, hrest, hrest']
          · cases h
      · cases h
  · cases h

/-- A token is read exactly where the text of a well-formed one stands. -/
theorem token?_eq_some_iff {t after : Text} {token : Token} :
    token? t = some (token, after) ↔ token.WellFormed ∧ t = token.text ++ after := by
  constructor
  · exact wellFormed_of_token?
  · rintro ⟨h, rfl⟩
    exact token?_text_append h after

@[simp] theorem parse_nil : parse [] = [] := by
  rw [parse]
  rfl

private theorem parse_of_token? {t after : Text} {token : Token}
    (h : token? t = some (token, after)) : parse t = .placeholder token :: parse after := by
  rw [parse]
  split
  · next he =>
    obtain ⟨rfl, rfl⟩ := Prod.mk.inj (Option.some.inj (h.symm.trans he))
    rfl
  · next he => cases h.symm.trans he

theorem parse_cons_of_none {c : Char} {rest : Text} (h : token? (c :: rest) = none) :
    parse (c :: rest) = addLiteral c (parse rest) := by
  rw [parse]
  split
  · next he => cases h.symm.trans he
  · rfl

theorem parse_text_append {token : Token} (h : token.WellFormed) (after : Text) :
    parse (token.text ++ after) = .placeholder token :: parse after :=
  parse_of_token? (token?_eq_some_iff.mpr ⟨h, rfl⟩)

theorem parse_text {token : Token} (h : token.WellFormed) :
    parse token.text = [.placeholder token] := by
  have happend := parse_text_append h []
  rwa [List.append_nil, parse_nil] at happend

@[simp] theorem write_nil : write [] = [] := rfl

@[simp] theorem write_cons (segment : Segment) (segments : List Segment) :
    write (segment :: segments) = segment.text ++ write segments := rfl

@[simp] theorem tokens_nil : tokens [] = [] := rfl

@[simp] theorem tokens_literal (text : Text) (segments : List Segment) :
    tokens (.literal text :: segments) = tokens segments := rfl

@[simp] theorem tokens_placeholder (token : Token) (segments : List Segment) :
    tokens (.placeholder token :: segments) = token :: tokens segments := rfl

@[simp] theorem tokens_append (segments more : List Segment) :
    tokens (segments ++ more) = tokens segments ++ tokens more := List.filterMap_append

@[simp] theorem tokens_addLiteral (c : Char) (segments : List Segment) :
    tokens (addLiteral c segments) = tokens segments := by
  rcases segments with _ | ⟨⟨text⟩ | ⟨token⟩, segments⟩ <;> rfl

theorem mem_tokens {token : Token} {segments : List Segment} :
    token ∈ tokens segments ↔ .placeholder token ∈ segments := by
  induction segments with
  | nil => simp
  | cons segment segments ih => cases segment <;> simp [ih]

/-- Nothing in a text reads as a token. -/
def TokenFree (t : Text) : Prop := ∀ token : Token, token.WellFormed → ¬ token.text <:+: t

private theorem TokenFree.of_infix {t part : Text} (h : TokenFree t) (hp : part <:+: t) :
    TokenFree part :=
  fun token htoken hin => h token htoken (hin.trans hp)

def Segment.isLiteral : Segment → Bool
  | literal _ => true
  | placeholder _ => false

/-- What it is to split a template: nothing is lost, placeholders are tokens, and every literal is
as long as it can be and holds no token. -/
structure Splits (t : Text) (segments : List Segment) : Prop where
  write_eq : write segments = t
  wellFormed : ∀ token, .placeholder token ∈ segments → token.WellFormed
  literal_ne_nil : ∀ text, .literal text ∈ segments → text ≠ []
  separated : segments.IsChain fun a b => ¬ (a.isLiteral ∧ b.isLiteral)
  tokenFree : ∀ text, .literal text ∈ segments → TokenFree text

namespace Splits
variable {t text : Text} {segment : Segment} {segments : List Segment}

theorem tail (h : Splits t (segment :: segments)) : Splits (write segments) segments where
  write_eq := rfl
  wellFormed token hin := h.wellFormed token (List.mem_cons_of_mem _ hin)
  literal_ne_nil text hin := h.literal_ne_nil text (List.mem_cons_of_mem _ hin)
  separated := h.separated.tail
  tokenFree text hin := h.tokenFree text (List.mem_cons_of_mem _ hin)

theorem isLiteral_head? (h : Splits t (.literal text :: segments)) :
    ∀ next ∈ segments.head?, next.isLiteral = false := by
  intro next hnext
  have hstep := (List.isChain_cons.mp h.separated).1 next hnext
  simpa [Segment.isLiteral] using hstep

theorem token {token : Token} (htoken : token.WellFormed) (h : Splits t segments) :
    Splits (token.text ++ t) (.placeholder token :: segments) where
  write_eq := by rw [write_cons, h.write_eq, Segment.text]
  wellFormed := by
    intro token' hin
    rcases List.mem_cons.mp hin with heq | hin
    · rwa [Segment.placeholder.inj heq]
    · exact h.wellFormed token' hin
  literal_ne_nil := by simpa using h.literal_ne_nil
  separated := List.isChain_cons.mpr ⟨fun _ _ => by simp [Segment.isLiteral], h.separated⟩
  tokenFree := by simpa using h.tokenFree

theorem literal (hne : text ≠ []) (hfree : TokenFree text)
    (hhead : ∀ next ∈ segments.head?, next.isLiteral = false) (h : Splits t segments) :
    Splits (text ++ t) (.literal text :: segments) where
  write_eq := by rw [write_cons, h.write_eq, Segment.text]
  wellFormed := by simpa using h.wellFormed
  literal_ne_nil := by
    intro text' hin
    rcases List.mem_cons.mp hin with heq | hin
    · rwa [Segment.literal.inj heq]
    · exact h.literal_ne_nil text' hin
  separated := List.isChain_cons.mpr ⟨fun next hnext => by simp [hhead next hnext], h.separated⟩
  tokenFree := by
    intro text' hin
    rcases List.mem_cons.mp hin with heq | hin
    · rwa [Segment.literal.inj heq]
    · exact h.tokenFree text' hin

end Splits

/-- Text that does not start with a literal starts with a token, if it is not empty. -/
private theorem head?_write {segments : List Segment}
    (hhead : ∀ next ∈ segments.head?, next.isLiteral = false) :
    ∀ c ∈ (write segments).head?, c = '{' := by
  intro c hc
  rcases segments with _ | ⟨⟨text⟩ | ⟨⟨name, chain⟩⟩, segments⟩
  · cases hc
  · cases hhead (.literal text) rfl
  · cases chain <;> simpa [Segment.text, Token.text, eq_comm] using hc

/-- Only the first character of a token opens one, so tokens cannot overlap. -/
theorem open_not_mem_tail {token : Token} (h : token.WellFormed) :
    '{' ∉ token.text.tail := by
  have hname : '{' ∉ token.name := fun hin => by simpa [isNameLetter] using h.name_letters _ hin
  intro hin
  obtain ⟨name, chain⟩ := token
  cases chain with
  | none => simp [Token.text, hname] at hin
  | some chain =>
    have hchain : '{' ∉ chain := fun hc => by
      simpa [isChainCharacter, isNameLetter] using h.chain_characters chain rfl _ hc
    simp [Token.text, hname, hchain] at hin

/-- A token that starts in a literal ends in it, for what comes next opens a token of its own. -/
private theorem token?_of_tokenFree {c : Char} {text rest : Text} (hfree : TokenFree (c :: text))
    (hrest : ∀ d ∈ rest.head?, d = '{') : token? (c :: (text ++ rest)) = none := by
  by_contra hsome
  obtain ⟨⟨token, after⟩, he⟩ := Option.ne_none_iff_exists'.mp hsome
  obtain ⟨htoken, heq⟩ := token?_eq_some_iff.mp he
  rw [← List.cons_append] at heq
  rcases List.append_eq_append_iff.mp heq with ⟨more, hmore, hafter⟩ | ⟨left, hleft, -⟩
  · cases more with
    | nil => exact hfree token htoken (by rw [hmore, List.append_nil])
    | cons d more =>
      have hd : d = '{' := hrest d (by rw [hafter]; rfl)
      apply open_not_mem_tail htoken
      rw [hmore, hd]
      simp
  · exact hfree token htoken (hleft ▸ (List.prefix_append _ _).isInfix)

private theorem parse_literal_append {text rest : Text} (hne : text ≠ []) (hfree : TokenFree text)
    (hrest : ∀ d ∈ rest.head?, d = '{')
    (hsegments : ∀ segment ∈ (parse rest).head?, segment.isLiteral = false) :
    parse (text ++ rest) = .literal text :: parse rest := by
  induction text with
  | nil => exact absurd rfl hne
  | cons c text ih =>
    rw [List.cons_append, parse_cons_of_none (token?_of_tokenFree hfree hrest)]
    cases text with
    | nil =>
      rw [List.nil_append]
      rcases hp : parse rest with _ | ⟨⟨next⟩ | ⟨token⟩, segments⟩
      · rfl
      · simp [hp, Segment.isLiteral] at hsegments
      · rfl
    | cons d text =>
      rw [ih (List.cons_ne_nil d text) (hfree.of_infix (List.suffix_cons c _).isInfix)]
      rfl

/-- Segments that split their own text are found again when that text is parsed. -/
private theorem parse_write {t : Text} {segments : List Segment} (h : Splits t segments) :
    parse t = segments := by
  induction segments generalizing t with
  | nil => rw [← h.write_eq, write_nil, parse_nil]
  | cons segment segments ih =>
    rw [← h.write_eq, write_cons]
    cases segment with
    | placeholder token =>
      rw [Segment.text, parse_text_append (h.wellFormed token List.mem_cons_self), ih h.tail]
    | literal text =>
      have hne := h.literal_ne_nil text List.mem_cons_self
      have hfree := h.tokenFree text List.mem_cons_self
      have hparse := ih h.tail
      rw [Segment.text, parse_literal_append hne hfree (head?_write h.isLiteral_head?)
        (by rw [hparse]; exact h.isLiteral_head?), hparse]

/-- Where no token starts, a character in front of a literal completes none. -/
private theorem tokenFree_cons {c : Char} {text rest : Text} (hfree : TokenFree text)
    (hnone : token? (c :: (text ++ rest)) = none) : TokenFree (c :: text) := by
  intro token htoken hin
  rcases List.infix_cons_iff.mp hin with ⟨left, hleft⟩ | hin
  · have hsome := token?_eq_some_iff.mpr ⟨htoken, (List.append_assoc token.text left rest)⟩
    rw [hleft, List.cons_append, hnone] at hsome
    cases hsome
  · exact hfree token htoken hin

private theorem splits_addLiteral {c : Char} {t : Text} {segments : List Segment}
    (hnone : token? (c :: t) = none) (h : Splits t segments) :
    Splits (c :: t) (addLiteral c segments) := by
  have hempty : TokenFree [] := by
    rintro ⟨name, _ | chain⟩ - hin <;> simp [Token.text] at hin
  -- A character that starts no token goes into the literal that follows it or is one of its own.
  rcases segments with _ | ⟨⟨text⟩ | ⟨token⟩, segments⟩
  · exact h.literal (List.cons_ne_nil c []) (tokenFree_cons hempty hnone) (by simp)
  · have hfree := h.tokenFree text List.mem_cons_self
    rw [← h.write_eq, write_cons, Segment.text] at hnone ⊢
    exact h.tail.literal (List.cons_ne_nil c text) (tokenFree_cons hfree hnone) h.isLiteral_head?
  · exact h.literal (List.cons_ne_nil c []) (tokenFree_cons hempty hnone)
      (by simp [Segment.isLiteral])

theorem splits_parse (t : Text) : Splits t (parse t) := by
  induction t using parse.induct with
  | case1 t token after ht ih =>
    obtain ⟨htoken, rfl⟩ := token?_eq_some_iff.mp ht
    rw [parse_text_append htoken]
    exact ih.token htoken
  | case2 ht =>
    rw [parse_nil]
    exact ⟨rfl, by simp, by simp, .nil, by simp⟩
  | case3 c rest ht ih =>
    rw [parse_cons_of_none ht]
    exact splits_addLiteral ht ih

/-- A template splits in exactly one way, and that is how it is parsed. -/
theorem splits_iff_eq_parse (t : Text) (segments : List Segment) :
    Splits t segments ↔ segments = parse t :=
  ⟨fun h => (parse_write h).symm, fun h => h ▸ splits_parse t⟩

example : parse "{{MM}}".toList =
    [.literal ['{'], .placeholder ⟨"MM".toList, none⟩, .literal ['}']] := by
  decide +kernel

end FilingName.Template
