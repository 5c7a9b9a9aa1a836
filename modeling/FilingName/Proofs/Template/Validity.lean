import FilingName.Proofs.Operation
import FilingName.Proofs.Template.Segments
import FilingName.Proofs.Text
import FilingName.Template.Validation

/-! Which templates are valid for a key map, and the reason that is given for the others. A brace
outside every token comes first, then names without a field, then modifiers that do not exist. -/
namespace FilingName.Template
open Text (IsLastPiece ListsOnce)

def BraceFree (t : Text) : Prop := '{' ∉ t ∧ '}' ∉ t

/-- The modifiers that there are. -/
def modifierNames : List Text :=
  ["upper".toList, "lower".toList, "title".toList, "abbrev".toList]

/-- The last modifier of a chain exists, in whatever letter case it is written. -/
def Supported (chain : Text) : Prop :=
  ∃ last, IsLastPiece ':' chain last ∧ Text.lower last ∈ modifierNames

/-- Valid templates: text without braces and tokens of known names and modifiers. -/
inductive Accepted (keys : List Text) : Text → Prop
  | nil : Accepted keys []
  | literal {piece t : Text} : BraceFree piece → Accepted keys t → Accepted keys (piece ++ t)
  | token {token : Token} {t : Text} : token.WellFormed → token.name ∈ keys →
      (∀ chain ∈ token.chain, Supported chain) → Accepted keys t → Accepted keys (token.text ++ t)

/-- A token's last modifier does not exist; where there is none, the whole chain is named. -/
def Token.Offends (token : Token) (named : Text) : Prop :=
  ∃ chain ∈ token.chain, ¬ Supported chain ∧
    ∃ last, IsLastPiece ':' chain last ∧ named = if last = [] then chain else last

def NoStrayBrace (t : Text) : Prop := ∀ literal, .literal literal ∈ parse t → BraceFree literal

/-- Why a template is not valid, with the message that says so. -/
inductive Rejected (keys : List Text) (t : Text) : Text → Prop
  | strayBrace {before after : List Segment} {literal : Text} :
      parse t = before ++ .literal literal :: after → ¬ BraceFree literal →
      (∀ earlier, .literal earlier ∈ before → BraceFree earlier) →
      Rejected keys t ("Invalid brace syntax found in '".toList ++ literal ++ "'".toList)
  | unknownPlaceholders {names : List Text} :
      NoStrayBrace t → names ≠ [] → names = (required t).filter (· ∉ keys) →
      ListsOnce (fun token name => token.name = name ∧ name ∉ keys) (tokens (parse t)) names →
      Rejected keys t ("Unknown placeholder(s): ".toList ++ Text.join ", ".toList names)
  | unknownModifiers {modifiers : List Text} :
      NoStrayBrace t → (∀ name ∈ required t, name ∈ keys) → modifiers ≠ [] →
      ListsOnce Token.Offends (tokens (parse t)) modifiers →
      Rejected keys t ("Unknown modifier(s): ".toList ++ Text.join ", ".toList modifiers)

/-- What an accepted template must have in its segments. -/
structure Permitted (keys : List Text) (segments : List Segment) : Prop where
  braceFree : ∀ literal, .literal literal ∈ segments → BraceFree literal
  known : ∀ token ∈ tokens segments, token.name ∈ keys
  supported : ∀ token ∈ tokens segments, ∀ chain ∈ token.chain, Supported chain

theorem braceFree_iff {t : Text} : BraceFree t ↔ ∀ c ∈ t, isBrace c = false := by
  simp only [BraceFree, isBrace, Bool.or_eq_false_iff, beq_eq_false_iff_ne, ne_eq]
  constructor
  · rintro ⟨hopen, hclose⟩ c hc
    exact ⟨fun he => hopen (he ▸ hc), fun he => hclose (he ▸ hc)⟩
  · intro h
    exact ⟨fun hin => (h _ hin).1 rfl, fun hin => (h _ hin).2 rfl⟩

private theorem braceFree_cons {c : Char} {t : Text} :
    BraceFree (c :: t) ↔ BraceFree [c] ∧ BraceFree t := by
  simp [braceFree_iff]

theorem token?_of_ne {c : Char} (h : c ≠ '{') (rest : Text) : token? (c :: rest) = none := by
  unfold token?
  split
  · next he => exact absurd (List.cons.inj he).1 h
  · rfl

private theorem permitted_addLiteral {keys : List Text} {c : Char} {segments : List Segment}
    (hc : BraceFree [c]) (h : Permitted keys segments) :
    Permitted keys (addLiteral c segments) where
  braceFree := by
    rcases segments with _ | ⟨⟨text⟩ | ⟨token⟩, segments⟩
    · simpa [addLiteral] using hc
    · intro literal hin
      rcases List.mem_cons.mp hin with heq | hin
      · rw [Segment.literal.inj heq]
        exact braceFree_cons.mpr ⟨hc, h.braceFree text List.mem_cons_self⟩
      · exact h.braceFree literal (List.mem_cons_of_mem _ hin)
    · intro literal hin
      rcases List.mem_cons.mp hin with heq | hin
      · rwa [Segment.literal.inj heq]
      · exact h.braceFree literal hin
  known := by simpa using h.known
  supported := by simpa using h.supported

private theorem permitted_of_accepted {keys : List Text} {t : Text} (h : Accepted keys t) :
    Permitted keys (parse t) := by
  induction h with
  | nil => exact ⟨by simp, by simp, by simp⟩
  | @literal piece t hpiece _ ih =>
    induction piece with
    | nil => exact ih
    | cons c piece ihpiece =>
      rw [braceFree_cons] at hpiece
      have hc : c ≠ '{' := fun he => hpiece.1.1 (by simp [he])
      rw [List.cons_append, parse_cons_of_none (token?_of_ne hc _)]
      exact permitted_addLiteral hpiece.1 (ihpiece hpiece.2)
  | token htoken hname hchain _ ih =>
    rw [parse_text_append htoken]
    refine ⟨by simpa using ih.braceFree, ?_, ?_⟩
    · simpa using ⟨hname, ih.known⟩
    · simpa using ⟨hchain, ih.supported⟩

private theorem accepted_write {keys : List Text} {segments : List Segment}
    (hformed : ∀ token, .placeholder token ∈ segments → token.WellFormed)
    (h : Permitted keys segments) : Accepted keys (write segments) := by
  induction segments with
  | nil => exact .nil
  | cons segment segments ih =>
    have hrest := ih (fun token hin => hformed token (List.mem_cons_of_mem _ hin))
    rw [write_cons]
    cases segment with
    | literal text =>
      refine .literal (h.braceFree text List.mem_cons_self) (hrest ⟨?_, h.known, h.supported⟩)
      exact fun literal hin => h.braceFree literal (List.mem_cons_of_mem _ hin)
    | placeholder token =>
      refine .token (hformed token List.mem_cons_self) (h.known token List.mem_cons_self)
        (h.supported token List.mem_cons_self) (hrest ⟨?_, ?_, ?_⟩)
      · exact fun literal hin => h.braceFree literal (List.mem_cons_of_mem _ hin)
      · exact fun other hin => h.known other (List.mem_cons_of_mem _ hin)
      · exact fun other hin => h.supported other (List.mem_cons_of_mem _ hin)

theorem accepted_iff {keys : List Text} {t : Text} :
    Accepted keys t ↔ Permitted keys (parse t) := by
  constructor
  · exact permitted_of_accepted
  · intro h
    have hsplits := splits_parse t
    rw [← hsplits.write_eq]
    exact accepted_write hsplits.wellFormed h

theorem ofName?_isSome {written : Text} :
    (Modifier.ofName? written).isSome ↔ Text.lower written ∈ modifierNames := by
  have hnames : modifierNames = Modifier.all.map Modifier.name := rfl
  rw [hnames, List.mem_map, Modifier.ofName?, List.find?_isSome]
  refine exists_congr fun modifier => and_congr_right fun _ => ?_
  exact decide_eq_true_iff

theorem supported_iff {chain : Text} :
    Supported chain ↔ (Modifier.ofName? (lastModifier chain)).isSome := by
  rw [ofName?_isSome]
  constructor
  · rintro ⟨last, hlast, hin⟩
    rwa [lastModifier, Text.isLastPiece_iff.mp hlast]
  · exact fun hin => ⟨lastModifier chain, Text.isLastPiece_iff.mpr rfl, hin⟩

private theorem badModifier?_eq_some_iff {token : Token} {named : Text} :
    badModifier? token = some named ↔ token.Offends named := by
  obtain ⟨name, chain⟩ := token
  cases chain with
  | none => simp [badModifier?, Token.Offends]
  | some chain =>
    have hlast (last : Text) : IsLastPiece ':' chain last ↔ lastModifier chain = last :=
      Text.isLastPiece_iff
    simp only [badModifier?, Option.bind_some, Token.Offends, Option.mem_def, Option.some.injEq,
      exists_eq_left', supported_iff, hlast, List.isEmpty_iff]
    cases (Modifier.ofName? (lastModifier chain)).isSome with
    | true => simp
    | false => simpa using eq_comm

private theorem holds_mapping (entries : List (Text × Value)) (name : Text) :
    (Value.mapping entries).holds name = .ok (decide (name ∈ entries.map Prod.fst)) := by
  simp only [Value.holds, Except.ok.injEq]
  rw [Bool.eq_iff_iff]
  simp

private theorem unknownNames_mapping (entries : List (Text × Value)) (row : List Token) :
    unknownNames (.mapping entries) row =
      .ok ((row.map Token.name).filter (· ∉ entries.map Prod.fst)) := by
  induction row with
  | nil => rfl
  | cons token row ih =>
    rw [unknownNames, holds_mapping, ih]
    by_cases h : token.name ∈ entries.map Prod.fst <;>
      simp [h, bind, Except.bind, pure, Except.pure]

private theorem any_isBrace {t : Text} : t.any isBrace = true ↔ ¬ BraceFree t := by
  simp [braceFree_iff]

private theorem strayBrace?_eq_none {segments : List Segment} :
    strayBrace? segments = none ↔ ∀ literal, .literal literal ∈ segments → BraceFree literal := by
  simp only [strayBrace?, List.findSome?_eq_none_iff]
  constructor
  · intro h literal hin
    by_contra hbrace
    simpa [any_isBrace.mpr hbrace] using h _ hin
  · intro h segment hin
    cases segment with
    | placeholder token => rfl
    | literal text =>
      have hnone : ¬ text.any isBrace = true := fun hany => any_isBrace.mp hany (h text hin)
      exact if_neg hnone

private theorem strayBrace?_eq_some {segments : List Segment} {literal : Text}
    (h : strayBrace? segments = some literal) :
    ∃ before after, segments = before ++ .literal literal :: after ∧ ¬ BraceFree literal ∧
      ∀ earlier, .literal earlier ∈ before → BraceFree earlier := by
  obtain ⟨before, segment, after, hsplit, hfound, hbefore⟩ := List.findSome?_eq_some_iff.mp h
  cases segment with
  | placeholder token => cases hfound
  | literal text =>
    obtain ⟨hbrace, rfl⟩ : text.any isBrace = true ∧ text = literal := by simpa using hfound
    exact ⟨before, after, hsplit, any_isBrace.mp hbrace,
      strayBrace?_eq_none.mp (List.findSome?_eq_none_iff.mpr hbefore)⟩

/-- Names without a field, each once, are what is left of the required names. -/
private theorem distinct_unknown (keys : List Text) (t : Text) :
    Text.distinct (((tokens (parse t)).map Token.name).filter (· ∉ keys)) =
      (required t).filter (· ∉ keys) :=
  Text.distinct_filter _ _

private theorem listsOnce_unknown (keys : List Text) (t : Text) :
    ListsOnce (fun token name => token.name = name ∧ name ∉ keys) (tokens (parse t))
      ((required t).filter (· ∉ keys)) := by
  have hrow (row : List Token) : (row.map Token.name).filter (· ∉ keys) =
      row.filterMap fun token => if token.name ∈ keys then none else some token.name := by
    induction row with
    | nil => rfl
    | cons token row ih => by_cases h : token.name ∈ keys <;> simpa [h] using ih
  rw [← distinct_unknown, hrow]
  apply Text.listsOnce_distinct
  intro token name
  by_cases h : token.name ∈ keys
  · simp only [h, if_true, reduceCtorEq, false_iff, not_and, not_not]
    rintro rfl
    exact h
  · simp only [h, if_false, Option.some.injEq, iff_self_and]
    rintro rfl
    exact h

theorem mem_required {name t : Text} :
    name ∈ required t ↔ ∃ token ∈ tokens (parse t), token.name = name := by
  simp [required, Text.mem_distinct]

/-- Without a stray brace, names are looked at before modifiers. -/
theorem problem?_of_clean {entries : List (Text × Value)} {t : Text}
    (h : strayBrace? (parse t) = none) :
    problem? (.mapping entries) t = .ok
      (if (required t).filter (· ∉ entries.map Prod.fst) ≠ [] then
        some (.unknownPlaceholders ((required t).filter (· ∉ entries.map Prod.fst)))
      else if (tokens (parse t)).filterMap badModifier? ≠ [] then
        some (.unknownModifiers (Text.distinct ((tokens (parse t)).filterMap badModifier?)))
      else none) := by
  rw [problem?, h, ← distinct_unknown]
  simp only [unknownNames_mapping, ne_eq, Text.distinct_eq_nil, ite_not]
  generalize ((tokens (parse t)).map Token.name).filter (· ∉ entries.map Prod.fst) = names
  generalize (tokens (parse t)).filterMap badModifier? = modifiers
  cases names with
  | cons name names => rfl
  | nil => cases modifiers <;> rfl

theorem exists_token_of_unknown {keys : List Text} {t : Text}
    (h : (required t).filter (· ∉ keys) ≠ []) :
    ∃ token ∈ tokens (parse t), token.name ∉ keys := by
  obtain ⟨name, hname⟩ := List.exists_mem_of_ne_nil _ h
  obtain ⟨hin, hunknown⟩ := List.mem_filter.mp hname
  obtain ⟨token, htoken, rfl⟩ := mem_required.mp hin
  exact ⟨token, htoken, by simpa using hunknown⟩

private theorem rejected_of_names {keys : List Text} {t : Text} (hclean : NoStrayBrace t)
    (h : (required t).filter (· ∉ keys) ≠ []) :
    ¬ Permitted keys (parse t) ∧ Rejected keys t
      (Problem.unknownPlaceholders ((required t).filter (· ∉ keys))).message := by
  refine ⟨fun hpermitted => ?_, .unknownPlaceholders hclean h rfl (listsOnce_unknown keys t)⟩
  obtain ⟨token, hin, hunknown⟩ := exists_token_of_unknown h
  exact hunknown (hpermitted.known token hin)

private theorem rejected_of_modifiers {keys : List Text} {t : Text} (hclean : NoStrayBrace t)
    (hknown : ∀ name ∈ required t, name ∈ keys)
    (h : (tokens (parse t)).filterMap badModifier? ≠ []) :
    ¬ Permitted keys (parse t) ∧ Rejected keys t (Problem.unknownModifiers
      (Text.distinct ((tokens (parse t)).filterMap badModifier?))).message := by
  refine ⟨fun hpermitted => ?_, .unknownModifiers hclean hknown ?_ ?_⟩
  · obtain ⟨named, hnamed⟩ := List.exists_mem_of_ne_nil _ h
    obtain ⟨token, hin, hbad⟩ := List.mem_filterMap.mp hnamed
    obtain ⟨chain, hchain, hunsupported, -⟩ := badModifier?_eq_some_iff.mp hbad
    exact hunsupported (hpermitted.supported token hin chain hchain)
  · rwa [ne_eq, Text.distinct_eq_nil]
  · exact Text.listsOnce_distinct (fun _ _ => badModifier?_eq_some_iff) _

private theorem permitted_of_clean {keys : List Text} {t : Text} (hclean : NoStrayBrace t)
    (hknown : ∀ name ∈ required t, name ∈ keys)
    (h : (tokens (parse t)).filterMap badModifier? = []) : Permitted keys (parse t) := by
  refine ⟨hclean, fun token hin => hknown _ (mem_required.mpr ⟨token, hin, rfl⟩), ?_⟩
  intro token hin chain hchain
  have hnone := List.filterMap_eq_nil_iff.mp h token hin
  by_contra hbad
  obtain ⟨last, hlast⟩ := Text.exists_isLastPiece ':' chain
  have hoffends : token.Offends (if last = [] then chain else last) :=
    ⟨chain, hchain, hbad, last, hlast, rfl⟩
  rw [badModifier?_eq_some_iff.mpr hoffends] at hnone
  cases hnone

/-- Validation of a text always comes to a verdict: none for the accepted ones, a reason for the
others. -/
theorem verdict_of_problem? (entries : List (Text × Value)) (t : Text) :
    ∃ verdict, problem? (.mapping entries) t = .ok verdict ∧
      match verdict with
      | none => Accepted (entries.map Prod.fst) t
      | some problem => ¬ Accepted (entries.map Prod.fst) t ∧
          Rejected (entries.map Prod.fst) t problem.message := by
  simp only [accepted_iff]
  cases hstray : strayBrace? (parse t) with
  | some literal =>
    obtain ⟨before, after, hsplit, hbrace, hbefore⟩ := strayBrace?_eq_some hstray
    refine ⟨some (.strayBrace literal), ?_, ?_, .strayBrace hsplit hbrace hbefore⟩
    · rw [problem?, hstray]
      rfl
    · intro h
      exact hbrace (h.braceFree literal (by simp [hsplit]))
  | none =>
    have hclean : NoStrayBrace t := strayBrace?_eq_none.mp hstray
    refine ⟨_, problem?_of_clean hstray, ?_⟩
    split_ifs with hnames hmodifiers
    · exact rejected_of_names hclean hnames
    · have hknown : ∀ name ∈ required t, name ∈ entries.map Prod.fst := by
        simpa using hnames
      exact rejected_of_modifiers hclean hknown hmodifiers
    · have hknown : ∀ name ∈ required t, name ∈ entries.map Prod.fst := by
        simpa using hnames
      exact permitted_of_clean hclean hknown (not_not.mp hmodifiers)

/-- The empty text stands for a default, and it is as valid as any text without braces. -/
theorem problem?_text (entries : List (Text × Value)) (t : Text) :
    OnValues.problem? (.mapping entries) (.text t) = problem? (.mapping entries) t := by
  cases t with
  | nil =>
    have hclean : strayBrace? (parse []) = none := by simp [strayBrace?]
    simp [OnValues.problem?, problem?_of_clean hclean, required, Text.distinct]
  | cons c t => rfl

/-- Validation accepts exactly the grammar and gives the reason of every rejection; a valid template
is handed back unchanged where one is required, and any other is refused for the same reason. -/
theorem validation_decides_grammar (entries : List (Text × Value)) (missing : Value) (t : Text) :
    ∃ verdict,
      Operation.run ⟨.mapping entries, missing⟩ (.validate (.text t)) = pure (.validity verdict) ∧
      match verdict with
      | none => Accepted (entries.map Prod.fst) t ∧
          Operation.run ⟨.mapping entries, missing⟩ (.requireValid (.text t)) =
            pure (.value (.text t))
      | some problem => ¬ Accepted (entries.map Prod.fst) t ∧
          Rejected (entries.map Prod.fst) t problem.message ∧
          Operation.run ⟨.mapping entries, missing⟩ (.requireValid (.text t)) =
            ⟨[], .error (.template problem)⟩ ∧
          (Failure.template problem).message = problem.message := by
  obtain ⟨verdict, hverdict, hreason⟩ := verdict_of_problem? entries t
  refine ⟨verdict, ?_, ?_⟩
  · simp only [Operation.run, problem?_text, hverdict]
    rfl
  · cases verdict with
    | none =>
      refine ⟨hreason, ?_⟩
      simp only [Operation.run, problem?_text, hverdict]
      rfl
    | some problem =>
      refine ⟨hreason.1, hreason.2, ?_, rfl⟩
      simp only [Operation.run, problem?_text, hverdict]
      rfl

end FilingName.Template
