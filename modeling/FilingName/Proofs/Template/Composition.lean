import FilingName.Proofs.Template.Prediction

/-! Templates that are put together. Where no token starts in the one and ends in the other they are
split and processed one after the other, for the engine goes through a template once: what it puts
in for a token is never looked at again. -/
namespace FilingName.Template

/-- No token starts in the first text and ends in the second. Tokens do not overlap, so a token is
read from the whole wherever the text of one stands in it. -/
def NoTokenAcross (t u : Text) : Prop :=
  ∀ token : Token, token.WellFormed → ∀ start finish : Text, token.text = start ++ finish →
    start ≠ [] → finish ≠ [] → start <:+ t → ¬ finish <+: u

variable {s t u before after : Text} {token : Token}

private theorem NoTokenAcross.of_suffix (h : NoTokenAcross t u) (hs : s <:+ t) :
    NoTokenAcross s u :=
  fun token htoken start finish he hstart hfinish hsuffix =>
    h token htoken start finish he hstart hfinish (hsuffix.trans hs)

private theorem Token.text_eq_cons (token : Token) : token.text = '{' :: token.text.tail := by
  obtain ⟨name, _ | chain⟩ := token <;> rfl

/-- Behind its first character a token has no start of another. -/
private theorem open_not_mem_of_text_eq (h : token.WellFormed) {start finish : Text}
    (he : token.text = start ++ finish) (hstart : start ≠ []) : '{' ∉ finish := by
  intro hin
  apply open_not_mem_tail h
  rw [he, List.tail_append_of_ne_nil hstart]
  exact List.mem_append_right _ hin

/-- A token that starts with another one is the other one. -/
private theorem eq_nil_of_text_append {other : Token} (h : token.WellFormed)
    (hother : other.WellFormed) {finish : Text} (he : other.text = token.text ++ finish) :
    finish = [] := by
  have hread := token?_eq_some_iff.mpr ⟨h, he⟩
  have hself := token?_eq_some_iff.mpr ⟨hother, (List.append_nil other.text).symm⟩
  exact (Prod.mk.inj (Option.some.inj (hread.symm.trans hself))).2

/-- No token ends within another. -/
theorem noTokenAcross_token (token : Token) (before : Text) :
    NoTokenAcross before token.text := by
  intro other hother start finish he hstart hfinish _ hprefix
  apply open_not_mem_of_text_eq hother he hstart
  obtain ⟨c, rest, rfl⟩ := List.exists_cons_of_ne_nil hfinish
  rw [token.text_eq_cons, List.cons_prefix_cons] at hprefix
  exact hprefix.1 ▸ List.mem_cons_self

/-- No token starts within another. -/
theorem noTokenAcross_behind_token (h : token.WellFormed) (before after : Text) :
    NoTokenAcross (before ++ token.text) after := by
  intro other hother start finish he hstart hfinish hsuffix _
  have hopen (text : Text) : '{' ∈ text ++ token.text := by
    rw [token.text_eq_cons]
    simp
  rcases List.suffix_or_suffix_of_suffix hsuffix (List.suffix_append before token.text) with
    ⟨more, hwithin⟩ | ⟨more, rfl⟩
  · by_cases hmore : more = []
    · subst hmore
      exact hfinish (eq_nil_of_text_append h hother (hwithin ▸ he))
    · apply open_not_mem_of_text_eq h hwithin.symm hmore
      obtain ⟨c, rest, rfl⟩ := List.exists_cons_of_ne_nil hstart
      rw [other.text_eq_cons, List.cons_append, List.cons.injEq] at he
      exact he.1 ▸ List.mem_cons_self
  · by_cases hmore : more = []
    · subst hmore
      exact hfinish (eq_nil_of_text_append h hother he)
    · rw [List.append_assoc] at he
      apply open_not_mem_of_text_eq hother he hmore
      rw [token.text_eq_cons]
      simp

/-- A token that starts in the first of two texts and ends behind them goes across their seam. -/
private theorem NoTokenAcross.append (hs : NoTokenAcross s (t ++ u)) (ht : NoTokenAcross t u) :
    NoTokenAcross (s ++ t) u := by
  rintro token htoken start finish he hstart hfinish ⟨before, hbefore⟩ hprefix
  rcases List.append_eq_append_iff.mp hbefore with ⟨more, hmore, rfl⟩ | ⟨more, -, hmore⟩
  · by_cases hnil : more = []
    · subst hnil
      exact ht token htoken t finish he hstart hfinish List.suffix_rfl hprefix
    · rw [List.append_assoc] at he
      have hrest : t ++ finish ≠ [] := List.append_ne_nil_of_right_ne_nil t hfinish
      exact hs token htoken more (t ++ finish) he hnil hrest ⟨before, hmore.symm⟩
        ((List.prefix_append_right_inj t).mpr hprefix)
  · exact ht token htoken start finish he hstart hfinish ⟨more, hmore.symm⟩ hprefix

private theorem noTokenAcross_of_braceFree (h : BraceFree t) (after : Text) :
    NoTokenAcross t after := by
  intro token htoken start finish he hstart _ hsuffix _
  obtain ⟨c, rest, rfl⟩ := List.exists_cons_of_ne_nil hstart
  rw [token.text_eq_cons, List.cons_append, List.cons.injEq] at he
  exact h.1 (hsuffix.subset (he.1 ▸ List.mem_cons_self))

/-- No token goes across a character that none is written with. -/
theorem noTokenAcross_of_not_mem {c : Char} (h : ∀ token : Token, token.WellFormed → c ∉ token.text)
    (before after : Text) : NoTokenAcross before (c :: after) := by
  intro token htoken start finish he _ hfinish _ hprefix
  obtain ⟨d, rest, rfl⟩ := List.exists_cons_of_ne_nil hfinish
  rw [List.cons_prefix_cons] at hprefix
  apply h token htoken
  rw [he, hprefix.1]
  exact List.mem_append_right start List.mem_cons_self

/-- A valid template has every brace in one of its own tokens. -/
theorem Accepted.noTokenAcross {keys : List Text} (h : Accepted keys t) (after : Text) :
    NoTokenAcross t after := by
  induction h with
  | nil => exact noTokenAcross_of_braceFree (by simp [BraceFree]) after
  | literal hpiece _ ih => exact .append (noTokenAcross_of_braceFree hpiece _) ih
  | token htoken _ _ _ ih => exact .append (noTokenAcross_behind_token htoken [] _) ih

/-- Segments one after the other, with the literals at the seam in one piece. -/
def adjoin : List Segment → List Segment → List Segment
  | [], segments => segments
  | [.literal text], .literal next :: segments => .literal (text ++ next) :: segments
  | segment :: rest, segments => segment :: adjoin rest segments

@[simp] private theorem adjoin_placeholder (token : Token) (rest segments : List Segment) :
    adjoin (.placeholder token :: rest) segments =
      .placeholder token :: adjoin rest segments := by
  simp [adjoin]

private theorem adjoin_addLiteral (c : Char) (rest segments : List Segment) :
    adjoin (addLiteral c rest) segments = addLiteral c (adjoin rest segments) := by
  rcases rest with _ | ⟨⟨text⟩ | ⟨token⟩, _ | ⟨next, rest⟩⟩ <;>
    rcases segments with _ | ⟨⟨text'⟩ | ⟨token'⟩, segments⟩ <;> rfl

theorem tokens_adjoin (first second : List Segment) :
    tokens (adjoin first second) = tokens first ++ tokens second := by
  fun_induction adjoin first second with
  | case1 segments => rfl
  | case2 text next segments => simp
  | case3 segment rest segments _ ih => cases segment <;> simp [ih]

/-- Where no token starts, one that would need the text that follows lies across the seam. -/
private theorem token?_append_of_none {c : Char} {rest : Text} (h : NoTokenAcross (c :: rest) u)
    (hnone : token? (c :: rest) = none) : token? (c :: (rest ++ u)) = none := by
  by_contra hsome
  obtain ⟨⟨token, after⟩, hread⟩ := Option.ne_none_iff_exists'.mp hsome
  obtain ⟨htoken, he⟩ := token?_eq_some_iff.mp hread
  have hwithin (more : Text) : c :: rest ≠ token.text ++ more := by
    intro hmore
    rw [token?_eq_some_iff.mpr ⟨htoken, hmore⟩] at hnone
    cases hnone
  rw [← List.cons_append] at he
  rcases List.append_eq_append_iff.mp he with ⟨finish, hfinish, hu⟩ | ⟨more, hmore, -⟩
  · by_cases hempty : finish = []
    · exact hwithin [] (by rw [hfinish, hempty, List.append_nil, List.append_nil])
    · exact h token htoken (c :: rest) finish hfinish (List.cons_ne_nil c rest) hempty
        List.suffix_rfl ⟨after, hu.symm⟩
  · exact hwithin more hmore

/-- Texts without a token across the seam are split one after the other. -/
theorem parse_append (h : NoTokenAcross t u) : parse (t ++ u) = adjoin (parse t) (parse u) := by
  induction t using parse.induct with
  | case1 t token after ht ih =>
    obtain ⟨htoken, rfl⟩ := token?_eq_some_iff.mp ht
    rw [List.append_assoc, parse_text_append htoken, parse_text_append htoken,
      adjoin_placeholder, ih (h.of_suffix (List.suffix_append _ _))]
  | case2 ht => rw [List.nil_append, parse_nil, adjoin]
  | case3 c rest ht ih =>
    rw [List.cons_append, parse_cons_of_none (token?_append_of_none h ht), parse_cons_of_none ht,
      adjoin_addLiteral, ih (h.of_suffix (List.suffix_cons c rest))]

example : parse ("a\x7bG".toList ++ "b\x7d{GIVEN}".toList) =
    adjoin (parse "a\x7bG".toList) (parse "b\x7d{GIVEN}".toList) := by
  decide +kernel

/-- The text that stands in the place of the token, where it is one. -/
def Resolution.written (resolution : Resolution) : Text :=
  match resolution.final with
  | .text t => t
  | _ => []

namespace Engine
variable {engine : Engine} {record : Value} {handler : Text}

/-- The text that one segment contributes. -/
def writePart (engine : Engine) (record : Value) : Segment → Reported Text
  | .literal text => pure text
  | .placeholder token => Resolution.written <$> engine.resolve record token

theorem final_eq_of_resolve (hmissing : engine.missing = .text handler) {resolution : Resolution}
    (h : (engine.resolve record token).outcome = .ok resolution) :
    resolution.final = .text resolution.written := by
  cases resolves_of_resolve h with
  | unknown _ => rfl
  | missing _ _ _ _ => rw [Resolution.written, Resolution.final, hmissing]
  | found _ _ _ _ _ _ => rfl

/-- With a text for missing fields every part is a text. -/
private theorem part_eq (hmissing : engine.missing = .text handler) (segment : Segment) :
    engine.part record segment = Value.text <$> engine.writePart record segment := by
  cases segment with
  | literal text => rfl
  | placeholder token =>
    rw [part_placeholder, writePart, Functor.map_map]
    rw [Logged.ext_iff, Logged.map_log, Logged.map_log, Logged.map_outcome, Logged.map_outcome]
    refine ⟨rfl, ?_⟩
    cases h : (engine.resolve record token).outcome with
    | error fault => rfl
    | ok resolution => exact congrArg Except.ok (final_eq_of_resolve hmissing h)

theorem process_eq_flatten (hmissing : engine.missing = .text handler) (t : Text) :
    engine.process t record = List.flatten <$> (parse t).mapM (engine.writePart record) := by
  rw [process, Logged.mapM_congr fun segment _ => part_eq hmissing segment, Logged.mapM_map_comm,
    bind_map_left]
  simp only [joinFrom_text]
  rfl

/-- Literals come to the same in one piece or in two. -/
private theorem flatten_adjoin (first second : List Segment) :
    List.flatten <$> (adjoin first second).mapM (engine.writePart record) = (do
      let texts ← first.mapM (engine.writePart record)
      let more ← second.mapM (engine.writePart record)
      return texts.flatten ++ more.flatten) := by
  fun_induction adjoin first second with
  | case1 segments => simp
  | case2 text next segments => simp [writePart]
  | case3 segment rest segments _ ih =>
    simp only [List.mapM_cons, map_bind, map_pure, List.flatten_cons, bind_assoc, pure_bind,
      List.append_assoc]
    congr 1
    funext first
    simpa using congrArg (Functor.map (first ++ ·)) ih

/-- Texts without a token across the seam are processed one after the other. -/
theorem process_append (hmissing : engine.missing = .text handler) (h : NoTokenAcross t u) :
    engine.process (t ++ u) record = (do
      let first ← engine.process t record
      let second ← engine.process u record
      return first ++ second) := by
  simp only [process_eq_flatten hmissing, parse_append h, flatten_adjoin, bind_map_left]

private theorem process_token (hmissing : engine.missing = .text handler) (h : token.WellFormed) :
    engine.process token.text record = Resolution.written <$> engine.resolve record token := by
  simp [process_eq_flatten hmissing, parse_text h, writePart]

end Engine

section
variable {entries fields : List (Text × Value)}

/-- On a record of short texts every token comes to a text, unless it leads nowhere. -/
theorem resolve_of_shortTexts (handler : Text) (hrecord : ShortTexts fields) (token : Token) :
    (∃ log resolution, Engine.resolve ⟨.mapping entries, .text handler⟩ (.mapping fields) token =
        ⟨log, .ok resolution⟩) ∨
      ∃ fault, LeadsNowhere entries token fault ∧
        Engine.resolve ⟨.mapping entries, .text handler⟩ (.mapping fields) token =
          ⟨[], .error fault⟩ := by
  by_cases hname : token.name ∈ entries.map Prod.fst
  · obtain ⟨field, hin, hfield⟩ := Value.lookUp_of_mem hname
    by_cases hnull : field = .null
    · subst hnull
      exact .inl ⟨_, _, Engine.resolve_unknown hfield⟩
    · cases hvalue : (Value.mapping fields).lookUp field with
      | error fault =>
        exact .inr ⟨fault, ⟨field, hin, Value.kind_of_lookUp_error hvalue⟩,
          Engine.resolve_error hfield hnull hvalue⟩
      | ok value =>
        cases hmissing : value.isMissing with
        | true => exact .inl ⟨_, _, Engine.resolve_missing hfield hnull hvalue hmissing⟩
        | false =>
          obtain ⟨_, _, _, -, -, -, hresolve⟩ :=
            resolve_present hrecord hfield hnull hvalue hmissing
          exact .inl ⟨_, _, hresolve⟩
  · exact .inl ⟨_, _, Engine.resolve_unknown (Value.lookUp_of_not_mem hname)⟩

/-- What a token comes to alone is what it is resolved to. -/
private theorem process_token_of_shortTexts (handler : Text) (hrecord : ShortTexts fields)
    (htoken : token.WellFormed) :
    (∃ log resolution out,
        Resolves ⟨.mapping entries, .text handler⟩ (.mapping fields) token resolution ∧
        resolution.final = .text out ∧
        Engine.process ⟨.mapping entries, .text handler⟩ token.text (.mapping fields) =
          ⟨log, .ok out⟩) ∨
      ∃ fault, LeadsNowhere entries token fault ∧
        Engine.process ⟨.mapping entries, .text handler⟩ token.text (.mapping fields) =
          ⟨[], .error fault⟩ := by
  rw [Engine.process_token rfl htoken]
  rcases resolve_of_shortTexts handler hrecord token with
    ⟨log, resolution, hresolve⟩ | ⟨fault, hnowhere, hresolve⟩
  · have hresolved := congrArg Logged.outcome hresolve
    refine .inl ⟨log, resolution, resolution.written, Engine.resolves_of_resolve hresolved,
      Engine.final_eq_of_resolve rfl hresolved, ?_⟩
    rw [hresolve, Logged.ext_iff, Logged.map_log, Logged.map_outcome]
    exact ⟨rfl, rfl⟩
  · refine .inr ⟨fault, hnowhere, ?_⟩
    rw [hresolve, Logged.ext_iff, Logged.map_log, Logged.map_outcome]
    exact ⟨rfl, rfl⟩

private theorem process_of_shortTexts (handler : Text) (hrecord : ShortTexts fields) (t : Text) :
    (∃ log out, Engine.process ⟨.mapping entries, .text handler⟩ t (.mapping fields) =
        ⟨log, .ok out⟩) ∨
      ∃ token ∈ tokens (parse t), ∃ fault, LeadsNowhere entries token fault ∧
        (Engine.process ⟨.mapping entries, .text handler⟩ t (.mapping fields)).outcome =
          .error fault := by
  have houtcomes : ∀ token ∈ tokens (parse t),
      (∃ resolution final, (Engine.resolve ⟨.mapping entries, .text handler⟩ (.mapping fields)
          token).outcome = .ok resolution ∧ resolution.final = .text final ∧ True) ∨
      ∃ fault, LeadsNowhere entries token fault ∧ (Engine.resolve
        ⟨.mapping entries, .text handler⟩ (.mapping fields) token).outcome = .error fault := by
    intro token _
    rcases resolve_of_shortTexts handler hrecord token with
      ⟨log, resolution, hresolve⟩ | ⟨fault, hnowhere, hresolve⟩
    · have hresolved := congrArg Logged.outcome hresolve
      exact .inl ⟨resolution, _, hresolved, Engine.final_eq_of_resolve rfl hresolved, trivial⟩
    · exact .inr ⟨fault, hnowhere, congrArg Logged.outcome hresolve⟩
  rcases Engine.written_or_fault houtcomes with ⟨final, -, hprocess⟩ | hfault
  · exact .inl ⟨_, _, Logged.ext rfl hprocess⟩
  · exact .inr hfault

end

/-- Work on two texts and on the one that they make. What is written and what is reported for the
second follows what there is for the first, and the first fault is the fault of the whole. -/
inductive Consecutive : Operation.Work Answer → Operation.Work Answer → Operation.Work Answer → Prop
  | written {log more : List Diagnostic} {out rest : Text} :
      Consecutive ⟨log, .ok (.value (.text out))⟩ ⟨more, .ok (.value (.text rest))⟩
        ⟨log ++ more, .ok (.value (.text (out ++ rest)))⟩
  | firstFault {log : List Diagnostic} {fault : Failure} {second : Operation.Work Answer} :
      Consecutive ⟨log, .error fault⟩ second ⟨log, .error fault⟩
  | secondFault {log more : List Diagnostic} {out : Text} {fault : Failure} :
      Consecutive ⟨log, .ok (.value (.text out))⟩ ⟨more, .error fault⟩ ⟨log ++ more, .error fault⟩

private theorem Consecutive.eq_of_written {log more : List Diagnostic} {out rest : Text}
    {whole : Operation.Work Answer}
    (h : Consecutive ⟨log, .ok (.value (.text out))⟩ ⟨more, .ok (.value (.text rest))⟩ whole) :
    whole = ⟨log ++ more, .ok (.value (.text (out ++ rest)))⟩ := by
  cases h
  rfl

private theorem consecutive_bind (first second : Reported Text) :
    Consecutive ((fun out => Answer.value (.text out)) <$> Operation.ofReported first)
      ((fun out => Answer.value (.text out)) <$> Operation.ofReported second)
      ((fun out => Answer.value (.text out)) <$> Operation.ofReported (do
        let out ← first
        let rest ← second
        return out ++ rest)) := by
  rw [Operation.map_ofReported, Operation.map_ofReported, Operation.map_ofReported]
  obtain ⟨log, fault | out⟩ := first
  · exact .firstFault
  · obtain ⟨more, fault | rest⟩ := second
    · exact .secondFault
    · rw [Logged.bind_of_ok rfl, Logged.bind_of_ok rfl, Logged.pure_log, List.append_nil]
      exact .written

/-- The engine goes through a template once. A template is processed in the parts of any split that
runs through no token, and in the place of a token there is what it is resolved to, whatever stands
before it or behind it. -/
theorem templates_processed_in_one_pass (entries fields : List (Text × Value)) (handler : Text)
    (hrecord : ShortTexts fields) :
    let engine : Engine := ⟨.mapping entries, .text handler⟩
    let record := Value.mapping fields
    let process (t : Text) := Operation.run engine (.process (.text t) record)
    (∀ t, (∃ log out, process t = ⟨log, .ok (.value (.text out))⟩) ∨
        ∃ token ∈ tokens (parse t), ∃ fault, LeadsNowhere entries token fault ∧
          (process t).outcome = .error (.value fault)) ∧
      (∀ t u, NoTokenAcross t u → Consecutive (process t) (process u) (process (t ++ u))) ∧
      ∀ token : Token, token.WellFormed →
        ((∃ log resolution out, Resolves engine record token resolution ∧
            resolution.final = .text out ∧
            process token.text = ⟨log, .ok (.value (.text out))⟩) ∨
          ∃ fault, LeadsNowhere entries token fault ∧
            process token.text = ⟨[], .error (.value fault)⟩) ∧
        ∀ before after,
          Consecutive (process before) (process token.text) (process (before ++ token.text)) ∧
            Consecutive (process (before ++ token.text)) (process after)
              (process (before ++ token.text ++ after)) := by
  intro engine record process
  have hmissing : engine.missing = .text handler := rfl
  have happend (t u : Text) (h : NoTokenAcross t u) :
      Consecutive (process t) (process u) (process (t ++ u)) := by
    simp only [process, Operation.run_process, OnValues.templateText,
      Engine.process_append hmissing h]
    exact consecutive_bind _ _
  refine ⟨fun t => ?_, happend, fun token htoken => ⟨?_, fun before after => ⟨?_, ?_⟩⟩⟩
  · simp only [process, Operation.run_process, OnValues.templateText]
    rcases process_of_shortTexts handler hrecord t with
      ⟨log, out, hprocess⟩ | ⟨token, hin, fault, hnowhere, hprocess⟩
    · rw [hprocess, Operation.map_ofReported]
      exact .inl ⟨log, out, rfl⟩
    · rw [Operation.map_ofReported, hprocess]
      exact .inr ⟨token, hin, fault, hnowhere, rfl⟩
  · simp only [process, Operation.run_process, OnValues.templateText]
    rcases process_token_of_shortTexts handler hrecord htoken with
      ⟨log, resolution, out, hresolves, hfinal, hprocess⟩ | ⟨fault, hnowhere, hprocess⟩
    · rw [hprocess, Operation.map_ofReported]
      exact .inl ⟨log, resolution, out, hresolves, hfinal, rfl⟩
    · rw [hprocess, Operation.map_ofReported]
      exact .inr ⟨fault, hnowhere, rfl⟩
  · exact happend _ _ (noTokenAcross_token token before)
  · exact happend _ _ (noTokenAcross_behind_token htoken before after)

/-- A given name and the brace behind its token look like a token together, and are none. -/
theorem given_name_opens_no_token :
    Operation.run ⟨.mapping [("GIVEN".toList, .text "given".toList)], .text []⟩
        (.process (.text "{GIVEN}\x7d".toList)
          (.mapping [("given".toList, .text "\x7bAGE".toList)])) =
      ⟨[], .ok (.value (.text "{AGE}".toList))⟩ := by
  have hrecord : ShortTexts [("given".toList, .text "\x7bAGE".toList)] := by
    rintro name value hin
    obtain ⟨-, rfl⟩ := Prod.mk.inj (List.mem_singleton.mp hin)
    exact .inr ⟨_, rfl, by decide⟩
  have hgiven : Token.WellFormed ⟨"GIVEN".toList, none⟩ :=
    ⟨by decide, List.all_eq_true.mp (by decide), by simp, by simp⟩
  have htoken : Operation.run ⟨.mapping [("GIVEN".toList, .text "given".toList)], .text []⟩
      (.process (.text (Token.text ⟨"GIVEN".toList, none⟩))
        (.mapping [("given".toList, .text "\x7bAGE".toList)])) =
      ⟨[], .ok (.value (.text "\x7bAGE".toList))⟩ := by
    rw [Operation.run_process, OnValues.templateText, Engine.process_token rfl hgiven]
    rfl
  have hbrace : Operation.run ⟨.mapping [("GIVEN".toList, .text "given".toList)], .text []⟩
      (.process (.text "\x7d".toList) (.mapping [("given".toList, .text "\x7bAGE".toList)])) =
      ⟨[], .ok (.value (.text "\x7d".toList))⟩ := by
    have hparse : parse "\x7d".toList = [.literal "\x7d".toList] := by decide +kernel
    rw [Operation.run_process, OnValues.templateText, Engine.process_eq_flatten rfl, hparse]
    rfl
  obtain ⟨-, -, htokens⟩ :=
    templates_processed_in_one_pass [("GIVEN".toList, .text "given".toList)] _ [] hrecord
  obtain ⟨-, hbehind⟩ := (htokens _ hgiven).2 [] "\x7d".toList
  simp only [List.nil_append, htoken, hbrace] at hbehind
  exact hbehind.eq_of_written

end FilingName.Template
