import FilingName.Proofs.Field.Missing
import FilingName.Proofs.Field.Render
import FilingName.Proofs.Template.Composition
import FilingName.Proofs.Template.Dependence
import FilingName.Proofs.Template.Outcome

/-! Fields put together. One key map serves for a record that holds a date, a name and a place. No
name and no key comes twice in it, so that a token is filled in as by its own field, and valid
templates of the fields can be written one after the other. -/
namespace FilingName.Field
open Template

/-- What the texts supply for all fields together. -/
def readAll (texts : Field → Text) : List (String × Text) :=
  all.flatMap fun field => field.read (texts field)

/-- The engine for a record of one field. -/
def ownEngine (field : Field) (handler : Text) : Engine := ⟨field.keyMap, .text handler⟩

/-- The engine for a record of all fields. -/
def combinedEngine (handler : Text) : Engine := ⟨Template.keyMap combinedFields, .text handler⟩

/-- The name stands for a part of the field. -/
def Owns (field : Field) (name : Text) : Prop :=
  name ∈ field.placeholders.map fun entry => entry.1.toList

instance (field : Field) (name : Text) : Decidable (field.Owns name) :=
  inferInstanceAs (Decidable (name ∈ field.placeholders.map fun entry => entry.1.toList))

/-- The keys of a record of the field. -/
def keys : Field → List String
  | date => ["year", "month", "day"]
  | name => ["given", "middle", "surname"]
  | place => ["city", "county", "state", "country"]

private theorem keys_read (field : Field) (t : Text) :
    (field.read t).map Prod.fst = field.keys := by
  cases field <;> rfl

private theorem mem_all (field : Field) : field ∈ all := by
  cases field <;> decide

private theorem key_mem {field : Field} {entry : String × String} (h : entry ∈ field.placeholders) :
    entry.2 ∈ field.keys := by
  have hall : ∀ entry ∈ field.placeholders, entry.2 ∈ field.keys := by
    cases field <;> decide
  exact hall entry h

private theorem combinedFields_eq : combinedFields = all.flatMap placeholders := rfl

private theorem nodup_combinedFields : (combinedFields.map Prod.fst).Nodup := by decide

private theorem keys_readAll (texts : Field → Text) :
    (readAll texts).map Prod.fst = all.flatMap keys := by
  simp only [readAll, List.map_flatMap, keys_read]

private theorem nodup_readAll (texts : Field → Text) : ((readAll texts).map Prod.fst).Nodup := by
  have hkeys : (all.flatMap keys).Nodup := by decide
  rwa [keys_readAll]

variable {field : Field} {texts : Field → Text} {handler t : Text} {token : Token}

private theorem nodup_placeholders (field : Field) : (field.placeholders.map Prod.fst).Nodup := by
  cases field <;> decide

private theorem nodup_read (field : Field) (t : Text) : ((field.read t).map Prod.fst).Nodup := by
  rw [keys_read]
  cases field <;> decide

/-- In the record of all fields a part of one is found under its own key. -/
private theorem lookUp_readAll {key : String} (h : key ∈ field.keys) (texts : Field → Text) :
    (record (readAll texts)).lookUp (.text key.toList) =
      (record (field.read (texts field))).lookUp (.text key.toList) := by
  rw [← keys_read field (texts field), List.mem_map] at h
  obtain ⟨⟨key, part⟩, hin, rfl⟩ := h
  have hall : (key, part) ∈ readAll texts := List.mem_flatMap.mpr ⟨field, mem_all field, hin⟩
  rw [lookUp_record (nodup_readAll texts) hall, lookUp_record (nodup_read field _) hin]

/-- All that a template of one field asks for is the same in the one map and record for all. -/
private theorem agreeOn_combined (field : Field) (texts : Field → Text) :
    AgreeOn (field.placeholders.map fun entry => entry.1.toList) field.keyMap
      (Template.keyMap combinedFields) (record (field.read (texts field)))
      (record (readAll texts)) := by
  intro name hname
  obtain ⟨entry, hin, rfl⟩ := List.mem_map.mp hname
  have hown : field.keyMap.lookUp (.text entry.1.toList) = .ok (.text entry.2.toList) := by
    rw [keyMap_eq]
    exact Value.lookUp_row (fun entry => .text entry.2.toList) (nodup_placeholders field) hin
  have hcombined : entry ∈ combinedFields := by
    rw [combinedFields_eq]
    exact List.mem_flatMap.mpr ⟨field, mem_all field, hin⟩
  refine ⟨?_, fun key hkey _ => ?_⟩
  · rw [hown]
    exact Value.lookUp_row (fun entry => .text entry.2.toList) nodup_combinedFields hcombined
  · obtain rfl : Value.text entry.2.toList = key := Except.ok.inj (hown.symm.trans hkey)
    exact lookUp_readAll (key_mem hin) texts

/-- A token is resolved as by its own field. -/
private theorem resolve_combined (handler : Text) (texts : Field → Text)
    (h : field.Owns token.name) : (combinedEngine handler).resolve (record (readAll texts)) token =
      (field.ownEngine handler).resolve (record (field.read (texts field))) token := by
  refine resolve_of_agreeOn ?_ (agreeOn_combined field texts) h
  rfl

/-- What a template of the field is filled in from with a text of choice for missing parts. -/
def sourceWith (field : Field) (handler t : Text) : TextSource :=
  { field.source t with standIn := handler }

private theorem ownEngine_eq (field : Field) (handler t : Text) :
    field.ownEngine handler = (field.sourceWith handler t).engine := by
  cases field <;> rfl

private theorem record_eq_sourceWith (field : Field) (handler t : Text) :
    record (field.read t) = (field.sourceWith handler t).record := record_eq_source field t

private theorem sourceWith_not_tooLong {name value : Text}
    (h : (field.sourceWith handler t).value? name = some value) : ¬ TooLong name value :=
  source_not_tooLong (show (field.source t).value? name = some value from h)

/-- Every token has an outcome, for no field holds too long a numeral. -/
private theorem exists_outcome (field : Field) (handler t : Text) (token : Token) : ∃ outcome,
    IsOutcome (field.ownEngine handler) (record (field.read t)) token outcome := by
  obtain ⟨resolution, hresolve, hfinal⟩ :=
    TextSource.resolve_eq fun value => sourceWith_not_tooLong (t := t)
  rw [ownEngine_eq field handler t, record_eq_sourceWith]
  exact ⟨⟨_, resolution, _⟩, hresolve, hfinal⟩

private theorem isOutcome_combined (h : field.Owns token.name) {outcome : Outcome} :
    IsOutcome (combinedEngine handler) (record (readAll texts)) token outcome ↔
      IsOutcome (field.ownEngine handler) (record (field.read (texts field))) token outcome := by
  have hsame := resolve_combined handler texts h
  exact ⟨fun h => ⟨hsame ▸ h.resolve_eq, h.final_eq⟩, fun h => ⟨hsame ▸ h.resolve_eq, h.final_eq⟩⟩

/-- A template of tokens of any fields is filled in with what each comes to in its own. -/
private theorem exists_comesOut (handler : Text) (texts : Field → Text)
    (h : ∀ token ∈ tokens (parse t), ∃ field : Field, field.Owns token.name) :
    ∃ outcome : Token → Outcome,
      ComesOut (combinedEngine handler) (record (readAll texts)) t outcome ∧
      ∀ token ∈ tokens (parse t), ∀ field : Field, field.Owns token.name →
        ComesOut (field.ownEngine handler) (record (field.read (texts field))) token.text
          outcome := by
  have houtcome : ∀ token ∈ tokens (parse t), ∃ outcome,
      IsOutcome (combinedEngine handler) (record (readAll texts)) token outcome := by
    intro token hin
    obtain ⟨field, howns⟩ := h token hin
    obtain ⟨outcome, hown⟩ := exists_outcome field handler (texts field) token
    exact ⟨outcome, (isOutcome_combined howns).mpr hown⟩
  choose! outcome hcombined using houtcome
  refine ⟨outcome, comesOut_of_outcomes hcombined, fun token hin field howns => ?_⟩
  refine comesOut_of_outcomes ?_
  rw [parse_text ((splits_parse t).wellFormed token (mem_tokens.mp hin)), tokens_placeholder,
    tokens_nil, List.forall_mem_singleton]
  exact (isOutcome_combined howns).mp (hcombined token hin)

private theorem accepted_of_valid {template : Text} (h : Operation.run (field.ownEngine handler)
    (.validate (.text template)) = pure (.validity none)) :
    Accepted (field.placeholders.map fun entry => entry.1.toList) template := by
  have hproblem := Operation.run_validate_eq.mp h
  rw [ownEngine, keyMap_eq, Template.keyMap, problem?_text] at hproblem
  refine accepted_of_no_problem ?_
  rwa [keyMap_eq]

/-- A valid template of the field reports nothing. -/
private theorem exists_process_own (handler t : Text) {template : Text}
    (h : Accepted (field.placeholders.map fun entry => entry.1.toList) template) :
    ∃ out, (field.ownEngine handler).process template (record (field.read t)) = pure out := by
  have hpermitted := accepted_iff.mp h
  have hreported : ∀ token ∈ tokens (parse template),
      (field.sourceWith handler t).reported token = [] := by
    intro token hin
    exact TextSource.reported_of_supported (source_value?_ne_none (hpermitted.known token hin) t)
      (hpermitted.supported token hin)
  refine ⟨(parse template).flatMap (Segment.filled (field.sourceWith handler t).written), ?_⟩
  rw [ownEngine_eq field handler t, record_eq_sourceWith,
    TextSource.process_eq fun _ _ _ => sourceWith_not_tooLong,
    List.flatMap_eq_nil_iff.mpr hreported]
  rfl

/-- It is written in the same way from the record of all fields. -/
private theorem process_combined
    (h : Accepted (field.placeholders.map fun entry => entry.1.toList) t) :
    (combinedEngine handler).process t (record (readAll texts)) =
      (field.ownEngine handler).process t (record (field.read (texts field))) := by
  rw [process_eq_preview, process_eq_preview]
  refine congrArg _ (preview_of_agreeOn ?_ (agreeOn_combined field texts) (accepted_iff.mp h).known)
  rfl

/-- No token goes across a seam of valid templates, so a row of them is written one by one. -/
private theorem process_combined_row {templates outs : Field → Text}
    (haccepted : ∀ field : Field,
      Accepted (field.placeholders.map fun entry => entry.1.toList) (templates field))
    (houts : ∀ field : Field, (field.ownEngine handler).process (templates field)
      (record (field.read (texts field))) = pure (outs field)) (fields : List Field) :
    (combinedEngine handler).process (fields.flatMap templates) (record (readAll texts)) =
      pure (fields.flatMap outs) := by
  induction fields with
  | nil =>
    rw [List.flatMap_nil, List.flatMap_nil, Engine.process_eq_flatten rfl, parse_nil]
    rfl
  | cons field fields ih =>
    rw [List.flatMap_cons, List.flatMap_cons,
      Engine.process_append rfl ((haccepted field).noTokenAcross _),
      process_combined (haccepted field), houts, ih, pure_bind, pure_bind]

/-- The one key map is conservative over those of the fields. In a template with names of any of
them every token comes to what it comes to with the key map and the record of its own field, and
templates that are valid each for its own field make one for all, which writes what they write, in
whatever order they follow one another. -/
theorem combined_key_map_conservative (handler : Text) (texts : Field → Text) :
    (combinedFields.map Prod.fst).Nodup ∧ ((readAll texts).map Prod.fst).Nodup ∧
    (∀ t, (∀ token ∈ tokens (parse t), ∃ field : Field, field.Owns token.name) →
      ∃ outcome : Token → Outcome,
        ComesOut (combinedEngine handler) (record (readAll texts)) t outcome ∧
        ∀ token ∈ tokens (parse t), ∀ field : Field, field.Owns token.name →
          ComesOut (field.ownEngine handler) (record (field.read (texts field))) token.text
            outcome) ∧
    ∀ templates : Field → Text,
      (∀ field : Field, Operation.run (field.ownEngine handler)
        (.validate (.text (templates field))) = pure (.validity none)) →
      ∃ outs : Field → Text,
        (∀ field : Field, Operation.run (field.ownEngine handler)
          (.process (.text (templates field)) (record (field.read (texts field)))) =
            pure (.value (.text (outs field)))) ∧
        ∀ fields : List Field, Operation.run (combinedEngine handler)
          (.process (.text (fields.flatMap templates)) (record (readAll texts))) =
            pure (.value (.text (fields.flatMap outs))) := by
  refine ⟨nodup_combinedFields, nodup_readAll texts, fun t => exists_comesOut handler texts, ?_⟩
  intro templates hvalid
  have haccepted (field : Field) := accepted_of_valid (hvalid field)
  choose outs houts using fun field => exists_process_own handler (texts field) (haccepted field)
  refine ⟨outs, fun field => ?_, fun fields => ?_⟩
  · rw [Operation.run_process, OnValues.templateText, houts]
    rfl
  · rw [Operation.run_process, OnValues.templateText, process_combined_row haccepted houts]
    rfl

/-- A year, a given name in other letters and a city, each from a record of its own and all from
one. -/
theorem year_name_and_city_combined :
    let texts : Field → Text
      | date => "12 Mar 1850".toList
      | name => "jane doe".toList
      | place => "Boston, Massachusetts".toList
    let templates : Field → Text
      | date => "{YYYY}-".toList
      | name => "{GIVEN:title}, ".toList
      | place => "{CITY}".toList
    let whole := "{YYYY}-{GIVEN:title}, {CITY}".toList
    (∀ token ∈ tokens (parse whole), ∃ field : Field, field.Owns token.name) ∧
    (∀ field : Field, Operation.run (field.ownEngine unknown)
      (.validate (.text (templates field))) = pure (.validity none)) ∧
    (∃ outcome, ComesOut (combinedEngine unknown) (record (readAll texts)) whole outcome) ∧
    ∃ outs : Field → Text,
      (∀ field : Field, Operation.run (field.ownEngine unknown)
        (.process (.text (templates field)) (record (field.read (texts field)))) =
          pure (.value (.text (outs field)))) ∧
      Operation.run (combinedEngine unknown) (.process (.text whole) (record (readAll texts))) =
        pure (.value (.text (outs date ++ outs name ++ outs place))) := by
  intro texts templates whole
  have htokens : tokens (parse whole) =
      [⟨"YYYY".toList, none⟩, ⟨"GIVEN".toList, some "title".toList⟩, ⟨"CITY".toList, none⟩] := by
    decide +kernel
  have howns : ∀ token ∈ tokens (parse whole), ∃ field : Field, field.Owns token.name := by
    rw [htokens, List.forall_mem_cons, List.forall_mem_cons, List.forall_mem_singleton]
    exact ⟨⟨date, by decide⟩, ⟨name, by decide⟩, ⟨place, by decide⟩⟩
  have hvalid (field : Field) : Operation.run (field.ownEngine unknown)
      (.validate (.text (templates field))) = pure (.validity none) := by
    refine Operation.run_validate_eq.mpr ?_
    cases field <;> decide +kernel
  obtain ⟨-, -, htemplate, hrow⟩ := combined_key_map_conservative unknown texts
  obtain ⟨outcome, hcomesOut, -⟩ := htemplate whole howns
  obtain ⟨outs, hown, hall⟩ := hrow templates hvalid
  refine ⟨howns, hvalid, ⟨outcome, hcomesOut⟩, outs, hown, ?_⟩
  simpa [all, templates, whole] using hall all

end FilingName.Field
