import FilingName.Proofs.Display
import FilingName.Proofs.Field.Date
import FilingName.Proofs.Template.TextSource

/-! What a field is written as. Any text and any template come to a text that is not empty, and what
is reported on the way can be shown on the console. -/
namespace FilingName.Field
open Template

/-- The names that the templates of a field use, with the parts of its record. -/
def placeholders : Field → List (String × String)
  | date => dateFields
  | name => nameFields
  | place => placeFields

/-- A part of a record, unless it could not be made out. -/
def known? (part : Text) : Option Text := if part = unknown then none else some part

/-- What a template of the field is filled in from. -/
def source (field : Field) (t : Text) : TextSource where
  names := field.placeholders.map fun entry => (entry.1.toList, entry.2.toList)
  fields := (field.read t).map fun entry => (entry.1.toList, known? entry.2)
  standIn := unknown

theorem engine_eq_source (field : Field) (t : Text) : field.engine = (field.source t).engine := by
  cases field <;> rfl

theorem record_eq_source (field : Field) (t : Text) :
    record (field.read t) = (field.source t).record := by
  rw [record, TextSource.record, source, List.map_map]
  refine congrArg Value.mapping (List.map_congr_left fun entry _ => ?_)
  obtain ⟨key, part⟩ := entry
  by_cases h : part = unknown <;> simp [h, known?, Value.ofText?]

theorem render_eq_process (field : Field) (t template : Text) : field.render t template =
    (field.source t).engine.process (field.orDefault template) (field.source t).record := by
  rw [render, engine_eq_source field t, record_eq_source]

private theorem orDefault_ne_nil (field : Field) (template : Text) :
    field.orDefault template ≠ [] := by
  unfold orDefault
  split_ifs with h
  · cases field <;> decide
  · simpa using h

theorem orDefault_of_ne_nil {template : Text} (h : template ≠ []) (field : Field) :
    field.orDefault template = template :=
  if_neg (by simpa using h)

theorem source_date_value? (t name : Text) : (date.source t).value? name =
    ((date.source t).names.lookup name).map fun field =>
      (([("year".toList, known? (Date.ofText t).year),
        ("month".toList, known? (Date.ofText t).month),
        ("day".toList, known? (Date.ofText t).day)].lookup field).join).getD [] :=
  rfl

theorem source_name_value? (t name : Text) : (Field.name.source t).value? name =
    ((Field.name.source t).names.lookup name).map fun field =>
      (([("given".toList, known? (Name.ofText t).given),
        ("middle".toList, known? (Name.ofText t).middle),
        ("surname".toList, known? (Name.ofText t).surname)].lookup field).join).getD [] :=
  rfl

theorem source_place_value? (t name : Text) : (place.source t).value? name =
    ((place.source t).names.lookup name).map fun field =>
      (([("city".toList, known? (Place.ofText countries t).city),
        ("county".toList, known? (Place.ofText countries t).county),
        ("state".toList, known? (Place.ofText countries t).state),
        ("country".toList, known? (Place.ofText countries t).country)].lookup
          field).join).getD [] :=
  rfl

/-- The text under a name is a part that was read, or empty where the part could not be made out. -/
private theorem source_value?_cases {field : Field} {t name value : Text}
    (h : (field.source t).value? name = some value) :
    value = [] ∨ value ≠ unknown ∧ ∃ key, (key, value) ∈ field.read t := by
  obtain ⟨key, -, hvalue⟩ := Option.map_eq_some_iff.mp h
  cases hlookup : (field.source t).fields.lookup key with
  | none => exact .inl (by rw [← hvalue, hlookup]; rfl)
  | some recorded =>
    obtain ⟨⟨key', part⟩, hread, hentry⟩ := List.mem_map.mp (Value.mem_of_lookup hlookup)
    obtain ⟨-, rfl⟩ := Prod.mk.inj hentry
    rw [hlookup, Option.join_some, known?] at hvalue
    split_ifs at hvalue with hunknown
    · exact .inl hvalue.symm
    · obtain rfl : part = value := hvalue
      exact .inr ⟨hunknown, key', hread⟩

/-- A name stands for two digits, for four or for none. -/
theorem source_date_digits {t name value : Text} (h : (date.source t).value? name = some value) :
    value = [] ∨ ∃ n, 2 ≤ n ∧ n ≤ 4 ∧ Date.IsDigits n value := by
  refine (source_value?_cases h).imp_right fun ⟨hknown, key, hin⟩ => ?_
  have hreadable := Date.readable_ofText t
  simp only [read, Date.fields, List.mem_cons, List.not_mem_nil, or_false, Prod.mk.injEq] at hin
  rcases hin with ⟨-, rfl⟩ | ⟨-, rfl⟩ | ⟨-, rfl⟩
  · exact ⟨4, by decide, by decide, hreadable.year_eq.resolve_left hknown⟩
  · exact ⟨2, by decide, by decide, hreadable.month_eq.resolve_left hknown⟩
  · exact ⟨2, by decide, by decide, hreadable.day_eq.resolve_left hknown⟩

/-- The only numeral that a short year is asked of is a year, and that has four digits. -/
theorem source_not_tooLong {field : Field} {t name value : Text}
    (hvalue : (field.source t).value? name = some value) : ¬ TooLong name value := by
  rintro ⟨rfl, hnumber, hlong⟩
  cases field with
  | name => cases hvalue
  | place => cases hvalue
  | date =>
    rcases source_date_digits hvalue with rfl | ⟨n, -, hn, hdigits⟩
    · cases hnumber
    · rw [hdigits.length_eq] at hlong
      exact absurd (hlong.trans_le hn) (by decide)

theorem source_numeralsFit (field : Field) (t template : Text) :
    (field.source t).NumeralsFit template :=
  fun _ _ _ => source_not_tooLong

/-- Any text is written by any template. -/
theorem exists_render (field : Field) (t template : Text) :
    ∃ log out, field.render t template = ⟨log, .ok out⟩ :=
  ⟨_, _, (render_eq_process field t template).trans
    (TextSource.process_eq (source_numeralsFit field t _))⟩

/-- What is reported is about names and modifiers of the template. -/
theorem lettered_of_mem_render {field : Field} {t template : Text} {diagnostic : Diagnostic}
    (h : diagnostic ∈ (field.render t template).log) : diagnostic.Lettered := by
  rw [render_eq_process] at h
  exact TextSource.lettered_of_mem_log (source_numeralsFit field t _) h

theorem render_ne_nil {field : Field} {t template : Text} {log : List Diagnostic} {out : Text}
    (h : field.render t template = ⟨log, .ok out⟩) : out ≠ [] := by
  have hstandIn : (field.source t).standIn ≠ [] := List.cons_ne_nil 'x' []
  have hfit := source_numeralsFit field t (field.orDefault template)
  rw [render_eq_process, TextSource.process_eq hfit, Logged.mk.injEq, Except.ok.injEq] at h
  exact h.2 ▸ TextSource.filled_ne_nil hstandIn hfit (orDefault_ne_nil field template)

theorem source_value?_ne_none {field : Field} {name : Text}
    (h : name ∈ field.placeholders.map fun entry => entry.1.toList) (t : Text) :
    (field.source t).value? name ≠ none := by
  intro hnone
  obtain ⟨entry, hentry, heq⟩ := List.mem_map.mp h
  have habsent := List.lookup_eq_none_iff.mp (Option.map_eq_none_iff.mp hnone)
    (entry.1.toList, entry.2.toList) (List.mem_map_of_mem hentry)
  exact bne_iff_ne.mp habsent heq.symm

/-- A template that asks for parts of its own field, and for nothing to be done to them, reports
nothing. -/
theorem render_of_unmodified {field : Field} {template : Text} (htemplate : template ≠ [])
    (h : ∀ token ∈ tokens (parse template),
      token.name ∈ field.placeholders.map (fun entry => entry.1.toList) ∧ token.chain = none)
    (t : Text) : field.render t template =
      ⟨[], .ok ((parse template).flatMap (Segment.filled (field.source t).written))⟩ := by
  have hreported : ∀ token ∈ tokens (parse template), (field.source t).reported token = [] := by
    intro token hin
    obtain ⟨hname, hchain⟩ := h token hin
    exact TextSource.reported_of_supported (source_value?_ne_none hname t) (by simp [hchain])
  rw [render_eq_process, orDefault_of_ne_nil htemplate,
    TextSource.process_eq (source_numeralsFit field t template),
    List.flatMap_eq_nil_iff.mpr hreported]

theorem keyMap_eq (field : Field) : field.keyMap = Template.keyMap field.placeholders := by
  cases field <;> rfl

theorem accepted_of_no_problem {field : Field} {template : Text}
    (h : Template.problem? field.keyMap template = .ok none) :
    Accepted (field.placeholders.map fun entry => entry.1.toList) template := by
  rw [keyMap_eq, Template.keyMap] at h
  obtain ⟨verdict, hverdict, haccepted⟩ := verdict_of_problem?
    (field.placeholders.map fun entry => (entry.1.toList, .text entry.2.toList)) template
  obtain rfl : verdict = none := Except.ok.inj (hverdict.symm.trans h)
  rwa [List.map_map] at haccepted

/-- A template that is valid for the field, or the one that stands in for an empty template, reports
nothing, whatever the text. -/
theorem render_log_of_accepted {field : Field} {template : Text}
    (h : Accepted (field.placeholders.map fun entry => entry.1.toList) (field.orDefault template))
    (t : Text) : (field.render t template).log = [] := by
  have hpermitted := accepted_iff.mp h
  rw [render_eq_process, TextSource.process_eq (source_numeralsFit field t _)]
  refine List.flatMap_eq_nil_iff.mpr fun token hin => ?_
  exact TextSource.reported_of_supported (source_value?_ne_none (hpermitted.known token hin) t)
    (hpermitted.supported token hin)

/-- A template of placeholders with the same text between neighbours writes a row of parts. -/
theorem render_row {field : Field} {template separator : Text} {row : List Token}
    (htemplate : template ≠ [])
    (h : ∀ token ∈ tokens (parse template),
      token.name ∈ field.placeholders.map (fun entry => entry.1.toList) ∧ token.chain = none)
    (hparse : parse template = (row.map Segment.placeholder).intersperse (.literal separator))
    (t : Text) : field.render t template =
      ⟨[], .ok (Text.join separator (row.map (field.source t).written))⟩ := by
  rw [render_of_unmodified htemplate h, hparse, flatMap_filled_row]

/-- A part that could not be made out comes back as the mark for it, and any other as its name
writes it. -/
theorem written_part {field : Field} {t name part formatted : Text}
    (hvalue : (field.source t).value? name = some ((known? part).getD [])) (hpart : part ≠ [])
    (hformat : part ≠ unknown → format name part = .ok formatted) :
    (field.source t).written ⟨name, none⟩ = if part = unknown then unknown else formatted := by
  by_cases h : part = unknown
  · rw [known?, if_pos h, Option.getD_none] at hvalue
    rw [TextSource.written, hvalue, if_pos h]
    rfl
  · rw [known?, if_neg h, Option.getD_some] at hvalue
    rw [TextSource.written_of_unmodified hvalue rfl fun _ => hformat h, if_neg hpart, if_neg h]

/-- Parts of names and places are never written in another way than they were read. -/
theorem written_as_read {field : Field} {t name part : Text}
    (hname : name ∉ ["MM".toList, "DD".toList, "YY".toList]) (hpart : part ≠ [])
    (hvalue : (field.source t).value? name = some ((known? part).getD [])) :
    (field.source t).written ⟨name, none⟩ = part := by
  rw [written_part hvalue hpart fun _ => format_of_other_name hname part, ite_eq_right_iff]
  exact Eq.symm

theorem ne_nil_of_digits {part : Text} {n : Nat} (h : part = unknown ∨ Date.IsDigits n part)
    (hn : 2 ≤ n) : part ≠ [] := by
  rcases h with rfl | hdigits
  · exact List.cons_ne_nil 'x' []
  · exact List.ne_nil_of_length_pos (by rw [hdigits.length_eq]; omega)

/-- The parts of a date have two digits or more, so none has zeros put in front of it. -/
theorem written_digits {t name part : Text} {n : Nat}
    (hpart : part = unknown ∨ Date.IsDigits n part) (hn : 2 ≤ n) (hname : name ≠ "YY".toList)
    (hvalue : (date.source t).value? name = some ((known? part).getD [])) :
    (date.source t).written ⟨name, none⟩ = part := by
  have hformat (hknown : part ≠ unknown) : format name part = .ok part :=
    format_eq_self hname fun _ => by rwa [(hpart.resolve_left hknown).length_eq]
  rw [written_part hvalue (ne_nil_of_digits hpart hn) hformat, ite_eq_right_iff]
  exact Eq.symm

/-- Whatever is read and however it is written, the result is a text with something in it. A console
shows the same diagnostics as are collected, one to a line, and keeps the result as it is. -/
theorem render_writes_text (engine : Engine) (field : Field) (t template : Option Text) :
    ∃ log out, out ≠ [] ∧
      Operation.run engine (.render field (.ofText? t) (.ofText? template)) =
        ⟨log, .ok (.value (.text out))⟩ ∧
      CommandLine.reportTo false (OnValues.render field (.ofText? t) (.ofText? template)) =
        ⟨log.map fun diagnostic => Display.warningLine diagnostic.message, .ok (out, [])⟩ := by
  let source := field.source (t.getD [])
  let chosen := field.orDefault (template.getD [])
  have hfit : source.NumeralsFit chosen := source_numeralsFit field _ _
  have hrender : OnValues.render field (.ofText? t) (.ofText? template) =
      source.engine.process chosen source.record := by
    rw [Operation.render_ofText?, render_eq_process]
  have hprocess := TextSource.process_eq hfit
  have hstandIn : source.standIn ≠ [] := List.cons_ne_nil 'x' []
  refine ⟨(tokens (parse chosen)).flatMap source.reported, _,
    TextSource.filled_ne_nil hstandIn hfit (orDefault_ne_nil field _), ?_, ?_⟩
  · exact Operation.run_render_of_ok (hrender.trans hprocess) engine
  · rw [hrender, CommandLine.reportTo_console (fun _ => TextSource.plain_of_mem_log hfit)
      (congrArg Logged.outcome hprocess), hprocess]

end FilingName.Field
