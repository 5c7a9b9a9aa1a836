import FilingName.Proofs.Field.Render
import FilingName.Proofs.Template.Preview

/-! Previews of fields. A preview can always be shown, for the names of a field lead to text and
what is put in for its tokens is text. The result that it shows is what the field is written as. -/
namespace FilingName
open Template

variable {field : Field} {t : Text}

namespace Display

/-- The names of a field stand for parts of its record, which go by text. -/
private theorem exists_fieldCell {name : Text} {part : Value}
    (h : field.engine.keyMap.lookUp (.text name) = .ok part) :
    ∃ cell, fieldCell part = .ok cell := by
  rw [field.engine_eq_source [], TextSource.keyMap_lookUp, Except.ok.injEq] at h
  rw [← h]
  cases (field.source []).names.lookup name with
  | none => exact ⟨absent, rfl⟩
  | some key => exact ⟨orAbsent key, rfl⟩

/-- A token that came to a text has a row of its own. -/
private theorem exists_previewRow {token : Token} {entry : Resolution} {record : Value}
    {final : Text} (h : Resolves field.engine record token entry)
    (hfinal : entry.final = .text final) :
    ∃ row, previewRow entry = .ok row := by
  cases h with
  | unknown => exact ⟨_, rfl⟩
  | missing hpart =>
    obtain ⟨cell, hcell⟩ := exists_fieldCell hpart
    exact ⟨_, by simp only [previewRow, hfinal, Value.textFor, hcell]; rfl⟩
  | found hpart =>
    obtain ⟨cell, hcell⟩ := exists_fieldCell hpart
    exact ⟨_, by simp only [previewRow, hfinal, Value.textFor, hcell]; rfl⟩

private theorem exists_mapM_previewRow {entries : List Resolution}
    (h : ∀ entry ∈ entries, ∃ row, previewRow entry = .ok row) :
    ∃ rows, entries.mapM previewRow = .ok rows := by
  induction entries with
  | nil => exact ⟨[], rfl⟩
  | cons entry entries ih =>
    rw [List.forall_mem_cons] at h
    obtain ⟨row, hrow⟩ := h.1
    obtain ⟨rows, hrows⟩ := ih h.2
    exact ⟨row :: rows, by rw [List.mapM_cons, hrow, hrows]; rfl⟩

/-- A preview that accounts for its text can be shown. -/
private theorem exists_previewTable {record : Value} {preview : Engine.Preview}
    (h : Accounts field.engine record t preview) (heading : Text) :
    ∃ table, previewTable field heading preview = .ok table := by
  obtain ⟨finals, hfinals, -⟩ := h.rebuilt
  have hrow (entry : Resolution) (hin : entry ∈ preview.resolutions) :
      ∃ row, previewRow entry = .ok row := by
    have htext : entry.final ∈ finals.map Value.text := hfinals ▸ List.mem_map_of_mem hin
    obtain ⟨final, -, hfinal⟩ := List.mem_map.mp htext
    exact exists_previewRow (h.resolved entry hin) hfinal.symm
  obtain ⟨rows, hrows⟩ := exists_mapM_previewRow hrow
  exact ⟨_, by rw [previewTable, hrows]; rfl⟩

end Display

namespace CommandLine

/-- What is printed as the preview of a field: a table of the tokens of its template and the result,
which is what the field is written as on its own. -/
def IsPreview (field : Field) (t : Text) (template : Option Text) (printed : List Display.Printed) :
    Prop :=
  ∃ preview table,
    (field.engine.preview (field.orDefault (template.getD []))
      (Field.record (field.read t))).outcome = .ok preview ∧
    (Operation.run field.engine (.render field (.text t) (.ofText? template))).outcome =
      .ok (.value (.text preview.result)) ∧
    Display.previewTable field (field.orDefault (template.getD [])) preview = .ok table ∧
    printed = [.result table.print, .result (Console.print ("Result: ".toList ++ preview.result))]

/-- Previewing prints a preview. Nothing is reported, and it never fails. -/
theorem printPreview_eq (field : Field) (t : Text) (template : Option Text) : ∃ printed,
    IsPreview field t template printed ∧
      printPreview field t (template.getD []) = ⟨printed, .ok ()⟩ := by
  obtain ⟨log, out, hrender⟩ := Field.exists_render field t (template.getD [])
  have hoperation := Operation.run_render_ofText? field.engine field (some t) template hrender
  obtain ⟨preview, hpreview, rfl⟩ := Logged.map_eq_ok.mp
    ((congrArg Logged.outcome (process_eq_preview _)).symm.trans
      (congrArg Logged.outcome hrender : (field.render t (template.getD [])).outcome = .ok out))
  obtain ⟨table, htable⟩ := Display.exists_previewTable (accounts_of_preview hpreview)
    (field.orDefault (template.getD []))
  refine ⟨_, ⟨preview, table, hpreview, congrArg Logged.outcome hoperation, htable, rfl⟩, ?_⟩
  simp only [printPreview, hpreview, orFail_bind_ok, htable]
  rfl

theorem IsPreview.messages_eq_nil {printed : List Display.Printed} {template : Option Text}
    (h : IsPreview field t template printed) : Display.messages printed = [] := by
  obtain ⟨preview, table, -, -, -, rfl⟩ := h
  rfl

end CommandLine
end FilingName
