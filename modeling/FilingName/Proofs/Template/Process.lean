import FilingName.Proofs.Template.Format
import FilingName.Proofs.Template.Resolution
import FilingName.Proofs.Template.Segments
import FilingName.Proofs.Text.Row
import Mathlib.Tactic.Choose

/-! What processing a template comes to, once it is known what its tokens come to. -/
namespace FilingName.Template

/-- Literals as they are and placeholders as their tokens are written. -/
def Segment.filled (final : Token → Text) : Segment → Text
  | literal text => text
  | placeholder token => final token

/-- Placeholders with the same literal between neighbours write a row with that separator. -/
theorem flatMap_filled_row (final : Token → Text) (separator : Text) (row : List Token) :
    ((row.map Segment.placeholder).intersperse (.literal separator)).flatMap
      (Segment.filled final) = Text.join separator (row.map final) := by
  induction row with
  | nil => rfl
  | cons token row ih =>
    cases row with
    | nil => simp [Segment.filled, Text.join_singleton]
    | cons next row =>
      have hrest : (next :: row).map final ≠ [] := List.cons_ne_nil _ _
      rw [List.map_cons (f := final), Text.join_cons hrest, ← ih]
      simp [Segment.filled]

namespace Engine
variable {engine : Engine} {record : Value} {t : Text}

private theorem process_log_eq :
    (engine.process t record).log = ((parse t).mapM (engine.part record)).log := by
  rw [process]
  cases h : ((parse t).mapM (engine.part record)).outcome with
  | ok parts => simp [Logged.bind_of_ok h]
  | error fault => simp [Logged.bind_of_error h]

theorem part_placeholder (token : Token) :
    engine.part record (.placeholder token) = Resolution.final <$> engine.resolve record token := by
  simp only [part, bind_pure_comp]

/-- Processing reports nothing where no token has anything to report. -/
theorem process_log_eq_nil
    (h : ∀ token ∈ tokens (parse t), (engine.resolve record token).log = []) :
    (engine.process t record).log = [] := by
  rw [process_log_eq]
  apply Logged.mapM_log_eq_nil
  intro segment hin
  cases segment with
  | literal text => rfl
  | placeholder token => rw [part_placeholder, Logged.map_log, h token (mem_tokens.mpr hin)]

/-- Only tokens report anything. -/
private theorem flatMap_part_log (segments : List Segment) :
    (segments.flatMap fun segment => (engine.part record segment).log) =
      (tokens segments).flatMap fun token => (engine.resolve record token).log := by
  induction segments with
  | nil => rfl
  | cons segment segments ih =>
    cases segment with
    | literal text => simpa [part] using ih
    | placeholder token =>
      simp only [List.flatMap_cons, ih, part_placeholder, Logged.map_log, tokens_placeholder]

/-- Where every token is resolved, processing reports what the tokens report, one after another. -/
theorem process_log_of_resolved
    (h : ∀ token ∈ tokens (parse t), ∃ entry, (engine.resolve record token).outcome = .ok entry) :
    (engine.process t record).log =
      (tokens (parse t)).flatMap fun token => (engine.resolve record token).log := by
  rw [process_log_eq, Logged.mapM_log, flatMap_part_log]
  intro segment hin
  cases segment with
  | literal text => exact ⟨_, rfl⟩
  | placeholder token =>
    obtain ⟨entry, hentry⟩ := h token (mem_tokens.mpr hin)
    exact ⟨entry.final, part_placeholder token ▸ Logged.map_eq_ok.mpr ⟨entry, hentry, rfl⟩⟩

theorem joinFrom_text (position : Nat) (texts : List Text) :
    joinFrom position (texts.map Value.text) = .ok texts.flatten := by
  induction texts generalizing position with
  | nil => rfl
  | cons first texts ih =>
    rw [List.map_cons, joinFrom, ih]
    rfl

/-- Where every token comes to a text, processing writes these between the literals. -/
theorem process_outcome_of_resolved {final : Token → Text}
    (h : ∀ token ∈ tokens (parse t), ∃ entry, (engine.resolve record token).outcome = .ok entry ∧
      entry.final = .text (final token)) :
    (engine.process t record).outcome = .ok ((parse t).flatMap (Segment.filled final)) := by
  have hparts : ((parse t).mapM (engine.part record)).outcome =
      .ok (((parse t).map (Segment.filled final)).map Value.text) := by
    rw [Logged.mapM_eq_ok, List.forall₂_map_right_iff, List.forall₂_map_right_iff,
      List.forall₂_same]
    intro segment hin
    cases segment with
    | literal text => rfl
    | placeholder token =>
      obtain ⟨entry, hentry, hfinal⟩ := h token (mem_tokens.mpr hin)
      exact part_placeholder token ▸ Logged.map_eq_ok.mpr ⟨entry, hentry, hfinal⟩
  rw [process, Logged.bind_of_ok hparts, joinFrom_text, List.flatMap_def]
  rfl

private theorem resolved_of_part {token : Token}
    (h : ∃ part, (engine.part record (.placeholder token)).outcome = .ok part) :
    ∃ entry, (engine.resolve record token).outcome = .ok entry := by
  obtain ⟨part, hpart⟩ := h
  obtain ⟨entry, hentry, -⟩ := Logged.map_eq_ok.mp (part_placeholder token ▸ hpart)
  exact ⟨entry, hentry⟩

/-- Every token is resolved, or processing ends at the first that is not, with its fault and with
what was reported up to there. -/
theorem resolved_or_fault (engine : Engine) (record : Value) (t : Text) :
    (∀ token ∈ tokens (parse t), ∃ entry, (engine.resolve record token).outcome = .ok entry) ∨
      ∃ before token after fault, tokens (parse t) = before ++ token :: after ∧
        (∀ earlier ∈ before, ∃ entry, (engine.resolve record earlier).outcome = .ok entry) ∧
        (engine.resolve record token).outcome = .error fault ∧
        engine.process t record =
          ⟨(before.flatMap fun earlier => (engine.resolve record earlier).log) ++
            (engine.resolve record token).log, .error fault⟩ := by
  rcases Logged.mapM_ok_or_error (engine.part record) (parse t) with hall | hfault
  · exact .inl fun token hin => resolved_of_part (hall _ (mem_tokens.mp hin))
  · obtain ⟨before, segment, after, fault, hsplit, hbefore, hpart, hparts⟩ := hfault
    cases segment with
    | literal text => cases hpart
    | placeholder token =>
      refine .inr ⟨tokens before, token, tokens after, fault, ?_, fun earlier hin => ?_, ?_, ?_⟩
      · rw [hsplit, tokens_append, tokens_placeholder]
      · exact resolved_of_part (hbefore _ (mem_tokens.mp hin))
      · exact Logged.map_eq_error.mp (part_placeholder token ▸ hpart)
      · rw [process, hparts, Logged.bind_of_error rfl, flatMap_part_log, part_placeholder,
          Logged.map_log]

/-- Where every token comes to a text of some kind or to a fault of some kind, processing writes
such texts between the literals or has such a fault. -/
theorem written_or_fault {IsFinal : Token → Text → Prop} {IsFault : Token → ValueFault → Prop}
    (h : ∀ token ∈ tokens (parse t),
      (∃ resolution final, (engine.resolve record token).outcome = .ok resolution ∧
        resolution.final = .text final ∧ IsFinal token final) ∨
      ∃ fault, IsFault token fault ∧ (engine.resolve record token).outcome = .error fault) :
    (∃ final : Token → Text, (∀ token ∈ tokens (parse t), IsFinal token (final token)) ∧
        (engine.process t record).outcome = .ok ((parse t).flatMap (Segment.filled final))) ∨
      ∃ token ∈ tokens (parse t), ∃ fault, IsFault token fault ∧
        (engine.process t record).outcome = .error fault := by
  rcases resolved_or_fault engine record t with
    hall | ⟨before, token, after, fault, hsplit, -, hfault, hprocess⟩
  · have hfinals : ∀ token ∈ tokens (parse t), ∃ final : Text,
        (∃ resolution, (engine.resolve record token).outcome = .ok resolution ∧
          resolution.final = .text final) ∧ IsFinal token final := by
      intro token hin
      obtain ⟨resolution, hresolution⟩ := hall token hin
      rcases h token hin with ⟨resolution', final, hok, hfinal, hkind⟩ | ⟨fault, -, herror⟩
      · exact ⟨final, ⟨resolution', hok, hfinal⟩, hkind⟩
      · cases hresolution.symm.trans herror
    -- One text for each token makes the result a function of the segments.
    choose! final hresolved hkind using hfinals
    exact .inl ⟨final, hkind, process_outcome_of_resolved hresolved⟩
  · have hin : token ∈ tokens (parse t) := hsplit ▸ List.mem_append_cons_self
    rcases h token hin with ⟨resolution, final, hok, -⟩ | ⟨fault', hkind, herror⟩
    · cases hfault.symm.trans hok
    · cases hfault.symm.trans herror
      exact .inr ⟨token, hin, fault, hkind, congrArg Logged.outcome hprocess⟩

end Engine
end FilingName.Template
