import FilingName.Proofs.Operation
import Mathlib.Data.List.Basic

/-! Dashes for blanks. Every maximal run of blanks is written as one dash and all else is kept, so
that no blank is left, no text vanishes, and texts can be written apart unless a run goes across the
seam. -/
namespace FilingName.Text

variable {t : Text}

theorem not_isBlank_of_mem_dashed {c : Char} (h : c ∈ dashed t) : ¬ isBlank c := by
  induction t with
  | nil => cases h
  | cons d t ih =>
    rw [dashed] at h
    split_ifs at h with hblank hmore
    · exact ih h
    · rcases List.mem_cons.mp h with rfl | h
      · decide
      · exact ih h
    · rcases List.mem_cons.mp h with rfl | h
      · exact hblank
      · exact ih h

theorem dashed_ne_nil (h : t ≠ []) : dashed t ≠ [] := by
  induction t with
  | nil => exact absurd rfl h
  | cons c t ih =>
    rw [dashed]
    split_ifs with hblank hmore
    · refine ih ?_
      rintro rfl
      cases hmore
    · exact List.cons_ne_nil _ _
    · exact List.cons_ne_nil _ _

theorem dashed_eq_self (h : ∀ c ∈ t, ¬ isBlank c) : dashed t = t := by
  induction t with
  | nil => rfl
  | cons c t ih =>
    rw [List.forall_mem_cons] at h
    rw [dashed, if_neg h.1, ih h.2]

private theorem dashed_dashed (t : Text) : dashed (dashed t) = dashed t :=
  dashed_eq_self fun _ => not_isBlank_of_mem_dashed

def StartsBlank (t : Text) : Prop := ∃ c ∈ t.head?, isBlank c

def EndsBlank (t : Text) : Prop := ∃ c ∈ t.getLast?, isBlank c

/-- One dash stands in the place of every run of blanks that is as long as it can be, and every
other character is kept where it is. -/
inductive Dashes : Text → Text → Prop
  | nil : Dashes [] []
  | kept {c : Char} {t out : Text} : ¬ isBlank c → Dashes t out → Dashes (c :: t) (c :: out)
  | run {run t out : Text} : run ≠ [] → (∀ c ∈ run, isBlank c) → ¬ StartsBlank t →
      Dashes t out → Dashes (run ++ t) ('-' :: out)

variable {a b run out : Text} {c : Char}

private theorem startsBlank_iff : StartsBlank t ↔ t.head?.any isBlank := by
  cases t <;> simp [StartsBlank]

private theorem not_startsBlank_nil : ¬ StartsBlank [] := by simp [StartsBlank]

@[simp] private theorem startsBlank_cons : StartsBlank (c :: t) ↔ isBlank c := by simp [StartsBlank]

/-- Behind a blank the blanks in front of a text add nothing to the dash. -/
private theorem dashed_blank_cons (hc : isBlank c) (t : Text) :
    dashed (c :: t) = '-' :: dashed (t.dropWhile isBlank) := by
  induction t generalizing c with
  | nil => simp [dashed, hc]
  | cons d t ih =>
    by_cases hd : isBlank d
    · rw [dashed, if_pos hc, if_pos (by simpa using hd), ih hd, List.dropWhile_cons_of_pos hd]
    · rw [dashed, if_pos hc, if_neg (by simpa using hd), List.dropWhile_cons_of_neg hd]

private theorem dropWhile_of_not_startsBlank (h : ¬ StartsBlank t) : t.dropWhile isBlank = t := by
  cases t with
  | nil => rfl
  | cons c t => exact List.dropWhile_cons_of_neg (by simpa using h)

private theorem dashed_run (hne : run ≠ []) (hrun : ∀ c ∈ run, isBlank c) (ht : ¬ StartsBlank t) :
    dashed (run ++ t) = '-' :: dashed t := by
  obtain ⟨c, run, rfl⟩ := List.exists_cons_of_ne_nil hne
  rw [List.forall_mem_cons] at hrun
  rw [List.cons_append, dashed_blank_cons hrun.1, List.dropWhile_append_of_pos hrun.2,
    dropWhile_of_not_startsBlank ht]

/-- Dashes are put in for blanks in one way only. -/
private theorem dashes_iff : Dashes t out ↔ out = dashed t := by
  constructor
  · intro h
    induction h with
    | nil => rfl
    | kept hc _ ih => rw [ih, dashed, if_neg hc]
    | run hne hrun ht _ ih => rw [ih, dashed_run hne hrun ht]
  · rintro rfl
    induction t with
    | nil => exact .nil
    | cons c t ih =>
      rw [dashed]
      split_ifs with hblank hmore
      · -- The text behind the blank starts with a run, and the blank belongs to it.
        generalize dashed t = out at ih ⊢
        cases ih with
        | nil => cases hmore
        | kept hc => exact absurd hmore (by simpa using hc)
        | @run run t out _ hrun ht hout =>
          exact .run (List.cons_ne_nil c run) (List.forall_mem_cons.mpr ⟨hblank, hrun⟩) ht hout
      · have ht : ¬ StartsBlank t := fun ht => hmore (startsBlank_iff.mp ht)
        exact .run (List.cons_ne_nil c []) (List.forall_mem_singleton.mpr hblank) ht ih
      · exact .kept hblank ih

/-- What stands before the last character of a text has no part in what is written behind it. -/
private theorem dashed_append_cons {rest : Text} (h : dashed (c :: b) = dashed [c] ++ dashed rest)
    (front : Text) : dashed (front ++ c :: b) = dashed (front ++ [c]) ++ dashed rest := by
  induction front with
  | nil => exact h
  | cons d front ih =>
    have hhead : (front ++ c :: b).head? = (front ++ [c]).head? := by
      rw [List.head?_append, List.head?_append, List.head?_cons, List.head?_cons]
    rw [List.cons_append, List.cons_append, dashed, dashed, hhead, ih]
    split_ifs <;> rfl

private theorem dashed_append_of_not_endsBlank (h : ¬ EndsBlank a) (b : Text) :
    dashed (a ++ b) = dashed a ++ dashed b := by
  rcases List.eq_nil_or_concat a with rfl | ⟨front, c, rfl⟩
  · rfl
  · have hc : ¬ isBlank c := by simpa [EndsBlank] using h
    rw [List.concat_eq_append, List.append_assoc, List.singleton_append]
    refine dashed_append_cons ?_ front
    rw [dashed, if_neg hc, dashed, if_neg hc]
    rfl

/-- Behind a blank the blanks in front of a text belong to a run that has its dash. -/
private theorem dashed_append_of_endsBlank (h : EndsBlank a) (b : Text) :
    dashed (a ++ b) = dashed a ++ dashed (b.dropWhile isBlank) := by
  rcases List.eq_nil_or_concat a with rfl | ⟨front, c, rfl⟩
  · simp [EndsBlank] at h
  · have hc : isBlank c := by simpa [EndsBlank] using h
    rw [List.concat_eq_append, List.append_assoc, List.singleton_append]
    refine dashed_append_cons ?_ front
    rw [dashed_blank_cons hc, dashed_blank_cons hc]
    rfl

/-- Two texts can be written apart unless a run of blanks goes across the seam. -/
private theorem dashed_append_iff (a b : Text) :
    dashed (a ++ b) = dashed a ++ dashed b ↔ ¬ (EndsBlank a ∧ StartsBlank b) := by
  by_cases ha : EndsBlank a
  · rw [dashed_append_of_endsBlank ha, List.append_cancel_left_eq, and_iff_right ha]
    constructor
    · intro hsame hb
      obtain ⟨c, b, rfl⟩ : ∃ c rest, b = c :: rest := by
        cases b with
        | nil => exact absurd hb not_startsBlank_nil
        | cons c rest => exact ⟨c, rest, rfl⟩
      rw [startsBlank_cons] at hb
      rw [dashed_blank_cons hb, List.dropWhile_cons_of_pos hb] at hsame
      exact List.cons_ne_self _ _ hsame.symm
    · exact fun hb => congrArg dashed (dropWhile_of_not_startsBlank hb)
  · exact iff_of_true (dashed_append_of_not_endsBlank ha b) fun h => ha h.1

/-- Sanitizing puts one dash in the place of every maximal run of blanks and keeps everything else.
A second time it finds nothing to do, and it can be done in parts wherever no run is cut in two. -/
theorem runs_of_blanks_sanitized (engine : Template.Engine) :
    let sanitize (t : Text) := Operation.run engine (.sanitize (.text t))
    (∀ t, ∃ out, sanitize t = pure (.value (.text out)) ∧ (∀ c ∈ out, ¬ isBlank c) ∧
        (∀ other, Dashes t other ↔ other = out) ∧ sanitize out = pure (.value (.text out))) ∧
      ∀ a b, ∃ first second whole, sanitize a = pure (.value (.text first)) ∧
        sanitize b = pure (.value (.text second)) ∧
        sanitize (a ++ b) = pure (.value (.text whole)) ∧
        (whole = first ++ second ↔ ¬ (EndsBlank a ∧ StartsBlank b)) := by
  simp only [Operation.run_sanitize]
  refine ⟨fun t => ⟨dashed t, rfl, fun _ => not_isBlank_of_mem_dashed, fun _ => dashes_iff, ?_⟩,
    fun a b => ⟨dashed a, dashed b, dashed (a ++ b), rfl, rfl, rfl, dashed_append_iff a b⟩⟩
  rw [dashed_dashed]

example : dashed "\u00a0Ann \t\u2028Lee\x1c".toList = "-Ann-Lee-".toList := by decide

end FilingName.Text
