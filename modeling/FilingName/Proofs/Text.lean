import FilingName.Text
import Mathlib.Data.List.Basic
import Mathlib.Data.List.TakeWhile

/-! Parts of text: what is left between the blanks at its ends, pieces between marks, and lists
without repetition. -/
namespace FilingName.Text

theorem toNat_ofNat {n : Nat} (h : n.isValidChar) : (Char.ofNat n).toNat = n := by
  rw [Char.ofNat, dif_pos h]
  rfl

/-- Text that is added behind makes a part stand at no new place, if it has no character of it. -/
theorem prefix_drop_append_iff {part t after : Text} (h : ∀ c ∈ part, c ∉ after) (i : Nat) :
    part <+: (t ++ after).drop i ↔ part <+: t.drop i := by
  rw [List.drop_append]
  constructor
  · rintro ⟨rest, hrest⟩
    rcases List.append_eq_append_iff.mp hrest with ⟨more, hmore, -⟩ | ⟨beyond, hbeyond, hafter⟩
    · exact ⟨more, hmore.symm⟩
    · cases beyond with
      | nil => exact ⟨[], by simpa using hbeyond⟩
      | cons c beyond =>
        have hin : c ∈ after.drop (i - t.length) := by simp [hafter]
        exact absurd (List.drop_subset _ _ hin) (h c (by simp [hbeyond]))
  · exact fun hpart => hpart.trans (List.prefix_append _ _)

/-- A run of characters ends at the first one that does not belong to it. -/
theorem takeWhile_run {p : Char → Bool} {run rest : Text} {c : Char}
    (h : ∀ a ∈ run, p a) (hc : p c = false) : (run ++ c :: rest).takeWhile p = run := by
  rw [List.takeWhile_append_of_pos h, List.takeWhile_cons_of_neg (by simp [hc]), List.append_nil]

theorem dropWhile_run {p : Char → Bool} {run rest : Text} {c : Char}
    (h : ∀ a ∈ run, p a) (hc : p c = false) : (run ++ c :: rest).dropWhile p = c :: rest := by
  rw [List.dropWhile_append_of_pos h, List.dropWhile_cons_of_neg (by simp [hc])]

/-- Trimming takes away nothing but blanks, before and after what it leaves. -/
theorem exists_trim_between (t : Text) : ∃ before after, t = before ++ trim t ++ after ∧
    (∀ c ∈ before, isBlank c) ∧ ∀ c ∈ after, isBlank c := by
  let inner := t.dropWhile isBlank
  refine ⟨t.takeWhile isBlank, (inner.reverse.takeWhile isBlank).reverse, ?_, ?_, ?_⟩
  · have hend : trim t ++ (inner.reverse.takeWhile isBlank).reverse = inner := by
      rw [trim, trimEnd, ← List.reverse_append, List.takeWhile_append_dropWhile,
        List.reverse_reverse]
    rw [List.append_assoc, hend, List.takeWhile_append_dropWhile]
  · exact fun c hc => List.mem_takeWhile_imp hc
  · exact fun c hc => List.mem_takeWhile_imp (List.mem_reverse.mp hc)

theorem splitOn_ne_nil (mark : Char) (t : Text) : splitOn mark t ≠ [] := by
  cases t with
  | nil => simp [splitOn]
  | cons c t =>
    rw [splitOn]
    split
    · simp
    · split <;> simp

theorem splitOn_of_not_mem {mark : Char} {t : Text} (h : mark ∉ t) : splitOn mark t = [t] := by
  induction t with
  | nil => rfl
  | cons c t ih =>
    rw [List.mem_cons, not_or] at h
    rw [splitOn, if_neg (Ne.symm h.1), ih h.2]

/-- A mark ends one row of pieces and starts another. -/
theorem splitOn_append_cons (mark : Char) (before after : Text) :
    splitOn mark (before ++ mark :: after) = splitOn mark before ++ splitOn mark after := by
  induction before with
  | nil => simp [splitOn]
  | cons c before ih =>
    obtain ⟨piece, pieces, hp⟩ := List.exists_cons_of_ne_nil (splitOn_ne_nil mark before)
    by_cases hc : c = mark
    · simp [splitOn, hc, ih]
    · simp [splitOn, hc, ih, hp]

/-- What stands after the last mark, or the whole text if there is none. -/
def IsLastPiece (mark : Char) (t last : Text) : Prop :=
  mark ∉ last ∧ (t = last ∨ ∃ before, t = before ++ mark :: last)

theorem IsLastPiece.mem {mark c : Char} {t last : Text} (h : IsLastPiece mark t last)
    (hc : c ∈ last) : c ∈ t := by
  obtain ⟨-, rfl | ⟨before, rfl⟩⟩ := h
  · exact hc
  · exact List.mem_append_right _ (List.mem_cons_of_mem _ hc)

private theorem getLastD_splitOn {mark : Char} {t last : Text} (h : IsLastPiece mark t last) :
    (splitOn mark t).getLastD [] = last := by
  obtain ⟨hlast, rfl | ⟨before, rfl⟩⟩ := h
  · simp [splitOn_of_not_mem hlast]
  · simp [splitOn_append_cons, splitOn_of_not_mem hlast]

theorem exists_isLastPiece (mark : Char) (t : Text) : ∃ last, IsLastPiece mark t last := by
  by_cases h : mark ∈ t
  · obtain ⟨after, before, ht, hafter⟩ := List.eq_append_cons_of_mem (List.mem_reverse.mpr h)
    refine ⟨after.reverse, by simpa using hafter, .inr ⟨before.reverse, ?_⟩⟩
    simpa using congrArg List.reverse ht
  · exact ⟨t, h, .inl rfl⟩

/-- The last piece of a split is what stands after the last mark. -/
theorem isLastPiece_iff {mark : Char} {t last : Text} :
    IsLastPiece mark t last ↔ (splitOn mark t).getLastD [] = last := by
  refine ⟨getLastD_splitOn, ?_⟩
  rintro rfl
  obtain ⟨last, h⟩ := exists_isLastPiece mark t
  rwa [getLastD_splitOn h]

theorem splitLast?_of_not_mem {mark : Char} {t : Text} (h : mark ∉ t) :
    splitLast? mark t = none := by
  induction t with
  | nil => rfl
  | cons c t ih =>
    rw [List.mem_cons, not_or] at h
    rw [splitLast?, ih h.2]
    exact if_neg (Ne.symm h.1)

/-- A text is split at a mark that has no other one behind it. -/
theorem splitLast?_append_cons {mark : Char} {after : Text} (h : mark ∉ after) (before : Text) :
    splitLast? mark (before ++ mark :: after) = some (before, after) := by
  induction before with
  | nil =>
    rw [List.nil_append, splitLast?, splitLast?_of_not_mem h]
    exact if_pos rfl
  | cons c before ih => rw [List.cons_append, splitLast?, ih]

theorem mem_distinct {t : Text} {l : List Text} : t ∈ distinct l ↔ t ∈ l := by
  induction l with
  | nil => rfl
  | cons first l ih =>
    by_cases h : t = first <;> simp [distinct, ih, h]

theorem distinct_eq_nil {l : List Text} : distinct l = [] ↔ l = [] := by
  simp only [List.eq_nil_iff_forall_not_mem, mem_distinct]

theorem distinct_filter (p : Text → Bool) (l : List Text) :
    distinct (l.filter p) = (distinct l).filter p := by
  induction l with
  | nil => rfl
  | cons first l ih =>
    cases h : p first with
    | true =>
      simp only [List.filter_cons_of_pos h, distinct, ih, List.filter_filter, Bool.and_comm]
    | false =>
      rw [List.filter_cons_of_neg (by simp [h]), distinct, ih,
        List.filter_cons_of_neg (by simp [h]), List.filter_filter]
      refine List.filter_congr fun t _ => ?_
      by_cases ht : t = first <;> simp [ht, h]

/-- Of two items, the one that is listed first is met in a part of the list without the other. -/
private theorem distinct_ordered (l : List Text) :
    (distinct l).Pairwise fun a b =>
      ∃ before after, l = before ++ after ∧ a ∈ before ∧ b ∉ before := by
  induction l with
  | nil => exact .nil
  | cons first l ih =>
    rw [distinct, List.pairwise_cons]
    constructor
    · intro b hb
      have hne : b ≠ first := by simpa using (List.mem_filter.mp hb).2
      exact ⟨[first], l, rfl, by simp, by simpa using hne⟩
    · refine (ih.filter _).imp_of_mem ?_
      intro a b _ hb hab
      obtain ⟨before, after, rfl, ha, hnb⟩ := hab
      have hne : b ≠ first := by simpa using (List.mem_filter.mp hb).2
      exact ⟨first :: before, after, rfl, List.mem_cons_of_mem _ ha, by simp [hne, hnb]⟩

/-- Everything that occurs in a row is listed, and in the order in which it first occurs: some part
of the row up from its start has what is listed earlier and not yet what is listed later. -/
structure ListsOnce {α : Type} (Occurs : α → Text → Prop) (row : List α) (once : List Text) :
    Prop where
  mem_iff : ∀ t, t ∈ once ↔ ∃ x ∈ row, Occurs x t
  ordered : once.Pairwise fun a b => ∃ before after, row = before ++ after ∧
    (∃ x ∈ before, Occurs x a) ∧ ∀ x ∈ before, ¬ Occurs x b

theorem ListsOnce.nodup {α : Type} {Occurs : α → Text → Prop} {row : List α} {once : List Text}
    (h : ListsOnce Occurs row once) : once.Nodup := by
  refine h.ordered.imp ?_
  rintro a b ⟨before, after, -, ⟨x, hx, ha⟩, hb⟩ rfl
  exact hb x hx ha

theorem listsOnce_distinct {α : Type} {Occurs : α → Text → Prop} {f : α → Option Text}
    (h : ∀ x t, f x = some t ↔ Occurs x t) (row : List α) :
    ListsOnce Occurs row (distinct (row.filterMap f)) where
  mem_iff t := by simp only [mem_distinct, List.mem_filterMap, h]
  ordered := by
    refine (distinct_ordered _).imp ?_
    rintro a b ⟨found, rest, hsplit, ha, hb⟩
    obtain ⟨before, after, rfl, rfl, -⟩ := List.filterMap_eq_append_iff.mp hsplit
    refine ⟨before, after, rfl, ?_, ?_⟩
    · simpa only [List.mem_filterMap, h] using ha
    · intro x hx hoccurs
      exact hb (List.mem_filterMap.mpr ⟨x, hx, (h x b).mpr hoccurs⟩)

/-- A text ends as what stands last in it. -/
theorem not_suffix_append {c : Char} {t u : Text} (hu : u ≠ []) (h : ¬ [c] <:+ u) :
    ¬ [c] <:+ t ++ u := fun hin =>
  h (List.suffix_of_suffix_length_le hin (List.suffix_append t u) (List.length_pos_of_ne_nil hu))

end FilingName.Text
