import FilingName.Proofs.Text
import Mathlib.Data.List.Forall2

/-! Texts that are rows of items. Parts that are joined are found again by whatever takes their
separator for the end of a part; and a part is read without the blanks at its ends. -/
namespace FilingName.Text

/-- A text that consists of items, of one at least, with a separator between neighbours. -/
structure IsRow (separator : Text) (IsItem : Text → Prop) (t : Text) (items : List Text) :
    Prop where
  ne_nil : items ≠ []
  isItem : ∀ item ∈ items, IsItem item
  join_eq : join separator items = t

variable {separator : Text} {IsItem : Text → Prop}

theorem join_cons {items : List Text} (h : items ≠ []) (item : Text) :
    join separator (item :: items) = item ++ separator ++ join separator items :=
  List.intercalate_cons_of_ne_nil h

theorem join_singleton (item : Text) : join separator [item] = item := List.intercalate_singleton

theorem join_append {items more : List Text} (hitems : items ≠ []) (hmore : more ≠ []) :
    join separator (items ++ more) = join separator items ++ separator ++ join separator more := by
  induction items with
  | nil => exact absurd rfl hitems
  | cons item items ih =>
    rw [List.cons_append, join_cons (List.append_ne_nil_of_right_ne_nil items hmore)]
    by_cases hlast : items = []
    · rw [hlast, List.nil_append, join_singleton]
    · rw [ih hlast, join_cons hlast]
      simp only [List.append_assoc]

/-- What stands in a row stands in one of its items or in the separator. -/
theorem mem_join {items : List Text} {c : Char} (h : c ∈ join separator items) :
    c ∈ separator ∨ ∃ item ∈ items, c ∈ item := by
  induction items with
  | nil => cases h
  | cons item items ih =>
    by_cases hlast : items = []
    · rw [hlast, join_singleton] at h
      exact .inr ⟨item, List.mem_cons_self, h⟩
    · rw [join_cons hlast, List.mem_append, List.mem_append] at h
      rcases h with (hitem | hseparator) | hrest
      · exact .inr ⟨item, List.mem_cons_self, hitem⟩
      · exact .inl hseparator
      · rcases ih hrest with hseparator | ⟨other, hin, hc⟩
        · exact .inl hseparator
        · exact .inr ⟨other, List.mem_cons_of_mem _ hin, hc⟩

/-- What stands in an item stands in the row. -/
theorem mem_join_of_mem {items : List Text} {item : Text} {c : Char} (hitem : item ∈ items)
    (hc : c ∈ item) : c ∈ join separator items := by
  induction items with
  | nil => cases hitem
  | cons first items ih =>
    by_cases hlast : items = []
    · rw [hlast, List.mem_singleton] at hitem
      rwa [hlast, join_singleton, ← hitem]
    · rw [join_cons hlast, List.mem_append, List.mem_append]
      rcases List.mem_cons.mp hitem with rfl | hin
      · exact .inl (.inl hc)
      · exact .inr (ih hin)

/-- A character in front of the first item is one in front of the row. -/
private theorem join_cons_cons (c : Char) (item : Text) (items : List Text) :
    join separator ((c :: item) :: items) = c :: join separator (item :: items) := by
  by_cases h : items = []
  · rw [h, join_singleton, join_singleton]
  · rw [join_cons h, join_cons h]
    rfl

theorem IsRow.single {t : Text} (h : IsItem t) : IsRow separator IsItem t [t] where
  ne_nil := List.cons_ne_nil t []
  isItem := by simpa using h
  join_eq := join_singleton t

/-- What reads two texts with a separator between them one after the other reads all the items of a
row one after the other. -/
theorem read_join {α : Type} {read : Text → List α}
    (h : ∀ a b, read (a ++ separator ++ b) = read a ++ read b) {items : List Text}
    (hitems : items ≠ []) : read (join separator items) = items.flatMap read := by
  induction items with
  | nil => exact absurd rfl hitems
  | cons item items ih =>
    by_cases hlast : items = []
    · rw [hlast, join_singleton, List.flatMap_singleton]
    · rw [join_cons hlast, h, ih hlast, List.flatMap_cons]

/-- A row is read as its items, if every item is read as itself. -/
theorem IsRow.read_eq {read : Text → List Text}
    (h : ∀ a b, read (a ++ separator ++ b) = read a ++ read b)
    (hitem : ∀ item, IsItem item → read item = [item]) {t : Text} {items : List Text}
    (hrow : IsRow separator IsItem t items) : read t = items := by
  rw [← hrow.join_eq, read_join h hrow.ne_nil,
    List.flatMap_congr fun item hin => hitem item (hrow.isItem item hin)]
  exact List.flatMap_singleton' items

private theorem splitOn_append_mark (mark : Char) (a b : Text) :
    splitOn mark (a ++ [mark] ++ b) = splitOn mark a ++ splitOn mark b := by
  rw [List.append_assoc, List.singleton_append, splitOn_append_cons]

/-- The pieces between marks, with the marks between them, are the text. -/
theorem isRow_splitOn (mark : Char) (t : Text) : IsRow [mark] (mark ∉ ·) t (splitOn mark t) := by
  induction t with
  | nil => exact .single List.not_mem_nil
  | cons c t ih =>
    obtain ⟨piece, pieces, hpieces⟩ := List.exists_cons_of_ne_nil ih.ne_nil
    have hjoin := ih.join_eq
    rw [splitOn]
    split_ifs with hmark
    · refine ⟨List.cons_ne_nil _ _, List.forall_mem_cons.mpr ⟨List.not_mem_nil, ih.isItem⟩, ?_⟩
      rw [join_cons ih.ne_nil, hjoin, hmark]
      rfl
    · have hitems := ih.isItem
      rw [hpieces] at hitems hjoin ⊢
      rw [List.forall_mem_cons] at hitems
      have hpiece : mark ∉ c :: piece :=
        List.not_mem_cons_of_ne_of_not_mem (Ne.symm hmark) hitems.1
      refine ⟨List.cons_ne_nil _ _, List.forall_mem_cons.mpr ⟨hpiece, hitems.2⟩, ?_⟩
      rw [join_cons_cons, hjoin]

theorem isRow_mark_iff {mark : Char} {t : Text} {pieces : List Text} :
    IsRow [mark] (mark ∉ ·) t pieces ↔ pieces = splitOn mark t := by
  constructor
  · intro h
    exact (h.read_eq (splitOn_append_mark mark) fun _ => splitOn_of_not_mem).symm
  · rintro rfl
    exact isRow_splitOn mark t

/-- No blank stands at either end. -/
structure Trimmed (t : Text) : Prop where
  head : ∀ c ∈ t.head?, ¬ isBlank c
  last : ∀ c ∈ t.getLast?, ¬ isBlank c

/-- What is left of a text without the blanks at its ends. -/
structure Trims (t inner : Text) : Prop where
  between : ∃ before after, t = before ++ inner ++ after ∧
    (∀ c ∈ before, isBlank c) ∧ ∀ c ∈ after, isBlank c
  trimmed : Trimmed inner

private theorem dropWhile_of_head {t : Text} (h : ∀ c ∈ t.head?, ¬ isBlank c) :
    t.dropWhile isBlank = t := by
  cases t with
  | nil => rfl
  | cons c t => exact List.dropWhile_cons_of_neg (h c rfl)

theorem trim_blanks_append {before : Text} (h : ∀ c ∈ before, isBlank c) (t : Text) :
    trim (before ++ t) = trim t := by
  rw [trim, List.dropWhile_append_of_pos h, trim]

private theorem trimEnd_append_blanks {after : Text} (h : ∀ c ∈ after, isBlank c) (t : Text) :
    trimEnd (t ++ after) = trimEnd t := by
  rw [trimEnd, List.reverse_append, List.dropWhile_append_of_pos (by simpa using h), trimEnd]

private theorem trim_append_blanks {after : Text} (h : ∀ c ∈ after, isBlank c) (t : Text) :
    trim (t ++ after) = trim t := by
  rw [trim, List.dropWhile_append]
  split_ifs with hblank
  · have hafter : after.dropWhile isBlank = [] := List.dropWhile_eq_nil_iff.mpr h
    rw [hafter, trim, List.isEmpty_iff.mp hblank]
  · rw [trimEnd_append_blanks h, trim]

theorem trim_of_trimmed {t : Text} (h : Trimmed t) : trim t = t := by
  have hlast : ∀ c ∈ t.reverse.head?, ¬ isBlank c := by
    rw [List.head?_reverse]
    exact h.last
  rw [trim, dropWhile_of_head h.head, trimEnd, dropWhile_of_head hlast, List.reverse_reverse]

private theorem not_isBlank_of_head?_dropWhile {t : Text} {c : Char}
    (h : c ∈ (t.dropWhile isBlank).head?) : ¬ isBlank c := by
  have hstop := List.head?_dropWhile_not isBlank t
  rw [Option.mem_def.mp h] at hstop
  simpa using hstop

theorem trimmed_trim (t : Text) : Trimmed (trim t) where
  head := by
    intro c hc
    have hprefix : trim t <+: t.dropWhile isBlank := by
      rw [trim, trimEnd, ← List.reverse_suffix, List.reverse_reverse]
      exact List.dropWhile_suffix _
    obtain ⟨rest, hrest⟩ := hprefix
    have hhead : c ∈ (t.dropWhile isBlank).head? := by
      rw [← hrest, List.head?_append, Option.mem_def.mp hc]
      rfl
    exact not_isBlank_of_head?_dropWhile hhead
  last := by
    intro c hc
    rw [trim, trimEnd, List.getLast?_reverse] at hc
    exact not_isBlank_of_head?_dropWhile hc

/-- Trimming leaves all but the blanks at both ends. -/
theorem trims_iff {t inner : Text} : Trims t inner ↔ inner = trim t := by
  constructor
  · rintro ⟨⟨before, after, rfl, hbefore, hafter⟩, htrimmed⟩
    rw [trim_append_blanks hafter, trim_blanks_append hbefore, trim_of_trimmed htrimmed]
  · rintro rfl
    exact ⟨exists_trim_between t, trimmed_trim t⟩

private theorem Trimmed.append {a b : Text} (ha : Trimmed a) (hb : Trimmed b) (hane : a ≠ [])
    (hbne : b ≠ []) (between : Text) : Trimmed (a ++ between ++ b) where
  head := by
    rw [List.append_assoc, List.head?_append_of_ne_nil _ hane]
    exact ha.head
  last := by
    rw [List.getLast?_append_of_ne_nil _ hbne]
    exact hb.last

/-- A row has something in it and no blanks at its ends, if that is so for its items. -/
theorem IsRow.trimmed {separator : Text} {IsItem : Text → Prop} {t : Text} {items : List Text}
    (h : IsRow separator IsItem t items) (hitem : ∀ item, IsItem item → item ≠ [] ∧ Trimmed item) :
    t ≠ [] ∧ Trimmed t := by
  obtain ⟨hne, hitems, rfl⟩ := h
  induction items with
  | nil => exact absurd rfl hne
  | cons item items ih =>
    rw [List.forall_mem_cons] at hitems
    obtain ⟨hfirst, htrimmed⟩ := hitem item hitems.1
    by_cases hlast : items = []
    · rw [hlast, join_singleton]
      exact ⟨hfirst, htrimmed⟩
    · obtain ⟨hrest, hresttrimmed⟩ := ih hlast hitems.2
      rw [join_cons hlast]
      refine ⟨List.append_ne_nil_of_right_ne_nil _ hrest, ?_⟩
      exact htrimmed.append hresttrimmed hfirst hrest separator

theorem trim_eq_nil_iff {t : Text} : trim t = [] ↔ ∀ c ∈ t, isBlank c := by
  constructor
  · intro h
    obtain ⟨before, after, ht, hbefore, hafter⟩ := exists_trim_between t
    rw [ht, h, List.append_nil]
    exact List.forall_mem_append.mpr ⟨hbefore, hafter⟩
  · intro h
    exact (trims_iff.mp ⟨⟨t, [], by simp, h, by simp⟩, by simp, by simp⟩).symm

end FilingName.Text
