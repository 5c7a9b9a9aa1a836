import FilingName.Proofs.Text.Row

/-! The words of a text: its runs without blanks. A blank ends a word wherever it stands, so words
with spaces between them are found again. -/
namespace FilingName.Text

structure IsWord (w : Text) : Prop where
  ne_nil : w ≠ []
  not_blank : ∀ c ∈ w, ¬ isBlank c

instance (w : Text) : Decidable (IsWord w) :=
  decidable_of_iff (w ≠ [] ∧ w.all fun c => !isBlank c)
    ⟨fun ⟨hne, hall⟩ => ⟨hne, by simpa using hall⟩, fun ⟨hne, hall⟩ => ⟨hne, by simpa using hall⟩⟩

/-- The words of a text in order, with nothing but blanks before, between and after them; a word
ends where a blank follows, or nothing. -/
inductive HasWords : Text → List Text → Prop
  | nil {gap : Text} : (∀ c ∈ gap, isBlank c) → HasWords gap []
  | cons {gap w rest : Text} {ws : List Text} : (∀ c ∈ gap, isBlank c) → IsWord w →
      startsWord rest = false → HasWords rest ws → HasWords (gap ++ w ++ rest) (w :: ws)

variable {t a b w rest : Text} {ws vs : List Text}

private theorem HasWords.isWord (h : HasWords t ws) : ∀ w ∈ ws, IsWord w := by
  induction h with
  | nil => exact fun w hin => absurd hin List.not_mem_nil
  | cons _ hword _ _ ih => exact List.forall_mem_cons.mpr ⟨hword, ih⟩

/-- Blanks in front of a text make no difference to its words. -/
private theorem HasWords.blanks_append (h : HasWords t ws) {gap : Text}
    (hgap : ∀ c ∈ gap, isBlank c) : HasWords (gap ++ t) ws := by
  cases h with
  | nil ht => exact .nil (List.forall_mem_append.mpr ⟨hgap, ht⟩)
  | cons hbefore hword hrest hwords =>
    rw [← List.append_assoc, ← List.append_assoc]
    exact .cons (List.forall_mem_append.mpr ⟨hgap, hbefore⟩) hword hrest hwords

theorem startsWord_append_blank {c : Char} (hc : isBlank c) (h : startsWord rest = false) :
    startsWord (rest ++ c :: b) = false := by
  cases rest with
  | nil => simp [startsWord, hc]
  | cons d rest => exact h

private theorem HasWords.append_blank {c : Char} (hc : isBlank c) (ha : HasWords a ws)
    (hb : HasWords b vs) : HasWords (a ++ c :: b) (ws ++ vs) := by
  have hblank : HasWords ([c] ++ b) vs := hb.blanks_append (by simpa using hc)
  induction ha with
  | nil hgap => exact hblank.blanks_append hgap
  | cons hgap hword hrest _ ih =>
    rw [List.append_assoc]
    exact .cons hgap hword (startsWord_append_blank hc hrest) ih

private theorem blanks_eq_nil {gap : Text} (hgap : ∀ c ∈ gap, isBlank c)
    (h : startsWord (gap ++ t)) : gap = [] := by
  cases gap with
  | nil => rfl
  | cons c gap =>
    have hletter : isBlank c = false := by simpa [startsWord] using h
    rw [hgap c List.mem_cons_self] at hletter
    cases hletter

/-- A letter in front of a word belongs to it. -/
private theorem HasWords.cons_letter {c : Char} (hc : ¬ isBlank c) (hstart : startsWord t)
    (h : HasWords t ws) : ∃ w vs, ws = w :: vs ∧ HasWords (c :: t) ((c :: w) :: vs) := by
  cases h with
  | nil hgap =>
    obtain rfl : t = [] := blanks_eq_nil hgap (by rwa [List.append_nil])
    cases hstart
  | @cons gap w rest vs hgap hword hrest hwords =>
    obtain rfl : gap = [] := blanks_eq_nil hgap (by rwa [← List.append_assoc])
    have hlonger : IsWord (c :: w) :=
      ⟨List.cons_ne_nil c w, List.forall_mem_cons.mpr ⟨hc, hword.not_blank⟩⟩
    exact ⟨w, vs, rfl, .cons hgap hlonger hrest hwords⟩

private theorem words_blanks_append {gap : Text} (h : ∀ c ∈ gap, isBlank c) (t : Text) :
    words (gap ++ t) = words t := by
  induction gap with
  | nil => rfl
  | cons c gap ih =>
    rw [List.forall_mem_cons] at h
    rw [List.cons_append, words, if_pos h.1, ih h.2]

theorem words_append_of_isWord (hword : IsWord w) (hrest : startsWord rest = false) :
    words (w ++ rest) = w :: words rest := by
  obtain ⟨hne, hblank⟩ := hword
  induction w with
  | nil => exact absurd rfl hne
  | cons c w ih =>
    rw [List.forall_mem_cons] at hblank
    cases w with
    | nil => simp [words, hblank.1, hrest]
    | cons d w =>
      have hmore : startsWord (d :: w ++ rest) = true := by
        simpa [startsWord] using hblank.2 d List.mem_cons_self
      rw [List.cons_append, words, if_neg hblank.1, if_pos hmore,
        ih (List.cons_ne_nil d w) hblank.2]

/-- Words are read as they stand in the text, and in no other way. -/
theorem hasWords_iff : HasWords t ws ↔ ws = words t := by
  constructor
  · intro h
    induction h with
    | nil hgap =>
      have hwords := words_blanks_append hgap []
      rw [List.append_nil] at hwords
      exact hwords.symm
    | cons hgap hword hrest _ ih =>
      rw [List.append_assoc, words_blanks_append hgap, words_append_of_isWord hword hrest, ← ih]
  · rintro rfl
    induction t with
    | nil => exact .nil fun _ hc => absurd hc List.not_mem_nil
    | cons c t ih =>
      rw [words]
      split_ifs with hblank hmore
      · have hwords : HasWords ([c] ++ t) (words t) := ih.blanks_append (by simpa using hblank)
        exact hwords
      · obtain ⟨w, vs, hwords, hlonger⟩ := ih.cons_letter hblank hmore
        rw [hwords]
        exact hlonger
      · have hletter : IsWord [c] := ⟨List.cons_ne_nil c [], by simpa using hblank⟩
        have hwords : HasWords ([] ++ [c] ++ t) ([c] :: words t) :=
          .cons (by simp) hletter (by simpa using hmore) ih
        exact hwords

theorem hasWords_words (t : Text) : HasWords t (words t) := hasWords_iff.mpr rfl

theorem isWord_of_mem_words (h : w ∈ words t) : IsWord w := (hasWords_words t).isWord w h

theorem words_of_isWord (h : IsWord w) : words w = [w] := by
  have hwords : words (w ++ []) = w :: words [] := words_append_of_isWord h rfl
  rwa [List.append_nil] at hwords

/-- A blank ends a word, and what stands behind it is read on its own. -/
private theorem words_append_blank {c : Char} (hc : isBlank c) (a b : Text) :
    words (a ++ [c] ++ b) = words a ++ words b := by
  rw [List.append_assoc]
  exact (hasWords_iff.mp ((hasWords_words a).append_blank hc (hasWords_words b))).symm

theorem words_eq_nil_iff : words t = [] ↔ ∀ c ∈ t, isBlank c := by
  constructor
  · intro h
    have hwords := hasWords_words t
    rw [h] at hwords
    cases hwords with
    | nil hgap => exact hgap
  · intro h
    have hwords := words_blanks_append h []
    rwa [List.append_nil] at hwords

/-- What is all blank has no words, and nothing is left when it is trimmed. -/
theorem trim_eq_nil_iff_words : trim t = [] ↔ words t = [] :=
  trim_eq_nil_iff.trans words_eq_nil_iff.symm

private theorem words_append_space (a b : Text) :
    words (a ++ " ".toList ++ b) = words a ++ words b :=
  words_append_blank rfl a b

theorem words_join_space (items : List Text) :
    words (join " ".toList items) = items.flatMap words := by
  by_cases h : items = []
  · rw [h]
    rfl
  · exact read_join words_append_space h

/-- Words with a space between neighbours. -/
abbrev IsSpaced : Text → List Text → Prop := IsRow " ".toList IsWord

theorem IsSpaced.words_eq (h : IsSpaced t ws) : words t = ws :=
  h.read_eq words_append_space fun _ => words_of_isWord

end FilingName.Text
