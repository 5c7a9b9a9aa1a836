import FilingName.Proofs.Text
import FilingName.Text.LetterCase

/-! What a change of case keeps. Blanks stay, and so do characters of the basic alphabet that are no
letters, and none of them is made out of another character; and no text vanishes. -/
namespace FilingName.Text

/-- Digits, blanks, controls and punctuation of the basic alphabet. -/
def isMark (c : Char) : Bool :=
  c.toNat < 128 && !(65 ≤ c.toNat && c.toNat ≤ 90) && !(97 ≤ c.toNat && c.toNat ≤ 122)

/-- A range of characters without marks. -/
private abbrev Unmarked (first last : Int) : Prop :=
  (128 ≤ first ∧ last < 0xD800) ∨ (0xE000 ≤ first ∧ last < 0x110000) ∨
    (65 ≤ first ∧ last ≤ 90) ∨ (97 ≤ first ∧ last ≤ 122)

private theorem not_isMark_of_unmarked {first last n : Int} (h : Unmarked first last)
    (hfirst : first ≤ n) (hlast : n ≤ last) : isMark (Char.ofNat n.toNat) = false := by
  have hvalid : n.toNat.isValidChar := by
    rw [Nat.isValidChar]
    omega
  have htoNat := toNat_ofNat hvalid
  simp only [isMark, htoNat, Bool.and_eq_false_iff, Bool.not_eq_false', Bool.and_eq_true,
    decide_eq_true_eq, decide_eq_false_iff_not]
  omega

/-- A range of characters that lies in one of the gaps between blanks. -/
private abbrev Blankless (first last : Int) : Prop :=
  (33 ≤ first ∧ last < 0x85) ∨ (0xA1 ≤ first ∧ last < 0x1680) ∨ (0x1681 ≤ first ∧ last < 0x2000) ∨
    (0x2060 ≤ first ∧ last < 0x3000) ∨ (0x3001 ≤ first ∧ last < 0xD800) ∨
    (0xE000 ≤ first ∧ last < 0x110000)

private theorem not_isBlank_of_blankless {first last n : Int} (h : Blankless first last)
    (hfirst : first ≤ n) (hlast : n ≤ last) : isBlank (Char.ofNat n.toNat) = false := by
  have hvalid : n.toNat.isValidChar := by
    rw [Nat.isValidChar]
    omega
  have htoNat := toNat_ofNat hvalid
  simp only [isBlank, htoNat, Bool.or_eq_false_iff, Bool.and_eq_false_iff, beq_eq_false_iff_ne,
    decide_eq_false_iff_not]
  omega

/-- The code points of a run. -/
def CaseRun.Holds (run : CaseRun) (n : Nat) : Prop :=
  run.first ≤ n ∧ n ≤ run.last ∧ (n - run.first) % run.step = 0

private theorem CaseRun.shift?_eq_some {runs : List CaseRun} {n : Nat} {shift : Int}
    (h : CaseRun.shift? runs n = some shift) :
    ∃ run ∈ runs, run.Holds n ∧ run.shift = shift := by
  induction runs with
  | nil => cases h
  | cons run runs ih =>
    rw [CaseRun.shift?] at h
    split_ifs at h with hfirst hlast hstep
    · obtain ⟨run', hin, hrun⟩ := ih h
      exact ⟨run', List.mem_cons_of_mem _ hin, hrun⟩
    · exact ⟨run, List.mem_cons_self,
        ⟨Nat.le_of_not_lt hfirst, Nat.le_of_not_lt hlast, hstep⟩, Option.some.inj h⟩

/-- A character changes case by an entry of the table, by a run that holds it, or not at all. -/
theorem changeCase_cases (expansions : List (Nat × List Nat)) (runs : List CaseRun) (c : Char) :
    (∃ codes, (c.toNat, codes) ∈ expansions ∧
        changeCase expansions runs c = codes.map Char.ofNat) ∨
      (∃ run ∈ runs, run.Holds c.toNat ∧
        changeCase expansions runs c = [Char.ofNat (c.toNat + run.shift).toNat]) ∨
      changeCase expansions runs c = [c] := by
  unfold changeCase
  split
  · next codes hcodes =>
    obtain ⟨before, after, hsplit, -⟩ := List.lookup_eq_some_iff.mp hcodes
    exact .inl ⟨codes, by simp [hsplit], rfl⟩
  · split
    · next shift hshift =>
      obtain ⟨run, hin, hholds, rfl⟩ := CaseRun.shift?_eq_some hshift
      exact .inr (.inl ⟨run, hin, hholds, rfl⟩)
    · exact .inr (.inr rfl)

variable {kind : Char → Bool}

/-- Tables that lead to no character of a kind change no other character into one. -/
private theorem eq_of_mem_changeCase {expansions : List (Nat × List Nat)} {runs : List CaseRun}
    (hexpansions : ∀ entry ∈ expansions, ∀ code ∈ entry.2, kind (Char.ofNat code) = false)
    (hruns : ∀ run ∈ runs, ∀ n : Int, run.first + run.shift ≤ n → n ≤ run.last + run.shift →
      kind (Char.ofNat n.toNat) = false)
    {c d : Char} (hd : d ∈ changeCase expansions runs c) (hkind : kind d) : d = c := by
  rcases changeCase_cases expansions runs c with
    ⟨codes, hentry, hchange⟩ | ⟨run, hin, ⟨hfirst, hlast, -⟩, hchange⟩ | hchange
  · rw [hchange] at hd
    obtain ⟨code, hcode, rfl⟩ := List.mem_map.mp hd
    rw [hexpansions _ hentry code hcode] at hkind
    cases hkind
  · have hnot := hruns run hin (c.toNat + run.shift) (by omega) (by omega)
    rw [hchange] at hd
    rw [List.mem_singleton.mp hd, hnot] at hkind
    cases hkind
  · rw [hchange] at hd
    exact List.mem_singleton.mp hd

/-- A kind of characters that no change of case makes out of other characters. -/
structure NeverMade (kind : Char → Bool) : Prop where
  upper : ∀ {c d : Char}, d ∈ upperOf c → kind d → d = c
  lower : ∀ {c d : Char}, d ∈ lowerOf c → kind d → d = c
  sigmas : kind 'σ' = false ∧ kind 'ς' = false

/-- It is enough that no run of the tables leads to a stretch that has characters of the kind. -/
private theorem neverMade_of_tables {Free : Int → Int → Prop}
    (hfree : ∀ {first last n : Int}, Free first last → first ≤ n → n ≤ last →
      kind (Char.ofNat n.toNat) = false)
    (hexpansions : ∀ entry ∈ upperExpansions ++ lowerExpansions, ∀ code ∈ entry.2,
      kind (Char.ofNat code) = false)
    (hruns : ∀ run ∈ CaseRun.upper ++ CaseRun.lower,
      Free (run.first + run.shift) (run.last + run.shift))
    (hsigmas : kind 'σ' = false ∧ kind 'ς' = false) : NeverMade kind where
  upper := eq_of_mem_changeCase (fun entry hin => hexpansions entry (List.mem_append_left _ hin))
    fun run hin _ => hfree (hruns run (List.mem_append_left _ hin))
  lower := eq_of_mem_changeCase (fun entry hin => hexpansions entry (List.mem_append_right _ hin))
    fun run hin _ => hfree (hruns run (List.mem_append_right _ hin))
  sigmas := hsigmas

theorem neverMade_isMark : NeverMade isMark :=
  neverMade_of_tables not_isMark_of_unmarked (by decide +kernel) (by decide +kernel) (by decide)

theorem neverMade_isBlank : NeverMade isBlank :=
  neverMade_of_tables not_isBlank_of_blankless (by decide +kernel) (by decide +kernel) (by decide)

private theorem NeverMade.mem_of_mem_lowerAfter (h : NeverMade kind) {afterCased : Bool} {t : Text}
    {d : Char} (hd : d ∈ lowerAfter afterCased t) (hkind : kind d) : d ∈ t := by
  induction t generalizing afterCased with
  | nil => cases hd
  | cons c t ih =>
    have hsigma {sigma : Char} (hnot : kind sigma = false) (heq : d ∈ [sigma]) : False := by
      rw [List.mem_singleton.mp heq, hnot] at hkind
      cases hkind
    rw [lowerAfter] at hd
    rcases List.mem_append.mp hd with hform | hrest
    · split_ifs at hform
      · exact (hsigma h.sigmas.2 hform).elim
      · exact (hsigma h.sigmas.1 hform).elim
      · exact h.lower hform hkind ▸ List.mem_cons_self
    · exact List.mem_cons_of_mem _ (ih hrest)

/-- What is never made and stands in the upper case of a text stood in the text before, and likewise
for the other changes of case. -/
theorem NeverMade.mem_of_mem_upper (h : NeverMade kind) {t : Text} {d : Char}
    (hd : d ∈ Text.upper t) (hkind : kind d) : d ∈ t := by
  obtain ⟨c, hc, hd⟩ := List.mem_flatMap.mp hd
  exact h.upper hd hkind ▸ hc

theorem NeverMade.mem_of_mem_lower (h : NeverMade kind) {t : Text} {d : Char}
    (hd : d ∈ Text.lower t) (hkind : kind d) : d ∈ t :=
  h.mem_of_mem_lowerAfter hd hkind

theorem NeverMade.mem_of_mem_titleCase (h : NeverMade kind) {t : Text} {d : Char}
    (hd : d ∈ titleCase t) (hkind : kind d) : d ∈ t := by
  induction t using titleCase.induct with
  | case1 => simp [titleCase] at hd
  | case2 c rest hword ih =>
    rw [titleCase, if_pos hword, List.mem_append, List.mem_append] at hd
    rcases hd with (hfirst | hrun) | hrest
    · exact h.upper hfirst hkind ▸ List.mem_cons_self
    · have hin := h.mem_of_mem_lower hrun hkind
      exact List.mem_cons_of_mem _ ((List.takeWhile_prefix _).subset hin)
    · exact List.mem_cons_of_mem _ ((List.dropWhile_suffix _).subset (ih hrest))
  | case3 c rest hword ih =>
    rw [titleCase, if_neg hword] at hd
    rcases List.mem_cons.mp hd with rfl | hrest
    · exact List.mem_cons_self
    · exact List.mem_cons_of_mem _ (ih hrest)

private theorem changeCase_ne_nil {expansions : List (Nat × List Nat)} {runs : List CaseRun}
    (h : ∀ entry ∈ expansions, entry.2 ≠ []) (c : Char) : changeCase expansions runs c ≠ [] := by
  rcases changeCase_cases expansions runs c with
    ⟨codes, hentry, hchange⟩ | ⟨run, -, -, hchange⟩ | hchange
  · simpa [hchange] using h _ hentry
  · simp [hchange]
  · simp [hchange]

theorem upperOf_ne_nil (c : Char) : upperOf c ≠ [] := changeCase_ne_nil (by decide) c

private theorem lowerOf_ne_nil (c : Char) : lowerOf c ≠ [] := changeCase_ne_nil (by decide) c

theorem upper_ne_nil {t : Text} (h : t ≠ []) : upper t ≠ [] := by
  obtain ⟨c, rest, rfl⟩ := List.exists_cons_of_ne_nil h
  exact List.append_ne_nil_of_left_ne_nil (upperOf_ne_nil c) _

theorem lower_ne_nil {t : Text} (h : t ≠ []) : lower t ≠ [] := by
  obtain ⟨c, rest, rfl⟩ := List.exists_cons_of_ne_nil h
  rw [lower, lowerAfter]
  refine List.append_ne_nil_of_left_ne_nil ?_ _
  split_ifs
  · exact List.cons_ne_nil _ _
  · exact List.cons_ne_nil _ _
  · exact lowerOf_ne_nil c

theorem titleCase_ne_nil {t : Text} (h : t ≠ []) : titleCase t ≠ [] := by
  obtain ⟨c, rest, rfl⟩ := List.exists_cons_of_ne_nil h
  rw [titleCase]
  split_ifs
  · rw [List.append_assoc]
    exact List.append_ne_nil_of_left_ne_nil (upperOf_ne_nil c) _
  · exact List.cons_ne_nil _ _

end FilingName.Text
