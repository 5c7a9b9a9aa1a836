import FilingName.Proofs.Text.LetterCase

/-! Changing case twice. The tables of upper and of lower case never lead to a character that they
would change again, so a text in upper or lower case stays as it is. -/
namespace FilingName.Text

namespace CaseRun

/-- The run of one code point. -/
def single (n : Nat) : CaseRun := ⟨n, n, 1, 0⟩

/-- What a run becomes when its case is changed. -/
def image (run : CaseRun) : CaseRun :=
  ⟨(run.first + run.shift).toNat, (run.last + run.shift).toNat, run.step, 0⟩

/-- Whether all code points of the run are even or all are odd. -/
def isAlternate (run : CaseRun) : Bool := Nat.beq run.step 2 || Nat.beq run.first run.last

/-- Whether two runs have nothing in common, for they lie apart or alternate with each other. -/
def isApart (run other : CaseRun) : Bool :=
  Nat.blt run.last other.first || Nat.blt other.last run.first
    || (run.isAlternate && other.isAlternate && Nat.beq ((run.first + other.first) % 2) 1)

/-- Whether nothing of the run is in a row of runs; those that start beyond it are not looked at. -/
def avoids (run : CaseRun) : List CaseRun → Bool
  | [] => true
  | other :: rest => Nat.blt run.last other.first || (run.isApart other && avoids run rest)

variable {run other : CaseRun} {runs : List CaseRun} {n : Nat}

private theorem holds_single (n : Nat) : (single n).Holds n :=
  ⟨Nat.le_refl n, Nat.le_refl n, Nat.mod_one _⟩

theorem Holds.image (h : run.Holds n) (hpositive : 0 ≤ run.first + run.shift) :
    run.image.Holds (n + run.shift).toNat := by
  obtain ⟨hfirst, hlast, hstep⟩ := h
  refine ⟨?_, ?_, ?_⟩
  · simp only [CaseRun.image]
    omega
  · simp only [CaseRun.image]
    omega
  · have hsame : (n + run.shift).toNat - (run.first + run.shift).toNat = n - run.first := by omega
    rw [CaseRun.image, hsame, hstep]

private theorem Holds.mod_two (h : run.Holds n) (halternate : run.isAlternate) :
    n % 2 = run.first % 2 := by
  obtain ⟨hfirst, hlast, hstep⟩ := h
  rw [isAlternate, Bool.or_eq_true, Nat.beq_eq, Nat.beq_eq] at halternate
  rcases halternate with htwo | hone
  · rw [htwo] at hstep
    omega
  · omega

private theorem Holds.not_holds (h : run.Holds n) (hapart : run.isApart other) :
    ¬ other.Holds n := by
  intro hother
  have ⟨hfirst, hlast, _⟩ := h
  have ⟨hfirst', hlast', _⟩ := hother
  simp only [isApart, Bool.or_eq_true, Bool.and_eq_true, Nat.blt_eq, Nat.beq_eq] at hapart
  rcases hapart with (hbefore | hbehind) | ⟨⟨halternate, halternate'⟩, hodd⟩
  · omega
  · omega
  · have heven := h.mod_two halternate
    have heven' := hother.mod_two halternate'
    omega

private theorem Holds.shift?_eq_none (h : run.Holds n) (havoids : run.avoids runs) :
    shift? runs n = none := by
  induction runs with
  | nil => rfl
  | cons other rest ih =>
    simp only [avoids, Bool.or_eq_true, Bool.and_eq_true, Nat.blt_eq] at havoids
    have hlast : n ≤ run.last := h.2.1
    rw [shift?]
    split_ifs with hbefore hbehind hstep
    · rfl
    · rcases havoids with hbeyond | ⟨-, hrest⟩
      · omega
      · exact ih hrest
    · rcases havoids with hbeyond | ⟨hapart, -⟩
      · omega
      · exact absurd ⟨Nat.le_of_not_lt hbefore, Nat.le_of_not_lt hbehind, hstep⟩
          (h.not_holds hapart)
    · rfl

end CaseRun

section
variable {expansions : List (Nat × List Nat)} {runs : List CaseRun} {run : CaseRun} {c d : Char}

/-- Whether a run is made of characters and a table of letter case changes none of them. -/
def leavesRun (expansions : List (Nat × List Nat)) (runs : List CaseRun) (run : CaseRun) : Bool :=
  (Nat.blt run.last 0xD800 || (Nat.blt 0xDFFF run.first && Nat.blt run.last 0x110000))
    && run.avoids runs && expansions.all fun entry => run.isApart (.single entry.1)

/-- Whether a table leads to nothing but characters that it does not change. -/
def isFinal (expansions : List (Nat × List Nat)) (runs : List CaseRun) : Bool :=
  (runs.all fun run => 0 ≤ run.first + run.shift && leavesRun expansions runs run.image)
    && expansions.all fun entry => entry.2.all fun code => leavesRun expansions runs (.single code)

private theorem changeCase_of_leavesRun (h : leavesRun expansions runs run)
    (hc : run.Holds c.toNat) : changeCase expansions runs c = [c] := by
  simp only [leavesRun, Bool.and_eq_true, List.all_eq_true] at h
  have hexpansion : expansions.lookup c.toNat = none := by
    refine List.lookup_eq_none_iff.mpr fun entry hentry => bne_iff_ne.mpr fun he => ?_
    exact hc.not_holds (h.2 entry hentry) (he ▸ CaseRun.holds_single _)
  rw [changeCase, hexpansion, hc.shift?_eq_none h.1.2]

/-- A code point of such a run is that of a character. -/
theorem toNat_ofNat_of_leavesRun (h : leavesRun expansions runs run) {n : Nat}
    (hn : run.Holds n) : (Char.ofNat n).toNat = n := by
  simp only [leavesRun, Bool.and_eq_true, Bool.or_eq_true, Nat.blt_eq] at h
  have ⟨hfirst, hlast, _⟩ := hn
  apply toNat_ofNat
  rw [Nat.isValidChar]
  omega

private theorem changeCase_ofNat (h : leavesRun expansions runs run) {n : Nat}
    (hn : run.Holds n) : changeCase expansions runs (Char.ofNat n) = [Char.ofNat n] :=
  changeCase_of_leavesRun h (by rwa [toNat_ofNat_of_leavesRun h hn])

/-- Where a table leads, it leads no further. -/
private theorem changeCase_of_mem (h : isFinal expansions runs)
    (hd : d ∈ changeCase expansions runs c) : changeCase expansions runs d = [d] := by
  simp only [isFinal, Bool.and_eq_true, List.all_eq_true, decide_eq_true_eq] at h
  rcases changeCase_cases expansions runs c with
    ⟨codes, hentry, hchange⟩ | ⟨run, hin, hrun, hchange⟩ | hchange
  · rw [hchange] at hd
    obtain ⟨code, hcode, rfl⟩ := List.mem_map.mp hd
    exact changeCase_ofNat (h.2 _ hentry code hcode) (CaseRun.holds_single code)
  · obtain ⟨hpositive, hleaves⟩ := h.1 run hin
    rw [hchange] at hd
    rw [List.mem_singleton.mp hd]
    exact changeCase_ofNat hleaves (hrun.image hpositive)
  · rw [hchange] at hd
    rwa [List.mem_singleton.mp hd]

end

theorem isFinal_upper : isFinal upperExpansions CaseRun.upper := by decide +kernel

theorem upperOf_of_mem {c d : Char} (h : d ∈ upperOf c) : upperOf d = [d] :=
  changeCase_of_mem isFinal_upper h

private theorem lowerOf_of_mem {c d : Char} (h : d ∈ lowerOf c) : lowerOf d = [d] :=
  changeCase_of_mem (by decide +kernel) h

/-- Of the three sigmas the two small ones are their own lower case. -/
private theorem lowerOf_sigma :
    lowerOf 'Σ' ≠ ['Σ'] ∧ lowerOf 'σ' = ['σ'] ∧ lowerOf 'ς' = ['ς'] := by
  decide +kernel

private theorem upper_of_forall {t : Text} (h : ∀ c ∈ t, upperOf c = [c]) : upper t = t := by
  rw [upper, List.flatMap_congr h, List.flatMap_singleton']

/-- No sigma is left that would take its form from its place. -/
private theorem lowerAfter_of_forall {t : Text} (h : ∀ c ∈ t, lowerOf c = [c])
    (afterCased : Bool) : lowerAfter afterCased t = t := by
  induction t generalizing afterCased with
  | nil => rfl
  | cons c rest ih =>
    rw [List.forall_mem_cons] at h
    have hsigma : c ≠ 'Σ' := by
      rintro rfl
      exact lowerOf_sigma.1 h.1
    rw [lowerAfter, if_neg hsigma, h.1, ih h.2, List.singleton_append]

private theorem mem_lowerAfter {afterCased : Bool} {t : Text} {d : Char} (hd : lowerOf d = [d])
    (h : d ∈ t) : d ∈ lowerAfter afterCased t := by
  induction t generalizing afterCased with
  | nil => cases h
  | cons c rest ih =>
    rw [lowerAfter, List.mem_append]
    rcases List.mem_cons.mp h with rfl | hrest
    · have hsigma : d ≠ 'Σ' := by
        rintro rfl
        exact lowerOf_sigma.1 hd
      rw [if_neg hsigma, hd]
      exact .inl List.mem_cons_self
    · exact .inr (ih hrest)

/-- A character that is its own lower case is still there when the case is changed. -/
theorem mem_lower {t : Text} {d : Char} (hd : lowerOf d = [d]) (h : d ∈ t) : d ∈ lower t :=
  mem_lowerAfter hd h

private theorem lower_of_forall {t : Text} (h : ∀ c ∈ t, lowerOf c = [c]) : lower t = t :=
  lowerAfter_of_forall h false

private theorem lowerOf_of_mem_lowerAfter {afterCased : Bool} {t : Text} {d : Char}
    (h : d ∈ lowerAfter afterCased t) : lowerOf d = [d] := by
  induction t generalizing afterCased with
  | nil => cases h
  | cons c rest ih =>
    rw [lowerAfter] at h
    rcases List.mem_append.mp h with hform | hrest
    · split_ifs at hform
      · exact List.mem_singleton.mp hform ▸ lowerOf_sigma.2.2
      · exact List.mem_singleton.mp hform ▸ lowerOf_sigma.2.1
      · exact lowerOf_of_mem hform
    · exact ih hrest

/-- A text in lower case is one of characters that are their own lower case. -/
theorem lower_eq_self_iff {t : Text} : lower t = t ↔ ∀ c ∈ t, lowerOf c = [c] := by
  refine ⟨fun h c hc => ?_, lower_of_forall⟩
  rw [← h] at hc
  exact lowerOf_of_mem_lowerAfter hc

/-- A text in upper case is its own upper case. -/
theorem upper_upper (t : Text) : upper (upper t) = upper t := by
  refine upper_of_forall fun d hd => ?_
  obtain ⟨c, -, hd⟩ := List.mem_flatMap.mp hd
  exact upperOf_of_mem hd

/-- A text in lower case is its own lower case, for a sigma that has its form keeps it. -/
theorem lower_lower (t : Text) : lower (lower t) = lower t :=
  lower_of_forall fun _ hd => lowerOf_of_mem_lowerAfter hd

end FilingName.Text
