import FilingName.Proofs.Operation
import FilingName.Proofs.Text.LetterCase.Stability
import FilingName.Proofs.Text.Words

/-! Title case. Every run without blanks is put into it on its own: the first word character becomes
upper case, what follows it lower case. When a text is in title case, words start again where they
started before. Of a first character that became several in upper case only the first one is an
initial then, and the others become lower case with the rest of the word; after that nothing changes
any more. -/
namespace FilingName.Text

/-- Whether a stretch of code points lies within one of the ranges. -/
def Ranges.covers : Ranges → Nat → Nat → Bool
  | [], _, _ => false
  | (first, last) :: rest, low, high =>
    Nat.ble first low && (Nat.ble high last || covers rest low high)

/-- Whether a stretch of code points has nothing in common with the ranges. -/
def Ranges.misses : Ranges → Nat → Nat → Bool
  | [], _, _ => true
  | (first, last) :: rest, low, high =>
    Nat.blt high first || (Nat.blt last low && misses rest low high)

section
variable {ranges : Ranges} {n low high : Nat}

private theorem Ranges.has_of_covers (h : ranges.covers low high) (hlow : low ≤ n)
    (hhigh : n ≤ high) : ranges.has n := by
  induction ranges with
  | nil => cases h
  | cons range rest ih =>
    obtain ⟨first, last⟩ := range
    simp only [covers, Bool.and_eq_true, Bool.or_eq_true, Nat.ble_eq] at h
    rw [has, if_neg (by omega), Bool.or_eq_true, decide_eq_true_eq]
    rcases h.2 with hlast | hrest
    · exact .inl (hhigh.trans hlast)
    · exact .inr (ih hrest)

private theorem Ranges.not_has_of_misses (h : ranges.misses low high) (hlow : low ≤ n)
    (hhigh : n ≤ high) :
    ranges.has n = false := by
  induction ranges with
  | nil => rfl
  | cons range rest ih =>
    obtain ⟨first, last⟩ := range
    simp only [misses, Bool.or_eq_true, Bool.and_eq_true, Nat.blt_eq] at h
    rw [has]
    split_ifs with hfirst
    · rfl
    · rcases h with hbefore | ⟨hbehind, hrest⟩
      · omega
      · rw [ih hrest, Bool.or_false, decide_eq_false_iff_not]
        omega

end

/-- Whether a run leads to nothing but word characters, or has none itself. Only the short runs that
lead across several ranges are gone through one by one. -/
def CaseRun.keepsWords (run : CaseRun) : Bool :=
  wordRanges.covers run.image.first run.image.last || wordRanges.misses run.first run.last
    || (List.range (run.image.last - run.image.first + 1)).all fun k =>
      k % run.step != 0 || wordRanges.has (run.image.first + k)

private theorem has_of_keepsWords {run : CaseRun} {n : Nat} (h : run.keepsWords)
    (hpositive : 0 ≤ run.first + run.shift) (hn : run.Holds n) (hword : wordRanges.has n) :
    wordRanges.has (n + run.shift).toNat := by
  have ⟨hfirst, hlast, hstep⟩ := hn.image hpositive
  simp only [CaseRun.keepsWords, Bool.or_eq_true, List.all_eq_true, List.mem_range] at h
  rcases h with (hcovers | hmisses) | hall
  · exact Ranges.has_of_covers hcovers hfirst hlast
  · rw [Ranges.not_has_of_misses hmisses hn.1 hn.2.1] at hword
    cases hword
  · have hhas := hall ((n + run.shift).toNat - run.image.first) (by omega)
    have hsame : run.image.first + ((n + run.shift).toNat - run.image.first) =
        (n + run.shift).toNat := by omega
    rcases hhas with hodd | hhas
    · exact absurd hstep (bne_iff_ne.mp hodd)
    · rwa [hsame] at hhas

/-- The upper case of a word character starts with a word character. -/
private theorem exists_upperOf_eq_cons {c : Char} (h : isWordCharacter c) :
    ∃ d more, upperOf c = d :: more ∧ isWordCharacter d := by
  rcases changeCase_cases upperExpansions CaseRun.upper c with
    ⟨codes, hentry, hchange⟩ | ⟨run, hin, hrun, hchange⟩ | hchange
  · have hheads : ∀ entry ∈ upperExpansions,
        (entry.2.head?.any fun code => isWordCharacter (Char.ofNat code)) = true := by
      decide +kernel
    have hhead := hheads _ hentry
    cases codes with
    | nil => cases hhead
    | cons code codes => exact ⟨Char.ofNat code, codes.map Char.ofNat, hchange, hhead⟩
  · have hkeeps : ∀ run ∈ CaseRun.upper, run.keepsWords = true := by decide +kernel
    have hfinal := isFinal_upper
    simp only [isFinal, Bool.and_eq_true, List.all_eq_true, decide_eq_true_eq] at hfinal
    obtain ⟨hpositive, hleaves⟩ := hfinal.1 run hin
    refine ⟨_, [], hchange, ?_⟩
    rw [isWordCharacter, toNat_ofNat_of_leavesRun hleaves (hrun.image hpositive)]
    exact has_of_keepsWords (hkeeps run hin) hpositive hrun h
  · exact ⟨c, [], hchange, h⟩

/-- The blanks, as `isBlank` tells them. -/
def blankRanges : Ranges := [
  (9, 13), (28, 32), (0x85, 0x85), (0xA0, 0xA0), (0x1680, 0x1680), (0x2000, 0x200A),
  (0x2028, 0x2029), (0x202F, 0x202F), (0x205F, 0x205F), (0x3000, 0x3000)]

private theorem exists_range_of_isBlank {c : Char} (h : isBlank c) :
    ∃ range ∈ blankRanges, range.1 ≤ c.toNat ∧ c.toNat ≤ range.2 := by
  simp only [isBlank, Bool.or_eq_true, Bool.and_eq_true, decide_eq_true_eq, beq_iff_eq] at h
  simp only [blankRanges, List.mem_cons, List.not_mem_nil, or_false, exists_eq_or_imp,
    exists_eq_left]
  omega

private theorem not_isWordCharacter_of_isBlank {c : Char} (h : isBlank c) :
    isWordCharacter c = false := by
  have hmisses : ∀ range ∈ blankRanges, wordRanges.misses range.1 range.2 = true := by
    decide +kernel
  obtain ⟨range, hin, hlow, hhigh⟩ := exists_range_of_isBlank h
  exact Ranges.not_has_of_misses (hmisses range hin) hlow hhigh

private theorem not_isBlank_of_isWordCharacter {c : Char} (h : isWordCharacter c) :
    ¬ isBlank c := by
  intro hblank
  rw [not_isWordCharacter_of_isBlank hblank] at h
  cases h

section
variable {t w v rest after : Text} {c : Char}

private theorem startsWord_dropWhile (t : Text) :
    startsWord (t.dropWhile (!isBlank ·)) = false := by
  induction t with
  | nil => rfl
  | cons c t ih =>
    by_cases h : isBlank c
    · simp [h, startsWord]
    · simpa [h] using ih

private theorem takeWhile_run_append (hw : ∀ d ∈ w, ¬ isBlank d)
    (hafter : startsWord after = false) : (w ++ after).takeWhile (!isBlank ·) = w := by
  cases after with
  | nil => simpa using hw
  | cons c after => exact takeWhile_run (by simpa using hw) hafter

private theorem dropWhile_run_append (hw : ∀ d ∈ w, ¬ isBlank d)
    (hafter : startsWord after = false) : (w ++ after).dropWhile (!isBlank ·) = after := by
  cases after with
  | nil => simpa using hw
  | cons c after => exact dropWhile_run (by simpa using hw) hafter

/-- A text starts with a run from a word character up to the next blank, or with a character that
is left as it is. -/
private theorem titleCase_induction {p : Text → Prop} (nil : p [])
    (run : ∀ c w after, isWordCharacter c → (∀ d ∈ w, ¬ isBlank d) → startsWord after = false →
      p after → p (c :: w ++ after))
    (other : ∀ c t, isWordCharacter c = false → p t → p (c :: t)) (t : Text) : p t := by
  induction t using titleCase.induct with
  | case1 => exact nil
  | case2 c rest hc ih =>
    have hw : ∀ d ∈ rest.takeWhile (!isBlank ·), ¬ isBlank d := by
      intro d hd
      simpa using List.mem_takeWhile_imp hd
    have hrun := run c _ _ hc hw (startsWord_dropWhile rest) ih
    rwa [List.cons_append, List.takeWhile_append_dropWhile] at hrun
  | case3 c rest hc ih => exact other c rest (Bool.eq_false_iff.mpr hc) ih

/-- A run and what follows it can be told from the text that they make. -/
private theorem run_append_inj (hw : ∀ d ∈ w, ¬ isBlank d) (hv : ∀ d ∈ v, ¬ isBlank d)
    (hrest : startsWord rest = false) (hafter : startsWord after = false) :
    w ++ rest = v ++ after ↔ w = v ∧ rest = after := by
  constructor
  · intro h
    constructor
    · rw [← takeWhile_run_append hw hrest, h, takeWhile_run_append hv hafter]
    · rw [← dropWhile_run_append hw hrest, h, dropWhile_run_append hv hafter]
  · rintro ⟨rfl, rfl⟩
    rfl

private theorem titleCase_nil : titleCase [] = [] := by rw [titleCase]

/-- A run that starts with a word character is written on its own. -/
private theorem titleCase_run_append (hc : isWordCharacter c) (hw : ∀ d ∈ w, ¬ isBlank d)
    (hafter : startsWord after = false) :
    titleCase (c :: w ++ after) = upperOf c ++ lower w ++ titleCase after := by
  rw [List.cons_append, titleCase, if_pos hc, takeWhile_run_append hw hafter,
    dropWhile_run_append hw hafter]

private theorem titleCase_cons_of_not (hc : isWordCharacter c = false) (t : Text) :
    titleCase (c :: t) = c :: titleCase t := by
  rw [titleCase, if_neg (by simp [hc])]

private theorem startsWord_titleCase (h : startsWord t = false) :
    startsWord (titleCase t) = false := by
  cases t with
  | nil => rw [titleCase_nil, h]
  | cons c t =>
    have hblank : isBlank c := by simpa [startsWord] using h
    rw [titleCase_cons_of_not (not_isWordCharacter_of_isBlank hblank)]
    exact h

/-- A text is put into title case in two parts wherever it has a blank. -/
private theorem titleCase_append_blank (hc : isBlank c) (a b : Text) :
    titleCase (a ++ c :: b) = titleCase a ++ c :: titleCase b := by
  induction a using titleCase_induction with
  | nil =>
    rw [List.nil_append, titleCase_cons_of_not (not_isWordCharacter_of_isBlank hc), titleCase_nil,
      List.nil_append]
  | run first w after hfirst hw hafter ih =>
    rw [List.append_assoc, titleCase_run_append hfirst hw (startsWord_append_blank hc hafter),
      titleCase_run_append hfirst hw hafter, ih]
    simp only [List.append_assoc]
  | other first a hfirst ih =>
    rw [List.cons_append, titleCase_cons_of_not hfirst, titleCase_cons_of_not hfirst, ih,
      List.cons_append]

private theorem titleCase_append_of_not (h : ∀ d ∈ w, ¬ isWordCharacter d) (t : Text) :
    titleCase (w ++ t) = w ++ titleCase t := by
  induction w with
  | nil => rfl
  | cons c w ih =>
    rw [List.forall_mem_cons] at h
    rw [List.cons_append, titleCase_cons_of_not (Bool.eq_false_iff.mpr h.1), ih h.2,
      List.cons_append]

private theorem titleCase_of_not (h : ∀ d ∈ t, ¬ isWordCharacter d) : titleCase t = t := by
  have happend := titleCase_append_of_not h []
  rwa [titleCase_nil, List.append_nil] at happend

/-- A run is written as what stands before its first word character, the upper case of that, and the
lower case of the rest. -/
private theorem titleCase_run (hw : ∀ d ∈ w, ¬ isWordCharacter d) (hc : isWordCharacter c)
    (hv : ∀ d ∈ v, ¬ isBlank d) : titleCase (w ++ c :: v) = w ++ upper [c] ++ lower v := by
  have hrun : titleCase (c :: v ++ []) = upperOf c ++ lower v ++ titleCase [] :=
    titleCase_run_append hc hv rfl
  rw [List.append_nil, titleCase_nil, List.append_nil] at hrun
  rw [titleCase_append_of_not hw, hrun, upper, List.flatMap_singleton, List.append_assoc]

/-- Blanks stay where they are, and what stands before a blank has no part in how the text behind it
is put into title case, nor the other way round. Of a run without blanks the first word character
becomes upper case and the characters behind it lower case, as a text of their own; those before it
stay, and so does a run without word characters. -/
theorem titled_run_by_run (engine : Template.Engine) :
    let title (t : Text) := Operation.run engine (.titleCase (.text t))
    (∀ (a b : Text) (blank : Char), isBlank blank → ∃ first second,
        title a = pure (.value (.text first)) ∧ title b = pure (.value (.text second)) ∧
        title (a ++ blank :: b) = pure (.value (.text (first ++ blank :: second)))) ∧
      (∀ (before after : Text) (c : Char), (∀ d ∈ before ++ c :: after, ¬ isBlank d) →
        (∀ d ∈ before, ¬ isWordCharacter d) → isWordCharacter c →
        title (before ++ c :: after) =
          pure (.value (.text (before ++ upper [c] ++ lower after)))) ∧
      ∀ run : Text, (∀ d ∈ run, ¬ isBlank d) → (∀ d ∈ run, ¬ isWordCharacter d) →
        title run = pure (.value (.text run)) := by
  simp only [Operation.run_titleCase]
  refine ⟨fun a b blank hblank => ⟨titleCase a, titleCase b, rfl, rfl, ?_⟩,
    fun before after c hrun hbefore hc => ?_, fun run _ hrun => ?_⟩
  · rw [titleCase_append_blank hblank]
  · rw [List.forall_mem_append, List.forall_mem_cons] at hrun
    rw [titleCase_run hbefore hc hrun.2.2]
  · rw [titleCase_of_not hrun]

/-- A sigma that is a text of its own is not at the end of a word, though it ends the run. -/
theorem sigma_titled_behind_bracket :
    let engine : Template.Engine := ⟨.null, .null⟩
    isBlank '\u2003' ∧ (∀ d ∈ "(σΣ".toList, ¬ isBlank d) ∧ ¬ isWordCharacter '(' ∧
      isWordCharacter 'σ' ∧ ¬ isBlank '-' ∧ ¬ isWordCharacter '-' ∧
      Operation.run engine (.titleCase (.text "-\u2003(σΣ".toList)) =
        pure (.value (.text "-\u2003(Σσ".toList)) := by
  intro engine
  have hblank : isBlank '\u2003' := by decide
  have hword : IsWord "(σΣ".toList := by decide
  have hbracket : ¬ isWordCharacter '(' := by decide
  have hsigma : isWordCharacter 'σ' := by decide +kernel
  have hdash : ¬ isBlank '-' ∧ ¬ isWordCharacter '-' := by decide
  have hwritten : ['('] ++ upper ['σ'] ++ lower ['Σ'] = "(Σσ".toList := by decide +kernel
  obtain ⟨hparts, hrun, hkept⟩ := titled_run_by_run engine
  have hbefore := hkept ['-'] (List.forall_mem_singleton.mpr hdash.1)
    (List.forall_mem_singleton.mpr hdash.2)
  have hbehind := hrun ['('] ['Σ'] 'σ' hword.not_blank (List.forall_mem_singleton.mpr hbracket)
    hsigma
  rw [hwritten] at hbehind
  obtain ⟨first, second, hfirst, hsecond, hboth⟩ := hparts ['-'] "(σΣ".toList _ hblank
  obtain rfl : ['-'] = first := by simpa using hbefore.symm.trans hfirst
  obtain rfl : "(Σσ".toList = second := by simpa using hbehind.symm.trans hsecond
  exact ⟨hblank, hword.not_blank, hbracket, hsigma, hdash.1, hdash.2, hboth⟩

/-- The first word character of every word that has one. -/
def initials (t : Text) : List Char := (words t).filterMap (·.find? isWordCharacter)

private theorem initials_run_append (hc : isWordCharacter c) (hw : ∀ d ∈ w, ¬ isBlank d)
    (hafter : startsWord after = false) : initials (c :: w ++ after) = c :: initials after := by
  have hword : IsWord (c :: w) :=
    ⟨List.cons_ne_nil c w, List.forall_mem_cons.mpr ⟨not_isBlank_of_isWordCharacter hc, hw⟩⟩
  rw [initials, words_append_of_isWord hword hafter]
  simp [hc, initials]

private theorem initials_cons_of_not (hc : isWordCharacter c = false) (t : Text) :
    initials (c :: t) = initials t := by
  rw [initials, words]
  split_ifs with hblank hmore
  · rfl
  · cases hwords : words t with
    | nil => simp [initials, hwords, hc]
    | cons w ws => simp [initials, hwords, hc, List.filterMap_cons]
  · simp [initials, hc]

private theorem not_isBlank_of_mem_upperOf (hc : isWordCharacter c) {d : Char}
    (hd : d ∈ upperOf c) : ¬ isBlank d := by
  intro hblank
  rw [neverMade_isBlank.upper hd hblank] at hblank
  exact not_isBlank_of_isWordCharacter hc hblank

private theorem not_isBlank_of_mem_lower (hw : ∀ d ∈ w, ¬ isBlank d) {d : Char} (hd : d ∈ lower w) :
    ¬ isBlank d :=
  fun hblank => hw d (neverMade_isBlank.mem_of_mem_lower hd hblank) hblank

/-- Of a run in title case the first character stays, and what follows it becomes lower case. -/
private theorem exists_titleCase_run (hc : isWordCharacter c) (hw : ∀ d ∈ w, ¬ isBlank d)
    (hafter : startsWord after = false) :
    ∃ d, isWordCharacter d ∧ upperOf c = d :: (upperOf c).tail ∧
      (∀ e ∈ (upperOf c).tail ++ lower w, ¬ isBlank e) ∧
      titleCase (c :: w ++ after) = d :: ((upperOf c).tail ++ lower w) ++ titleCase after ∧
      titleCase (titleCase (c :: w ++ after)) =
        d :: lower ((upperOf c).tail ++ lower w) ++ titleCase (titleCase after) := by
  obtain ⟨d, more, hupper, hd⟩ := exists_upperOf_eq_cons hc
  have htail : (upperOf c).tail = more := by rw [hupper, List.tail_cons]
  have hrun : ∀ e ∈ more ++ lower w, ¬ isBlank e := by
    rw [List.forall_mem_append]
    refine ⟨fun e he => not_isBlank_of_mem_upperOf hc ?_, fun e => not_isBlank_of_mem_lower hw⟩
    rw [hupper]
    exact List.mem_cons_of_mem d he
  have honce : titleCase (c :: w ++ after) = d :: (more ++ lower w) ++ titleCase after := by
    rw [titleCase_run_append hc hw hafter, hupper, List.cons_append]
  have hkept : upperOf d = [d] := upperOf_of_mem (by rw [hupper]; exact List.mem_cons_self)
  rw [htail]
  refine ⟨d, hd, hupper, hrun, honce, ?_⟩
  rw [honce, titleCase_run_append hd hrun (startsWord_titleCase hafter), hkept,
    List.singleton_append]

/-- Title case makes no difference to a text in title case exactly if nothing in it is upper case
but the initials. -/
private theorem titleCase_titleCase_iff (t : Text) : titleCase (titleCase t) = titleCase t ↔
    ∀ c ∈ initials t, lower (upperOf c).tail = (upperOf c).tail := by
  induction t using titleCase_induction with
  | nil => simp [titleCase_nil, initials, words]
  | run c w after hc hw hafter ih =>
    obtain ⟨d, -, -, hrun, honce, htwice⟩ := exists_titleCase_run hc hw hafter
    have hrun' : ∀ e ∈ lower ((upperOf c).tail ++ lower w), ¬ isBlank e :=
      fun e => not_isBlank_of_mem_lower hrun
    have hlower := lower_eq_self_iff.mp (lower_lower w)
    rw [initials_run_append hc hw hafter, List.forall_mem_cons, ← ih, htwice, honce,
      List.cons_append, List.cons_append, List.cons.injEq, and_iff_right rfl,
      run_append_inj hrun' hrun (startsWord_titleCase (startsWord_titleCase hafter))
        (startsWord_titleCase hafter), lower_eq_self_iff, List.forall_mem_append,
      lower_eq_self_iff, and_iff_left hlower]
  | other c t hc ih =>
    rw [titleCase_cons_of_not hc, titleCase_cons_of_not hc, initials_cons_of_not hc, ← ih,
      List.cons.injEq, and_iff_right rfl]

/-- The initials of a text in title case are single characters. -/
private theorem upperOf_of_mem_initials_titleCase (h : c ∈ initials (titleCase t)) :
    upperOf c = [c] := by
  induction t using titleCase_induction with
  | nil => simp [titleCase_nil, initials, words] at h
  | run first w after hfirst hw hafter ih =>
    obtain ⟨d, hd, hupper, hrun, honce, -⟩ := exists_titleCase_run hfirst hw hafter
    rw [honce, initials_run_append hd hrun (startsWord_titleCase hafter)] at h
    rcases List.mem_cons.mp h with rfl | hin
    · exact upperOf_of_mem (c := first) (by rw [hupper]; exact List.mem_cons_self)
    · exact ih hin
  | other first t hfirst ih =>
    rw [titleCase_cons_of_not hfirst, initials_cons_of_not hfirst] at h
    exact ih h

/-- At the third time title case makes no difference any more. -/
private theorem titleCase_third (t : Text) :
    titleCase (titleCase (titleCase t)) = titleCase (titleCase t) := by
  refine (titleCase_titleCase_iff (titleCase t)).mpr fun c hc => ?_
  rw [upperOf_of_mem_initials_titleCase hc]
  rfl

end

/-- Any text can be put into title case, and again. The second time changes something exactly if an
initial became several characters with a capital among the later ones, and the third time changes
nothing. -/
theorem titled_again_unchanged_iff (engine : Template.Engine) (t : Text) : ∃ once twice,
    Operation.run engine (.titleCase (.text t)) = pure (.value (.text once)) ∧
    Operation.run engine (.titleCase (.text once)) = pure (.value (.text twice)) ∧
    Operation.run engine (.titleCase (.text twice)) = pure (.value (.text twice)) ∧
    (twice = once ↔ ∀ c ∈ initials t, lower (upperOf c).tail = (upperOf c).tail) := by
  refine ⟨titleCase t, titleCase (titleCase t), Operation.run_titleCase engine t,
    Operation.run_titleCase engine _, ?_, titleCase_titleCase_iff t⟩
  rw [Operation.run_titleCase, titleCase_third]

/-- The sharp s has two letters in upper case, and the second one is a capital only once. -/
theorem sharp_s_titled_twice : ∃ once twice,
    Operation.run ⟨.null, .null⟩ (.titleCase (.text "ßmith".toList)) =
      pure (.value (.text once)) ∧
    Operation.run ⟨.null, .null⟩ (.titleCase (.text once)) = pure (.value (.text twice)) ∧
    once = "SSmith".toList ∧ twice = "Ssmith".toList ∧ twice ≠ once := by
  refine ⟨"SSmith".toList, "Ssmith".toList, ?_, ?_, rfl, rfl, by decide⟩
  · have honce : titleCase "ßmith".toList = "SSmith".toList := by decide +kernel
    rw [Operation.run_titleCase, honce]
  · have htwice : titleCase "SSmith".toList = "Ssmith".toList := by decide +kernel
    rw [Operation.run_titleCase, htwice]

end FilingName.Text
