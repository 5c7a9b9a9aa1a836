import FilingName.Proofs.Field.Date

/-! Which year a text is read as having. Four digits count as a year with or without more digits
behind them, so a year need not stand alone: it is cut from the first digits in a row that are
enough for one. -/
namespace FilingName.Field.Date
open Text (isDigit)
open Template (Engine)

/-- Digits of a text with no digit right before them and none right behind them. -/
structure DigitRun (t before digits after : Text) : Prop where
  text_eq : t = before ++ digits ++ after
  digits : ∀ c ∈ digits, isDigit c
  starts : ∀ c ∈ before.getLast?, ¬ isDigit c
  ends : ∀ c ∈ after.head?, ¬ isDigit c

/-- The text has the year as a row of exactly four digits. -/
def StandsAlone (t year : Text) : Prop :=
  IsDigits 4 year ∧ ∃ before after, DigitRun t before year after

/-- The first four of the first digits in a row that are four or more, or nothing where there are
none. -/
inductive FirstYear (t : Text) : Text → Prop
  | absent : (∀ before digits after, DigitRun t before digits after → digits.length < 4) →
      FirstYear t unknown
  | present {before digits after : Text} : DigitRun t before digits after → 4 ≤ digits.length →
      (∀ earlier digits' after', DigitRun t earlier digits' after' →
        earlier.length < before.length → digits'.length < 4) →
      FirstYear t (digits.take 4)

variable {t before digits after rest year : Text} {i : Nat}

private theorem yearAt_length :
    YearAt (before ++ rest) before.length year ↔ IsDigits 4 year ∧ year <+: rest := by
  rw [YearAt, List.drop_left]

private theorem DigitRun.yearAt (h : DigitRun t before digits after) (hlong : 4 ≤ digits.length) :
    YearAt t before.length (digits.take 4) := by
  have hfour : (digits.take 4).length = 4 := List.length_take_of_le hlong
  rw [h.text_eq, List.append_assoc, yearAt_length]
  exact ⟨⟨hfour, fun c hc => h.digits c (List.mem_of_mem_take hc)⟩,
    (List.take_prefix 4 digits).trans (List.prefix_append digits after)⟩

/-- Digits right before a year would make a year with it that stands further to the left. -/
private theorem not_isDigit_of_noYearBefore (hyear : YearAt (before ++ rest) before.length year)
    (hfirst : NoYearBefore (before ++ rest) before.length) :
    ∀ c ∈ before.getLast?, ¬ isDigit c := by
  intro c hc hdigit
  obtain ⟨front, rfl⟩ := List.getLast?_eq_some_iff.mp hc
  obtain ⟨hdigits, hprefix⟩ := yearAt_length.mp hyear
  have hearlier : YearAt (front ++ [c] ++ rest) front.length (c :: year.take 3) := by
    rw [List.append_assoc, yearAt_length, List.singleton_append, List.cons_prefix_cons]
    refine ⟨⟨?_, List.forall_mem_cons.mpr ⟨hdigit, fun d hd => ?_⟩⟩, rfl,
      (List.take_prefix 3 year).trans hprefix⟩
    · rw [List.length_cons, List.length_take, hdigits.length_eq]
      rfl
    · exact hdigits.digits d (List.mem_of_mem_take hd)
  exact hfirst front.length (by simp) _ hearlier

/-- The leftmost year is the start of a row of digits. -/
private theorem exists_digitRun (hyear : YearAt t i year) (hfirst : NoYearBefore t i) :
    ∃ before digits after, DigitRun t before digits after ∧ before.length = i ∧
      4 ≤ digits.length ∧ digits.take 4 = year := by
  have hlength : i ≤ t.length := by
    have hdrop := hyear.2.length_le
    rw [hyear.1.length_eq, List.length_drop] at hdrop
    omega
  obtain ⟨before, rest, rfl, rfl⟩ : ∃ before rest, t = before ++ rest ∧ before.length = i :=
    ⟨t.take i, t.drop i, (List.take_append_drop i t).symm, List.length_take_of_le hlength⟩
  obtain ⟨hdigits, more, rfl⟩ := yearAt_length.mp hyear
  have hrun : (year ++ more).takeWhile isDigit = year ++ more.takeWhile isDigit :=
    List.takeWhile_append_of_pos hdigits.digits
  refine ⟨before, (year ++ more).takeWhile isDigit, (year ++ more).dropWhile isDigit,
    ⟨?_, fun c => List.mem_takeWhile_imp, not_isDigit_of_noYearBefore hyear hfirst, ?_⟩, rfl,
    ?_, ?_⟩
  · rw [List.append_assoc, List.takeWhile_append_dropWhile]
  · intro c hc
    have hend := List.head?_dropWhile_not isDigit (year ++ more)
    rw [Option.mem_def.mp hc] at hend
    simpa using hend
  · rw [hrun, List.length_append, hdigits.length_eq]
    omega
  · rw [hrun, List.take_left' hdigits.length_eq]

private theorem FirstDate.firstYear {date : Date} (h : FirstDate t date) :
    FirstYear t date.year := by
  cases h with
  | absent hnone =>
    refine .absent fun before digits after hrun => Nat.lt_of_not_le fun hlong => ?_
    exact hnone _ _ (hrun.yearAt hlong)
  | present hdate hfirst =>
    obtain ⟨before, digits, after, hrun, rfl, hlong, hyear⟩ := exists_digitRun hdate.yearAt hfirst
    rw [← hyear]
    refine .present hrun hlong fun earlier digits' after' hrun' hearlier => ?_
    exact Nat.lt_of_not_le fun hlong' => hfirst _ hearlier _ (hrun'.yearAt hlong')

/-- The rule leaves no choice. -/
private theorem FirstYear.eq {other : Text} (h : FirstYear t year) (hother : FirstYear t other) :
    year = other := by
  cases h with
  | absent hshort =>
    cases hother with
    | absent => rfl
    | present hrun hlong => exact absurd (hshort _ _ _ hrun) (Nat.not_lt_of_le hlong)
  | @present before digits after hrun hlong hfirst =>
    cases hother with
    | absent hshort => exact absurd (hshort _ _ _ hrun) (Nat.not_lt_of_le hlong)
    | @present before' digits' after' hrun' hlong' hfirst' =>
      have hle : before'.length ≤ before.length := Nat.le_of_not_lt fun hlt =>
        Nat.not_lt_of_le hlong (hfirst' _ _ _ hrun hlt)
      have hge : before.length ≤ before'.length := Nat.le_of_not_lt fun hlt =>
        Nat.not_lt_of_le hlong' (hfirst _ _ _ hrun' hlt)
      have hyear := hrun.yearAt hlong
      have hyear' := hrun'.yearAt hlong'
      rw [Nat.le_antisymm hle hge] at hyear'
      have hlength : (digits.take 4).length = (digits'.take 4).length :=
        hyear.1.length_eq.trans hyear'.1.length_eq.symm
      exact (List.prefix_of_prefix_length_le hyear.2 hyear'.2 hlength.le).eq_of_length hlength

/-- Where no digits in a row are more than four, a year stands alone. -/
private theorem FirstYear.standsAlone (h : FirstYear t year) (hyear : year ≠ unknown)
    (hruns : ∀ before digits after, DigitRun t before digits after → digits.length ≤ 4) :
    StandsAlone t year := by
  cases h with
  | absent => exact absurd rfl hyear
  | @present before digits after hrun hlong =>
    have hfour : digits.length = 4 := Nat.le_antisymm (hruns _ _ _ hrun) hlong
    rw [List.take_of_length_le hfour.le]
    exact ⟨⟨hfour, hrun.digits⟩, before, after, hrun⟩

/-- The year of a text is cut from the first four or more digits in a row. It stands alone where
there are no more than four in a row anywhere. -/
theorem year_cut_from_first_digits (engine : Engine) (countries : Value) (t : Text) :
    ∃ date : Date, (∀ year, FirstYear t year ↔ year = date.year) ∧
      ((∀ before digits after, DigitRun t before digits after → digits.length ≤ 4) →
        date.year ≠ unknown → StandsAlone t date.year) ∧
      Operation.run engine (.parseField .date (.text t) countries) =
        pure (.fields date.fields) := by
  have hfirst := (firstDate_ofText t).firstYear
  refine ⟨ofText t, fun year => ⟨fun h => h.eq hfirst, ?_⟩,
    fun hruns hyear => hfirst.standsAlone hyear hruns,
    Operation.run_parseField_date engine (some t) countries⟩
  rintro rfl
  exact hfirst

/-- In a text of digits there is one row of them. -/
private theorem DigitRun.eq_of_digits (h : DigitRun t before digits after)
    (ht : ∀ c ∈ t, isDigit c) : digits = t := by
  obtain ⟨rfl, -, hstarts, hends⟩ := h
  simp only [List.forall_mem_append] at ht
  have hbefore : before = [] := List.getLast?_eq_none_iff.mp <|
    Option.eq_none_iff_forall_not_mem.mpr fun c hc =>
      hstarts c hc (ht.1.1 c (List.mem_of_mem_getLast? hc))
  have hafter : after = [] := List.head?_eq_none_iff.mp <|
    Option.eq_none_iff_forall_not_mem.mpr fun c hc =>
      hends c hc (ht.2 c (List.mem_of_mem_head? hc))
  rw [hbefore, hafter, List.nil_append, List.append_nil]

/-- The year of a telephone number is its first four digits, and these do not stand alone. -/
theorem year_read_from_telephone_number : ∃ date : Date,
    Operation.run ⟨.null, .null⟩ (.parseField .date (.text "5551234567".toList) .null) =
      pure (.fields date.fields) ∧
    date.year = "5551".toList ∧ date.year ≠ unknown ∧
    ¬ StandsAlone "5551234567".toList date.year := by
  refine ⟨⟨"5551".toList, unknown, unknown⟩,
    Operation.run_parseField_date _ (some "5551234567".toList) .null, rfl, by decide, ?_⟩
  rintro ⟨hdigits, before, after, hrun⟩
  have hall := hrun.eq_of_digits (List.all_eq_true.mp (by decide))
  exact absurd (hall ▸ hdigits).length_eq (by decide)

end FilingName.Field.Date
