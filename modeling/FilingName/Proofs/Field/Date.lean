import FilingName.Field.Date
import FilingName.Proofs.Operation
import FilingName.Proofs.Text

/-! Where a text is read as a date. Four ways of reading are tried, and all come to one rule: the
first four digits in a row are the year, and month and day are what follows them at once. -/
namespace FilingName.Field.Date
open Template (Engine)

structure IsDigits (n : Nat) (t : Text) : Prop where
  length_eq : t.length = n
  digits : ∀ c ∈ t, Text.isDigit c

/-- Four digits stand at a position of a text. -/
def YearAt (t : Text) (i : Nat) (year : Text) : Prop := IsDigits 4 year ∧ year <+: t.drop i

/-- A dash and two digits stand at a position of a text. -/
def PartAt (t : Text) (i : Nat) (part : Text) : Prop := IsDigits 2 part ∧ '-' :: part <+: t.drop i

/-- The date at a position: its year stands there, its month right behind the year, and its day
right behind the month; what does not stand there is unknown. -/
inductive DateAt (t : Text) (i : Nat) : Date → Prop
  | year {year : Text} : YearAt t i year → (∀ part, ¬ PartAt t (i + 4) part) →
      DateAt t i ⟨year, unknown, unknown⟩
  | month {year month : Text} : YearAt t i year → PartAt t (i + 4) month →
      (∀ part, ¬ PartAt t (i + 7) part) → DateAt t i ⟨year, month, unknown⟩
  | day {year month day : Text} : YearAt t i year → PartAt t (i + 4) month →
      PartAt t (i + 7) day → DateAt t i ⟨year, month, day⟩

/-- No year stands before a position. -/
def NoYearBefore (t : Text) (i : Nat) : Prop := ∀ j < i, ∀ year, ¬ YearAt t j year

/-- The date at the leftmost year of a text, or nothing where there is no year. -/
inductive FirstDate (t : Text) : Date → Prop
  | absent : (∀ i year, ¬ YearAt t i year) → FirstDate t ⟨unknown, unknown, unknown⟩
  | present {i : Nat} {date : Date} : DateAt t i date → NoYearBefore t i → FirstDate t date

private theorem digits?_eq_some_iff {n : Nat} {t digits rest : Text} :
    digits? n t = some (digits, rest) ↔ (IsDigits n digits ∧ digits <+: t) ∧ rest = t.drop n := by
  unfold digits?
  constructor
  · intro h
    dsimp only at h
    split_ifs at h with hdigits
    obtain ⟨rfl, rfl⟩ := Prod.mk.inj (Option.some.inj h)
    exact ⟨⟨⟨hdigits.1, by simpa using hdigits.2⟩, List.take_prefix _ _⟩, rfl⟩
  · rintro ⟨⟨hdigits, hprefix⟩, rfl⟩
    obtain rfl : digits = t.take n := by
      rw [← hdigits.length_eq]
      exact List.prefix_iff_eq_take.mp hprefix
    rw [if_pos ⟨hdigits.length_eq, by simpa using hdigits.digits⟩]

private theorem year?_eq_some_iff {t year rest : Text} {i : Nat} :
    digits? 4 (t.drop i) = some (year, rest) ↔ YearAt t i year ∧ rest = t.drop (i + 4) := by
  rw [digits?_eq_some_iff, List.drop_drop, YearAt]

private theorem part?_eq_some_iff {t part rest : Text} {i : Nat} :
    part? (t.drop i) = some (part, rest) ↔ PartAt t i part ∧ rest = t.drop (i + 3) := by
  have hrest : t.drop (i + 3) = (t.drop i).drop 3 := by rw [List.drop_drop]
  rw [PartAt, hrest]
  unfold part?
  split
  · next after he =>
    rw [digits?_eq_some_iff, he, List.cons_prefix_cons]
    simp
  · next hdash =>
    simp only [reduceCtorEq, false_iff, not_and]
    rintro ⟨-, after, he⟩
    exact absurd he.symm (hdash _)

@[simp] private theorem part?_nil : part? [] = none := rfl

private theorem part?_eq_none_iff {t : Text} {i : Nat} :
    part? (t.drop i) = none ↔ ∀ part, ¬ PartAt t i part := by
  rw [Option.eq_none_iff_forall_ne_some]
  constructor
  · intro h part hpart
    exact h _ (part?_eq_some_iff.mpr ⟨hpart, rfl⟩)
  · rintro h ⟨part, rest⟩ hpart
    exact h part (part?_eq_some_iff.mp hpart).1

/-- A date that a text starts with, with nothing before its year. -/
def start? (t : Text) : Option Date := do
  let (year, t) ← digits? 4 t
  match part? t with
  | none => return ⟨year, unknown, unknown⟩
  | some (month, t) =>
    match part? t with
    | none => return ⟨year, month, unknown⟩
    | some (day, _) => return ⟨year, month, day⟩

private theorem start?_eq_some_iff {t : Text} {i : Nat} {date : Date} :
    start? (t.drop i) = some date ↔ DateAt t i date := by
  unfold start?
  constructor
  · intro h
    obtain ⟨⟨year, rest⟩, hread, h⟩ := Option.bind_eq_some_iff.mp h
    obtain ⟨hyear, rfl⟩ := year?_eq_some_iff.mp hread
    cases hmonth : part? (t.drop (i + 4)) with
    | none =>
      simp only [hmonth] at h
      cases h
      exact .year hyear (part?_eq_none_iff.mp hmonth)
    | some found =>
      obtain ⟨month, rest⟩ := found
      simp only [hmonth] at h
      obtain ⟨hpart, rfl⟩ := part?_eq_some_iff.mp hmonth
      cases hday : part? (t.drop (i + 7)) with
      | none =>
        simp only [hday] at h
        cases h
        exact .month hyear hpart (part?_eq_none_iff.mp hday)
      | some found =>
        simp only [hday] at h
        cases h
        exact .day hyear hpart (part?_eq_some_iff.mp hday).1
  · intro h
    cases h with
    | year hyear hnone =>
      simp [year?_eq_some_iff.mpr ⟨hyear, rfl⟩, part?_eq_none_iff.mpr hnone]
    | month hyear hmonth hnone =>
      simp [year?_eq_some_iff.mpr ⟨hyear, rfl⟩, part?_eq_some_iff.mpr ⟨hmonth, rfl⟩,
        part?_eq_none_iff.mpr hnone]
    | day hyear hmonth hday =>
      simp [year?_eq_some_iff.mpr ⟨hyear, rfl⟩, part?_eq_some_iff.mpr ⟨hmonth, rfl⟩,
        part?_eq_some_iff.mpr ⟨hday, rfl⟩]

/-- Where a year stands, there is a date. -/
private theorem YearAt.exists_dateAt {t year : Text} {i : Nat} (h : YearAt t i year) :
    ∃ date, DateAt t i date := by
  by_cases hmonth : ∃ month, PartAt t (i + 4) month
  · obtain ⟨month, hmonth⟩ := hmonth
    by_cases hday : ∃ day, PartAt t (i + 7) day
    · obtain ⟨day, hday⟩ := hday
      exact ⟨_, .day h hmonth hday⟩
    · exact ⟨_, .month h hmonth (not_exists.mp hday)⟩
  · exact ⟨_, .year h (not_exists.mp hmonth)⟩

theorem DateAt.yearAt {t : Text} {i : Nat} {date : Date} (h : DateAt t i date) :
    YearAt t i date.year := by
  cases h <;> assumption

private theorem start?_eq_none_iff {t : Text} {i : Nat} :
    start? (t.drop i) = none ↔ ∀ year, ¬ YearAt t i year := by
  rw [Option.eq_none_iff_forall_ne_some]
  constructor
  · intro h year hyear
    obtain ⟨date, hdate⟩ := hyear.exists_dateAt
    exact h date (start?_eq_some_iff.mpr hdate)
  · intro h date hdate
    exact h _ (start?_eq_some_iff.mp hdate).yearAt

variable {read? : Text → Option Date}

private theorem search_of_start {t : Text} {date : Date} (h : read? t = some date) :
    search read? t = some date := by
  cases t with
  | nil => exact h
  | cons c t => rw [search, h]

private theorem search_cons_of_none {c : Char} {t : Text} (h : read? (c :: t) = none) :
    search read? (c :: t) = search read? t := by
  rw [search, h]

private theorem search_eq_none_iff {t : Text} :
    search read? t = none ↔ ∀ i, read? (t.drop i) = none := by
  induction t with
  | nil => simp [search]
  | cons c t ih =>
    cases hread : read? (c :: t) with
    | some found =>
      rw [search_of_start hread]
      refine ⟨fun h => (by cases h), fun h => ?_⟩
      rw [← hread, ← h 0, List.drop_zero]
    | none =>
      rw [search_cons_of_none hread, ih]
      constructor
      · rintro h (_ | i)
        · exact hread
        · exact h i
      · exact fun h i => h (i + 1)

/-- A search finds what can be read at the leftmost position where something can be read. -/
private theorem search_eq_some_iff {t : Text} {date : Date} :
    search read? t = some date ↔
      ∃ i, read? (t.drop i) = some date ∧ ∀ j < i, read? (t.drop j) = none := by
  induction t with
  | nil =>
    simp only [search, List.drop_nil]
    constructor
    · exact fun h => ⟨0, h, by simp⟩
    · exact fun ⟨_, h, _⟩ => h
  | cons c t ih =>
    cases hread : read? (c :: t) with
    | some found =>
      rw [search_of_start hread]
      constructor
      · intro h
        exact ⟨0, by rw [List.drop_zero, hread, h], by simp⟩
      · rintro ⟨_ | i, hi, hbefore⟩
        · rwa [List.drop_zero, hread] at hi
        · have hzero := hbefore 0 i.succ_pos
          rw [List.drop_zero, hread] at hzero
          cases hzero
    | none =>
      rw [search_cons_of_none hread, ih]
      constructor
      · rintro ⟨i, hi, hbefore⟩
        refine ⟨i + 1, hi, ?_⟩
        rintro (_ | j) hj
        · exact hread
        · exact hbefore j (Nat.lt_of_succ_lt_succ hj)
      · rintro ⟨_ | i, hi, hbefore⟩
        · rw [List.drop_zero, hread] at hi
          cases hi
        · exact ⟨i, hi, fun j hj => hbefore (j + 1) (Nat.succ_lt_succ hj)⟩

private theorem firstDate_iff_search {t : Text} {date : Date} :
    FirstDate t date ↔ date = (search start? t).getD ⟨unknown, unknown, unknown⟩ := by
  cases hsearch : search start? t with
  | none =>
    simp only [search_eq_none_iff, start?_eq_none_iff] at hsearch
    rw [Option.getD_none]
    constructor
    · rintro (_ | ⟨hdate, -⟩)
      · rfl
      · exact absurd hdate.yearAt (hsearch _ _)
    · rintro rfl
      exact .absent hsearch
  | some found =>
    obtain ⟨i, hi, hbefore⟩ := search_eq_some_iff.mp hsearch
    simp only [start?_eq_none_iff] at hbefore
    rw [Option.getD_some]
    constructor
    · rintro (habsent | ⟨hdate, hfirst⟩)
      · exact absurd (start?_eq_some_iff.mp hi).yearAt (habsent _ _)
      · have hsame := search_eq_some_iff.mpr ⟨_, start?_eq_some_iff.mpr hdate, fun j hj =>
          start?_eq_none_iff.mpr (hfirst j hj)⟩
        exact Option.some.inj (hsame.symm.trans hsearch)
    · rintro rfl
      exact .present (start?_eq_some_iff.mp hi) hbefore

private theorem isDigit_of_start? {c : Char} {t : Text} {date : Date}
    (h : start? (c :: t) = some date) : Text.isDigit c := by
  obtain ⟨hdigits, hprefix⟩ := (start?_eq_some_iff (t := c :: t) (i := 0)).mp h |>.yearAt
  cases hyear : date.year with
  | nil =>
    have hlength := hdigits.length_eq
    rw [hyear] at hlength
    cases hlength
  | cons first year =>
    rw [hyear, List.drop_zero, List.cons_prefix_cons] at hprefix
    exact hprefix.1 ▸ hdigits.digits first (by simp [hyear])

/-- No date starts before the digits do. -/
private theorem search_append_of_no_digit {before : Text} (h : ∀ c ∈ before, ¬ Text.isDigit c)
    (t : Text) : search start? (before ++ t) = search start? t := by
  induction before with
  | nil => rfl
  | cons c before ih =>
    rw [List.forall_mem_cons] at h
    have hnone : start? (c :: (before ++ t)) = none := by
      rw [Option.eq_none_iff_forall_ne_some]
      exact fun date hdate => h.1 (isDigit_of_start? hdate)
    rw [List.cons_append, search_cons_of_none hnone, ih h.2]

private theorem not_isDigit_of_isBlank {c : Char} (h : Text.isBlank c) : ¬ Text.isDigit c := by
  simp only [Text.isBlank, Bool.or_eq_true, Bool.and_eq_true, decide_eq_true_eq, beq_iff_eq] at h
  simp only [Text.isDigit, Bool.and_eq_true, decide_eq_true_eq]
  omega

private theorem exists_qualifier (t : Text) :
    ∃ qualifier, t = qualifier ++ dropQualifier t ∧ ∀ c ∈ qualifier, ¬ Text.isDigit c := by
  unfold dropQualifier
  split
  · next qualifier hfind =>
    have hnodigit : ∀ qualifier ∈ qualifiers, ∀ c ∈ qualifier, ¬ Text.isDigit c := by
      simp [qualifiers, Text.isDigit]
    have hprefix : qualifier.isPrefixOf t := by
      simpa only using List.find?_some hfind
    obtain ⟨rest, rfl⟩ := List.isPrefixOf_iff_prefix.mp hprefix
    refine ⟨qualifier, ?_, hnodigit qualifier (List.mem_of_find?_eq_some hfind)⟩
    rw [List.drop_left]
  · exact ⟨[], rfl, by simp⟩

/-- What stands between the start of a text and a date read there, a qualifier or blanks or both,
has no digit. -/
private theorem exists_before_date (t : Text) : ∃ before,
    t = before ++ (dropQualifier t).dropWhile Text.isBlank ∧ ∀ c ∈ before, ¬ Text.isDigit c := by
  obtain ⟨qualifier, ht, hqualifier⟩ := exists_qualifier t
  refine ⟨qualifier ++ (dropQualifier t).takeWhile Text.isBlank, ?_, ?_⟩
  · rwa [List.append_assoc, List.takeWhile_append_dropWhile]
  · intro c hc
    rcases List.mem_append.mp hc with hin | hin
    · exact hqualifier c hin
    · exact not_isDigit_of_isBlank (List.mem_takeWhile_imp hin)

/-- A date with nothing before it is read in the same way behind a qualifier that is not there. -/
private theorem qualified?_of_start? {t : Text} {date : Date} (h : start? t = some date) :
    qualified? t = some date := by
  obtain ⟨before, ht, hbefore⟩ := exists_before_date t
  cases before with
  | nil =>
    have hread : qualified? t = start? ((dropQualifier t).dropWhile Text.isBlank) := rfl
    rw [hread, ← List.nil_append (List.dropWhile _ _), ← ht, h]
  | cons c before =>
    rw [ht] at h
    exact absurd (isDigit_of_start? h) (hbefore c List.mem_cons_self)

/-- A qualifier lets a date be found earlier, but it is the same date. -/
private theorem search_qualified? (t : Text) : search qualified? t = search start? t := by
  induction t with
  | nil => decide
  | cons c t ih =>
    cases hread : qualified? (c :: t) with
    | some date =>
      obtain ⟨before, ht, hbefore⟩ := exists_before_date (c :: t)
      have hstart : start? ((dropQualifier (c :: t)).dropWhile Text.isBlank) = some date := hread
      rw [search_of_start hread, ht, search_append_of_no_digit hbefore, search_of_start hstart]
    | none =>
      have hnone : start? (c :: t) = none := by
        rw [Option.eq_none_iff_forall_ne_some]
        intro date hdate
        rw [qualified?_of_start? hdate] at hread
        cases hread
      rw [search_cons_of_none hread, search_cons_of_none hnone, ih]

private theorem start?_of_full? {t : Text} {date : Date} (h : full? t = some date) :
    start? t = some date := by
  unfold full? at h
  obtain ⟨⟨year, t₁⟩, hyear, h⟩ := Option.bind_eq_some_iff.mp h
  obtain ⟨⟨month, t₂⟩, hmonth, h⟩ := Option.bind_eq_some_iff.mp h
  obtain ⟨⟨day, t₃⟩, hday, h⟩ := Option.bind_eq_some_iff.mp h
  simp only [Option.ite_none_right_eq_some] at h
  simp [start?, hyear, hmonth, hday, h.2]

private theorem start?_of_yearMonth? {t : Text} {date : Date} (h : yearMonth? t = some date) :
    start? t = some date := by
  unfold yearMonth? at h
  obtain ⟨⟨year, t₁⟩, hyear, h⟩ := Option.bind_eq_some_iff.mp h
  dsimp only at h
  split_ifs at h with hend
  · obtain rfl : t₁ = [] := by simpa using hend
    simp [start?, hyear, part?, ← h]
  · obtain ⟨⟨month, t₂⟩, hmonth, h⟩ := Option.bind_eq_some_iff.mp h
    simp only [Option.ite_none_right_eq_some, List.isEmpty_iff] at h
    obtain ⟨rfl, h⟩ := h
    simpa [start?, hyear, hmonth] using h

/-- Where no date is found, no year stands alone either. -/
private theorem standalone?_of_search_eq_none {t : Text} (h : search start? t = none)
    (afterWord : Bool) : standalone? afterWord t = none := by
  rw [search_eq_none_iff] at h
  induction t generalizing afterWord with
  | nil => rfl
  | cons c t ih =>
    have hyear : digits? 4 (c :: t) = none := by
      rw [Option.eq_none_iff_forall_ne_some]
      rintro ⟨year, rest⟩ hyear
      exact start?_eq_none_iff.mp (h 0) year ((year?_eq_some_iff (t := c :: t) (i := 0)).mp hyear).1
    have hrest := ih fun i => h (i + 1)
    rw [standalone?, hyear, ite_self]
    exact hrest _

/-- What the first three ways read is the first date with nothing before it. -/
private theorem search_start?_of_read {t : Text} {date : Date}
    (h : full? t = some date ∨ yearMonth? t = some date ∨ search qualified? t = some date) :
    search start? t = some date := by
  rcases h with hfull | hyearMonth | hqualified
  · exact search_of_start (start?_of_full? hfull)
  · exact search_of_start (start?_of_yearMonth? hyearMonth)
  · rw [← search_qualified?, hqualified]

private theorem ofText_eq_search_trim (t : Text) :
    ofText t = (search start? (Text.trim t)).getD ⟨unknown, unknown, unknown⟩ := by
  unfold ofText
  dsimp only
  cases hfull : full? (Text.trim t) with
  | some date =>
    rw [search_start?_of_read (.inl hfull)]
    rfl
  | none =>
    cases hyearMonth : yearMonth? (Text.trim t) with
    | some date =>
      rw [search_start?_of_read (.inr (.inl hyearMonth))]
      rfl
    | none =>
      rw [search_qualified?]
      cases hsearch : search start? (Text.trim t) with
      | some date => rfl
      | none =>
        rw [standalone?_of_search_eq_none hsearch]
        rfl

private theorem not_mem_of_isBlank {after part : Text} {n : Nat}
    (hafter : ∀ c ∈ after, Text.isBlank c) (hpart : IsDigits n part) :
    ∀ c ∈ '-' :: part, c ∉ after := by
  intro c hc hin
  rcases List.mem_cons.mp hc with rfl | hdigit
  · exact absurd (hafter _ hin) (by decide)
  · exact not_isDigit_of_isBlank (hafter c hin) (hpart.digits c hdigit)

private theorem yearAt_append_blanks {t after year : Text} {i : Nat}
    (hafter : ∀ c ∈ after, Text.isBlank c) : YearAt (t ++ after) i year ↔ YearAt t i year := by
  refine and_congr_right fun hyear => Text.prefix_drop_append_iff ?_ i
  exact fun c hc => not_mem_of_isBlank hafter hyear c (List.mem_cons_of_mem _ hc)

private theorem partAt_append_blanks {t after part : Text} {i : Nat}
    (hafter : ∀ c ∈ after, Text.isBlank c) : PartAt (t ++ after) i part ↔ PartAt t i part :=
  and_congr_right fun hpart => Text.prefix_drop_append_iff (not_mem_of_isBlank hafter hpart) i

/-- Where the same digits stand, the same date is read. -/
private theorem DateAt.congr {t u : Text} {i j : Nat}
    (hyear : ∀ year, YearAt t i year ↔ YearAt u j year)
    (hmonth : ∀ part, PartAt t (i + 4) part ↔ PartAt u (j + 4) part)
    (hday : ∀ part, PartAt t (i + 7) part ↔ PartAt u (j + 7) part) {date : Date}
    (h : DateAt t i date) : DateAt u j date := by
  cases h with
  | year hyearAt hnone =>
    exact .year ((hyear _).mp hyearAt) fun part hpart => hnone part ((hmonth part).mpr hpart)
  | month hyearAt hmonthAt hnone =>
    exact .month ((hyear _).mp hyearAt) ((hmonth _).mp hmonthAt) fun part hpart =>
      hnone part ((hday part).mpr hpart)
  | day hyearAt hmonthAt hdayAt =>
    exact .day ((hyear _).mp hyearAt) ((hmonth _).mp hmonthAt) ((hday _).mp hdayAt)

private theorem FirstDate.congr {t u : Text} (hyear : ∀ i year, YearAt t i year ↔ YearAt u i year)
    (hpart : ∀ i part, PartAt t i part ↔ PartAt u i part) {date : Date} (h : FirstDate t date) :
    FirstDate u date := by
  cases h with
  | absent habsent =>
    exact .absent fun i year hyearAt => habsent i year ((hyear i year).mpr hyearAt)
  | present hdate hfirst =>
    refine .present (hdate.congr (hyear _) (hpart _) (hpart _)) fun j hj year hyearAt => ?_
    exact hfirst j hj year ((hyear j year).mpr hyearAt)

private theorem firstDate_append_blanks {t after : Text} (hafter : ∀ c ∈ after, Text.isBlank c)
    {date : Date} : FirstDate (t ++ after) date ↔ FirstDate t date := by
  constructor
  · exact .congr (fun _ _ => yearAt_append_blanks hafter) fun _ _ => partAt_append_blanks hafter
  · exact .congr (fun _ _ => (yearAt_append_blanks hafter).symm)
      fun _ _ => (partAt_append_blanks hafter).symm

/-- Every text is read as the date at its leftmost year. -/
theorem firstDate_iff {t : Text} {date : Date} : FirstDate t date ↔ date = ofText t := by
  obtain ⟨before, after, ht, hbefore, hafter⟩ := Text.exists_trim_between t
  have hdigits : ∀ c ∈ before, ¬ Text.isDigit c := fun c hc => not_isDigit_of_isBlank (hbefore c hc)
  calc FirstDate t date
    _ ↔ FirstDate (before ++ Text.trim t ++ after) date := by rw [← ht]
    _ ↔ FirstDate (before ++ Text.trim t) date := firstDate_append_blanks hafter
    _ ↔ date = (search start? (Text.trim t)).getD ⟨unknown, unknown, unknown⟩ := by
      rw [firstDate_iff_search, search_append_of_no_digit hdigits]
    _ ↔ date = ofText t := by rw [ofText_eq_search_trim]

theorem firstDate_ofText (t : Text) : FirstDate t (ofText t) := firstDate_iff.mpr rfl

/-- A year, a dash and two digits, and the same once more, are ten characters. -/
private theorem prefix_take_drop_iff {part t : Text} {n k i : Nat} (hlength : part.length + k ≤ n) :
    part <+: ((t.drop i).take n).drop (0 + k) ↔ part <+: t.drop (i + k) := by
  rw [Nat.zero_add, List.drop_take, List.drop_drop, List.prefix_take_iff]
  exact and_iff_left (by omega)

/-- A date is made up of the ten characters from its position on. -/
private theorem dateAt_take_ten {t : Text} {i : Nat} {date : Date} (h : DateAt t i date) :
    DateAt ((t.drop i).take 10) 0 date := by
  refine h.congr (fun year => ?_) (fun part => ?_) fun part => ?_
  · refine and_congr_right fun hyear => (prefix_take_drop_iff (k := 0) ?_).symm
    rw [hyear.length_eq]
    decide
  · refine and_congr_right fun hpart => (prefix_take_drop_iff ?_).symm
    rw [List.length_cons, hpart.length_eq]
    decide
  · refine and_congr_right fun hpart => (prefix_take_drop_iff ?_).symm
    rw [List.length_cons, hpart.length_eq]

private theorem ofText_take_ten {t year : Text} {i : Nat} (hyear : YearAt t i year)
    (hfirst : NoYearBefore t i) : ofText ((t.drop i).take 10) = ofText t := by
  obtain ⟨date, hdate⟩ := hyear.exists_dateAt
  have htext : date = ofText t := firstDate_iff.mp (.present hdate hfirst)
  have hten : date = ofText ((t.drop i).take 10) :=
    firstDate_iff.mp (.present (dateAt_take_ten hdate) fun j hj => absurd hj j.not_lt_zero)
  rw [← hten, htext]

theorem IsDigits.ne_unknown {n : Nat} {t : Text} (h : IsDigits n t) : t ≠ unknown := by
  rintro rfl
  exact absurd (h.digits 'x' (by simp [unknown])) (by decide)

/-- The dates that texts are read as. -/
inductive Readable : Date → Prop
  | absent : Readable ⟨unknown, unknown, unknown⟩
  | year {year : Text} : IsDigits 4 year → Readable ⟨year, unknown, unknown⟩
  | month {year month : Text} : IsDigits 4 year → IsDigits 2 month →
      Readable ⟨year, month, unknown⟩
  | day {year month day : Text} : IsDigits 4 year → IsDigits 2 month → IsDigits 2 day →
      Readable ⟨year, month, day⟩

private theorem FirstDate.readable {t : Text} {date : Date} (h : FirstDate t date) :
    Readable date := by
  rcases h with _ | ⟨hyear | ⟨hyear, hmonth⟩ | ⟨hyear, hmonth, hday⟩, -⟩
  · exact .absent
  · exact .year hyear.1
  · exact .month hyear.1 hmonth.1
  · exact .day hyear.1 hmonth.1 hday.1

theorem readable_ofText (t : Text) : Readable (ofText t) := (firstDate_ofText t).readable

theorem Readable.year_eq {date : Date} (h : Readable date) :
    date.year = unknown ∨ IsDigits 4 date.year := by
  cases h with
  | absent => exact .inl rfl
  | year hyear | month hyear | day hyear => exact .inr hyear

theorem Readable.month_eq {date : Date} (h : Readable date) :
    date.month = unknown ∨ IsDigits 2 date.month := by
  cases h with
  | absent | year => exact .inl rfl
  | month _ hmonth | day _ hmonth => exact .inr hmonth

theorem Readable.day_eq {date : Date} (h : Readable date) :
    date.day = unknown ∨ IsDigits 2 date.day := by
  cases h with
  | absent | year | month => exact .inl rfl
  | day _ _ hday => exact .inr hday

private theorem Readable.month_of_day {date : Date} (h : Readable date)
    (hday : date.day ≠ unknown) : date.month ≠ unknown := by
  cases h with
  | absent | year | month => exact absurd rfl hday
  | day _ hmonth => exact hmonth.ne_unknown

private theorem Readable.year_of_month {date : Date} (h : Readable date)
    (hmonth : date.month ≠ unknown) : date.year ≠ unknown := by
  cases h with
  | absent | year => exact absurd rfl hmonth
  | month hyear | day hyear => exact hyear.ne_unknown

/-- The date of a text is the one at its leftmost year. The first three ways of reading agree with
it wherever they read anything, and where they do not the last one reads nothing either. The ten
characters from the year on decide alone, and no part of a date is there without the larger one. -/
structure ReadByRule (t : Text) (date : Date) : Prop where
  firstDate_iff : ∀ other, FirstDate t other ↔ other = date
  ways_agree : ∀ other, full? (Text.trim t) = some other ∨ yearMonth? (Text.trim t) = some other ∨
    search qualified? (Text.trim t) = some other → other = date
  standalone?_eq_none : search qualified? (Text.trim t) = none →
    standalone? false (Text.trim t) = none
  ten_characters : ∀ i year, YearAt t i year → NoYearBefore t i →
    ofText ((t.drop i).take 10) = date
  month_of_day : date.day ≠ unknown → date.month ≠ unknown
  year_of_month : date.month ≠ unknown → date.year ≠ unknown

/-- Reading a date comes to one rule, whatever the text. -/
theorem date_read_by_rule (engine : Engine) (countries : Value) (t : Text) :
    ∃ date : Date, ReadByRule t date ∧
      Operation.run engine (.parseField .date (.text t) countries) =
        pure (.fields date.fields) := by
  refine ⟨ofText t, ⟨?_, ?_, ?_, ?_, ?_, ?_⟩,
    Operation.run_parseField_date engine (some t) countries⟩
  · exact fun other => firstDate_iff
  · intro other hread
    rw [ofText_eq_search_trim, search_start?_of_read hread, Option.getD_some]
  · intro hnone
    exact standalone?_of_search_eq_none (search_qualified? _ ▸ hnone) false
  · exact fun i year => ofText_take_ten
  · exact (readable_ofText t).month_of_day
  · exact (readable_ofText t).year_of_month

example : ofText "Abt 1850-06, or 1851".toList = ⟨"1850".toList, "06".toList, unknown⟩ := by
  decide +kernel

end FilingName.Field.Date
