import FilingName.Proofs.Operation
import FilingName.Proofs.Template.Format
import Mathlib.Data.List.Induction

/-! Numerals as months, days and short years. Zeros in front make a numeral longer and leave its
number as it is, and the last two digits are what hundreds have no part in. What was written once is
written as it is from then on. -/
namespace FilingName.Template
open Text (padStart toNat isDigit)

/-- Digits of the basic alphabet, one at least. -/
structure IsNumeral (value : Text) : Prop where
  ne_nil : value ≠ []
  digits : ∀ c ∈ value, isDigit c

variable {name value out : Text}

private theorem isNumber_iff : isNumber value = true ↔ IsNumeral value := by
  rw [isNumber, Bool.and_eq_true, List.all_eq_true]
  constructor
  · rintro ⟨hne, hdigits⟩
    exact ⟨by simpa using hne, hdigits⟩
  · rintro ⟨hne, hdigits⟩
    exact ⟨by simpa using hne, hdigits⟩

private theorem format_of_not_numeral (h : ¬ IsNumeral value) (name : Text) :
    format name value = .ok value := by
  rw [← isNumber_iff, Bool.not_eq_true] at h
  rw [format, h]
  rfl

private theorem length_padStart (length : Nat) (c : Char) (t : Text) :
    (padStart length c t).length = max length t.length := by
  rw [padStart, List.length_append, List.length_replicate]
  omega

private theorem suffix_padStart (length : Nat) (c : Char) (t : Text) : t <:+ padStart length c t :=
  List.suffix_append _ _

private theorem toNat_zeros (n : Nat) : toNat (List.replicate n '0') = 0 := by
  induction n with
  | zero => rfl
  | succ n ih =>
    rw [List.replicate_succ', toNat_concat, ih]
    rfl

private theorem toNat_zeros_append (n : Nat) (t : Text) :
    toNat (List.replicate n '0' ++ t) = toNat t := by
  induction t using List.reverseRecOn with
  | nil =>
    rw [List.append_nil, toNat_zeros]
    rfl
  | append_singleton t c ih => rw [← List.append_assoc, toNat_concat, toNat_concat, ih]

private theorem toNat_padStart (length : Nat) (t : Text) :
    toNat (padStart length '0' t) = toNat t :=
  toNat_zeros_append _ t

private theorem IsNumeral.padStart (h : IsNumeral value) (length : Nat) :
    IsNumeral (padStart length '0' value) where
  ne_nil := List.append_ne_nil_of_right_ne_nil _ h.ne_nil
  digits c hc := (mem_padStart_zero hc).elim (h.digits c) id

private theorem format_padded (h : IsNumeral value)
    (hname : name = "MM".toList ∨ name = "DD".toList) :
    format name value = .ok (padStart 2 '0' value) := by
  rw [format, isNumber_iff.mpr h, if_pos hname]
  rfl

private theorem format_padded_again (h : IsNumeral value)
    (hname : name = "MM".toList ∨ name = "DD".toList) :
    format name (padStart 2 '0' value) = .ok (padStart 2 '0' value) := by
  rw [format_padded (h.padStart 2) hname, padStart_of_le (length_le_padStart 2 '0' value)]

private theorem format_short (h : IsNumeral value) (hlength : value.length ≤ digitLimit) :
    format "YY".toList value = .ok (padStart 2 '0' (Text.ofNat (toNat value % 100))) := by
  rw [format, isNumber_iff.mpr h, if_neg (by decide), if_neg (by decide), if_pos rfl,
    if_neg (Nat.not_lt_of_le hlength)]

/-- The short year is written in two characters, the last ones of the numeral behind any zeros. -/
private theorem exists_short (h : IsNumeral value) (hlength : value.length ≤ digitLimit) :
    ∃ short, format "YY".toList value = .ok short ∧ short.length = 2 ∧
      short <:+ padStart 2 '0' value := by
  have hpadded := length_padStart 2 '0' value
  have htwo : 2 ≤ (padStart 2 '0' value).length := length_le_padStart 2 '0' value
  have hlimit : (padStart 2 '0' value).length ≤ digitLimit := by
    rw [hpadded]
    exact max_le (by decide) hlength
  have hsame : format "YY".toList value = format "YY".toList (padStart 2 '0' value) := by
    rw [format_short h hlength, format_short (h.padStart 2) hlimit, toNat_padStart]
  rw [format_shortYear (h.padStart 2).digits htwo hlimit] at hsame
  refine ⟨_, hsame, ?_, List.drop_suffix _ _⟩
  rw [List.length_drop]
  omega

private theorem length_le_of_format (h : IsNumeral value)
    (hout : format "YY".toList value = .ok out) : value.length ≤ digitLimit := by
  by_contra hlong
  have htooLong : TooLong "YY".toList value := ⟨rfl, isNumber_iff.mpr h, Nat.lt_of_not_le hlong⟩
  rw [format_eq_error_iff.mpr ⟨htooLong, rfl⟩] at hout
  cases hout

private theorem format_short_again (h : IsNumeral value)
    (hout : format "YY".toList value = .ok out) : format "YY".toList out = .ok out := by
  obtain ⟨short, hshort, htwo, hsuffix⟩ := exists_short h (length_le_of_format h hout)
  obtain rfl : short = out := Except.ok.inj (hshort.symm.trans hout)
  have hdigits : ∀ c ∈ short, isDigit c := fun c hc =>
    (h.padStart 2).digits c (hsuffix.subset hc)
  have hagain := format_shortYear hdigits htwo.ge (by rw [htwo]; decide)
  rwa [htwo] at hagain

/-- What a placeholder has written it writes as it is. -/
private theorem format_again (h : format name value = .ok out) : format name out = .ok out := by
  by_cases hnumeral : IsNumeral value
  · by_cases hname : name ∈ ["MM".toList, "DD".toList, "YY".toList]
    · simp only [List.mem_cons, List.not_mem_nil, or_false, ← or_assoc] at hname
      rcases hname with hpadded | rfl
      · rw [format_padded hnumeral hpadded] at h
        exact Except.ok.inj h ▸ format_padded_again hnumeral hpadded
      · exact format_short_again hnumeral h
    · rw [format_of_other_name hname] at h
      exact Except.ok.inj h ▸ format_of_other_name hname value
  · rw [format_of_not_numeral hnumeral] at h
    exact Except.ok.inj h ▸ format_of_not_numeral hnumeral name

/-- Month and day put zeros in front of a numeral of one digit, and the short year keeps the last
two digits of a numeral. Nothing else is changed, under these names or others, and nothing is
changed a second time. -/
theorem numerals_written_by_name (engine : Engine) :
    let format (name value : Text) := Operation.run engine (.format (.text name) (.text value))
    (∀ value, IsNumeral value →
        (∃ padded, format "MM".toList value = pure (.value (.text padded)) ∧
          format "DD".toList value = pure (.value (.text padded)) ∧
          toNat padded = toNat value ∧ padded.length = max 2 value.length ∧ value <:+ padded) ∧
        (value.length ≤ digitLimit → ∃ short,
          format "YY".toList value = pure (.value (.text short)) ∧ short.length = 2 ∧
          short <:+ padStart 2 '0' value)) ∧
      (∀ name value, ¬ IsNumeral value ∨ name ∉ ["MM".toList, "DD".toList, "YY".toList] →
        format name value = pure (.value (.text value))) ∧
      ∀ name value out, format name value = pure (.value (.text out)) →
        format name out = pure (.value (.text out)) := by
  simp only [Operation.run_format_eq_ok]
  refine ⟨fun value h => ⟨⟨padStart 2 '0' value, ?_, ?_, ?_, ?_, ?_⟩, exists_short h⟩,
    fun name value h => ?_, fun _ _ _ => format_again⟩
  · exact format_padded h (.inl rfl)
  · exact format_padded h (.inr rfl)
  · exact toNat_padStart 2 value
  · exact length_padStart 2 '0' value
  · exact suffix_padStart 2 '0' value
  · rcases h with hvalue | hname
    · exact format_of_not_numeral hvalue name
    · exact format_of_other_name hname value

/-- A year of one digit, and what its short form is written as. -/
theorem year_seven_shortened :
    let format (name value : Text) :=
      Operation.run ⟨.null, .null⟩ (.format (.text name) (.text value))
    IsNumeral "7".toList ∧ "7".toList.length ≤ digitLimit ∧
      format "YY".toList "7".toList = pure (.value (.text "07".toList)) ∧
      format "YY".toList "07".toList = pure (.value (.text "07".toList)) ∧
      format "YYYY".toList "7".toList = pure (.value (.text "7".toList)) := by
  intro format
  obtain ⟨hnumerals, hothers, hagain⟩ := numerals_written_by_name ⟨.null, .null⟩
  have hseven : IsNumeral "7".toList := ⟨by decide, List.all_eq_true.mp (by decide)⟩
  obtain ⟨short, hshort, htwo, hsuffix⟩ := (hnumerals _ hseven).2 (by decide)
  obtain rfl : short = "07".toList := hsuffix.eq_of_length htwo
  exact ⟨hseven, by decide, hshort, hagain _ _ _ hshort, hothers _ _ (.inr (by decide))⟩

end FilingName.Template
