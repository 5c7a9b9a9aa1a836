import FilingName.Template.Engine
import Mathlib.Data.List.Basic

/-! How placeholders write numbers. Digits are put in front of a value or taken from it, and nothing
else is ever added. -/
namespace FilingName.Template

/-- A value is written as it is, with zeros in front, or as the last two digits of its number. -/
private theorem format_cases {name value written : Text} (h : format name value = .ok written) :
    written = value ∨ isNumber value = true ∧ (written = Text.padStart 2 '0' value ∨
      written = Text.padStart 2 '0' (Text.ofNat (Text.toNat value % 100))) := by
  unfold format at h
  split_ifs at h with hnumber hpadded hyear hlong
  · exact .inl (Except.ok.inj h).symm
  · exact .inr ⟨by simpa using hnumber, .inl (Except.ok.inj h).symm⟩
  · exact .inr ⟨by simpa using hnumber, .inr (Except.ok.inj h).symm⟩
  · exact .inl (Except.ok.inj h).symm

/-- A short year is asked of a numeral with more digits than are read as a number. -/
def TooLong (name value : Text) : Prop :=
  name = "YY".toList ∧ isNumber value = true ∧ digitLimit < value.length

/-- That a numeral is too long is the one thing that keeps a placeholder from writing a value. -/
theorem format_eq_error_iff {name value : Text} {fault : ValueFault} :
    format name value = .error fault ↔
      TooLong name value ∧ fault = .numeralTooLong value.length := by
  constructor
  · intro h
    unfold format at h
    split_ifs at h with hnumber hpadded hyear hlong
    exact ⟨⟨hyear, by simpa using hnumber, hlong⟩, (Except.error.inj h).symm⟩
  · rintro ⟨⟨rfl, hnumber, hlong⟩, rfl⟩
    rw [format, if_neg (by simp [hnumber]), if_neg (by decide), if_pos rfl, if_pos hlong]

theorem format_of_not_tooLong {name value : Text} (h : ¬ TooLong name value) :
    ∃ written, format name value = .ok written := by
  cases hformat : format name value with
  | ok written => exact ⟨written, rfl⟩
  | error fault => exact absurd (format_eq_error_iff.mp hformat).1 h

/-- Only a number with too many digits cannot be written. -/
theorem format_of_length_le {value : Text} (h : value.length ≤ digitLimit) (name : Text) :
    ∃ written, format name value = .ok written :=
  format_of_not_tooLong fun hlong => absurd h (Nat.not_le_of_lt hlong.2.2)

theorem padStart_of_le {length : Nat} {c : Char} {t : Text} (h : length ≤ t.length) :
    Text.padStart length c t = t := by
  rw [Text.padStart, Nat.sub_eq_zero_of_le h, List.replicate_zero, List.nil_append]

/-- A value of two characters or more has no zeros put in front of it. -/
theorem format_eq_self {name value : Text} (hname : name ≠ "YY".toList)
    (hvalue : isNumber value = true → 2 ≤ value.length) : format name value = .ok value := by
  unfold format
  split_ifs with hnumber hpadded
  · rfl
  · rw [padStart_of_le (hvalue (by simpa using hnumber))]
  · rfl

/-- Only month, day and short year are not written as they are. -/
theorem format_of_other_name {name : Text}
    (h : name ∉ ["MM".toList, "DD".toList, "YY".toList]) (value : Text) :
    format name value = .ok value := by
  simp only [List.mem_cons, List.not_mem_nil, or_false, not_or] at h
  obtain ⟨hmonth, hday, hyear⟩ := h
  rw [format, if_neg (not_or.mpr ⟨hmonth, hday⟩), if_neg hyear, ite_self]

theorem length_le_padStart (length : Nat) (c : Char) (t : Text) :
    length ≤ (Text.padStart length c t).length := by
  rw [Text.padStart, List.length_append, List.length_replicate]
  omega

theorem isDigit_of_mem_ofNat {n : Nat} {c : Char} (h : c ∈ Text.ofNat n) : Text.isDigit c := by
  have hdigit := Char.isDigit_iff_toNat.mp (Nat.isDigit_of_mem_toDigits (by decide) (by decide) h)
  simpa [Text.isDigit] using hdigit

theorem mem_padStart_zero {length : Nat} {t : Text} {c : Char}
    (h : c ∈ Text.padStart length '0' t) : c ∈ t ∨ Text.isDigit c := by
  rcases List.mem_append.mp h with hzero | hin
  · rw [(List.mem_replicate.mp hzero).2]
    exact .inr rfl
  · exact .inl hin

/-- Nothing but digits is ever added to a value. -/
theorem mem_or_isDigit_of_format {name value written : Text} (h : format name value = .ok written)
    {c : Char} (hc : c ∈ written) : c ∈ value ∨ Text.isDigit c := by
  rcases format_cases h with rfl | ⟨-, rfl | rfl⟩
  · exact .inl hc
  · exact mem_padStart_zero hc
  · rcases mem_padStart_zero hc with hdigit | hdigit
    · exact .inr (isDigit_of_mem_ofNat hdigit)
    · exact .inr hdigit

theorem format_ne_nil {name value written : Text} (h : format name value = .ok written)
    (hvalue : value ≠ []) : written ≠ [] := by
  have hpadded (t : Text) : Text.padStart 2 '0' t ≠ [] := by
    intro hnil
    have hlength := length_le_padStart 2 '0' t
    rw [hnil] at hlength
    cases hlength
  rcases format_cases h with rfl | ⟨-, rfl | rfl⟩
  · exact hvalue
  · exact hpadded _
  · exact hpadded _

private theorem exists_isDigit_eq {c : Char} (h : Text.isDigit c) :
    ∃ n < 10, c = Char.ofNat (48 + n) := by
  simp only [Text.isDigit, Bool.and_eq_true, decide_eq_true_eq] at h
  refine ⟨c.toNat - 48, by omega, ?_⟩
  rw [Nat.add_sub_cancel' h.1, Char.ofNat_toNat]

/-- Two digits are the number that they denote, with a zero in front where it is needed. -/
private theorem padStart_ofNat_of_digits {c d : Char} (hc : Text.isDigit c) (hd : Text.isDigit d) :
    Text.padStart 2 '0' (Text.ofNat (10 * (c.toNat - 48) + (d.toNat - 48))) = [c, d] := by
  have hall : ∀ m < 10, ∀ n < 10, Text.padStart 2 '0' (Text.ofNat
      (10 * ((Char.ofNat (48 + m)).toNat - 48) + ((Char.ofNat (48 + n)).toNat - 48))) =
      [Char.ofNat (48 + m), Char.ofNat (48 + n)] := by
    decide +kernel
  obtain ⟨m, hm, rfl⟩ := exists_isDigit_eq hc
  obtain ⟨n, hn, rfl⟩ := exists_isDigit_eq hd
  exact hall m hm n hn

theorem toNat_concat (t : Text) (c : Char) :
    Text.toNat (t ++ [c]) = 10 * Text.toNat t + (c.toNat - 48) := by
  rw [Text.toNat, List.foldl_append]
  rfl

/-- The short year of digits is the last two of them. -/
theorem format_shortYear {value : Text} (hdigits : ∀ c ∈ value, Text.isDigit c)
    (htwo : 2 ≤ value.length) (hlong : value.length ≤ digitLimit) :
    format "YY".toList value = .ok (value.drop (value.length - 2)) := by
  obtain ⟨front, c, d, rfl⟩ : ∃ front c d, value = front ++ [c] ++ [d] := by
    rcases List.eq_nil_or_concat value with rfl | ⟨most, d, rfl⟩
    · cases htwo
    · rcases List.eq_nil_or_concat most with rfl | ⟨front, c, rfl⟩
      · exact absurd htwo (by simp)
      · exact ⟨front, c, d, by rw [List.concat_eq_append, List.concat_eq_append]⟩
  have hnumber : isNumber (front ++ [c] ++ [d]) = true := by
    rw [isNumber, List.all_eq_true.mpr hdigits]
    simp
  have hlast : (front ++ [c] ++ [d]).drop ((front ++ [c] ++ [d]).length - 2) = [c, d] := by
    rw [List.append_assoc]
    exact List.drop_left' (by simp)
  have hnumeral : Text.toNat (front ++ [c] ++ [d]) % 100 =
      10 * (c.toNat - 48) + (d.toNat - 48) := by
    have hc := hdigits c (by simp)
    have hd := hdigits d (by simp)
    simp only [Text.isDigit, Bool.and_eq_true, decide_eq_true_eq] at hc hd
    rw [toNat_concat, toNat_concat]
    omega
  rw [format, hnumber, if_neg (by decide), if_neg (by decide), if_pos rfl,
    if_neg (Nat.not_lt_of_le hlong), hnumeral, hlast,
    padStart_ofNat_of_digits (hdigits c (by simp)) (hdigits d (by simp))]

end FilingName.Template
