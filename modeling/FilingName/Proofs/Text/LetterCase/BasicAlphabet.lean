import FilingName.Proofs.Text.LetterCase
import FilingName.Text.DecimalDigit

/-! Letter case in the basic alphabet. A change of case asks for the letters of a text and not for
the case that they have; and the letters of the basic alphabet stay the same letters. -/
namespace FilingName.Text

/-- A text of characters of the basic alphabet. -/
def IsBasic (t : Text) : Prop := ∀ c ∈ t, c.toNat < 128

/-- The texts differ at most in the case of letters of the basic alphabet. -/
def SameLetters (t u : Text) : Prop := t.map Char.toLower = u.map Char.toLower

instance (t : Text) : Decidable (IsBasic t) := List.decidableBAll _ t

instance (t u : Text) : Decidable (SameLetters t u) :=
  inferInstanceAs (Decidable (t.map Char.toLower = u.map Char.toLower))

private theorem SameLetters.append {t u t' u' : Text} (h : SameLetters t u)
    (h' : SameLetters t' u') : SameLetters (t ++ t') (u ++ u') := by
  rw [SameLetters, List.map_append, List.map_append, h, h']

private theorem forall_basic {p : Char → Prop} (h : ∀ n < 128, p (Char.ofNat n)) {c : Char}
    (hc : c.toNat < 128) : p c :=
  Char.ofNat_toNat c ▸ h c.toNat hc

private theorem toLower_of_le {c : Char} (hc : 128 ≤ c.toNat) : c.toLower = c := by
  refine dif_neg fun hcapital => ?_
  have hle : c.toNat ≤ 90 := hcapital.2
  omega

private theorem toLower_eq_self_or_mem (c : Char) :
    c.toLower = c ∨ c ∈ "ABCDEFGHIJKLMNOPQRSTUVWXYZ".toList := by
  by_cases hc : c.toNat < 128
  · exact forall_basic (p := fun c => c.toLower = c ∨ c ∈ "ABCDEFGHIJKLMNOPQRSTUVWXYZ".toList)
      (by decide +kernel) hc
  · exact .inl (toLower_of_le (Nat.le_of_not_lt hc))

/-- What is the same for a capital and its small letter does not ask for letter case. -/
theorem toLower_congr {α : Type} [DecidableEq α] (f : Char → α)
    (h : "ABCDEFGHIJKLMNOPQRSTUVWXYZ".toList.all fun c => f c.toLower = f c) (c : Char) :
    f c.toLower = f c := by
  rcases toLower_eq_self_or_mem c with heq | hin
  · rw [heq]
  · exact of_decide_eq_true (List.all_eq_true.mp h c hin)

/-- All that a change of case asks of a character. -/
structure Traits where
  blank : Bool
  wordCharacter : Bool
  cased : Bool
  caseIgnorable : Bool
  upper : Text
  lower : Text
  deriving DecidableEq

def Traits.ofChar (c : Char) : Traits :=
  ⟨isBlank c, isWordCharacter c, isCased c, isCaseIgnorable c, upperOf c, lowerOf c⟩

private theorem traits_toLower (c : Char) : Traits.ofChar c.toLower = .ofChar c :=
  toLower_congr Traits.ofChar (by decide +kernel) c

private theorem isBlank_toLower (c : Char) : isBlank c.toLower = isBlank c :=
  congrArg Traits.blank (traits_toLower c)

private theorem isWordCharacter_toLower (c : Char) :
    isWordCharacter c.toLower = isWordCharacter c :=
  congrArg Traits.wordCharacter (traits_toLower c)

private theorem isCased_toLower (c : Char) : isCased c.toLower = isCased c :=
  congrArg Traits.cased (traits_toLower c)

private theorem isCaseIgnorable_toLower (c : Char) :
    isCaseIgnorable c.toLower = isCaseIgnorable c :=
  congrArg Traits.caseIgnorable (traits_toLower c)

theorem upperOf_toLower (c : Char) : upperOf c.toLower = upperOf c :=
  congrArg Traits.upper (traits_toLower c)

private theorem lowerOf_toLower (c : Char) : lowerOf c.toLower = lowerOf c :=
  congrArg Traits.lower (traits_toLower c)

/-- Only word characters have a case in the basic alphabet. -/
private theorem toLower_of_not_isWordCharacter {c : Char} (h : isWordCharacter c = false) :
    c.toLower = c := by
  rcases toLower_eq_self_or_mem c with heq | hin
  · exact heq
  · have hletters : "ABCDEFGHIJKLMNOPQRSTUVWXYZ".toList.all isWordCharacter := by
      decide +kernel
    rw [List.all_eq_true.mp hletters c hin] at h
    cases h

private theorem toLower_eq_sigma (c : Char) : c.toLower = 'Σ' ↔ c = 'Σ' :=
  decide_eq_decide.mp (toLower_congr (fun c => decide (c = 'Σ')) (by decide) c)

private theorem map_toLower_changed {c : Char} (hc : c.toNat < 128) :
    (upperOf c).map Char.toLower = [c.toLower] ∧ (lowerOf c).map Char.toLower = [c.toLower] :=
  forall_basic (p := fun c => (upperOf c).map Char.toLower = [c.toLower] ∧
    (lowerOf c).map Char.toLower = [c.toLower]) (by decide +kernel) hc

theorem upper_map_toLower (t : Text) : upper (t.map Char.toLower) = upper t := by
  rw [upper, upper, List.flatMap_map]
  exact List.flatMap_congr fun c _ => upperOf_toLower c

private theorem beforeCased_map_toLower (t : Text) :
    beforeCased (t.map Char.toLower) = beforeCased t := by
  induction t with
  | nil => rfl
  | cons c t ih =>
    simp only [beforeCased] at ih ⊢
    by_cases h : isCaseIgnorable c
    · simp [isCaseIgnorable_toLower, h, ih]
    · simp [isCaseIgnorable_toLower, isCased_toLower, h]

private theorem lowerAfter_map_toLower (afterCased : Bool) (t : Text) :
    lowerAfter afterCased (t.map Char.toLower) = lowerAfter afterCased t := by
  induction t generalizing afterCased with
  | nil => rfl
  | cons c t ih =>
    simp only [List.map_cons, lowerAfter, ih, toLower_eq_sigma, beforeCased_map_toLower,
      lowerOf_toLower, isCaseIgnorable_toLower, isCased_toLower]

theorem lower_map_toLower (t : Text) : lower (t.map Char.toLower) = lower t :=
  lowerAfter_map_toLower false t

theorem lower_of_sameLetters {t u : Text} (h : SameLetters t u) : lower t = lower u := by
  rw [← lower_map_toLower t, h, lower_map_toLower]

theorem titleCase_map_toLower (t : Text) : titleCase (t.map Char.toLower) = titleCase t := by
  have hblank : (!isBlank ·) ∘ Char.toLower = (!isBlank ·) := by
    funext c
    simp [isBlank_toLower]
  induction t using titleCase.induct with
  | case1 => rfl
  | case2 c rest hword ih =>
    rw [List.map_cons, titleCase, isWordCharacter_toLower, if_pos hword, upperOf_toLower,
      List.takeWhile_map, List.dropWhile_map, hblank, lower_map_toLower, ih, titleCase,
      if_pos hword]
  | case3 c rest hword ih =>
    rw [List.map_cons, titleCase, isWordCharacter_toLower, if_neg hword, ih, titleCase,
      if_neg hword, toLower_of_not_isWordCharacter (Bool.eq_false_iff.mpr hword)]

theorem sameLetters_upper {t : Text} (h : IsBasic t) : SameLetters (upper t) t := by
  induction t with
  | nil => rfl
  | cons c t ih =>
    rw [IsBasic, List.forall_mem_cons] at h
    exact SameLetters.append (u := [c]) (map_toLower_changed h.1).1 (ih h.2)

private theorem sameLetters_lowerAfter {t : Text} (h : IsBasic t) (afterCased : Bool) :
    SameLetters (lowerAfter afterCased t) t := by
  induction t generalizing afterCased with
  | nil => rfl
  | cons c t ih =>
    rw [IsBasic, List.forall_mem_cons] at h
    have hsigma : c ≠ 'Σ' := by
      rintro rfl
      exact absurd h.1 (by decide)
    rw [lowerAfter, if_neg hsigma]
    exact SameLetters.append (u := [c]) (map_toLower_changed h.1).2 (ih h.2 _)

theorem sameLetters_lower {t : Text} (h : IsBasic t) : SameLetters (lower t) t :=
  sameLetters_lowerAfter h false

theorem sameLetters_titleCase {t : Text} (h : IsBasic t) : SameLetters (titleCase t) t := by
  induction t using titleCase.induct with
  | case1 =>
    rw [titleCase]
    rfl
  | case2 c rest hword ih =>
    rw [IsBasic, List.forall_mem_cons] at h
    have hword' : IsBasic (rest.takeWhile (!isBlank ·)) :=
      fun d hd => h.2 d ((List.takeWhile_prefix _).subset hd)
    have hrest : IsBasic (rest.dropWhile (!isBlank ·)) :=
      fun d hd => h.2 d ((List.dropWhile_suffix _).subset hd)
    have hsplit : c :: rest =
        [c] ++ rest.takeWhile (!isBlank ·) ++ rest.dropWhile (!isBlank ·) := by
      rw [List.append_assoc, List.takeWhile_append_dropWhile, List.singleton_append]
    rw [titleCase, if_pos hword, hsplit]
    exact .append (.append (map_toLower_changed h.1).1 (sameLetters_lower hword')) (ih hrest)
  | case3 c rest hword ih =>
    rw [IsBasic, List.forall_mem_cons] at h
    rw [titleCase, if_neg hword]
    exact SameLetters.append (t := [c]) (u := [c]) rfl (ih h.2)

/-- What does not ask for the case of letters holds of the same letters. -/
theorem SameLetters.forall_mem {t u : Text} (h : SameLetters t u) (p : Char → Bool)
    (hp : ∀ c : Char, p c.toLower = p c) (ht : ∀ c ∈ t, p c) : ∀ c ∈ u, p c := by
  intro c hc
  have hlower : c.toLower ∈ t.map Char.toLower := h ▸ List.mem_map_of_mem hc
  obtain ⟨d, hd, heq⟩ := List.mem_map.mp hlower
  rw [← hp c, ← heq, hp d]
  exact ht d hd

private theorem toLower_of_isDigit {c : Char} (h : isDigit c) : c.toLower = c := by
  rcases toLower_eq_self_or_mem c with heq | hin
  · exact heq
  · have hletters : "ABCDEFGHIJKLMNOPQRSTUVWXYZ".toList.all fun c => !isDigit c := by decide
    have hnot : (!isDigit c) = true := List.all_eq_true.mp hletters c hin
    rw [h] at hnot
    cases hnot

theorem isBasic_of_digits {t : Text} (h : ∀ c ∈ t, isDigit c) : IsBasic t := by
  intro c hc
  have hdigit := h c hc
  simp only [isDigit, Bool.and_eq_true, decide_eq_true_eq] at hdigit
  omega

/-- Digits have no case. -/
theorem SameLetters.eq_of_digits {t u : Text} (h : SameLetters t u) (hu : ∀ c ∈ u, isDigit c) :
    t = u := by
  have hdigit (c : Char) : isDigit c.toLower = isDigit c := toLower_congr isDigit (by decide) c
  have hkept {t : Text} (ht : ∀ c ∈ t, isDigit c) : t.map Char.toLower = t :=
    (List.map_congr_left fun c hc => toLower_of_isDigit (ht c hc)).trans (List.map_id t)
  have ht : ∀ c ∈ t, isDigit c := SameLetters.forall_mem h.symm isDigit hdigit hu
  calc t
    _ = t.map Char.toLower := (hkept ht).symm
    _ = u.map Char.toLower := h
    _ = u := hkept hu

theorem IsBasic.of_sameLetters {t u : Text} (h : IsBasic t) (hsame : SameLetters u t) :
    IsBasic u := by
  have hbasic (c : Char) : decide (c.toLower.toNat < 128) = decide (c.toNat < 128) :=
    toLower_congr (fun c => decide (c.toNat < 128)) (by decide) c
  have hall := SameLetters.forall_mem hsame.symm (fun c => decide (c.toNat < 128)) hbasic
    fun c hc => decide_eq_true (h c hc)
  exact fun c hc => of_decide_eq_true (hall c hc)

end FilingName.Text
