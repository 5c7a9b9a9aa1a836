import FilingName.Proofs.Template.Resolution
import FilingName.Proofs.Template.Validity
import FilingName.Proofs.Text.LetterCase.BasicAlphabet
import FilingName.Proofs.Text.LetterCase.Stability

/-! Modifiers one after the other. But for title case, a modifier finds nothing left to do in what
it has made itself. On the basic alphabet all but the last of several modifiers could be left out,
for each asks for the letters alone, and only the initial does not keep them. -/
namespace FilingName.Template
open Text (IsBasic SameLetters)

/-- The letters that names and modifiers are written in. -/
def isLetter (c : Char) : Bool := isNameLetter c || ('a' ≤ c && c ≤ 'z')

theorem Token.WellFormed.letters_name {token : Token} (h : token.WellFormed) :
    ∀ c ∈ token.name, isLetter c := by
  intro c hc
  rw [isLetter, h.name_letters c hc, Bool.true_or]

theorem Token.WellFormed.letters_modifier {token : Token} (h : token.WellFormed) :
    ∀ c ∈ token.modifier, isLetter c := by
  cases hchain : token.chain with
  | none => simp [Token.modifier, hchain]
  | some chain =>
    intro c hc
    have hlast := token.isLastPiece_modifier hchain
    have hcolon : c ≠ ':' := fun he => hlast.1 (he ▸ hc)
    have hcharacter := h.chain_characters chain hchain c (hlast.mem hc)
    rwa [isChainCharacter, beq_false_of_ne hcolon, Bool.or_false] at hcharacter

/-- A modifier goes by its name in any letter case. -/
theorem ofName?_eq_some_iff {written : Text} {modifier : Modifier} :
    Modifier.ofName? written = some modifier ↔ Text.lower written = modifier.name := by
  rw [Modifier.ofName?]
  constructor
  · intro h
    have hfound : decide (modifier.name = Text.lower written) =
        true := List.find?_some (p := fun other : Modifier => other.name = Text.lower written) h
    exact (of_decide_eq_true hfound).symm
  · intro h
    rw [h]
    cases modifier <;> decide

/-- A modifier that exists is applied, and there is nothing to report. -/
theorem modify_of_name {written : Text} {modifier : Modifier}
    (h : Text.lower written = modifier.name) (v : Text) :
    modify written v = pure (modifier.apply v) := by
  have hsome := ofName?_eq_some_iff.mpr h
  rw [modify_eq, modified, hsome, if_pos (.inr (.inr rfl))]
  rfl

private theorem applyModifier_of_name {written : Text} {modifier : Modifier}
    (h : Text.lower written = modifier.name) (v : Text) :
    OnValues.applyModifier (.text v) (.text written) = pure (.text (modifier.apply v)) := by
  have hwritten : written ≠ [] := by
    rintro rfl
    cases modifier <;> cases h
  by_cases hv : v = []
  · subst hv
    simp [OnValues.applyModifier, Value.isBlank, modifier_apply_nil]
  · have hblank : ((Value.text written).isBlank || (Value.text v).isBlank) = false := by
      simp [Value.isBlank, hwritten, hv]
    rw [OnValues.applyModifier, if_neg (Bool.eq_false_iff.mp hblank), Value.textFor,
      Logged.lift_bind_ok, ofName?_eq_some_iff.mpr h]
    cases modifier <;> rfl

private theorem run_applyModifier_of_name {written : Text} {modifier : Modifier}
    (h : Text.lower written = modifier.name) (engine : Engine) (v : Text) :
    Operation.run engine (.applyModifier (.text v) (.text written)) =
      pure (.value (.text (modifier.apply v))) := by
  rw [Operation.run, applyModifier_of_name h]
  rfl

private theorem exists_initial (c : Char) (rest : Text) :
    ∃ d, d ∈ Text.upperOf c ∧ Modifier.initial.apply (c :: rest) = [d] := by
  obtain ⟨d, more, hupper⟩ := List.exists_cons_of_ne_nil (Text.upperOf_ne_nil c)
  exact ⟨d, hupper ▸ List.mem_cons_self, by rw [Modifier.apply, hupper]; rfl⟩

private theorem apply_apply {modifier : Modifier} (h : modifier ≠ .title) (v : Text) :
    modifier.apply (modifier.apply v) = modifier.apply v := by
  cases modifier with
  | upper => exact Text.upper_upper v
  | lower => exact Text.lower_lower v
  | title => exact absurd rfl h
  | initial =>
    cases v with
    | nil => rfl
    | cons c rest =>
      obtain ⟨d, hd, hinitial⟩ := exists_initial c rest
      rw [hinitial, Modifier.apply, Text.upperOf_of_mem hd]
      rfl

/-- Upper case, lower case and the initial of a text stay as they are when they are asked for again,
and the initial of a text is one character. -/
theorem modified_again_unchanged (engine : Engine) (v written : Text)
    (h : Text.lower written ∈ ["upper".toList, "lower".toList, "abbrev".toList]) :
    ∃ out, Operation.run engine (.applyModifier (.text v) (.text written)) =
        pure (.value (.text out)) ∧
      Operation.run engine (.applyModifier (.text out) (.text written)) =
        pure (.value (.text out)) ∧
      (Text.lower written = "abbrev".toList → v ≠ [] → out.length = 1) := by
  obtain ⟨modifier, hname, htitle⟩ :
      ∃ modifier : Modifier, Text.lower written = modifier.name ∧ modifier ≠ .title := by
    simp only [List.mem_cons, List.not_mem_nil, or_false] at h
    rcases h with h | h | h
    · exact ⟨.upper, h, by decide⟩
    · exact ⟨.lower, h, by decide⟩
    · exact ⟨.initial, h, by decide⟩
  refine ⟨modifier.apply v, ?_, ?_, fun habbrev hv => ?_⟩
  · exact run_applyModifier_of_name hname engine v
  · rw [run_applyModifier_of_name hname, apply_apply htitle]
  · obtain rfl : modifier = .initial := by
      have hsome := ofName?_eq_some_iff.mpr hname
      exact Option.some.inj (hsome.symm.trans (ofName?_eq_some_iff.mpr habbrev))
    obtain ⟨c, rest, rfl⟩ := List.exists_cons_of_ne_nil hv
    obtain ⟨d, -, hinitial⟩ := exists_initial c rest
    rw [hinitial, List.length_singleton]

/-- The last sigma of a name has a form of its own, and keeps it. -/
theorem lowered_name_kept :
    Operation.run ⟨.null, .null⟩ (.applyModifier (.text "ΗΛΊΑΣ".toList) (.text "Lower".toList)) =
        pure (.value (.text "ηλίας".toList)) ∧
      Operation.run ⟨.null, .null⟩ (.applyModifier (.text "ηλίας".toList) (.text "Lower".toList)) =
        pure (.value (.text "ηλίας".toList)) := by
  obtain ⟨out, hfirst, hagain, -⟩ :=
    modified_again_unchanged ⟨.null, .null⟩ "ΗΛΊΑΣ".toList "Lower".toList (by decide +kernel)
  have hout : out = "ηλίας".toList := by
    have hname : Text.lower "Lower".toList = Modifier.lower.name := by decide +kernel
    have hlower : Text.lower "ΗΛΊΑΣ".toList = "ηλίας".toList := by decide +kernel
    rw [run_applyModifier_of_name hname, Modifier.apply, hlower] at hfirst
    simpa using (congrArg Logged.outcome hfirst).symm
  rw [hout] at hfirst hagain
  exact ⟨hfirst, hagain⟩

private theorem apply_of_sameLetters {v w : Text} (h : SameLetters v w) (modifier : Modifier) :
    modifier.apply v = modifier.apply w := by
  have hletters (u : Text) : modifier.apply (u.map Char.toLower) = modifier.apply u := by
    cases modifier with
    | upper => exact Text.upper_map_toLower u
    | lower => exact Text.lower_map_toLower u
    | title => exact Text.titleCase_map_toLower u
    | initial =>
      cases u with
      | nil => rfl
      | cons c rest => rw [List.map_cons, Modifier.apply, Text.upperOf_toLower, Modifier.apply]
  rw [← hletters v, h, hletters w]

private theorem sameLetters_apply {modifier : Modifier} (h : modifier ≠ .initial) {v : Text}
    (hv : IsBasic v) : SameLetters (modifier.apply v) v := by
  cases modifier with
  | upper => exact Text.sameLetters_upper hv
  | lower => exact Text.sameLetters_lower hv
  | title => exact Text.sameLetters_titleCase hv
  | initial => exact absurd rfl h

/-- Digits are left as they are by all modifiers but the initial. -/
theorem apply_of_digits {modifier : Modifier} (h : modifier ≠ .initial) {v : Text}
    (hv : ∀ c ∈ v, Text.isDigit c) : modifier.apply v = v :=
  (sameLetters_apply h (Text.isBasic_of_digits hv)).eq_of_digits hv

/-- Applies the modifiers in their order, each to what the one before it has made of the value. -/
def applyAll (modifiers : List Text) (value : Value) : Reported Value :=
  modifiers.foldlM (fun value written => OnValues.applyModifier value (.text written)) value

/-- Modifiers other than the initial leave a text of the basic alphabet with its letters. -/
private theorem applyAll_sameLetters {earlier : List Text} {v : Text} (hv : IsBasic v)
    (hnames : ∀ written ∈ earlier, Text.lower written ∈ modifierNames)
    (hinitial : ∀ written ∈ earlier, Text.lower written ≠ "abbrev".toList) :
    ∃ w, SameLetters w v ∧ applyAll earlier (.text v) = pure (.text w) := by
  induction earlier generalizing v with
  | nil => exact ⟨v, rfl, rfl⟩
  | cons written earlier ih =>
    rw [List.forall_mem_cons] at hnames hinitial
    obtain ⟨modifier, hmodifier⟩ := Option.isSome_iff_exists.mp (ofName?_isSome.mpr hnames.1)
    have hname := ofName?_eq_some_iff.mp hmodifier
    have hkeeps : modifier ≠ .initial := by
      rintro rfl
      exact hinitial.1 hname
    have hletters := sameLetters_apply hkeeps hv
    obtain ⟨w, hw, hrest⟩ := ih (hv.of_sameLetters hletters) hnames.2 hinitial.2
    refine ⟨w, hw.trans hletters, ?_⟩
    rw [applyAll, List.foldlM_cons, applyModifier_of_name hname, pure_bind]
    exact hrest

/-- On a text of the basic alphabet it comes to the same to apply all modifiers of a row or only the
last of them, unless one of the others is the initial. -/
theorem applyAll_eq_last (v : Text) (modifiers : List Text) (hv : IsBasic v) (hne : modifiers ≠ [])
    (hnames : ∀ written ∈ modifiers, Text.lower written ∈ modifierNames)
    (hinitial : ∀ written ∈ modifiers.dropLast, Text.lower written ≠ "abbrev".toList) :
    ∃ out, applyAll modifiers (.text v) = pure (.text out) ∧
      OnValues.applyModifier (.text v) (.text (modifiers.getLast hne)) = pure (.text out) := by
  obtain ⟨modifier, hmodifier⟩ := Option.isSome_iff_exists.mp
    (ofName?_isSome.mpr (hnames _ (List.getLast_mem hne)))
  have hname := ofName?_eq_some_iff.mp hmodifier
  obtain ⟨w, hw, hearlier⟩ := applyAll_sameLetters hv
    (fun written hin => hnames written (List.dropLast_subset _ hin)) hinitial
  refine ⟨modifier.apply v, ?_, applyModifier_of_name hname v⟩
  calc applyAll modifiers (.text v)
    _ = applyAll (modifiers.dropLast ++ [modifiers.getLast hne]) (.text v) := by
        rw [List.dropLast_concat_getLast]
    _ = applyAll modifiers.dropLast (.text v) >>=
          applyAll [modifiers.getLast hne] := List.foldlM_append
    _ = applyAll [modifiers.getLast hne] (.text w) := by rw [hearlier, pure_bind]
    _ = pure (.text (modifier.apply w)) := by
        rw [applyAll, List.foldlM_cons, applyModifier_of_name hname]
        rfl
    _ = pure (.text (modifier.apply v)) := by rw [apply_of_sameLetters hw]

/-- All that can be seen of three modifiers is the title case. -/
theorem obrien_titled_last :
    applyAll ["UPPER".toList, "lower".toList, "Title".toList] (.text "o'brien (Jr)".toList) =
      pure (.text "O'brien (Jr)".toList) := by
  obtain ⟨out, hall, hlast⟩ := applyAll_eq_last "o'brien (Jr)".toList
    ["UPPER".toList, "lower".toList, "Title".toList] (by decide) (List.cons_ne_nil _ _)
    (by decide +kernel) (by decide +kernel)
  rw [List.getLast_cons_cons, List.getLast_cons_cons, List.getLast_singleton] at hlast
  have htitle : OnValues.applyModifier (.text "o'brien (Jr)".toList) (.text "Title".toList) =
      pure (.text "O'brien (Jr)".toList) := by
    have hname : Text.lower "Title".toList = Modifier.title.name := by decide +kernel
    have hcase : Text.titleCase "o'brien (Jr)".toList = "O'brien (Jr)".toList := by
      decide +kernel
    rw [applyModifier_of_name hname, Modifier.apply, hcase]
  have hout : out = "O'brien (Jr)".toList := by
    rw [htitle] at hlast
    simpa using (congrArg Logged.outcome hlast).symm
  rw [hout] at hall
  exact hall

end FilingName.Template
