import FilingName.Console.Style
import FilingName.Proofs.Text.Row
import FilingName.Proofs.Text.Words

/-! Names of styles that are one word without a meaning of its own among the words of styles, as the
names of colors are. -/
namespace FilingName.Console.Style

/-- Only a color by its parts of light can be at fault, and it holds a parenthesis. -/
private theorem exists_isColor {word : Text} (h : '(' ∉ Text.lower word) :
    ∃ known, isColor word = .ok known := by
  have hlight : between? "rgb(".toList (Text.lower word) = none := by
    rw [between?, if_neg]
    intro hfound
    rw [Bool.and_eq_true, List.isPrefixOf_iff_prefix] at hfound
    exact h (hfound.1.subset (by decide))
  simp only [isColor, hlight]
  split
  · exact ⟨true, rfl⟩
  · exact ⟨false, rfl⟩

/-- A word in small letters that is a color or no style at all. -/
structure Bare (word : Text) : Prop where
  small : word.all fun c => 'a' ≤ c && c ≤ 'z'
  lower_eq : Text.lower word = word
  attribute_eq : attribute? word = none
  ne : ∀ other ∈ ["".toList, "none".toList, "on".toList, "not".toList, "link".toList],
    word ≠ other

namespace Bare
variable {word : Text} (h : Bare word)
include h

theorem isSmall {c : Char} (hc : c ∈ word) : 'a' ≤ c ∧ c ≤ 'z' := by
  simpa using List.all_eq_true.mp h.small c hc

theorem isWord : Text.IsWord word where
  ne_nil := h.ne _ List.mem_cons_self
  not_blank c hc := by
    have hlow : 97 ≤ c.toNat := (h.isSmall hc).1
    have hhigh : c.toNat ≤ 122 := (h.isSmall hc).2
    simp only [Text.isBlank, Bool.or_eq_true, Bool.and_eq_true, decide_eq_true_eq, beq_iff_eq]
    omega

theorem trim_eq : Text.trim word = word :=
  Text.trim_of_trimmed ⟨fun c hc => h.isWord.not_blank c (List.mem_of_mem_head? hc),
    fun c hc => h.isWord.not_blank c (List.mem_of_getLast? hc)⟩

/-- Such a word is its own normal form. -/
theorem normalForm_eq : normalForm word = .ok word := by
  obtain ⟨hempty, hnone, hon, hnot, hlink⟩ :
      word ≠ [] ∧ word ≠ "none".toList ∧ word ≠ "on".toList ∧ word ≠ "not".toList ∧
        word ≠ "link".toList := by
    simpa using h.ne
  have hparenthesis : '(' ∉ Text.lower word := by
    rw [h.lower_eq]
    exact fun hin => absurd (h.isSmall hin) (by decide)
  obtain ⟨known, hknown⟩ := exists_isColor hparenthesis
  have hwords : ofWords? {} [word] = .ok (if known then some { color := some word } else none) := by
    simp only [ofWords?, h.lower_eq, h.attribute_eq, if_neg hon, if_neg hnot, if_neg hlink,
      hknown]
    cases known <;> rfl
  rw [normalForm, parse?, if_neg (by simpa [h.trim_eq] using ⟨hempty, hnone⟩),
    Text.words_of_isWord h.isWord, hwords]
  cases known with
  | false => exact congrArg Except.ok (by rw [h.trim_eq, h.lower_eq])
  | true => exact congrArg Except.ok (Text.join_singleton word : Text.join " ".toList [word] = word)

end Bare

/-- A style with a normal form can be looked up. -/
theorem exists_parse?_of_normalForm {name normal : Text} (h : normalForm name = .ok normal) :
    ∃ style, parse? name = .ok style := by
  cases hparse : parse? name with
  | ok style => exact ⟨style, rfl⟩
  | error fault =>
    rw [normalForm, hparse] at h
    cases h

end FilingName.Console.Style
