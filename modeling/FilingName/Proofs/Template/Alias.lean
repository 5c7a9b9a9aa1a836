import FilingName.Proofs.Template.Chain
import FilingName.Proofs.Template.TextSource

/-! Tokens with another name, and tokens without their chain. Names for the same field stand for one
another where they write its text in the same way, and a chain can be left out where its modifier
finds nothing to change. -/
namespace FilingName.Template
open Text (IsLastPiece)

/-- The token with another name of the same group in the place of its own. -/
inductive Token.Renamed (groups : List (List String)) : Token → Token → Prop
  | same (token : Token) : Renamed groups token token
  | name {names : List String} {name other : String} {chain : Option Text} : names ∈ groups →
      name ∈ names → other ∈ names →
      Renamed groups ⟨name.toList, chain⟩ ⟨other.toList, chain⟩

/-- The token without its chain, if it has one of the names and the chain ends in the name of a
letter case. -/
inductive Token.Unchained (names : List Text) : Token → Token → Prop
  | same (token : Token) : Unchained names token token
  | chain {name chain last : Text} : name ∈ names → IsLastPiece ':' chain last →
      Text.lower last ∈ ["upper".toList, "lower".toList, "title".toList] →
      Unchained names ⟨name, some chain⟩ ⟨name, none⟩

section
variable {token other : Token}

theorem Token.Renamed.wellFormed {groups : List (List String)}
    (hgroups : ∀ names ∈ groups, ∀ name ∈ names,
      name.toList ≠ [] ∧ ∀ c ∈ name.toList, isNameLetter c)
    (h : token.Renamed groups other) (htoken : token.WellFormed) : other.WellFormed := by
  cases h with
  | same => exact htoken
  | name hnames hname hother =>
    obtain ⟨hne, hletters⟩ := hgroups _ hnames _ hother
    exact ⟨hne, hletters, htoken.chain_ne_nil, htoken.chain_characters⟩

theorem Token.Unchained.wellFormed {names : List Text} (h : token.Unchained names other)
    (htoken : token.WellFormed) : other.WellFormed := by
  cases h with
  | same => exact htoken
  | chain => exact ⟨htoken.name_ne_nil, htoken.name_letters, by simp, by simp⟩

/-- The last modifier of such a chain, which is not the initial. -/
theorem exists_letterCase {chain last : Text} (hlast : IsLastPiece ':' chain last)
    (hname : Text.lower last ∈ ["upper".toList, "lower".toList, "title".toList]) :
    ∃ modifier : Modifier, modifier ≠ .initial ∧
      Modifier.ofName? (lastModifier chain) = some modifier := by
  have hlast' : lastModifier chain = last := Text.isLastPiece_iff.mp hlast
  simp only [hlast', ofName?_eq_some_iff]
  simp only [List.mem_cons, List.not_mem_nil, or_false] at hname
  rcases hname with h | h | h
  · exact ⟨.upper, by decide, h⟩
  · exact ⟨.lower, by decide, h⟩
  · exact ⟨.title, by decide, h⟩

end

namespace TextSource

/-- The tokens write the same and report the same. -/
structure Alike (source : TextSource) (token other : Token) : Prop where
  reported_eq : source.reported other = source.reported token
  written_eq : source.written other = source.written token

variable {source : TextSource} {name other value : Text}

theorem Alike.refl (token : Token) : source.Alike token token := ⟨rfl, rfl⟩

theorem alike_of_name (hname : source.value? name = some value)
    (hother : source.value? other = some value) (hformat : format other value = format name value)
    (chain : Option Text) : source.Alike ⟨name, chain⟩ ⟨other, chain⟩ := by
  have hmodifier : Token.modifier ⟨other, chain⟩ = Token.modifier ⟨name, chain⟩ := rfl
  constructor
  · rw [reported, reported, hname, hother, hmodifier]
    cases value <;> rfl
  · rw [written, written, hname, hother, hmodifier]
    cases value with
    | nil => rfl
    | cons c value => simp only [hformat]

theorem alike_without_chain {formatted chain : Text} {modifier : Modifier}
    (hvalue : source.value? name = some value)
    (hmodifier : Modifier.ofName? (lastModifier chain) = some modifier)
    (hformat : format name value = .ok formatted)
    (happly : modifier.apply formatted = formatted) :
    source.Alike ⟨name, some chain⟩ ⟨name, none⟩ := by
  have hlast : Token.modifier ⟨name, some chain⟩ = lastModifier chain := rfl
  have hnone : Token.modifier ⟨name, none⟩ = [] := rfl
  have hpresent : source.value? name ≠ none := by simp [hvalue]
  have hsupported : Supported chain := supported_iff.mpr (by rw [hmodifier, Option.isSome_some])
  constructor
  · rw [reported_of_supported hpresent (by simp), reported_of_supported hpresent (by simpa)]
  · rw [written, written, hvalue, hlast, hnone]
    cases value with
    | nil => rfl
    | cons c value => simp only [hformat, modified, hmodifier, ofName?_nil, happly]

/-- A template is processed as before with tokens in it that are alike, where every numeral fits. -/
theorem process_of_rewrites {P : Token → Token → Prop} {t u : Text}
    (hfit : ∀ name value, source.value? name = some value → ¬ TooLong name value)
    (hP : ∀ token other, token.WellFormed → P token other → other.WellFormed)
    (halike : ∀ token other, P token other → source.Alike token other) (h : Rewrites P t u) :
    source.engine.process u source.record = source.engine.process t source.record := by
  refine Engine.process_of_rewrites hP (fun token _ other hother => ?_) h
  have hsame := halike token other hother
  rw [part_eq (hfit other.name), part_eq (hfit token.name), hsame.reported_eq, hsame.written_eq]

end TextSource
end FilingName.Template
