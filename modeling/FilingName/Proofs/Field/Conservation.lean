import FilingName.Proofs.Field.Name
import FilingName.Proofs.Operation

/-! Reading a name or a place keeps what its text says. The words of a name and the pieces of a
place come to stand in the parts as they are, each one once and in the order of the text. -/
namespace FilingName.Field
open Text (IsWord IsSpaced HasWords Trimmed)
open Place (HasSegments IsPiece)
open Template (Engine)

/-- What a name keeps of a text: each of its words, in a part that consists of words. -/
structure Name.Keeps (t : Text) (name : Name) : Prop where
  given : IsWord name.given
  middle : ∃ middle, IsSpaced name.middle middle
  surname : IsWord name.surname
  words : ∃ ws, HasWords t ws ∧
    Conserves HasWords [name.given, name.middle, name.surname] ws

/-- What a place keeps of a text: each of its pieces that is not blank, in a part that is trimmed.
Only the city may have several of them, and so a comma. -/
structure Place.Keeps (t : Text) (place : Place) : Prop where
  city : place.city ≠ [] ∧ Trimmed place.city
  county : IsPiece place.county
  state : IsPiece place.state
  country : IsPiece place.country
  pieces : ∃ segments, HasSegments t segments ∧
    Conserves HasSegments [place.city, place.county, place.state, place.country]
      (segments.filter (· ≠ []))

private theorem Name.keeps_ofText (t : Text) : Name.Keeps t (Name.ofText t) := by
  obtain ⟨middle, hname, hknown⟩ := Name.exists_readable_ofText t
  have hword (w : Text) (h : IsWord w) : HasWords w [w] :=
    Text.hasWords_iff.mpr (Text.words_of_isWord h).symm
  have hmiddle := Text.hasWords_iff.mpr hname.middle.words_eq.symm
  refine ⟨hname.given, ⟨middle, hname.middle⟩, hname.surname, _, Text.hasWords_words t, _,
    .cons (hword _ hname.given) (.cons hmiddle (.cons (hword _ hname.surname) .nil)), ?_⟩
  rw [← hknown]
  simp [Name.ofText]

private theorem Place.keeps_ofText (countries : List Text) (t : Text) :
    Place.Keeps t (Place.ofText countries t) := by
  obtain ⟨cities, hplace, hknown⟩ := Place.exists_readable_ofText countries t
  have hpiece (piece : Text) (h : IsPiece piece) : HasSegments piece [piece] :=
    Place.hasSegments_iff.mpr (Place.segments_of_isPiece h).symm
  have hcity : HasSegments (Place.ofText countries t).city cities :=
    Place.hasSegments_iff.mpr (Place.IsListed.segments_eq hplace.city).symm
  refine ⟨hplace.city_trimmed, hplace.county, hplace.state,
    hplace.country, _, Place.hasSegments_iff.mpr rfl, _, .cons hcity (.cons (hpiece _ hplace.county)
      (.cons (hpiece _ hplace.state) (.cons (hpiece _ hplace.country) .nil))), ?_⟩
  rw [← Place.pieces_eq, ← hknown]
  simp [Place.ofText]

/-- Nothing is lost when a name or a place is read, nothing is doubled and nothing is moved. -/
theorem reading_conserves (engine : Engine) (t : Text) (countries : Option (List Text)) :
    (∃ name, Name.Keeps t name ∧ Operation.run engine (.parseField .name (.text t) .null) =
        pure (.fields name.fields)) ∧
      ∃ place, Place.Keeps t place ∧
        Operation.run engine (.parseField .place (.text t) (.ofTexts? countries)) =
          pure (.fields place.fields) := by
  refine ⟨⟨Name.ofText t, Name.keeps_ofText t, ?_⟩,
    ⟨Place.ofText (countries.getD Field.countries) t, Place.keeps_ofText _ t, ?_⟩⟩
  · exact Operation.run_parseField_name engine (some t) .null
  · have hknown := Operation.knownCountries_ofTexts? countries
    exact Operation.run_parseField_place engine (some t) (Operation.readPlace_of_known hknown t)

end FilingName.Field
