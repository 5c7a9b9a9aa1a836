import FilingName.Field.Place
import FilingName.Proofs.Field.Record
import FilingName.Proofs.Text.Row

/-! What places are read as. The number of pieces decides which parts there are, and every piece
comes to stand in one part. -/
namespace FilingName.Field.Place
open Text (IsRow Trims Trimmed splitOn trim join)

/-- The trimmed pieces between commas, with those that are empty. -/
def segments (t : Text) : List Text := (splitOn ',' t).map trim

/-- The texts between the commas of a text, without the blanks at their ends. -/
def HasSegments (t : Text) (found : List Text) : Prop :=
  ∃ between, IsRow [','] (',' ∉ ·) t between ∧ List.Forall₂ Trims between found

structure IsPiece (piece : Text) : Prop where
  ne_nil : piece ≠ []
  trimmed : Trimmed piece
  no_comma : ',' ∉ piece

/-- Pieces with a comma and a space between neighbours. -/
abbrev IsListed : Text → List Text → Prop := IsRow ", ".toList IsPiece

variable {t piece : Text} {found cities : List Text}

theorem hasSegments_iff : HasSegments t found ↔ found = segments t := by
  have htrims : Trims = fun a b => trim a = b := by
    funext a b
    exact propext (Text.trims_iff.trans eq_comm)
  simp only [HasSegments, Text.isRow_mark_iff, exists_eq_left]
  rw [htrims, ← List.forall₂_map_left_iff, List.forall₂_eq_eq_eq, segments, eq_comm]

private theorem segments_cons_space (t : Text) : segments (' ' :: t) = segments t := by
  obtain ⟨first, rest, h⟩ := List.exists_cons_of_ne_nil (Text.splitOn_ne_nil ',' t)
  have htrim : trim ([' '] ++ first) = trim first :=
    Text.trim_blanks_append (List.forall_mem_singleton.mpr rfl) first
  rw [segments, segments, splitOn, if_neg (by decide), h, List.map_cons, List.map_cons, ← htrim]
  rfl

private theorem segments_append_comma (a b : Text) :
    segments (a ++ ", ".toList ++ b) = segments a ++ segments b := by
  have hsplit : a ++ ", ".toList ++ b = a ++ ',' :: ' ' :: b := by simp
  have hsegments := Text.splitOn_append_cons ',' a (' ' :: b)
  rw [hsplit, ← segments_cons_space b, segments, hsegments, List.map_append, segments, segments]

theorem segments_of_isPiece (h : IsPiece piece) : segments piece = [piece] := by
  rw [segments, Text.splitOn_of_not_mem h.no_comma, List.map_singleton,
    Text.trim_of_trimmed h.trimmed]

theorem IsListed.segments_eq (h : IsListed t found) : segments t = found :=
  h.read_eq segments_append_comma fun _ => segments_of_isPiece

/-- The pieces of a text are its segments that are not empty. -/
theorem pieces_eq (t : Text) : pieces t = (segments t).filter (· ≠ []) := rfl

private theorem isPiece_of_mem_pieces (h : piece ∈ pieces t) : IsPiece piece := by
  rw [pieces_eq, List.mem_filter] at h
  obtain ⟨between, hbetween, rfl⟩ := List.mem_map.mp h.1
  have hcomma : ',' ∉ between := (Text.isRow_splitOn ',' t).isItem between hbetween
  obtain ⟨before, after, hall, -, -⟩ := Text.exists_trim_between between
  refine ⟨by simpa using h.2, Text.trimmed_trim between, fun hin => hcomma ?_⟩
  rw [hall]
  exact List.mem_append_left after (List.mem_append_right before hin)

/-- What pieces are read as. A single one is a country if it is known as one and a city if not; two
and three leave out the county, or the state as well; and more than four leave the rest to the
city. -/
inductive ReadAs (countries : List Text) : List Text → Place → Prop
  | nothing : ReadAs countries [] ⟨unknown, unknown, unknown, unknown⟩
  | country {country : Text} : isCountry countries country = true →
      ReadAs countries [country] ⟨unknown, unknown, unknown, country⟩
  | city {city : Text} : isCountry countries city = false →
      ReadAs countries [city] ⟨city, unknown, unknown, unknown⟩
  | cityCountry (city country : Text) :
      ReadAs countries [city, country] ⟨city, unknown, unknown, country⟩
  | cityStateCountry (city state country : Text) :
      ReadAs countries [city, state, country] ⟨city, unknown, state, country⟩
  | county {cities : List Text} (county state country : Text) : cities ≠ [] →
      ReadAs countries (cities ++ [county, state, country])
        ⟨join ", ".toList cities, county, state, country⟩

private theorem ofPieces_of_cities (countries : List Text) (h : cities ≠ [])
    (county state country : Text) : ofPieces countries (cities ++ [county, state, country]) =
      ⟨join ", ".toList cities, county, state, country⟩ := by
  obtain ⟨last, rest, hreverse⟩ := List.exists_cons_of_ne_nil (List.reverse_ne_nil_iff.mpr h)
  have hback : (cities ++ [county, state, country]).reverse =
      country :: state :: county :: last :: rest := by
    rw [List.reverse_append, hreverse]
    rfl
  rw [ofPieces, hback, ← List.reverse_reverse cities, hreverse]

private theorem readAs_ofPieces (countries found : List Text) :
    ReadAs countries found (ofPieces countries found) := by
  obtain ⟨back, rfl⟩ : ∃ back, found = back.reverse := ⟨found.reverse, by simp⟩
  rcases back with _ | ⟨country, _ | ⟨state, _ | ⟨county, back⟩⟩⟩
  · exact .nothing
  · cases h : isCountry countries country with
    | true => simpa [ofPieces, h] using ReadAs.country h
    | false => simpa [ofPieces, h] using ReadAs.city h
  · exact .cityCountry state country
  · by_cases h : back = []
    · rw [h]
      exact .cityStateCountry county state country
    · have hcities : back.reverse ≠ [] := List.reverse_ne_nil_iff.mpr h
      have hfound : (country :: state :: county :: back).reverse =
          back.reverse ++ [county, state, country] := by simp
      rw [hfound, ofPieces_of_cities countries hcities]
      exact .county county state country hcities

/-- Only a single piece is looked up among the countries. -/
theorem ofPieces_of_not_single (h : ∀ piece, found ≠ [piece]) (countries others : List Text) :
    ofPieces countries found = ofPieces others found := by
  have hread := readAs_ofPieces countries found
  generalize ofPieces countries found = place at hread ⊢
  cases hread with
  | nothing | cityCountry | cityStateCountry => rfl
  | country | city => exact absurd rfl (h _)
  | county county state country hcities =>
    exact (ofPieces_of_cities others hcities county state country).symm

/-- A piece each for county, state and country, and one or more for the city. The mark for an
unknown part is a piece as well. -/
structure Readable (place : Place) (cities : List Text) : Prop where
  city : IsListed place.city cities
  county : IsPiece place.county
  state : IsPiece place.state
  country : IsPiece place.country

theorem Readable.city_trimmed {place : Place} (h : Readable place cities) :
    place.city ≠ [] ∧ Trimmed place.city :=
  h.city.trimmed fun _ hpiece => ⟨hpiece.ne_nil, hpiece.trimmed⟩

private theorem isPiece_unknown : IsPiece unknown where
  ne_nil := List.cons_ne_nil 'x' []
  trimmed := ⟨by simp [unknown, Text.isBlank], by simp [unknown, Text.isBlank]⟩
  no_comma := by decide

variable {countries : List Text} {place : Place}

/-- Whatever is read is a place that can be read, made up of the pieces that there are. -/
private theorem ReadAs.readable (h : ReadAs countries found place)
    (hfound : ∀ piece ∈ found, IsPiece piece) : ∃ cities, Readable place cities ∧
      known (cities ++ [place.county, place.state, place.country]) = known found := by
  have hx := isPiece_unknown
  cases h with
  | nothing => exact ⟨[unknown], ⟨.single hx, hx, hx, hx⟩, by simp⟩
  | @country country _ =>
    have hcountry : IsPiece country := hfound country List.mem_cons_self
    exact ⟨[unknown], ⟨.single hx, hx, hx, hcountry⟩, by simp⟩
  | @city city _ =>
    have hcity : IsPiece city := hfound city List.mem_cons_self
    refine ⟨[city], ⟨.single hcity, hx, hx, hx⟩, ?_⟩
    rw [known_append]
    simp
  | cityCountry city country =>
    rw [List.forall_mem_cons, List.forall_mem_singleton] at hfound
    refine ⟨[city], ⟨.single hfound.1, hx, hx, hfound.2⟩, ?_⟩
    rw [known_append, known_cons city [country]]
    simp
  | cityStateCountry city state country =>
    rw [List.forall_mem_cons, List.forall_mem_cons, List.forall_mem_singleton] at hfound
    refine ⟨[city], ⟨.single hfound.1, hx, hfound.2.1, hfound.2.2⟩, ?_⟩
    rw [known_append, known_cons city [state, country]]
    simp
  | @county cities county state country hcities =>
    rw [List.forall_mem_append, List.forall_mem_cons, List.forall_mem_cons,
      List.forall_mem_singleton] at hfound
    obtain ⟨hcity, hcounty, hstate, hcountry⟩ := hfound
    exact ⟨cities, ⟨⟨hcities, hcity, rfl⟩, hcounty, hstate, hcountry⟩, rfl⟩

theorem exists_readable_ofText (countries : List Text) (t : Text) :
    ∃ cities, Readable (ofText countries t) cities ∧
      known (cities ++ [(ofText countries t).county, (ofText countries t).state,
        (ofText countries t).country]) = known (pieces t) :=
  (readAs_ofPieces countries (pieces t)).readable fun _ => isPiece_of_mem_pieces

/-- City, county, state and country with commas between them. -/
def listed (place : Place) : Text :=
  join ", ".toList [place.city, place.county, place.state, place.country]

private theorem Readable.pieces_listed (h : Readable place cities) :
    pieces (listed place) = cities ++ [place.county, place.state, place.country] := by
  have hsegments : segments (listed place) =
      cities ++ [place.county, place.state, place.country] := by
    rw [listed, Text.read_join segments_append_comma (List.cons_ne_nil _ _), List.flatMap_cons,
      List.flatMap_cons, List.flatMap_cons, List.flatMap_singleton, IsListed.segments_eq h.city,
      segments_of_isPiece h.county, segments_of_isPiece h.state, segments_of_isPiece h.country]
    rfl
  rw [pieces_eq, hsegments, List.filter_eq_self]
  intro piece hin
  have hpiece : IsPiece piece := by
    rcases List.mem_append.mp hin with hcity | hrest
    · exact h.city.isItem piece hcity
    · simp only [List.mem_cons, List.not_mem_nil, or_false] at hrest
      rcases hrest with rfl | rfl | rfl
      · exact h.county
      · exact h.state
      · exact h.country
  simpa using hpiece.ne_nil

theorem Readable.pieces_listed_ne_single (h : Readable place cities) (piece : Text) :
    pieces (listed place) ≠ [piece] := by
  intro hsingle
  have hlength := congrArg List.length hsingle
  rw [h.pieces_listed, List.length_append] at hlength
  simp at hlength

/-- A place with commas is read as itself, whatever countries are known. -/
theorem Readable.ofText_listed (h : Readable place cities) (countries : List Text) :
    ofText countries (listed place) = place := by
  rw [ofText, h.pieces_listed, ofPieces_of_cities countries h.city.ne_nil, h.city.join_eq]

end FilingName.Field.Place
