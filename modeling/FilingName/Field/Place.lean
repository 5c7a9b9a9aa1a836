import FilingName.Field.Record
import FilingName.Text.LetterCase

/-!
Places, from the smallest to the largest with commas between them. The last piece is the country,
and the others fill in backwards; more than four pieces leave the rest to the city. A single piece
is a city unless it is the name of a country.
-/
namespace FilingName.Field

structure Place where
  city : Text := unknown
  county : Text := unknown
  state : Text := unknown
  country : Text := unknown
  deriving DecidableEq, Repr

/-- Countries by which a place may go on its own, with the short names of some. -/
def countries : List Text := List.map String.toList [
  "usa", "us", "u.s.", "u.s.a.", "united states", "united states of america", "america", "canada",
  "mexico", "uk", "u.k.", "united kingdom", "great britain", "britain", "england", "scotland",
  "wales", "ireland", "northern ireland", "france", "germany", "prussia", "austria", "switzerland",
  "italy", "spain", "portugal", "netherlands", "holland", "belgium", "luxembourg", "denmark",
  "norway", "sweden", "finland", "iceland", "poland", "russia", "ukraine", "czech republic",
  "bohemia", "hungary", "greece", "australia", "new zealand", "south africa"]

namespace Place

def fields (place : Place) : List (String × Text) :=
  [("city", place.city), ("county", place.county), ("state", place.state),
    ("country", place.country)]

/-- Letter case and blanks around the piece do not matter. -/
def isCountry (known : List Text) (piece : Text) : Bool :=
  (known.map Text.lower).contains (Text.lower (Text.trim piece))

/-- The trimmed pieces between commas, without those that are blank. -/
def pieces (t : Text) : List Text := ((Text.splitOn ',' t).map Text.trim).filter (· ≠ [])

def ofPieces (known : List Text) (pieces : List Text) : Place :=
  match pieces.reverse with
  | [] => {}
  | [piece] => if isCountry known piece then { country := piece } else { city := piece }
  | [country, city] => { city, country }
  | [country, state, city] => { city, state, country }
  | country :: state :: county :: rest =>
    ⟨Text.join ", ".toList rest.reverse, county, state, country⟩

def ofText (known : List Text) (t : Text) : Place := ofPieces known (pieces t)

end Place
end FilingName.Field
