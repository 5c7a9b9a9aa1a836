import FilingName.Proofs.Field.Name
import FilingName.Proofs.Field.Place
import FilingName.Proofs.Field.Render

/-! Fields that are written and read again. A template that writes all parts of a field, with the
marks between them that are expected there, loses nothing that was read. -/
namespace FilingName.Field
open Template

namespace Date

/-- Year, month and day with dashes between them. -/
def dashed (date : Date) : Text := date.year ++ '-' :: date.month ++ '-' :: date.day

def dashedTemplate : Text := "{YYYY}-{MM}-{DD}".toList

variable {before t part : Text} {i : Nat}

private theorem IsDigits.partAt (h : IsDigits 2 part) (hbefore : before.length = i)
    (ht : before ++ '-' :: part <+: t) : PartAt t i part := by
  obtain ⟨rest, rfl⟩ := ht
  refine ⟨h, ?_⟩
  rw [List.append_assoc, ← hbefore, List.drop_left]
  exact List.prefix_append _ rest

/-- The mark for a part that could not be made out is not taken for digits. -/
private theorem not_partAt_unknown (hbefore : before.length = i)
    (ht : before ++ '-' :: unknown <+: t) : ¬ PartAt t i part := by
  rintro ⟨hpart, hprefix⟩
  obtain ⟨rest, rfl⟩ := ht
  rw [List.append_assoc, ← hbefore, List.drop_left, List.cons_append,
    List.cons_prefix_cons] at hprefix
  obtain ⟨c, digits, rfl⟩ : ∃ c digits, part = c :: digits := by
    refine List.exists_cons_of_ne_nil fun hnil => ?_
    cases hnil ▸ hpart.length_eq
  obtain rfl : c = 'x' := (List.cons_prefix_cons.mp hprefix.2).1
  exact absurd (hpart.digits 'x' List.mem_cons_self) (by decide)

private theorem Readable.firstDate_dashed {date : Date} (h : Readable date) :
    FirstDate (dashed date) date := by
  have hyearAt (hyear : IsDigits 4 date.year) : YearAt (dashed date) 0 date.year :=
    ⟨hyear, (List.prefix_append _ _).trans (List.prefix_append _ _)⟩
  have hmonth : date.year ++ '-' :: date.month <+: dashed date := List.prefix_append _ _
  have hday : date.year ++ '-' :: date.month ++ '-' :: date.day <+: dashed date := List.prefix_rfl
  have hbefore (hyear : IsDigits 4 date.year) (hmonth : IsDigits 2 date.month) :
      (date.year ++ '-' :: date.month).length = 7 := by
    rw [List.length_append, List.length_cons, hyear.length_eq, hmonth.length_eq]
  have hfirst : NoYearBefore (dashed date) 0 := fun j hj => absurd hj j.not_lt_zero
  cases h with
  | absent => exact firstDate_iff.mpr (by decide +kernel)
  | year hyear =>
    refine .present (.year (hyearAt hyear) fun part => ?_) hfirst
    exact not_partAt_unknown hyear.length_eq hmonth
  | month hyear hdigits =>
    refine .present (.month (hyearAt hyear) (hdigits.partAt hyear.length_eq hmonth) fun part => ?_)
      hfirst
    exact not_partAt_unknown (hbefore hyear hdigits) hday
  | day hyear hdigits hdigits' =>
    refine .present (.day (hyearAt hyear) (hdigits.partAt hyear.length_eq hmonth) ?_) hfirst
    exact hdigits'.partAt (hbefore hyear hdigits) hday

/-- A date with dashes is read as itself. -/
private theorem Readable.ofText_dashed {date : Date} (h : Readable date) :
    ofText (dashed date) = date :=
  (firstDate_iff.mp h.firstDate_dashed).symm

/-- The template with dashes writes a date with dashes, and reports nothing. -/
private theorem render_dashedTemplate (t : Text) :
    Field.date.render t dashedTemplate = ⟨[], .ok (dashed (ofText t))⟩ := by
  have hreadable := readable_ofText t
  have hyear : (Field.date.source t).written ⟨"YYYY".toList, none⟩ = (ofText t).year :=
    written_digits hreadable.year_eq (by decide) (by decide) (source_date_value? t _)
  have hmonth : (Field.date.source t).written ⟨"MM".toList, none⟩ = (ofText t).month :=
    written_digits hreadable.month_eq (by decide) (by decide) (source_date_value? t _)
  have hday : (Field.date.source t).written ⟨"DD".toList, none⟩ = (ofText t).day :=
    written_digits hreadable.day_eq (by decide) (by decide) (source_date_value? t _)
  have hparse : parse dashedTemplate = [.placeholder ⟨"YYYY".toList, none⟩, .literal ['-'],
    .placeholder ⟨"MM".toList, none⟩, .literal ['-'], .placeholder ⟨"DD".toList, none⟩] := by
    decide +kernel
  rw [render_of_unmodified (by decide) (by decide +kernel), hparse, dashed, ← hyear, ← hmonth,
    ← hday]
  simp only [List.flatMap_cons, List.flatMap_nil, Segment.filled, List.append_nil, List.cons_append,
    List.nil_append, List.append_assoc]

/-- Reading a date that was written with dashes gives what was read at first, and a text that is
such a date is written as it is. -/
theorem date_round_trip (engine : Engine) (countries : Value) (t : Option Text) :
    ∃ out date,
      Operation.run engine (.render .date (.ofText? t) (.text dashedTemplate)) =
        pure (.value (.text out)) ∧
      Operation.run engine (.parseField .date (.ofText? t) countries) = pure (.fields date) ∧
      Operation.run engine (.parseField .date (.text out) countries) = pure (.fields date) ∧
      ∀ year month day, IsDigits 4 year → IsDigits 2 month → IsDigits 2 day →
        t = some (dashed ⟨year, month, day⟩) → t = some out := by
  let date := ofText (t.getD [])
  refine ⟨dashed date, date.fields, ?_, ?_, ?_, ?_⟩
  · exact Operation.run_render_of_ok ((Operation.render_ofText? .date t (some dashedTemplate)).trans
      (render_dashedTemplate _)) engine
  · exact Operation.run_parseField_date engine t countries
  · have hread := Operation.run_parseField_date engine (some (dashed date)) countries
    rwa [Option.getD_some, (readable_ofText _).ofText_dashed] at hread
  · rintro year month day hyear hmonth hday rfl
    have hsame : date = ⟨year, month, day⟩ := (Readable.day hyear hmonth hday).ofText_dashed
    rw [hsame]

end Date

namespace Name

def spacedTemplate : Text := "{GIVEN} {MIDDLE} {SURNAME}".toList

/-- The template with spaces writes a name with spaces, and reports nothing. -/
private theorem render_spacedTemplate (t : Text) :
    Field.name.render t spacedTemplate = ⟨[], .ok (spaced (ofText t))⟩ := by
  obtain ⟨middle, hreadable, -⟩ := exists_readable_ofText t
  have hgiven : (Field.name.source t).written ⟨"GIVEN".toList, none⟩ = (ofText t).given :=
    written_as_read (by decide) hreadable.given.ne_nil (source_name_value? t _)
  have hmiddle : (Field.name.source t).written ⟨"MIDDLE".toList, none⟩ = (ofText t).middle :=
    written_as_read (by decide) hreadable.middle_ne_nil (source_name_value? t _)
  have hsurname : (Field.name.source t).written ⟨"SURNAME".toList, none⟩ = (ofText t).surname :=
    written_as_read (by decide) hreadable.surname.ne_nil (source_name_value? t _)
  have hparse : parse spacedTemplate = ([⟨"GIVEN".toList, none⟩, ⟨"MIDDLE".toList, none⟩,
      ⟨"SURNAME".toList, none⟩].map Segment.placeholder).intersperse (.literal " ".toList) := by
    decide +kernel
  rw [render_row (by decide) (by decide +kernel) hparse, spaced, ← hgiven, ← hmiddle, ← hsurname]
  rfl

/-- A name that is written with spaces is read again as what it was read as at first. -/
theorem name_round_trip (engine : Engine) (countries : Value) (t : Option Text) :
    ∃ name : Name,
      Operation.run engine (.render .name (.ofText? t) (.text spacedTemplate)) =
        pure (.value (.text (spaced name))) ∧
      Operation.run engine (.parseField .name (.ofText? t) countries) =
        pure (.fields name.fields) ∧
      Operation.run engine (.parseField .name (.text (spaced name)) countries) =
        pure (.fields name.fields) := by
  obtain ⟨middle, hreadable, -⟩ := exists_readable_ofText (t.getD [])
  refine ⟨ofText (t.getD []), ?_, Operation.run_parseField_name engine t countries, ?_⟩
  · exact Operation.run_render_ofText? engine .name t (some spacedTemplate)
      (render_spacedTemplate _)
  · have hread :=
      Operation.run_parseField_name engine (some (spaced (ofText (t.getD [])))) countries
    rwa [Option.getD_some, hreadable.ofText_spaced] at hread

end Name

namespace Place

def listedTemplate : Text := "{CITY}, {COUNTY}, {STATE}, {COUNTRY}".toList

/-- The template with commas writes a place with commas, and reports nothing. -/
private theorem render_listedTemplate (t : Text) :
    Field.place.render t listedTemplate = ⟨[], .ok (listed (ofText countries t))⟩ := by
  obtain ⟨cities, hreadable, -⟩ := exists_readable_ofText countries t
  have hcity : (Field.place.source t).written ⟨"CITY".toList, none⟩ =
      (ofText countries t).city :=
    written_as_read (by decide) hreadable.city_trimmed.1 (source_place_value? t _)
  have hcounty : (Field.place.source t).written ⟨"COUNTY".toList, none⟩ =
      (ofText countries t).county :=
    written_as_read (by decide) hreadable.county.ne_nil (source_place_value? t _)
  have hstate : (Field.place.source t).written ⟨"STATE".toList, none⟩ =
      (ofText countries t).state :=
    written_as_read (by decide) hreadable.state.ne_nil (source_place_value? t _)
  have hcountry : (Field.place.source t).written ⟨"COUNTRY".toList, none⟩ =
      (ofText countries t).country :=
    written_as_read (by decide) hreadable.country.ne_nil (source_place_value? t _)
  have hparse : parse listedTemplate = ([⟨"CITY".toList, none⟩, ⟨"COUNTY".toList, none⟩,
      ⟨"STATE".toList, none⟩, ⟨"COUNTRY".toList, none⟩].map Segment.placeholder).intersperse
        (.literal ", ".toList) := by
    decide +kernel
  rw [render_row (by decide) (by decide +kernel) hparse, listed, ← hcity, ← hcounty, ← hstate,
    ← hcountry]
  rfl

/-- A place that is written with commas is read again as what it was read as at first, and no
country has to be known for it. -/
theorem place_round_trip (engine : Engine) (t : Option Text) :
    ∃ place : Place,
      Operation.run engine (.render .place (.ofText? t) (.text listedTemplate)) =
        pure (.value (.text (listed place))) ∧
      Operation.run engine (.parseField .place (.ofText? t) .null) = pure (.fields place.fields) ∧
      ∀ countries : Value,
        Operation.run engine (.parseField .place (.text (listed place)) countries) =
          pure (.fields place.fields) := by
  obtain ⟨cities, hreadable, -⟩ := exists_readable_ofText countries (t.getD [])
  refine ⟨ofText countries (t.getD []), ?_, ?_, fun countries' => ?_⟩
  · exact Operation.run_render_ofText? engine .place t (some listedTemplate)
      (render_listedTemplate _)
  · exact Operation.run_parseField_place engine t (Operation.readPlace_of_known rfl _)
  · refine Operation.run_parseField_place engine (some _) ?_
    rw [Option.getD_some, Operation.readPlace_of_not_single hreadable.pieces_listed_ne_single
      countries' countries, hreadable.ofText_listed]

end Place
end FilingName.Field
