import FilingName.Proofs.Field.Render
import FilingName.Proofs.Template.Alias
import FilingName.Proofs.Template.Composition

/-! Templates of a field that come to the same. Short names write what the long ones write; and of a
date all that is written is digits, which have no case to change. -/
namespace FilingName.Field
open Template

/-- Names that stand for the same part and write it in the same way. -/
def aliases : Field → List (List String)
  | date => [["MM", "M"], ["DD", "D"]]
  | name => []
  | place => [["COUNTRY", "C"], ["STATE", "S"], ["COUNTY", "CO"], ["CITY", "CI"]]

variable {field : Field} {t template u name value : Text} {token other : Token}

/-- A field is written as before by a template with tokens in it that are alike. -/
private theorem render_of_rewrites {P : Token → Token → Prop}
    (hP : ∀ token other, token.WellFormed → P token other → other.WellFormed)
    (halike : ∀ token other, P token other → (field.source t).Alike token other)
    (h : Rewrites P template u) : field.render t u = field.render t template := by
  by_cases htemplate : template = []
  · rw [htemplate, (h.eq_nil_iff hP).mpr htemplate]
  · have hu : u ≠ [] := fun hnil => htemplate ((h.eq_nil_iff hP).mp hnil)
    rw [render_eq_process, render_eq_process, orDefault_of_ne_nil htemplate, orDefault_of_ne_nil hu]
    exact TextSource.process_of_rewrites (fun _ _ => source_not_tooLong) hP halike h

/-- A token writes and reports the same in every template. -/
private theorem render_around (htoken : token.WellFormed) (field : Field) (t before after : Text) :
    field.render t (before ++ token.text ++ after) =
      ⟨(tokens (parse before)).flatMap (field.source t).reported ++
          (field.source t).reported token ++
          (tokens (parse after)).flatMap (field.source t).reported,
        .ok ((parse before).flatMap (Segment.filled (field.source t).written) ++
          (field.source t).written token ++
          (parse after).flatMap (Segment.filled (field.source t).written))⟩ := by
  have hne : before ++ token.text ++ after ≠ [] := by simp [token.text_ne_nil]
  have hprocess (template : Text) :=
    TextSource.process_eq (source_numeralsFit field t template)
  rw [render_eq_process, orDefault_of_ne_nil hne,
    Engine.process_append rfl (noTokenAcross_behind_token htoken before after),
    Engine.process_append rfl (noTokenAcross_token token before), hprocess, hprocess, hprocess,
    parse_text htoken]
  simp [Logged.bind_of_ok, Segment.filled]

private theorem letters_of_name (h : name ∈ field.placeholders.map fun entry => entry.1.toList) :
    name ≠ [] ∧ ∀ c ∈ name, isNameLetter c := by
  have hall : ∀ name ∈ field.placeholders.map (fun entry => entry.1.toList),
      name ≠ [] ∧ name.all isNameLetter := by
    cases field <;> decide
  exact ⟨(hall name h).1, List.all_eq_true.mp (hall name h).2⟩

/-- The names of a group lead to one part. -/
private theorem lookup_aliases (field : Field) (t : Text) : ∀ names ∈ field.aliases,
    ∀ name ∈ names, ∀ other ∈ names,
      (field.source t).names.lookup other.toList = (field.source t).names.lookup name.toList ∧
        name.toList ∈ field.placeholders.map fun entry => entry.1.toList := by
  -- The names of a field are the same for every text.
  change ∀ names ∈ field.aliases, ∀ name ∈ names, ∀ other ∈ names,
    (field.source []).names.lookup other.toList = (field.source []).names.lookup name.toList ∧ _
  cases field <;> decide

/-- A part is written in the same way under all names of a group. -/
private theorem format_alias {names : List String} {name : String} (hnames : names ∈ field.aliases)
    (hname : name ∈ names) (hvalue : (field.source t).value? name.toList = some value) :
    format name.toList value = .ok value := by
  cases field with
  | name => cases hnames
  | place =>
    have hothers : ∀ names ∈ place.aliases, ∀ name ∈ names,
        name.toList ∉ ["MM".toList, "DD".toList, "YY".toList] := by decide
    exact format_of_other_name (hothers names hnames name hname) value
  | date =>
    have hothers : ∀ names ∈ date.aliases, ∀ name ∈ names, name.toList ≠ "YY".toList := by decide
    refine format_eq_self (hothers names hnames name hname) fun hnumber => ?_
    rcases source_date_digits hvalue with rfl | ⟨n, hn, -, hdigits⟩
    · cases hnumber
    · rwa [hdigits.length_eq]

private theorem wellFormed_of_renamed (htoken : token.WellFormed)
    (h : token.Renamed field.aliases other) : other.WellFormed := by
  refine h.wellFormed (fun names hnames name hname => ?_) htoken
  exact letters_of_name (lookup_aliases field [] names hnames name hname name hname).2

private theorem exists_value (h : name ∈ field.placeholders.map fun entry => entry.1.toList)
    (t : Text) : ∃ value, (field.source t).value? name = some value :=
  Option.ne_none_iff_exists'.mp (source_value?_ne_none h t)

private theorem alike_of_renamed (h : token.Renamed field.aliases other) (t : Text) :
    (field.source t).Alike token other := by
  cases h with
  | same => exact .refl token
  | @name names name other chain hnames hname hother =>
    obtain ⟨hlookup, hin⟩ := lookup_aliases field t names hnames name hname other hother
    obtain ⟨value, hvalue⟩ := exists_value hin t
    have hvalue' : (field.source t).value? other.toList = some value := by
      rw [← hvalue, TextSource.value?, TextSource.value?, hlookup]
    refine TextSource.alike_of_name hvalue hvalue' ?_ chain
    rw [format_alias hnames hname hvalue, format_alias hnames hother hvalue']

/-- A name of the field writes its part in every template, and nothing is reported of it. -/
private theorem render_name_around (h : name ∈ field.placeholders.map fun entry => entry.1.toList)
    (t before after : Text) : field.render t (before ++ Token.text ⟨name, none⟩ ++ after) =
      ⟨(tokens (parse before)).flatMap (field.source t).reported ++
          (tokens (parse after)).flatMap (field.source t).reported,
        .ok ((parse before).flatMap (Segment.filled (field.source t).written) ++
          (field.source t).written ⟨name, none⟩ ++
          (parse after).flatMap (Segment.filled (field.source t).written))⟩ := by
  obtain ⟨hne, hletters⟩ := letters_of_name h
  have htoken : Token.WellFormed ⟨name, none⟩ := ⟨hne, hletters, by simp, by simp⟩
  rw [render_around htoken, TextSource.reported_of_supported (source_value?_ne_none h t) (by simp),
    List.append_nil]

/-- Whatever part of a date a name stands for, it is written in digits. -/
private theorem digits_of_format {written : Text}
    (hvalue : (date.source t).value? name = some value)
    (hformat : format name value = .ok written) : ∀ c ∈ written, Text.isDigit c := by
  intro c hc
  rcases mem_or_isDigit_of_format hformat hc with hin | hdigit
  · rcases source_date_digits hvalue with rfl | ⟨n, -, -, hdigits⟩
    · cases hin
    · exact hdigits.digits c hin
  · exact hdigit

private theorem alike_of_unchained
    (h : token.Unchained (date.placeholders.map fun entry => entry.1.toList) other) (t : Text) :
    (date.source t).Alike token other := by
  cases h with
  | same => exact .refl token
  | @chain name chain last hname hlast hcase =>
    obtain ⟨value, hvalue⟩ := exists_value hname t
    obtain ⟨modifier, hmodifier, hofName⟩ := exists_letterCase hlast hcase
    obtain ⟨written, hformat⟩ := format_of_not_tooLong (source_not_tooLong hvalue)
    exact TextSource.alike_without_chain hvalue hofName hformat
      (apply_of_digits hmodifier (digits_of_format hvalue hformat))

private theorem written_year (t : Text) :
    (date.source t).written ⟨"YYYY".toList, none⟩ = (Date.ofText t).year :=
  written_digits (Date.readable_ofText t).year_eq (by decide) (by decide) (source_date_value? t _)

/-- The short year is the last two digits of the year. -/
private theorem written_shortYear (t : Text) : (date.source t).written ⟨"YY".toList, none⟩ =
    if (Date.ofText t).year = unknown then unknown else (Date.ofText t).year.drop 2 := by
  have hyear := (Date.readable_ofText t).year_eq
  refine written_part (source_date_value? t _) (ne_nil_of_digits hyear (by decide)) fun hknown => ?_
  have hdigits := hyear.resolve_left hknown
  have hlength := hdigits.length_eq
  have hformat := format_shortYear hdigits.digits (by omega) (by rw [hlength]; decide)
  rwa [hlength] at hformat

private theorem run_render_congr {t : Option Text} (h : field.render (t.getD []) u =
    field.render (t.getD []) template) (engine : Engine) :
    Operation.run engine (.render field (.ofText? t) (.text u)) =
      Operation.run engine (.render field (.ofText? t) (.text template)) := by
  have hrender (template : Text) : OnValues.render field (.ofText? t) (.text template) =
      field.render (t.getD []) template := Operation.render_ofText? field t (some template)
  rw [Operation.run_render, Operation.run_render, hrender, hrender, h]

private theorem run_render_name (engine : Engine) (t : Option Text)
    (h : name ∈ field.placeholders.map fun entry => entry.1.toList) :
    Operation.run engine (.render field (.ofText? t) (.text (Token.text ⟨name, none⟩))) =
      pure (.value (.text ((field.source (t.getD [])).written ⟨name, none⟩))) := by
  have halone := render_name_around h (t.getD []) [] []
  simp only [parse_nil, tokens_nil, List.flatMap_nil, List.append_nil, List.nil_append] at halone
  exact Operation.run_render_ofText? engine field t (some (Token.text ⟨name, none⟩)) halone

/-- Names of a group can take each other's places in any template, whatever the text, and so can the
names of a date with and without a chain that ends in a letter case. Wherever the year stands in a
template, the short year is its last two digits, and both are the mark where there is no year. -/
theorem names_interchangeable (engine : Engine) (t : Option Text) (template u : Text) :
    let run (field : Field) (template : Text) :=
      Operation.run engine (.render field (.ofText? t) (.text template))
    (∀ field : Field, Rewrites (Token.Renamed field.aliases) template u →
        run field u = run field template) ∧
      (Rewrites (Token.Unchained (date.placeholders.map fun entry => entry.1.toList)) template u →
        run date u = run date template) ∧
      ∃ year short, (year = unknown ∧ short = unknown ∨
          Date.IsDigits 4 year ∧ short = year.drop 2) ∧
        run date "{YYYY}".toList = pure (.value (.text year)) ∧
        run date "{YY}".toList = pure (.value (.text short)) ∧
        ∀ before after, ∃ log front back,
          run date (before ++ "{YYYY}".toList ++ after) =
            ⟨log, .ok (.value (.text (front ++ year ++ back)))⟩ ∧
          run date (before ++ "{YY}".toList ++ after) =
            ⟨log, .ok (.value (.text (front ++ short ++ back)))⟩ := by
  intro run
  have hyear : "YYYY".toList ∈ date.placeholders.map fun entry => entry.1.toList := by decide
  have hshort : "YY".toList ∈ date.placeholders.map fun entry => entry.1.toList := by decide
  have haround {name : Text} (h : name ∈ date.placeholders.map fun entry => entry.1.toList)
      (before after : Text) := Operation.run_render_ofText? engine date t
    (some (before ++ Token.text ⟨name, none⟩ ++ after)) (render_name_around h _ before after)
  have hyearAlone := run_render_name engine t hyear
  have hshortAlone := run_render_name engine t hshort
  refine ⟨fun field h => ?_, fun h => ?_, _, _, ?_, hyearAlone, hshortAlone, fun before after => ?_⟩
  · exact run_render_congr (render_of_rewrites (fun _ _ => wellFormed_of_renamed)
      (fun _ _ h => alike_of_renamed h _) h) engine
  · exact run_render_congr (render_of_rewrites (fun _ _ htoken hother => hother.wellFormed htoken)
      (fun _ _ h => alike_of_unchained h _) h) engine
  · rw [written_year, written_shortYear]
    rcases (Date.readable_ofText (t.getD [])).year_eq with hunknown | hdigits
    · exact .inl ⟨hunknown, if_pos hunknown⟩
    · exact .inr ⟨hdigits, if_neg hdigits.ne_unknown⟩
  · exact ⟨_, _, _, haround hyear before after, haround hshort before after⟩

/-- A place with short names for long ones, and a month whose chain makes no difference. -/
theorem boston_written_with_short_names :
    let run (field : Field) (t template : String) := Operation.run ⟨.null, .null⟩
      (.render field (.ofText? (some t.toList)) (.text template.toList))
    run .place "Boston, USA" "{CI}, {C:upper}" = run .place "Boston, USA" "{CITY}, {COUNTRY:upper}" ∧
      run .date "Abt 1850-06" "{MM}.{YY}" = run .date "Abt 1850-06" "{MM:abbrev:Title}.{YY}" := by
  intro run
  have hplace : Rewrites (Token.Renamed place.aliases) "{CITY}, {COUNTRY:upper}".toList
      "{CI}, {C:upper}".toList := by
    have hparse : parse "{CITY}, {COUNTRY:upper}".toList =
        [.placeholder ⟨"CITY".toList, none⟩, .literal ", ".toList,
          .placeholder ⟨"COUNTRY".toList, some "upper".toList⟩] := by
      decide +kernel
    have hcity : ["CITY", "CI"] ∈ place.aliases := by decide
    have hcountry : ["COUNTRY", "C"] ∈ place.aliases := by decide
    refine ⟨[.placeholder ⟨"CI".toList, none⟩, .literal ", ".toList,
      .placeholder ⟨"C".toList, some "upper".toList⟩], hparse ▸ ?_, rfl⟩
    exact .cons (.placeholder (.name hcity (by simp) (by simp)))
      (.cons (.literal _) (.cons (.placeholder (.name hcountry (by simp) (by simp))) .nil))
  have hdate : Rewrites (Token.Unchained (date.placeholders.map fun entry => entry.1.toList))
      "{MM:abbrev:Title}.{YY}".toList "{MM}.{YY}".toList := by
    have hparse : parse "{MM:abbrev:Title}.{YY}".toList =
        [.placeholder ⟨"MM".toList, some "abbrev:Title".toList⟩, .literal ".".toList,
          .placeholder ⟨"YY".toList, none⟩] := by
      decide +kernel
    have hlast : Text.IsLastPiece ':' "abbrev:Title".toList "Title".toList :=
      ⟨by decide, .inr ⟨"abbrev".toList, rfl⟩⟩
    refine ⟨[.placeholder ⟨"MM".toList, none⟩, .literal ".".toList,
      .placeholder ⟨"YY".toList, none⟩], hparse ▸ ?_, rfl⟩
    exact .cons (.placeholder (.chain (by decide) hlast (by decide +kernel)))
      (.cons (.literal _) (.cons (.placeholder (.same _)) .nil))
  exact ⟨(names_interchangeable _ (some "Boston, USA".toList) _ _).1 place hplace,
    (names_interchangeable _ (some "Abt 1850-06".toList) _ _).2.1 hdate⟩

end FilingName.Field
