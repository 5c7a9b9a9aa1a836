import FilingName.Proofs.People.Person
import FilingName.Proofs.Text.Dashed

/-! Lists of people. Every entry is written on its own, as a piece without blanks that is never
empty, so lists follow one another as their entries do; and a surname is written as the surname if
another part of the name stands before it. -/
namespace FilingName.People
open FilingName.Field (unknown)
open Template (Engine Segment)
open Text (IsWord words)

/-- Entries that can be written: persons with texts for the parts of their names, mappings whose
values can be written, as all texts can, and values that describe nobody. -/
inductive Entry.Writable : Entry → Prop
  | person (person : Person) : Writable (.person person)
  | named (given middle surname : Text) :
      Writable (.named (.text given) (.text middle) (.text surname))
  | mapping {entries : List (Text × Value)} : (∀ entry ∈ entries, entry.2.Writable) →
      Writable (.value (.mapping entries))
  | nobody {value : Value} : value.kind ≠ .mapping → Writable (.value value)

theorem part_text (t : Text) : part (.text t) = .ok t := by
  cases t <;> rfl

private theorem Entry.nobody_person? {value : Value} (h : value.kind ≠ .mapping) :
    (Entry.value value).person? = .ok {} := by
  cases value with
  | mapping entries => exact absurd rfl h
  | null | truth b | whole n | real x | text t | list items => rfl

private theorem Entry.Writable.exists_person {entry : Entry} (h : entry.Writable) :
    ∃ person, entry.person? = .ok person := by
  cases h with
  | person person => exact ⟨person, rfl⟩
  | named given middle surname =>
    refine ⟨{ given, middle, surname }, ?_⟩
    rw [Entry.person?, part_text, part_text, part_text]
    rfl
  | mapping hvalues => exact Person.exists_ofMapping hvalues
  | nobody hkind => exact ⟨{}, Entry.nobody_person? hkind⟩

/-- What is written for one entry, and what is reported on the way. -/
structure Piece where
  reported : List Diagnostic
  written : Text

/-- What one entry is written as on its own: something without blanks. An entry that describes
nobody is written as a person without a name. -/
structure IsPiece (engine : Engine) (template : Text) (entry : Entry) (piece : Piece) : Prop where
  run_eq : Operation.run engine (.people [entry] (some (.text template))) =
    ⟨piece.reported, .ok (.value (.text piece.written))⟩
  ne_nil : piece.written ≠ []
  not_blank : ∀ c ∈ piece.written, ¬ Text.isBlank c
  nobody : ∀ value, entry = .value value → value.kind ≠ .mapping →
    Operation.run engine (.people [.person {}] (some (.text template))) =
      ⟨piece.reported, .ok (.value (.text piece.written))⟩

/-- A list is written as the pieces of its entries with the delimiter between neighbours, and
reports what they report, one after the other. -/
structure IsListing (engine : Engine) (template delimiter : Text) (entries : List Entry)
    (pieces : List Piece) (out : Text) : Prop where
  isPiece : List.Forall₂ (IsPiece engine template) entries pieces
  join_eq : Text.join delimiter (pieces.map Piece.written) = out
  run_eq : Operation.run engine (.people entries (some (.text template))) =
    ⟨pieces.flatMap Piece.reported, .ok (.value (.text out))⟩

variable {engine : Engine} {entry : Entry} {entries : List Entry} {pieces : List Piece}
  {person : Person} {template : Text}

/-- The step of writing a list that an entry stands for. -/
def IsStep (template : Text) (entry : Entry) (piece : Piece) : Prop :=
  entry.fragment (splitTemplate template).1 = ⟨piece.reported, .ok piece.written⟩

theorem run_people_of_list {out : Text} {log : List Diagnostic} (hentries : entries ≠ [])
    (h : list entries template = ⟨log, .ok out⟩) :
    Operation.run engine (.people entries (some (.text template))) =
      ⟨log, .ok (.value (.text out))⟩ := by
  rw [Operation.run_people, people_text hentries, h, Logged.ext_iff, Logged.map_log,
    Logged.map_outcome]
  exact ⟨rfl, rfl⟩

private theorem list_of_steps (h : List.Forall₂ (IsStep template) entries pieces) :
    list entries template = ⟨pieces.flatMap Piece.reported,
      .ok (Text.join (splitTemplate template).2 (pieces.map Piece.written))⟩ := by
  have hrow : entries.mapM (Entry.fragment (splitTemplate template).1) =
      ⟨pieces.flatMap Piece.reported, .ok (pieces.map Piece.written)⟩ := by
    induction h with
    | nil => rfl
    | cons hentry _ ih =>
      rw [List.mapM_cons, hentry, ih, Logged.bind_of_ok rfl, Logged.bind_of_ok rfl]
      simp
  rw [list_eq, hrow, Logged.ext_iff, Logged.map_log, Logged.map_outcome]
  exact ⟨rfl, rfl⟩

/-- Whoever is described is written as something without blanks. -/
private theorem exists_fragment (person : Person) (template : Text) : ∃ piece : Piece,
    fragment template person = ⟨piece.reported, .ok piece.written⟩ ∧
      piece.written ≠ [] ∧ ∀ c ∈ piece.written, ¬ Text.isBlank c := by
  obtain ⟨log, out, hrender⟩ := Field.exists_render .name person.fullName template
  refine ⟨⟨log, Text.dashed out⟩, ?_, Text.dashed_ne_nil (Field.render_ne_nil hrender), ?_⟩
  · rw [fragment_eq, hrender, Logged.ext_iff, Logged.map_log, Logged.map_outcome]
    exact ⟨rfl, rfl⟩
  · exact fun c hc => Text.not_isBlank_of_mem_dashed hc

theorem entry_fragment_of_person (h : entry.person? = .ok person) (template : Text) :
    entry.fragment template = fragment template person := by
  rw [Entry.fragment, h, Logged.lift_bind_ok]

private theorem exists_isPiece (engine : Engine) (template : Text) (h : entry.Writable) :
    ∃ piece, IsPiece engine template entry piece ∧ IsStep template entry piece := by
  obtain ⟨person, hperson⟩ := h.exists_person
  obtain ⟨piece, hfragment, hne, hblank⟩ := exists_fragment person (splitTemplate template).1
  have hstep {other : Entry} (hother : other.person? = .ok person) :
      IsStep template other piece := (entry_fragment_of_person hother _).trans hfragment
  have hrun {other : Entry} (hother : other.person? = .ok person) :
      Operation.run engine (.people [other] (some (.text template))) =
        ⟨piece.reported, .ok (.value (.text piece.written))⟩ :=
    run_people_of_list (List.cons_ne_nil _ _) ((list_single other template).trans (hstep hother))
  refine ⟨piece, ⟨hrun hperson, hne, hblank, ?_⟩, hstep hperson⟩
  rintro value rfl hkind
  rw [Entry.nobody_person? hkind] at hperson
  exact hrun hperson

private theorem exists_pieces (engine : Engine) (template : Text)
    (h : ∀ entry ∈ entries, entry.Writable) : ∃ pieces,
      List.Forall₂ (IsPiece engine template) entries pieces ∧
        List.Forall₂ (IsStep template) entries pieces := by
  induction entries with
  | nil => exact ⟨[], .nil, .nil⟩
  | cons entry entries ih =>
    rw [List.forall_mem_cons] at h
    obtain ⟨piece, hpiece, hstep⟩ := exists_isPiece engine template h.1
    obtain ⟨pieces, hpieces, hsteps⟩ := ih h.2
    exact ⟨piece :: pieces, .cons hpiece hpieces, .cons hstep hsteps⟩

/-- A list of persons is always written, and reports what their names do, one after the other. -/
theorem list_persons (persons : List Person) (template : Text) : ∃ out,
    list (persons.map .person) template =
      ⟨persons.flatMap fun person =>
        (Field.name.render person.fullName (splitTemplate template).1).log, .ok out⟩ := by
  obtain ⟨pieces, hsteps, hreported⟩ : ∃ pieces : List Piece,
      List.Forall₂ (IsStep template) (persons.map .person) pieces ∧
        pieces.flatMap Piece.reported = persons.flatMap fun person =>
          (Field.name.render person.fullName (splitTemplate template).1).log := by
    induction persons with
    | nil => exact ⟨[], .nil, rfl⟩
    | cons person persons ih =>
      obtain ⟨piece, hfragment, -⟩ := exists_fragment person (splitTemplate template).1
      obtain ⟨pieces, hsteps, hreported⟩ := ih
      have hstep : IsStep template (.person person) piece :=
        (entry_fragment_person _ person).trans hfragment
      have hlog : (Field.name.render person.fullName (splitTemplate template).1).log =
          piece.reported := by
        rw [← Logged.map_log Text.dashed, ← fragment_eq, hfragment]
      exact ⟨piece :: pieces, .cons hstep hsteps, by
        rw [List.flatMap_cons, List.flatMap_cons, hreported, hlog]⟩
  exact ⟨_, by rw [list_of_steps hsteps, hreported]⟩

private theorem isListing_of_steps (hentries : entries ≠ [])
    (hpieces : List.Forall₂ (IsPiece engine template) entries pieces)
    (hsteps : List.Forall₂ (IsStep template) entries pieces) :
    IsListing engine template (splitTemplate template).2 entries pieces
      (Text.join (splitTemplate template).2 (pieces.map Piece.written)) :=
  ⟨hpieces, rfl, run_people_of_list hentries (list_of_steps hsteps)⟩

/-- Pieces have no blanks, so only the delimiter can bring them. -/
private theorem IsListing.mem_delimiter {delimiter out : Text}
    (h : IsListing engine template delimiter entries pieces out) {c : Char} (hc : c ∈ out)
    (hblank : Text.isBlank c) : c ∈ delimiter := by
  have hpieces : ∀ piece ∈ pieces, ∀ c ∈ piece.written, ¬ Text.isBlank c :=
    ((List.forall₂_and_left _ _).mp
      (h.isPiece.flip.imp fun _ _ hpiece => ⟨hpiece.not_blank, hpiece⟩)).1
  rw [← h.join_eq] at hc
  rcases Text.mem_join hc with hdelimiter | ⟨written, hin, hcw⟩
  · exact hdelimiter
  · obtain ⟨piece, hpiece, rfl⟩ := List.mem_map.mp hin
    exact absurd hblank (hpieces piece hpiece c hcw)

/-- Two lists one after the other are written as the one, the delimiter and the other, with the
reports of the one before those of the other. Every entry takes one place, and only the delimiter
brings blanks. -/
theorem lists_follow_one_another (engine : Engine) (template : Text) {xs ys : List Entry}
    (hxs : xs ≠ []) (hys : ys ≠ []) (hwritable : ∀ entry ∈ xs ++ ys, entry.Writable) :
    ∃ (format delimiter before after : Text) (pieces more : List Piece),
      Operation.run engine (.splitTemplate (.text template)) = pure (.parts format delimiter) ∧
      IsListing engine template delimiter xs pieces before ∧
      IsListing engine template delimiter ys more after ∧
      IsListing engine template delimiter (xs ++ ys) (pieces ++ more)
        (before ++ delimiter ++ after) ∧
      ∀ c ∈ before ++ delimiter ++ after, Text.isBlank c → c ∈ delimiter := by
  rw [List.forall_mem_append] at hwritable
  obtain ⟨pieces, hpieces, hsteps⟩ := exists_pieces engine template hwritable.1
  obtain ⟨more, hmore, hstepsMore⟩ := exists_pieces engine template hwritable.2
  have hboth : IsListing engine template (splitTemplate template).2 (xs ++ ys) (pieces ++ more)
      (Text.join (splitTemplate template).2 (pieces.map Piece.written) ++
        (splitTemplate template).2 ++
        Text.join (splitTemplate template).2 (more.map Piece.written)) := by
    have hlisting := isListing_of_steps (List.append_ne_nil_of_left_ne_nil hxs ys)
      (List.rel_append hpieces hmore) (List.rel_append hsteps hstepsMore)
    have hpiecesNe : pieces ≠ [] := by
      rintro rfl
      exact hxs (List.forall₂_nil_right_iff.mp hpieces)
    have hmoreNe : more ≠ [] := by
      rintro rfl
      exact hys (List.forall₂_nil_right_iff.mp hmore)
    rwa [List.map_append, Text.join_append (by simpa using hpiecesNe) (by simpa using hmoreNe)]
      at hlisting
  exact ⟨(splitTemplate template).1, (splitTemplate template).2, _, _, pieces, more,
    Operation.run_splitTemplate engine template, isListing_of_steps hxs hpieces hsteps,
    isListing_of_steps hys hmore hstepsMore, hboth, fun _ hc => hboth.mem_delimiter hc⟩

/-- A person, then a mapping and a number, which describes nobody. -/
theorem person_before_mapping_and_number :
    ∃ (format delimiter before after : Text) (pieces more : List Piece),
      Operation.run ⟨.null, .null⟩ (.splitTemplate (.text "{SURNAME}|, ".toList)) =
        pure (.parts format delimiter) ∧
      IsListing ⟨.null, .null⟩ "{SURNAME}|, ".toList delimiter
        [.person ⟨"Jane".toList, [], "Doe".toList, []⟩] pieces before ∧
      IsListing ⟨.null, .null⟩ "{SURNAME}|, ".toList delimiter
        [.value (.mapping [("surname".toList, .text "Roe".toList)]), .value (.whole 42)] more
        after ∧
      IsListing ⟨.null, .null⟩ "{SURNAME}|, ".toList delimiter
        ([.person ⟨"Jane".toList, [], "Doe".toList, []⟩] ++
          [.value (.mapping [("surname".toList, .text "Roe".toList)]), .value (.whole 42)])
        (pieces ++ more) (before ++ delimiter ++ after) ∧
      ∀ c ∈ before ++ delimiter ++ after, Text.isBlank c → c ∈ delimiter := by
  refine lists_follow_one_another _ _ (List.cons_ne_nil _ _) (List.cons_ne_nil _ _) ?_
  intro entry hin
  simp only [List.cons_append, List.nil_append, List.mem_cons, List.not_mem_nil, or_false] at hin
  rcases hin with rfl | rfl | rfl
  · exact .person _
  · exact .mapping (List.forall_mem_singleton.mpr (Value.writable_text _))
  · exact .nobody (by decide)

/-- The template for a surname alone, without a delimiter. -/
def surnameTemplate : Text := "{SURNAME}|".toList

theorem run_people_surname (engine : Engine) (h : entry.person? = .ok person) :
    Operation.run engine (.people [entry] (some (.text surnameTemplate))) =
      pure (.value (.text (Text.dashed (Field.Name.ofText person.fullName).surname))) := by
  obtain ⟨middle, hreadable, -⟩ := Field.Name.exists_readable_ofText person.fullName
  have hwritten : (Field.name.source person.fullName).written ⟨"SURNAME".toList, none⟩ =
      (Field.Name.ofText person.fullName).surname :=
    Field.written_as_read (by decide) hreadable.surname.ne_nil (Field.source_name_value? _ _)
  have hformat : (splitTemplate surnameTemplate).1 = "{SURNAME}".toList := by decide
  have hparse : Template.parse "{SURNAME}".toList =
      ([⟨"SURNAME".toList, none⟩].map Segment.placeholder).intersperse (.literal []) := by
    decide +kernel
  refine run_people_of_list (List.cons_ne_nil _ _) ?_
  rw [list_single, entry_fragment_of_person h, fragment_eq, hformat,
    Field.render_row (by decide) (by decide +kernel) hparse, List.map_singleton,
    Text.join_singleton, hwritten]
  rfl

/-- The surname of a person is the last word of the full name. -/
private theorem surname_ofText_fullName {person : Person} (h : IsWord person.surname) :
    (Field.Name.ofText person.fullName).surname =
      if words person.given ++ words person.middle = [] then unknown else person.surname := by
  rw [Field.Name.ofText, Person.words_fullName, Text.words_of_isWord h,
    Field.Name.surname_ofWords_concat]

/-- A surname of one word is written as the surname if there is another word in the name, and as
missing if there is none. -/
theorem surname_written_behind_other_names (engine : Engine)
    (hentry : entry.person? = .ok person) (hsurname : IsWord person.surname) :
    Operation.run engine (.people [entry] (some (.text surnameTemplate))) =
      pure (.value (.text
        (if (person.given ++ person.middle).all Text.isBlank then unknown
          else person.surname))) := by
  have hblank : words person.given ++ words person.middle = [] ↔
      (person.given ++ person.middle).all Text.isBlank := by
    rw [List.append_eq_nil_iff, Text.words_eq_nil_iff, Text.words_eq_nil_iff, List.all_append,
      Bool.and_eq_true, List.all_eq_true, List.all_eq_true]
  rw [run_people_surname engine hentry, surname_ofText_fullName hsurname, if_congr hblank rfl rfl]
  split_ifs
  · rfl
  · rw [Text.dashed_eq_self hsurname.not_blank]

/-- A given name, no middle name and a surname. -/
theorem surname_of_jane_doe_written :
    (Entry.person ⟨"Jane".toList, [], "Doe".toList, []⟩).person? =
      .ok ⟨"Jane".toList, [], "Doe".toList, []⟩ ∧
    IsWord "Doe".toList ∧
    Operation.run ⟨.null, .null⟩ (.people [.person ⟨"Jane".toList, [], "Doe".toList, []⟩]
      (some (.text surnameTemplate))) = pure (.value (.text "Doe".toList)) := by
  have hperson : (Entry.person ⟨"Jane".toList, [], "Doe".toList, []⟩).person? =
      .ok ⟨"Jane".toList, [], "Doe".toList, []⟩ := rfl
  have hsurname : IsWord "Doe".toList := by decide
  exact ⟨hperson, hsurname,
    surname_written_behind_other_names ⟨.null, .null⟩ hperson hsurname⟩

/-- A surname that is all there is of a name is read as a given name. -/
theorem lone_surname_not_written : IsWord "Smith".toList ∧ "Smith".toList ≠ unknown ∧
    Operation.run ⟨.null, .null⟩ (.people [.person ⟨[], [], "Smith".toList, []⟩]
      (some (.text surnameTemplate))) ≠ pure (.value (.text "Smith".toList)) := by
  refine ⟨by decide, by decide, fun h => ?_⟩
  have hread : (Field.Name.ofText (Person.fullName ⟨[], [], "Smith".toList, []⟩)).surname =
      unknown := by
    decide +kernel
  rw [run_people_surname _ rfl, hread] at h
  cases h

end FilingName.People
