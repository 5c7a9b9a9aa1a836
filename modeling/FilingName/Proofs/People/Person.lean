import FilingName.Proofs.Field.Name
import FilingName.Proofs.Field.Render
import FilingName.Proofs.Value

/-! Persons made from a name in free text. A part that the name does not supply leaves no trace in
the full name of the person, so the parts behind it may be read as others than they were. With a
given name and a surname of one word each they are read as they were. -/
namespace FilingName.People
open FilingName.Field (known unknown)
open FilingName.Field.Name (Gapless)
open Template (Engine)
open Text (HasWords IsWord words)

namespace Person

/-- Of parts with something in them, those that are known go into the full name. -/
private theorem filter_known {parts : List Text} (h : ∀ part ∈ parts, Text.trim part ≠ []) :
    (parts.map fun part => if part = unknown then [] else part).filter
      (fun part => !(Text.trim part).isEmpty) = known parts := by
  induction parts with
  | nil => rfl
  | cons part parts ih =>
    rw [List.forall_mem_cons] at h
    by_cases hunknown : part = unknown
    · rw [List.map_cons, if_pos hunknown, List.filter_cons_of_neg (by decide), ih h.2, hunknown,
        Field.known_unknown]
    · rw [List.map_cons, if_neg hunknown, List.filter_cons_of_pos (by simpa using h.1), ih h.2,
        Field.known_cons_of_ne hunknown]

private theorem fullName_ofText (t : Text) : (ofText t).fullName =
    Text.join " ".toList (known [(Field.Name.ofText t).given, (Field.Name.ofText t).middle,
      (Field.Name.ofText t).surname]) := by
  obtain ⟨middle, hreadable, -⟩ := Field.Name.exists_readable_ofText t
  have hword (w : Text) (h : Text.IsWord w) : Text.trim w ≠ [] := by
    rw [ne_eq, Text.trim_eq_nil_iff_words, Text.words_of_isWord h]
    exact List.cons_ne_nil w []
  have hmiddle : Text.trim (Field.Name.ofText t).middle ≠ [] := by
    rw [ne_eq, Text.trim_eq_nil_iff_words, hreadable.middle.words_eq]
    exact hreadable.middle.ne_nil
  have hparts : ∀ part ∈ [(Field.Name.ofText t).given, (Field.Name.ofText t).middle,
      (Field.Name.ofText t).surname], Text.trim part ≠ [] := by
    rw [List.forall_mem_cons, List.forall_mem_cons, List.forall_mem_singleton]
    exact ⟨hword _ hreadable.given, hmiddle, hword _ hreadable.surname⟩
  exact congrArg (Text.join " ".toList) (filter_known hparts)

/-- The name of a person is read as the text that the person was made from if the name has no gap,
and only then. -/
private theorem ofText_fullName_iff (t : Text) :
    Field.Name.ofText (ofText t).fullName = Field.Name.ofText t ↔
      Gapless (Field.Name.ofText t) := by
  obtain ⟨middle, hreadable, -⟩ := Field.Name.exists_readable_ofText t
  rw [← hreadable.ofWords_knownWords_iff, Field.Name.ofText, fullName_ofText,
    Text.words_join_space]
  rfl

/-- The words of the parts, one part after the other, are the words of the full name. -/
theorem words_fullName (person : Person) : words person.fullName =
    words person.given ++ words person.middle ++ words person.surname := by
  have hparts (parts : List Text) :
      (parts.filter fun part => !(Text.trim part).isEmpty).flatMap words = parts.flatMap words := by
    induction parts with
    | nil => rfl
    | cons part parts ih =>
      rw [List.flatMap_cons, ← ih]
      by_cases hblank : Text.trim part = []
      · rw [List.filter_cons_of_neg (by simpa using hblank), Text.trim_eq_nil_iff_words.mp hblank,
          List.nil_append]
      · rw [List.filter_cons_of_pos (by simpa using hblank), List.flatMap_cons]
  rw [fullName, Text.words_join_space, hparts]
  simp

theorem pick_cons {entry value : Value} {key : String}
    (h : entry.lookUp (.text key.toList) = .ok value) (keys : List String) :
    pick entry (key :: keys) = if value.isBlank then pick entry keys else value.write := by
  rw [pick, h]
  rfl

/-- Only what stands under one of the keys has to be a value that can be written. -/
theorem exists_pick {entries : List (Text × Value)} {keys : List String}
    (h : ∀ key ∈ keys, ∀ value, entries.lookup key.toList = some value → value.Writable) :
    ∃ part, pick (.mapping entries) keys = .ok part := by
  induction keys with
  | nil => exact ⟨[], rfl⟩
  | cons key keys ih =>
    rw [List.forall_mem_cons] at h
    rw [pick_cons (Value.lookUp_text key.toList)]
    split_ifs with hblank
    · exact ih h.2
    · cases hlookup : entries.lookup key.toList with
      | none => exact absurd (congrArg (Value.isBlank <| ·.getD .null) hlookup) hblank
      | some value => exact (h.1 value hlookup).exists_write

/-- A mapping whose values can be written describes a person. -/
theorem exists_ofMapping {entries : List (Text × Value)}
    (h : ∀ entry ∈ entries, entry.2.Writable) :
    ∃ person, ofMapping (.mapping entries) = .ok person := by
  have hpick (keys : List String) : ∃ part, pick (.mapping entries) keys = .ok part :=
    exists_pick fun _ _ _ hlookup => h _ (Value.mem_of_lookup hlookup)
  obtain ⟨given, hgiven⟩ := hpick ["given_name", "givenName"]
  obtain ⟨middle, hmiddle⟩ := hpick ["middle_name", "middleName"]
  obtain ⟨surname, hsurname⟩ := hpick ["surname"]
  obtain ⟨relationship, hrelationship⟩ := hpick ["relationship"]
  refine ⟨⟨given, middle, surname, relationship⟩, ?_⟩
  rw [ofMapping, hgiven, hmiddle, hsurname, hrelationship]
  rfl

end Person

theorem fragment_eq (template : Text) (person : Person) :
    fragment template person = Text.dashed <$> Field.name.render person.fullName template := by
  rw [fragment, bind_pure_comp]

theorem people_text {entries : List Entry} (h : entries ≠ []) (template : Text) :
    OnValues.people entries (some (.text template)) = list entries template := by
  have htemplate : OnValues.blankOr .splitLast (.text template) = .ok template :=
    Operation.blankOr_ofText? .splitLast (some template)
  rw [OnValues.people, if_neg (by simpa using h), htemplate]
  exact Logged.lift_bind_ok template (list entries)

theorem list_eq (entries : List Entry) (template : Text) : list entries template =
    Text.join (splitTemplate template).2 <$>
      entries.mapM (Entry.fragment (splitTemplate template).1) := by
  rw [map_eq_pure_bind]
  rfl

/-- One entry makes a list without delimiters. -/
theorem list_single (entry : Entry) (template : Text) :
    list [entry] template = entry.fragment (splitTemplate template).1 := by
  simp only [list_eq, List.mapM_cons, List.mapM_nil, pure_bind, map_bind, map_pure,
    Text.join_singleton, bind_pure]

theorem entry_fragment_person (template : Text) (person : Person) :
    Entry.fragment template (.person person) = fragment template person :=
  Logged.lift_bind_ok person (fragment template)

private theorem people_single (person : Person) (template : Text) :
    OnValues.people [.person person] (some (.text template)) =
      fragment (splitTemplate template).1 person := by
  rw [people_text (List.cons_ne_nil _ _), list_single, entry_fragment_person]

/-- A person made from a text is read as the text itself exactly if the name has no gap, and is then
written in a list as the text is written on its own, with the same reports. -/
theorem person_read_as_name (engine : Engine) (t : Text) :
    ∃ (person : Person) (name again : Field.Name),
      Operation.run engine (.personFromText (.text t)) = pure (.person person) ∧
      Operation.run engine (.parseField .name (.text t) .null) = pure (.fields name.fields) ∧
      Operation.run engine (.parseField .name (.text person.fullName) .null) =
        pure (.fields again.fields) ∧
      (again = name ↔ Gapless name) ∧
      (Gapless name → ∀ template, ∃ format delimiter log written out,
        Operation.run engine (.splitTemplate (.text template)) = pure (.parts format delimiter) ∧
        Operation.run engine (.render .name (.text t) (.text format)) =
          ⟨log, .ok (.value (.text written))⟩ ∧
        Operation.run engine (.sanitize (.text written)) = pure (.value (.text out)) ∧
        Operation.run engine (.people [.person person] (some (.text template))) =
          ⟨log, .ok (.value (.text out))⟩) := by
  refine ⟨Person.ofText t, Field.Name.ofText t, _, Operation.run_personFromText engine t,
    Operation.run_parseField_name engine (some t) .null,
    Operation.run_parseField_name engine (some (Person.ofText t).fullName) .null,
    Person.ofText_fullName_iff t, ?_⟩
  intro hgapless template
  let format := (splitTemplate template).1
  obtain ⟨log, written, hrender⟩ := Field.exists_render .name t format
  have hsame : Field.name.render (Person.ofText t).fullName format = ⟨log, .ok written⟩ := by
    rw [← hrender, Field.render, Field.render, Field.read, Field.read,
      (Person.ofText_fullName_iff t).mpr hgapless]
  refine ⟨format, (splitTemplate template).2, log, written, Text.dashed written,
    Operation.run_splitTemplate engine template, ?_, Operation.run_sanitize engine written, ?_⟩
  · exact Operation.run_render_ofText? engine .name (some t) (some format) hrender
  · rw [Operation.run_people, people_single, fragment_eq, hsame, Logged.ext_iff, Logged.map_log,
      Operation.ofReported_log, Logged.map_log, Logged.map_outcome, Operation.ofReported_outcome,
      Logged.map_outcome]
    exact ⟨rfl, rfl⟩

example : Field.Name.ofText (Person.ofText "Mary Ann x".toList).fullName =
    ⟨"Mary".toList, unknown, "Ann".toList⟩ := by
  decide +kernel

/-- Between a given name and a surname of one word each there is room for any middle name. -/
private theorem ofText_fullName {person : Person} (hgiven : IsWord person.given)
    (hsurname : IsWord person.surname) : Field.Name.ofText person.fullName =
      ⟨person.given, if words person.middle = [] then unknown
        else Text.join " ".toList (words person.middle), person.surname⟩ := by
  rw [Field.Name.ofText, Person.words_fullName, Text.words_of_isWord hgiven,
    Text.words_of_isWord hsurname, List.append_assoc, List.singleton_append]
  split
  · next hnone =>
    rw [hnone]
    rfl
  · next hmiddle => exact Field.Name.ofWords_of_middle hmiddle _ _

/-- The full name of a person with a given name and a surname of one word each is read as these two,
whatever the middle name. That is read as its words with single spaces between them, and as unknown
if it is blank. -/
theorem full_name_read_as_its_parts (engine : Engine) {person : Person}
    (hgiven : IsWord person.given) (hsurname : IsWord person.surname) :
    ∃ (name : Field.Name) (middle : List Text), HasWords person.middle middle ∧
      Operation.run engine (.parseField .name (.text person.fullName) .null) =
        pure (.fields name.fields) ∧
      name.given = person.given ∧ name.surname = person.surname ∧
      ((∀ c ∈ person.middle, Text.isBlank c) → name.middle = unknown) ∧
      (¬ (∀ c ∈ person.middle, Text.isBlank c) →
        name.middle = Text.join " ".toList middle) := by
  refine ⟨_, words person.middle, Text.hasWords_words _,
    Operation.run_parseField_name engine (some person.fullName) .null, ?_⟩
  rw [Option.getD_some, ofText_fullName hgiven hsurname, ← Text.words_eq_nil_iff]
  exact ⟨rfl, rfl, fun hnone => if_pos hnone, fun hmiddle => if_neg hmiddle⟩

/-- Two middle names, with blanks of several kinds around them. -/
def maryAnnLouise : Person := ⟨"Mary".toList, "\tAnn \n Louise ".toList, "Smith".toList, []⟩

theorem mary_ann_louise_read : IsWord maryAnnLouise.given ∧ IsWord maryAnnLouise.surname ∧
    Operation.run ⟨.null, .null⟩ (.parseField .name (.text maryAnnLouise.fullName) .null) =
      pure (.fields (Field.Name.fields ⟨"Mary".toList, "Ann Louise".toList, "Smith".toList⟩)) := by
  have hgiven : IsWord maryAnnLouise.given := by decide
  have hsurname : IsWord maryAnnLouise.surname := by decide
  obtain ⟨⟨given, middle, surname⟩, ws, hwords, hrun, rfl, rfl, -, hmiddle⟩ :=
    full_name_read_as_its_parts ⟨.null, .null⟩ hgiven hsurname
  obtain rfl : middle = "Ann Louise".toList := by
    refine (hmiddle fun hblank => absurd (hblank 'A' (by decide)) (by decide)).trans ?_
    rw [Text.hasWords_iff.mp hwords]
    decide +kernel
  exact ⟨hgiven, hsurname, hrun⟩

end FilingName.People
