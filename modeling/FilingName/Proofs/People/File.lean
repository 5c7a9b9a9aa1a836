import FilingName.CommandLine.Run
import FilingName.Operation
import FilingName.Proofs.Json.Reader
import FilingName.Proofs.Logged
import FilingName.Proofs.People.Person
import FilingName.Proofs.Text.Utf8

/-! What can come of a people file. A JSON list of mappings is read as a person for every entry.
Whatever else a file holds is a problem of that file, which a run reports, but for two kinds of
contents: bytes that are of no text, and a row of digits that is too long for a number. They end the
run with a fault of their own. -/
namespace FilingName.People.File
open Storage (Folder Path)
open Text (Utf8.encode Utf8.decode Utf8.unifyLineEnds)

/-- An entry of a people file and the person that it describes. -/
def Describes (item : Value) (person : Person) : Prop :=
  ∃ entries, item = .mapping entries ∧ Person.ofMapping item = .ok person

/-- What lies at a path is a file with a text, which is read with line feeds for line ends. -/
def Holds (folder : Folder) (path t : Text) : Prop :=
  ∃ u, folder.read (Path.ofText path) = .ok (Utf8.encode u) ∧ t = Utf8.unifyLineEnds u

/-- What comes of loading a people file, by what lies at its path. -/
inductive Loads (folder : Folder) (path : Text) : Except Fault (List Person) → Prop
  | persons {t : Text} {items : List Value} {persons : List Person} : Holds folder path t →
      Json.read t = .ok (.list items) → List.Forall₂ Describes items persons →
      Loads folder path (.ok persons)
  | unreadable {problem : Storage.Problem} : folder.read (Path.ofText path) = .error problem →
      Loads folder path (.error (.problem path (.unreadable problem)))
  | malformed {t : Text} {reason : Json.Reason} {position : Nat} : Holds folder path t →
      Json.read t = .error (.malformed reason position) →
      Loads folder path (.error (.problem path (.malformed (.ofPosition t reason position))))
  | notList {t : Text} {value : Value} : Holds folder path t → Json.read t = .ok value →
      (∀ items, value ≠ .list items) → Loads folder path (.error (.problem path .notList))
  | notMapping {t : Text} {before after : List Value} {item : Value} {persons : List Person} :
      Holds folder path t → Json.read t = .ok (.list (before ++ item :: after)) →
      List.Forall₂ Describes before persons → (∀ entries, item ≠ .mapping entries) →
      Loads folder path (.error (.problem path (.notMapping (before.length + 1))))
  | encoding {bytes : List UInt8} {fault : Text.Utf8.Fault} :
      folder.read (Path.ofText path) = .ok bytes → (∀ u, bytes ≠ Utf8.encode u) →
      Utf8.decode bytes = .error fault → Loads folder path (.error (.encoding fault))
  | tooLong {t row : Text} : Holds folder path t → Json.TooLong row → row <:+: t →
      Json.read t = .error (.value (.numeralTooLong row.length)) →
      Loads folder path (.error (.value (.numeralTooLong row.length)))

variable {folder : Folder} {path t : Text}

private theorem persons_cons {entries : List (Text × Value)} {person : Person}
    (h : Person.ofMapping (.mapping entries) = .ok person) (entry : Nat) (items : List Value) :
    persons path entry (.mapping entries :: items) =
      (person :: ·) <$> persons path (entry + 1) items := by
  rw [persons, h, map_eq_pure_bind]

private theorem persons_cons_of_ne {item : Value} (h : ∀ entries, item ≠ .mapping entries)
    (entry : Nat) (items : List Value) :
    persons path entry (item :: items) = .error (.problem path (.notMapping entry)) := by
  cases item with
  | mapping entries => exact absurd rfl (h entries)
  | null | truth b | whole n | real x | text t | list items => rfl

/-- Every item describes a person, or the first that does not is no mapping. -/
private theorem persons_cases (path : Text) {items : List Value} (h : ∀ item ∈ items, item.Writable)
    (entry : Nat) :
    (∃ people, List.Forall₂ Describes items people ∧ persons path entry items = .ok people) ∨
      ∃ before item after people, items = before ++ item :: after ∧
        List.Forall₂ Describes before people ∧ (∀ entries, item ≠ .mapping entries) ∧
        persons path entry items =
          .error (.problem path (.notMapping (entry + before.length))) := by
  induction items generalizing entry with
  | nil => exact .inl ⟨[], .nil, rfl⟩
  | cons item items ih =>
    rw [List.forall_mem_cons] at h
    by_cases hitem : ∃ entries, item = .mapping entries
    · obtain ⟨entries, rfl⟩ := hitem
      obtain ⟨person, hperson⟩ := Person.exists_ofMapping (Value.writable_mapping.mp h.1)
      have hfirst : Describes (.mapping entries) person := ⟨entries, rfl, hperson⟩
      rw [persons_cons hperson]
      rcases ih h.2 (entry + 1) with ⟨people, hpeople, hok⟩ |
        ⟨before, item, after, people, hsplit, hpeople, hne, herror⟩
      · exact .inl ⟨person :: people, .cons hfirst hpeople, by rw [hok]; rfl⟩
      · refine .inr ⟨_ :: before, item, after, person :: people, by rw [hsplit]; rfl,
          .cons hfirst hpeople, hne, ?_⟩
        rw [herror, List.length_cons, Nat.add_assoc, Nat.add_comm 1]
        rfl
    · have hne := not_exists.mp hitem
      exact .inr ⟨[], item, items, [], rfl, .nil, hne, persons_cons_of_ne hne entry items⟩

private theorem loads_of_holds (htext : text folder path = .ok t) (ht : Holds folder path t) :
    Loads folder path (load folder path) := by
  simp only [load, htext, document, bind, Except.bind]
  rcases Json.read_cases t with ⟨value, hread, hvalue⟩ | ⟨reason, position, hread⟩ |
    ⟨row, hrow, hin, hread⟩
  · simp only [hread]
    cases value with
    | list items =>
      rcases persons_cases path (Value.writable_list.mp hvalue) 1 with ⟨people, hpeople, hok⟩ |
        ⟨before, item, after, people, rfl, hpeople, hne, herror⟩
      · simp only [hok]
        exact .persons ht hread hpeople
      · simp only [herror, Nat.add_comm 1]
        exact .notMapping ht hread hpeople hne
    | null | truth b | whole n | real x | text t | mapping entries =>
      exact .notList ht hread fun _ he => by cases he
  · simp only [hread]
    exact .malformed ht hread
  · simp only [hread]
    exact .tooLong ht hrow hin hread

private theorem loads (h : '\x00' ∉ path) : Loads folder path (load folder path) := by
  have hnull : ¬ path.contains '\x00' = true := by simpa using h
  cases hfile : folder.read (Path.ofText path) with
  | error problem =>
    rw [load, text, if_neg hnull, hfile]
    exact .unreadable hfile
  | ok bytes =>
    cases hdecode : Utf8.decode bytes with
    | error fault =>
      have hbytes (u : Text) : bytes ≠ Utf8.encode u := fun hu => by
        cases hdecode.symm.trans (Text.Utf8.decode_eq_ok_iff.mpr hu)
      rw [load, text, if_neg hnull, hfile]
      simp only [hdecode]
      exact .encoding hfile hbytes hdecode
    | ok u =>
      have htext : text folder path = .ok (Utf8.unifyLineEnds u) := by
        rw [text, if_neg hnull, hfile]
        simp only [hdecode]
      exact loads_of_holds htext ⟨u, Text.Utf8.decode_eq_ok_iff.mp hdecode ▸ hfile, rfl⟩

/-- What a run does with what came of its people file. -/
def proceed (request : CommandLine.Request) : Except Fault (List Person) → Display.Action Nat
  | .ok persons =>
    CommandLine.formatAll request (request.persons.map Person.ofText ++ persons)
  | .error (.problem path cause) => do
    Display.error (cause.message path)
    return 1
  | .error fault => ⟨[], .error (.peopleFile fault)⟩

private theorem people_eq {request : CommandLine.Request} {given : Text}
    (h : request.peopleFile = some given) : CommandLine.people folder request =
      (request.persons.map Person.ofText ++ ·) <$> load folder (Path.ofText given).text := by
  rw [CommandLine.people, h, map_eq_pure_bind]

theorem format_eq_proceed {request : CommandLine.Request} {given : Text}
    (h : request.peopleFile = some given) : CommandLine.format folder request =
      proceed request (load folder (Path.ofText given).text) := by
  have hempty : request.isEmpty = false := by simp [CommandLine.Request.isEmpty, h]
  rw [CommandLine.format, hempty, if_neg Bool.false_ne_true, people_eq h]
  cases load folder (Path.ofText given).text with
  | ok persons => rfl
  | error fault =>
    cases fault with
    | problem path cause => rfl
    | nullInPath | encoding fault | value fault => rfl

end File

/-- A people file is loaded or refused by what lies at its path, and a run that is given the file
formats its persons or reports its problem. Bytes of no text, and rows of digits that are too long,
are no problems of the file: with them the run ends without a report. -/
theorem people_file_outcomes (engine : Template.Engine) (folder : Storage.Folder) {path : Text}
    (h : '\x00' ∉ path) :
    ∃ outcome, File.Loads folder path outcome ∧
      Operation.run engine (.loadPeople folder (.text path)) =
        ⟨[], (Answer.persons <$> outcome).mapError .peopleFile⟩ ∧
      ∀ arguments request given, CommandLine.parse arguments = .request request →
        request.validate = false → request.peopleFile = some given →
        (Storage.Path.ofText given).text = path →
        CommandLine.run folder arguments = File.proceed request outcome := by
  refine ⟨File.load folder path, File.loads h, ?_, ?_⟩
  · simp only [Operation.run, OnValues.loadPeople]
    cases File.load folder path <;> rfl
  · intro arguments request given hparse hvalidate hgiven hpath
    rw [CommandLine.run, hparse, ← hpath, ← File.format_eq_proceed hgiven]
    simp only [CommandLine.Request.run, hvalidate, Bool.false_eq_true, if_false]

/-- A folder with a people file of the given bytes in it. -/
def File.folderWith (bytes : List UInt8) : Storage.Folder :=
  ⟨[(Storage.Path.ofText "p.json".toList, .file bytes)]⟩

/-- Two persons, the keys of the one spelled in another way than those of the other. -/
def File.janeAndMary : Text :=
  "[\x7b\"givenName\": \"Jane\", \"surname\": \"Doe\"\x7d,\r\n".toList ++
    " \x7b\"surname\": \"Smith\", \"middle_name\": \"Ann\", \"given_name\": \"Mary\"\x7d]".toList

theorem persons_of_file_formatted :
    let folder := File.folderWith (Text.Utf8.encode File.janeAndMary)
    let persons : List Person := [⟨"Jane".toList, [], "Doe".toList, []⟩,
      ⟨"Mary".toList, "Ann".toList, "Smith".toList, []⟩]
    '\x00' ∉ "p.json".toList ∧
      Operation.run Field.name.engine (.loadPeople folder (.text "p.json".toList)) =
        ⟨[], .ok (.persons persons)⟩ ∧
      CommandLine.run folder ["--people-file".toList, "p.json".toList] =
        CommandLine.formatAll { peopleFile := some "p.json".toList } persons := by
  intro folder persons
  have hpath : '\x00' ∉ "p.json".toList := by decide
  obtain ⟨outcome, -, hload, hrun⟩ := people_file_outcomes Field.name.engine folder hpath
  have hpersons : File.load folder "p.json".toList = .ok persons := by decide +kernel
  have hloaded : Operation.run Field.name.engine (.loadPeople folder (.text "p.json".toList)) =
      ⟨[], .ok (.persons persons)⟩ := by
    simp only [Operation.run, OnValues.loadPeople, hpersons]
    rfl
  refine ⟨hpath, hloaded, ?_⟩
  rw [hloaded] at hload
  rw [hrun _ _ _ rfl rfl rfl rfl]
  cases outcome with
  | ok loaded =>
    cases hload
    rfl
  | error fault => cases hload

theorem bytes_of_no_text_end_the_run :
    Operation.run Field.name.engine
      (.loadPeople (File.folderWith [0xFF]) (.text "p.json".toList)) =
        ⟨[], .error (.peopleFile (.encoding ⟨.start, 0, 1, 0xFF⟩))⟩ ∧
    CommandLine.run (File.folderWith [0xFF]) ["--people-file".toList, "p.json".toList] =
        ⟨[], .error (.peopleFile (.encoding ⟨.start, 0, 1, 0xFF⟩))⟩ := by
  constructor <;> rfl

end FilingName.People
