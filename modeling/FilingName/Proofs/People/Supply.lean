import FilingName.Proofs.People.Listing
import Mathlib.Algebra.Group.Int.Defs

/-! How persons are supplied. A list of people holds persons as they are and mappings, in which
given and middle name go by two keys each, and is written the same whichever of these stands for a
person. Of what else a mapping holds only the relationship is looked at. It is never shown, but it
is turned into text, and so has to be a value that can be written, as whatever is read from JSON
can. With a number that is too long for that the list is not written at all. -/
namespace FilingName.People
open Template (Engine)

/-- A part of a name under any of the keys for it. The others hold the same, something blank or
nothing, and an empty part need not be held at all. -/
structure HoldsPart (entries : List (Text × Value)) (keys : List String) (part : Text) : Prop where
  text_or_blank : ∀ key ∈ keys, ∀ value, entries.lookup key.toList = some value →
    value = .text part ∨ value.isBlank
  held : part ≠ [] → ∃ key ∈ keys, entries.lookup key.toList = some (.text part)

namespace HoldsPart

variable {entries : List (Text × Value)} {key : String} {keys : List String} {part : Text}

private theorem isBlank_or_eq (h : HoldsPart entries (key :: keys) part) :
    ((entries.lookup key.toList).getD .null).isBlank ∨
      (entries.lookup key.toList).getD .null = .text part := by
  cases hlookup : entries.lookup key.toList with
  | none => exact .inl rfl
  | some value => exact (h.text_or_blank key List.mem_cons_self value hlookup).symm

/-- A key that holds something blank is passed over. -/
private theorem tail (h : HoldsPart entries (key :: keys) part)
    (hblank : ((entries.lookup key.toList).getD .null).isBlank) : HoldsPart entries keys part where
  text_or_blank other hin := h.text_or_blank other (List.mem_cons_of_mem key hin)
  held hpart := by
    obtain ⟨other, hin, hlookup⟩ := h.held hpart
    rcases List.mem_cons.mp hin with rfl | hin
    · rw [hlookup] at hblank
      exact absurd (List.isEmpty_iff.mp hblank) hpart
    · exact ⟨other, hin, hlookup⟩

private theorem pick_eq (h : HoldsPart entries keys part) :
    Person.pick (.mapping entries) keys = .ok part := by
  induction keys with
  | nil =>
    by_cases hpart : part = []
    · rw [hpart]
      rfl
    · obtain ⟨key, hin, -⟩ := h.held hpart
      exact absurd hin List.not_mem_nil
  | cons key keys ih =>
    rw [Person.pick_cons (Value.lookUp_text key.toList)]
    split_ifs with hblank
    · exact ih (h.tail hblank)
    · rw [h.isBlank_or_eq.resolve_left hblank]
      rfl

end HoldsPart

/-- The entries that stand for a person in a list: the person with any relationship, the three parts
as texts, and mappings that hold the parts. What else a mapping has is of no account, as long as the
relationship can be written. -/
inductive Person.SuppliedBy (person : Person) : Entry → Prop
  | person (relationship : Text) : SuppliedBy person (.person { person with relationship })
  | named : SuppliedBy person
      (.named (.text person.given) (.text person.middle) (.text person.surname))
  | mapping {entries : List (Text × Value)} :
      HoldsPart entries ["given_name", "givenName"] person.given →
      HoldsPart entries ["middle_name", "middleName"] person.middle →
      HoldsPart entries ["surname"] person.surname →
      (∀ value, entries.lookup "relationship".toList = some value → value.Writable) →
      SuppliedBy person (.value (.mapping entries))

variable {person : Person} {persons : List Person} {entry : Entry} {entries others : List Entry}

/-- Up to the relationship an entry is read as the person for whom it stands. -/
private theorem Person.SuppliedBy.exists_person (h : person.SuppliedBy entry) :
    ∃ relationship, entry.person? = .ok { person with relationship } := by
  cases h with
  | person relationship => exact ⟨relationship, rfl⟩
  | named =>
    refine ⟨[], ?_⟩
    rw [Entry.person?, part_text, part_text, part_text]
    rfl
  | @mapping entries hgiven hmiddle hsurname hrelationship =>
    have hpick : ∃ part, Person.pick (.mapping entries) ["relationship"] = .ok part :=
      Person.exists_pick (List.forall_mem_singleton.mpr hrelationship)
    obtain ⟨relationship, hrelationship⟩ := hpick
    refine ⟨relationship, ?_⟩
    rw [Entry.person?, Person.ofMapping, hgiven.pick_eq, hmiddle.pick_eq, hsurname.pick_eq,
      hrelationship]
    rfl

/-- The relationship has no part in what is written for a person. -/
private theorem Person.SuppliedBy.fragment_eq (h : person.SuppliedBy entry) (template : Text) :
    entry.fragment template = fragment template person := by
  obtain ⟨relationship, hperson⟩ := h.exists_person
  rw [entry_fragment_of_person hperson]
  rfl

private theorem list_of_supplied (h : List.Forall₂ Person.SuppliedBy persons entries)
    (template : Text) : list entries template = list (persons.map .person) template := by
  have hsteps : List.Forall₂ (fun entry other => entry.fragment (splitTemplate template).1 =
      Entry.fragment (splitTemplate template).1 other) entries (persons.map .person) :=
    List.forall₂_map_right_iff.mpr <| h.flip.imp fun _ _ hentry =>
      (hentry.fragment_eq _).trans (entry_fragment_person _ _).symm
  rw [list_eq, list_eq, Logged.mapM_of_forall₂ hsteps]

private theorem people_of_supplied (h : List.Forall₂ Person.SuppliedBy persons entries)
    (template : Option Value) :
    OnValues.people entries template = OnValues.people (persons.map .person) template := by
  have hempty : entries.isEmpty = (persons.map Entry.person).isEmpty := by
    cases h <;> rfl
  simp only [OnValues.people, hempty, list_of_supplied h]

/-- However the persons in a list are supplied, it is written the same, with the same reports and
whatever the template. A template that is a text always writes it. -/
theorem written_alike_however_supplied (engine : Engine)
    (hentries : List.Forall₂ Person.SuppliedBy persons entries)
    (hothers : List.Forall₂ Person.SuppliedBy persons others) :
    (∀ template, Operation.run engine (.people entries template) =
      Operation.run engine (.people others template)) ∧
    ∀ template : Text, ∃ log out,
      Operation.run engine (.people entries (some (.text template))) =
        ⟨log, .ok (.value (.text out))⟩ := by
  refine ⟨fun template => ?_, fun template => ?_⟩
  · rw [Operation.run_people, Operation.run_people, people_of_supplied hentries,
      people_of_supplied hothers]
  · by_cases hnone : entries = []
    · subst hnone
      exact ⟨[], [], rfl⟩
    · obtain ⟨out, hlist⟩ := list_persons persons template
      exact ⟨_, out, run_people_of_list hnone ((list_of_supplied hentries template).trans hlist)⟩

/-- Two persons, each of them as a mapping in one list and as an object in the other. -/
theorem jane_and_mary_written_alike :
    let jane : Person := { given := "Jane".toList, surname := "Doe".toList }
    let mary : Person := ⟨"Mary".toList, "Ann".toList, "Smith".toList, "aunt".toList⟩
    let entries : List Entry := [.value (.mapping [("middleName".toList, .text []),
      ("givenName".toList, .text jane.given), ("age".toList, .whole 42),
      ("surname".toList, .text jane.surname)]), .person mary]
    let others : List Entry := [.named (.text jane.given) (.text jane.middle) (.text jane.surname),
      .value (.mapping [("given_name".toList, .text mary.given),
      ("middleName".toList, .text mary.middle), ("surname".toList, .text mary.surname),
      ("relationship".toList, .text mary.relationship)])]
    List.Forall₂ Person.SuppliedBy [jane, mary] entries ∧
    List.Forall₂ Person.SuppliedBy [jane, mary] others ∧
    ∀ template, Operation.run ⟨.null, .null⟩ (.people entries template) =
      Operation.run ⟨.null, .null⟩ (.people others template) := by
  intro jane mary entries others
  have hentries : List.Forall₂ Person.SuppliedBy [jane, mary] entries := by
    refine .cons (.mapping ⟨?_, ?_⟩ ⟨?_, ?_⟩ ⟨?_, ?_⟩ ?_) (.cons (.person _) .nil)
    all_goals simp [List.lookup_cons, jane, Value.isBlank]
  have hothers : List.Forall₂ Person.SuppliedBy [jane, mary] others := by
    refine .cons .named (.cons (.mapping ⟨?_, ?_⟩ ⟨?_, ?_⟩ ⟨?_, ?_⟩ ?_) .nil)
    all_goals simp [List.lookup_cons, mary, Value.writable_text]
  exact ⟨hentries, hothers, (written_alike_however_supplied ⟨.null, .null⟩ hentries hothers).1⟩

/-- A relationship that cannot be written keeps an entry from being read as a person. -/
private theorem person?_of_relationship {entries : List (Text × Value)} {fault : ValueFault}
    (hgiven : HoldsPart entries ["given_name", "givenName"] person.given)
    (hmiddle : HoldsPart entries ["middle_name", "middleName"] person.middle)
    (hsurname : HoldsPart entries ["surname"] person.surname)
    (h : Person.pick (.mapping entries) ["relationship"] = .error fault) :
    Entry.person? (.value (.mapping entries)) = .error fault := by
  rw [Entry.person?, Person.ofMapping, hgiven.pick_eq, hmiddle.pick_eq, hsurname.pick_eq, h]
  rfl

/-- Jane Doe as an object and as a mapping with a number of too many digits for a relationship. -/
theorem jane_with_long_relationship_not_written :
    let jane : Person := { given := "Jane".toList, surname := "Doe".toList }
    let entries := [("givenName".toList, Value.text jane.given),
      ("surname".toList, .text jane.surname), ("relationship".toList, .whole (10 ^ digitLimit))]
    let template := some (.text surnameTemplate)
    HoldsPart entries ["given_name", "givenName"] jane.given ∧
    HoldsPart entries ["middle_name", "middleName"] jane.middle ∧
    HoldsPart entries ["surname"] jane.surname ∧
    Operation.run ⟨.null, .null⟩ (.people [.value (.mapping entries)] template) =
      ⟨[], .error (.value .numberTooLong)⟩ ∧
    Operation.run ⟨.null, .null⟩ (.people [.person jane] template) =
      pure (.value (.text jane.surname)) := by
  have hlong : 10 ^ digitLimit ≤ ((10 : Int) ^ digitLimit).natAbs := by
    rw [Int.natAbs_pow]
    exact Nat.pow_le_pow_left (by decide) digitLimit
  -- only its size is known of the number from here on, so that it is not computed
  generalize (10 : Int) ^ digitLimit = n at hlong ⊢
  have hblank : (n == 0) = false := by
    rw [beq_eq_false_iff_ne]
    rintro rfl
    exact absurd hlong (Nat.not_le_of_lt (Nat.pow_pos (by decide)))
  intro jane entries template
  have hgiven : HoldsPart entries ["given_name", "givenName"] jane.given := by
    constructor <;> simp [List.lookup_cons, entries, jane]
  have hmiddle : HoldsPart entries ["middle_name", "middleName"] jane.middle := by
    constructor <;> simp [List.lookup_cons, entries, jane]
  have hsurname : HoldsPart entries ["surname"] jane.surname := by
    constructor <;> simp [List.lookup_cons, entries, jane]
  have hrelationship : Person.pick (.mapping entries) ["relationship"] =
      .error .numberTooLong := by
    have hlookup : entries.lookup "relationship".toList = some (.whole n) := rfl
    rw [Person.pick_cons (Value.lookUp_text _), hlookup, Option.getD_some, Value.isBlank, hblank,
      if_neg Bool.false_ne_true, Value.write_whole_of_le hlong]
  refine ⟨hgiven, hmiddle, hsurname, ?_, ?_⟩
  · rw [Operation.run_people, people_text (List.cons_ne_nil _ _), list_single, Entry.fragment,
      person?_of_relationship hgiven hmiddle hsurname hrelationship]
    rfl
  · have hsurname : Text.dashed (Field.Name.ofText jane.fullName).surname = jane.surname := by
      decide +kernel
    rw [run_people_surname _ rfl, hsurname]

end FilingName.People
