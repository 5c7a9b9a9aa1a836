import FilingName.Proofs.Field.Name
import FilingName.Proofs.Operation
import Mathlib.Data.List.Nodup

/-! Which parts of a name are missing. The mark for a missing part is a word as well, and a word of
the text that is the mark cannot be told from a part that is not there. -/
namespace FilingName.Field
open Text (HasWords IsSpaced IsWord join words)
open Template (Engine)

section
variable {fields : List (String × Text)} {key : String} {part : Text}

private theorem eq_of_key_eq {entry other : String × Text} (hkeys : (fields.map Prod.fst).Nodup)
    (hentry : entry ∈ fields) (hother : other ∈ fields)
    (h : entry.1.toList = other.1.toList) : entry = other :=
  List.inj_on_of_nodup_map hkeys hentry hother (String.toList_inj.mp h)

private theorem mem_missing_iff (hkeys : (fields.map Prod.fst).Nodup) (hin : (key, part) ∈ fields) :
    key.toList ∈ missing fields ↔ part = unknown := by
  constructor
  · intro h
    obtain ⟨entry, hentry, hkey⟩ := List.mem_map.mp h
    obtain ⟨hin', hunknown⟩ := List.mem_filter.mp hentry
    simpa [eq_of_key_eq hkeys hin' hin hkey] using hunknown
  · intro h
    exact List.mem_map.mpr ⟨(key, part), List.mem_filter.mpr ⟨hin, by simpa using h⟩, rfl⟩

theorem lookUp_record (hkeys : (fields.map Prod.fst).Nodup) (hin : (key, part) ∈ fields) :
    (record fields).lookUp (.text key.toList) =
      .ok (if part = unknown then .null else .text part) :=
  Value.lookUp_row (fun entry => if entry.2 = unknown then .null else .text entry.2) hkeys hin

/-- In a record the missing parts are null, and no others. -/
private theorem lookUp_record_eq_null_iff (hkeys : (fields.map Prod.fst).Nodup)
    (hin : key ∈ fields.map Prod.fst) :
    (record fields).lookUp (.text key.toList) = .ok .null ↔ key.toList ∈ missing fields := by
  obtain ⟨⟨key', part⟩, hentry, hkey⟩ := List.mem_map.mp hin
  obtain rfl : key' = key := hkey
  rw [lookUp_record hkeys hentry, mem_missing_iff hkeys hentry]
  by_cases h : part = unknown <;> simp [h]

end

namespace Name

variable {ws : List Text} {name : Name}

private theorem ReadAs.given_eq_unknown_iff (h : ReadAs ws name) :
    name.given = unknown ↔ ws = [] ∨ ws.head? = some unknown := by
  cases h <;> simp

private theorem ReadAs.surname_eq_unknown_iff (h : ReadAs ws name) :
    name.surname = unknown ↔ ws.length < 2 ∨ ws.getLast? = some unknown := by
  cases h with
  | nothing | given | surname => simp
  | @middle given surname middle hne =>
    have hlong : ¬ (given :: (middle ++ [surname])).length < 2 := by simp
    rw [or_iff_right hlong, ← List.cons_append, List.getLast?_concat, Option.some.injEq]

/-- Several middle names have spaces between them, and the mark has none. -/
private theorem ReadAs.middle_eq_unknown_iff (h : ReadAs ws name) (hws : ∀ w ∈ ws, IsWord w) :
    name.middle = unknown ↔
      ws.length < 3 ∨ ∃ given surname, ws = [given, unknown, surname] := by
  cases h with
  | nothing | given | surname => simp
  | @middle given surname middle hne =>
    rw [List.forall_mem_cons, List.forall_mem_append] at hws
    have hspaced : IsSpaced (join " ".toList middle) middle := ⟨hne, hws.2.1, rfl⟩
    have hlength : 0 < middle.length := List.length_pos_of_ne_nil hne
    have hlong : ¬ (given :: (middle ++ [surname])).length < 3 := by
      simp only [List.length_cons, List.length_append]
      omega
    rw [or_iff_right hlong]
    constructor
    · intro (hmark : join " ".toList middle = unknown)
      have hmiddle : middle = [unknown] := by
        rw [← hspaced.words_eq, hmark, Text.words_of_isWord isWord_unknown]
      exact ⟨given, surname, by rw [hmiddle, List.singleton_append]⟩
    · rintro ⟨given', surname', hws'⟩
      have hrest : middle ++ [surname] = [unknown] ++ [surname'] := (List.cons.inj hws').2
      rw [(List.append_inj' hrest rfl).1]
      rfl

/-- The parts that are missing where a name is read from words. -/
structure Misses (ws : List Text) (fields : List (String × Text)) : Prop where
  given : "given".toList ∈ missing fields ↔ ws = [] ∨ ws.head? = some unknown
  middle : "middle".toList ∈ missing fields ↔
    ws.length < 3 ∨ ∃ given surname, ws = [given, unknown, surname]
  surname : "surname".toList ∈ missing fields ↔ ws.length < 2 ∨ ws.getLast? = some unknown
  null : ∀ key ∈ ["given", "middle", "surname"],
    (record fields).lookUp (.text key.toList) = .ok .null ↔ key.toList ∈ missing fields

private theorem nodup_keys (name : Name) : (name.fields.map Prod.fst).Nodup := by
  have hkeys : ["given", "middle", "surname"].Nodup := by decide
  exact hkeys

private theorem ReadAs.misses (h : ReadAs ws name) (hws : ∀ w ∈ ws, IsWord w) :
    Misses ws name.fields := by
  have hkeys := name.nodup_keys
  have hgiven : ("given", name.given) ∈ name.fields := by simp [fields]
  have hmiddle : ("middle", name.middle) ∈ name.fields := by simp [fields]
  have hsurname : ("surname", name.surname) ∈ name.fields := by simp [fields]
  refine ⟨?_, ?_, ?_, fun key => lookUp_record_eq_null_iff hkeys⟩
  · rw [mem_missing_iff hkeys hgiven, h.given_eq_unknown_iff]
  · rw [mem_missing_iff hkeys hmiddle, h.middle_eq_unknown_iff hws]
  · rw [mem_missing_iff hkeys hsurname, h.surname_eq_unknown_iff]

/-- A part of a name is missing where the text has too few words for it, or where the only word for
it is the mark. -/
theorem missing_parts_of_name (engine : Engine) (countries : Value) (t : Text) :
    ∃ ws fields, HasWords t ws ∧ Misses ws fields ∧
      Operation.run engine (.parseField .name (.text t) countries) = pure (.fields fields) := by
  refine ⟨words t, (ofText t).fields, Text.hasWords_words t, ?_,
    Operation.run_parseField_name engine (some t) countries⟩
  exact (readAs_ofWords (words t)).misses fun _ => Text.isWord_of_mem_words

/-- Of two words the first is the given name, and it counts as missing. -/
theorem given_name_x_missing : ∃ ws fields, HasWords "x Smith".toList ws ∧ ws.length = 2 ∧
    Operation.run ⟨.null, .null⟩ (.parseField .name (.text "x Smith".toList) .null) =
      pure (.fields fields) ∧
    "given".toList ∈ missing fields ∧
    (record fields).lookUp (.text "given".toList) = .ok .null := by
  refine ⟨["x".toList, "Smith".toList], _, ?_, rfl,
    Operation.run_parseField_name _ (some "x Smith".toList) .null, ?_, ?_⟩
  · exact Text.hasWords_iff.mpr (by decide)
  · decide
  · rfl

end Name
end FilingName.Field
