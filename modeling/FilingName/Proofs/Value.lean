import FilingName.Value
import Mathlib.Algebra.Group.Nat.Defs
import Mathlib.Data.List.Nodup

/-! What mappings hold under their keys, which values count as missing, and which can be written. -/
namespace FilingName.Value

/-- A text that may be left out, null where it is. -/
def ofText? : Option Text → Value
  | none => null
  | some t => text t

/-- A list of texts that may be left out, null where it is. -/
def ofTexts? : Option (List Text) → Value
  | none => null
  | some texts => list (texts.map text)

variable {entries : List (Text × Value)}

theorem lookup_map {α β γ : Type} [BEq α] (f : β → γ) (row : List (α × β)) (key : α) :
    (row.map fun entry => (entry.1, f entry.2)).lookup key = (row.lookup key).map f := by
  induction row with
  | nil => rfl
  | cons entry row ih =>
    obtain ⟨key', value⟩ := entry
    cases h : key == key' <;> simp [List.lookup_cons, h, ih]

theorem mem_of_lookup {α β : Type} [BEq α] [LawfulBEq α] {row : List (α × β)} {key : α} {value : β}
    (h : row.lookup key = some value) : (key, value) ∈ row := by
  obtain ⟨before, after, hsplit, -⟩ := List.lookup_eq_some_iff.mp h
  simp [hsplit]

theorem lookUp_text (name : Text) :
    (mapping entries).lookUp (.text name) = .ok ((entries.lookup name).getD null) := rfl

theorem isMissing_iff {value : Value} : value.isMissing ↔ value = .null ∨ value = .text [] := by
  cases value <;> simp [isMissing]

@[simp] theorem isMissing_ofText? (t : Option Text) :
    (ofText? t).isMissing = (t.getD []).isEmpty := by
  cases t <;> rfl

/-- Under a name that is a key there is the value of one of its entries. -/
theorem lookUp_of_mem {name : Text} (h : name ∈ entries.map Prod.fst) :
    ∃ value, (name, value) ∈ entries ∧ (mapping entries).lookUp (.text name) = .ok value := by
  cases hlookup : entries.lookup name with
  | none =>
    obtain ⟨entry, hin, rfl⟩ := List.mem_map.mp h
    simpa using List.lookup_eq_none_iff.mp hlookup entry hin
  | some value =>
    exact ⟨value, mem_of_lookup hlookup, by rw [lookUp, hlookup, Option.getD_some]⟩

/-- In a row in which no key comes twice every entry is found under its own. -/
theorem lookUp_row {α : Type} {row : List (String × α)} {entry : String × α}
    (value : String × α → Value) (hkeys : (row.map Prod.fst).Nodup) (hin : entry ∈ row) :
    (mapping (row.map fun entry => (entry.1.toList, value entry))).lookUp
      (.text entry.1.toList) = .ok (value entry) := by
  obtain ⟨_, hfound, hlookUp⟩ :=
    lookUp_of_mem (List.mem_map_of_mem (List.mem_map_of_mem hin))
  obtain ⟨other, hother, heq⟩ := List.mem_map.mp hfound
  obtain ⟨hkey, rfl⟩ := Prod.mk.inj heq
  rw [hlookUp, List.inj_on_of_nodup_map hkeys hother hin (String.toList_inj.mp hkey)]

theorem lookUp_of_not_mem {name : Text} (h : name ∉ entries.map Prod.fst) :
    (mapping entries).lookUp (.text name) = .ok .null := by
  have hnone : entries.lookup name = none := by
    refine List.lookup_eq_none_iff.mpr fun entry hin => ?_
    simpa using fun he : name = entry.1 => h (he ▸ List.mem_map_of_mem hin)
  rw [lookUp, hnone, Option.getD_none]

/-- Whatever a mapping is asked for, it has it in an entry or there is nothing. -/
theorem null_or_mem_of_lookUp {key value : Value} (h : (mapping entries).lookUp key = .ok value) :
    value = .null ∨ ∃ name, (name, value) ∈ entries := by
  cases key with
  | text name =>
    by_cases hin : name ∈ entries.map Prod.fst
    · obtain ⟨value', hentry, hlookup⟩ := lookUp_of_mem hin
      rw [hlookup] at h
      exact .inr ⟨name, Except.ok.inj h ▸ hentry⟩
    · rw [lookUp_of_not_mem hin] at h
      exact .inl (Except.ok.inj h).symm
  | list items => cases h
  | mapping entries' => cases h
  | null | truth b | whole n | real x => exact .inl (Except.ok.inj h).symm

/-- Only lists and mappings cannot be asked for. -/
theorem kind_of_lookUp_error {key : Value} {fault : ValueFault}
    (h : (mapping entries).lookUp key = .error fault) :
    (key.kind = .list ∨ key.kind = .mapping) ∧ fault = .notKey key.kind := by
  cases key with
  | list items => exact ⟨.inl rfl, (Except.error.inj h).symm⟩
  | mapping entries' => exact ⟨.inr rfl, (Except.error.inj h).symm⟩
  | null | truth b | whole n | real x | text name => cases h

/-- A value that can be written, for it holds no number of too many digits. -/
def Writable (value : Value) : Prop := ∃ t, value.writeQuoted = .ok t

theorem writable_null : null.Writable := ⟨_, rfl⟩

theorem writable_truth (b : Bool) : (truth b).Writable := ⟨_, rfl⟩

theorem writable_real (x : Binary64) : (real x).Writable := ⟨_, rfl⟩

theorem writable_text (t : Text) : (text t).Writable := ⟨_, rfl⟩

theorem writable_whole {n : Int} (h : (Text.ofNat n.natAbs).length ≤ digitLimit) :
    (whole n).Writable := by
  refine ⟨Text.ofInt n, ?_⟩
  rw [writeQuoted, writeWhole, if_neg (Nat.not_lt_of_le h)]

/-- From this number on there are too many digits. -/
theorem write_whole_of_le {n : Int} (h : 10 ^ digitLimit ≤ n.natAbs) :
    (whole n).write = .error .numberTooLong := by
  have hpositive : 0 < digitLimit := by decide
  have hlong : ¬ (Text.ofNat n.natAbs).length ≤ digitLimit := by
    rw [Text.ofNat, Nat.length_toDigits_le_iff (by decide) hpositive]
    exact Nat.not_lt_of_le h
  exact if_pos (Nat.lt_of_not_le hlong)

private theorem exists_writeItems_iff (items : List Value) :
    (∃ t, writeItems items = .ok t) ↔ ∀ item ∈ items, item.Writable := by
  induction items with
  | nil => exact iff_of_true ⟨[], rfl⟩ (List.forall_mem_nil _)
  | cons item items ih =>
    rw [List.forall_mem_cons, ← ih]
    cases items with
    | nil => simp [writeItems, Writable]
    | cons next items =>
      rw [Writable, writeItems]
      cases item.writeQuoted with
      | error fault => simp [bind, Except.bind]
      | ok first => cases writeItems (next :: items) <;> simp [bind, Except.bind, pure, Except.pure]

theorem writable_list {items : List Value} :
    (list items).Writable ↔ ∀ item ∈ items, item.Writable := by
  rw [← exists_writeItems_iff, Writable, writeQuoted]
  cases writeItems items <;> simp [bind, Except.bind, pure, Except.pure]

private theorem exists_writeEntries_iff (entries : List (Text × Value)) :
    (∃ t, writeEntries entries = .ok t) ↔ ∀ entry ∈ entries, entry.2.Writable := by
  induction entries with
  | nil => exact iff_of_true ⟨[], rfl⟩ (List.forall_mem_nil _)
  | cons entry entries ih =>
    obtain ⟨key, item⟩ := entry
    rw [List.forall_mem_cons, ← ih]
    change _ ↔ (∃ t, item.writeQuoted = .ok t) ∧ _
    cases entries with
    | nil =>
      cases hitem : item.writeQuoted <;>
        simp [writeEntries, hitem, bind, Except.bind, pure, Except.pure]
    | cons next entries =>
      rw [writeEntries]
      cases item.writeQuoted with
      | error fault => simp [bind, Except.bind]
      | ok first =>
        cases writeEntries (next :: entries) <;> simp [bind, Except.bind, pure, Except.pure]

theorem writable_mapping {entries : List (Text × Value)} :
    (mapping entries).Writable ↔ ∀ entry ∈ entries, entry.2.Writable := by
  rw [← exists_writeEntries_iff, Writable, writeQuoted]
  cases writeEntries entries <;> simp [bind, Except.bind, pure, Except.pure]

theorem Writable.exists_write {value : Value} (h : value.Writable) : ∃ t, value.write = .ok t := by
  cases value with
  | text t => exact ⟨t, rfl⟩
  | null | truth b | whole n | real x | list items | mapping entries => exact h

end FilingName.Value
