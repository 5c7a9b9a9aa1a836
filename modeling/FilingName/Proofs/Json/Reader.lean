import FilingName.Json.Reader
import FilingName.Proofs.Value
import Mathlib.Algebra.Group.Nat.Defs
import Mathlib.Data.List.Infix
import Mathlib.Data.List.TakeWhile
import Mathlib.Tactic.SplitIfs

/-! What comes of reading a document. Its values can be written, for a whole number has no more
digits than are written; and where a document that is well formed is not read, it holds a row of
digits that is too long for a number. -/
namespace FilingName.Json

/-- A row of digits of which a document holds too many. -/
structure TooLong (row : Text) : Prop where
  digits : ∀ c ∈ row, Text.isDigit c
  long : digitLimit < row.length

private theorem toNat_lt {row : Text} (h : ∀ c ∈ row, Text.isDigit c) :
    Text.toNat row < 10 ^ row.length := by
  induction row using List.reverseRecOn with
  | nil => decide
  | append_singleton row c ih =>
    have hc : c.toNat - 48 < 10 := by
      have := h c (List.mem_append_right _ (List.mem_singleton_self c))
      simp only [Text.isDigit, Bool.and_eq_true, decide_eq_true_eq] at this
      omega
    have hrow := ih fun c hc => h c (List.mem_append_left _ hc)
    rw [Text.toNat] at hrow ⊢
    rw [List.foldl_append, List.length_append, List.length_singleton, Nat.pow_succ]
    simp only [List.foldl_cons, List.foldl_nil]
    omega

private theorem take_digitCount (t : Text) : t.take (digitCount t) = t.takeWhile Text.isDigit :=
  (List.prefix_iff_eq_take.mp (List.takeWhile_prefix Text.isDigit)).symm

/-- The whole part of a numeral is a row of digits behind the sign. -/
private theorem digits_of_numeral? {t : Text} {sign whole fraction exponent : Nat}
    (h : numeral? t = some (sign, whole, fraction, exponent)) :
    0 < whole ∧ ((t.drop sign).take whole).length = whole ∧
      ∀ c ∈ (t.drop sign).take whole, Text.isDigit c := by
  unfold numeral? at h
  extract_lets sign' unsigned whole' at h
  split at h
  · cases h
  · next hwhole =>
    simp only [Option.some.injEq, Prod.mk.injEq] at h
    obtain ⟨rfl, rfl, -, -⟩ := h
    refine ⟨Nat.pos_of_ne_zero hwhole, ?_⟩
    by_cases hzero : unsigned.head? = some '0'
    · obtain ⟨rest, hrest⟩ := List.head?_eq_some_iff.mp hzero
      have htake : (t.drop sign').take whole' = ['0'] := by
        simp only [whole', if_pos hzero]
        rw [show t.drop sign' = '0' :: rest from hrest]
        rfl
      rw [htake]
      exact ⟨(if_pos hzero).symm, List.forall_mem_singleton.mpr rfl⟩
    · have htake : (t.drop sign').take whole' = unsigned.takeWhile Text.isDigit := by
        simp only [whole', if_neg hzero]
        exact take_digitCount unsigned
      rw [htake]
      exact ⟨(if_neg hzero).symm, fun c hc => List.mem_takeWhile_imp hc⟩

/-- What comes of reading a value from a text. -/
inductive Sound (t : Text) : Except Fault (Value × Cursor) → Prop
  | value {value : Value} (after : Cursor) : value.Writable → Sound t (.ok (value, after))
  | malformed (reason : Reason) (position : Nat) : Sound t (.error (.malformed reason position))
  | tooLong {row : Text} : TooLong row → row <:+: t →
      Sound t (.error (.value (.numeralTooLong row.length)))

/-- What comes of reading a key or a string: the document behind it, if it is well formed. -/
inductive Passes {α : Type} (t : Text) : Except Fault (α × Cursor) → Prop
  | passed (a : α) {after : Cursor} : after.rest <:+ t → Passes t (.ok (a, after))
  | malformed (reason : Reason) (position : Nat) : Passes t (.error (.malformed reason position))

private theorem Sound.mono {t u : Text} {outcome : Except Fault (Value × Cursor)}
    (h : Sound u outcome) (hu : u <:+ t) : Sound t outcome := by
  cases h with
  | value after hvalue => exact .value after hvalue
  | malformed reason position => exact .malformed reason position
  | tooLong hrow hin => exact .tooLong hrow (hin.trans hu.isInfix)

private theorem Passes.suffix {α : Type} {t : Text} {outcome : Except Fault (α × Cursor)}
    (h : Passes t outcome) {a : α} {after : Cursor} (hpassed : outcome = .ok (a, after)) :
    after.rest <:+ t := by
  cases h with
  | passed _ hafter =>
    cases hpassed
    exact hafter
  | malformed => cases hpassed

/-- Where a key or a string is malformed there is no value either. -/
private theorem Passes.sound {α : Type} {u : Text} {outcome : Except Fault (α × Cursor)}
    (h : Passes u outcome) {fault : Fault} (hfault : outcome = .error fault) (t : Text) :
    Sound t (.error fault) := by
  cases h with
  | passed => cases hfault
  | malformed reason position =>
    cases hfault
    exact .malformed reason position

private theorem scalar?_cases {t : Text} {outcome : Except ValueFault Value} {length : Nat}
    (h : scalar? t = some (outcome, length)) :
    (∃ value, outcome = .ok value ∧ value.Writable) ∨
      ∃ row, outcome = .error (.numeralTooLong row.length) ∧ TooLong row ∧ row <:+: t := by
  unfold scalar? at h
  split at h
  · next word value hfind =>
    obtain ⟨rfl, -⟩ := Prod.mk.inj (Option.some.inj h)
    refine .inl ⟨value, rfl, ?_⟩
    have hin := List.mem_of_find?_eq_some hfind
    simp only [literals, List.mem_cons, Prod.mk.injEq, List.not_mem_nil, or_false] at hin
    rcases hin with ⟨-, rfl⟩ | ⟨-, rfl⟩ | ⟨-, rfl⟩ | ⟨-, rfl⟩ | ⟨-, rfl⟩ | ⟨-, rfl⟩
    · exact Value.writable_null
    · exact Value.writable_truth true
    · exact Value.writable_truth false
    all_goals exact Value.writable_real _
  · obtain ⟨⟨sign, whole, fraction, exponent⟩, hnumeral, heq⟩ := Option.map_eq_some_iff.mp h
    obtain ⟨rfl, -⟩ := Prod.mk.inj heq
    obtain ⟨hpos, hlength, hdigits⟩ := digits_of_numeral? hnumeral
    rw [readNumber]
    by_cases hwhole : fraction + exponent = 0
    · rw [if_pos hwhole]
      by_cases hlong : digitLimit < whole
      · rw [if_pos hlong]
        refine .inr ⟨(t.drop sign).take whole, by rw [hlength], ⟨hdigits, by rwa [hlength]⟩, ?_⟩
        exact (List.take_prefix _ _).isInfix.trans (List.drop_suffix _ _).isInfix
      · rw [if_neg hlong]
        refine .inl ⟨_, rfl, Value.writable_whole ?_⟩
        have hlt := toNat_lt hdigits
        rw [hlength] at hlt
        refine Nat.le_trans ?_ (Nat.le_of_not_lt hlong)
        rw [Text.ofNat, Nat.length_toDigits_le_iff (by decide) hpos]
        split_ifs
        · rwa [Int.natAbs_natCast]
        · rwa [Int.natAbs_neg, Int.natAbs_natCast]
    · rw [if_neg hwhole]
      exact .inl ⟨_, rfl, Value.writable_real _⟩

private theorem malformed_of_readCode {position : Nat} {t : Text} {fault : Fault}
    (h : readCode position t = .error fault) :
    ∃ reason place, fault = .malformed reason place := by
  unfold readCode at h
  split at h
  · exact ⟨_, _, (Except.error.inj h).symm⟩
  simp only at h
  split at h
  · split at h
    · exact ⟨_, _, (Except.error.inj h).symm⟩
    · split at h <;> cases h
  · cases h

private theorem malformed_of_readItem {opened position : Nat} {c : Char} {rest : Text}
    {fault : Fault} (h : readItem opened position c rest = .error fault) :
    ∃ reason place, fault = .malformed reason place := by
  unfold readItem at h
  split at h
  · cases h
  split at h
  · split at h
    · exact ⟨_, _, (Except.error.inj h).symm⟩
    · next u rest =>
      cases hcode : readCode (position + 1) rest with
      | error fault' =>
        rw [hcode] at h
        exact Except.error.inj h ▸ malformed_of_readCode hcode
      | ok found =>
        rw [hcode] at h
        cases h
    · split at h
      · cases h
      · exact ⟨_, _, (Except.error.inj h).symm⟩
  split at h
  · exact ⟨_, _, (Except.error.inj h).symm⟩
  · cases h

private theorem passes_readString (opened position : Nat) (t : Text) :
    Passes t (readString opened position t) := by
  induction hn : t.length using Nat.strongRecOn generalizing position t with
  | _ n ih =>
    subst hn
    unfold readString
    split
    · exact .malformed _ _
    · next c rest =>
      cases hitem : readItem opened position c rest with
      | error fault =>
        obtain ⟨reason, place, rfl⟩ := malformed_of_readItem hitem
        exact .malformed reason place
      | ok item =>
        cases item with
        | none => exact .passed [] (List.suffix_cons c rest)
        | some found =>
          obtain ⟨character, taken⟩ := found
          have hbehind : rest.drop taken <:+ c :: rest :=
            (List.drop_suffix taken rest).trans (List.suffix_cons c rest)
          have hlt : (rest.drop taken).length < (c :: rest).length := by
            rw [List.length_drop, List.length_cons]
            omega
          have hrest := ih _ hlt (position + 1 + taken) (rest.drop taken) rfl
          simp only [bind, Except.bind]
          generalize readString opened (position + 1 + taken) (rest.drop taken) = outcome at hrest
          cases hrest with
          | passed u hafter => exact .passed (character :: u) (hafter.trans hbehind)
          | malformed reason place => exact .malformed reason place

private theorem skipSpaces_suffix (c : Cursor) : c.skipSpaces.rest <:+ c.rest :=
  List.dropWhile_suffix _

private theorem suffix_of_skipSpaces {c : Cursor} {head : Char} {rest : Text}
    (h : c.skipSpaces.rest = head :: rest) : rest <:+ c.rest :=
  (List.suffix_cons head rest).trans (h ▸ skipSpaces_suffix c)

private theorem passes_readKey (c : Cursor) : Passes c.rest (readKey c) := by
  unfold readKey
  split
  · next rest hc =>
    rw [hc]
    have hkey := passes_readString c.position (c.position + 1) rest
    generalize readString c.position (c.position + 1) rest = outcome at hkey
    cases hkey with
    | malformed reason place => exact .malformed reason place
    | @passed key after hafter =>
      simp only [bind, Except.bind]
      split
      · next rest' hcolon =>
        have hrest : rest' <:+ after.rest := suffix_of_skipSpaces hcolon
        exact .passed key ((hrest.trans hafter).trans (List.suffix_cons _ rest))
      · exact .malformed _ _
  · exact .malformed _ _

/-- The values that wait in a frame can be written. -/
def Frame.Writable : Frame → Prop
  | .list items => ∀ item ∈ items, item.Writable
  | .mapping entries _ => ∀ entry ∈ entries, entry.2.Writable

private theorem writable_put {key : Text} {value : Value} {entries : List (Text × Value)}
    (hvalue : value.Writable) (h : ∀ entry ∈ entries, entry.2.Writable) :
    ∀ entry ∈ put key value entries, entry.2.Writable := by
  induction entries with
  | nil => simpa [put] using hvalue
  | cons entry entries ih =>
    rw [List.forall_mem_cons] at h
    rw [put]
    split_ifs
    · exact List.forall_mem_cons.mpr ⟨hvalue, h.2⟩
    · exact List.forall_mem_cons.mpr ⟨h.1, ih h.2⟩

/-- All that waits on a stack can be written. -/
def Waiting (stack : List Frame) : Prop := ∀ frame ∈ stack, frame.Writable

private theorem waiting_cons {frame : Frame} {stack : List Frame} :
    Waiting (frame :: stack) ↔ frame.Writable ∧ Waiting stack :=
  List.forall_mem_cons

/-- Reading a value on a text, whatever the stack, and closing one. -/
structure SoundOn (t : Text) : Prop where
  read (stack : List Frame) (c : Cursor) : c.rest = t → Waiting stack →
    Sound t (readValue stack c)
  close (stack : List Frame) (value : Value) (c : Cursor) : c.rest = t → Waiting stack →
    value.Writable → Sound t (closeValue stack value c)

section Step

variable {t u rest : Text} {head : Char} {stack : List Frame} {c : Cursor}
variable (ih : ∀ u : Text, u.length < t.length → SoundOn u)
include ih

/-- Both go on behind a character that was taken off the document. -/
private theorem soundOn_behind (hhead : head :: rest <:+ t) (hu : u <:+ rest) :
    SoundOn u ∧ u <:+ t :=
  ⟨ih u (Nat.lt_of_le_of_lt hu.length_le (Nat.lt_of_succ_le hhead.length_le)),
    (hu.trans (List.suffix_cons head rest)).trans hhead⟩

private theorem sound_read_behind (hhead : head :: rest <:+ t) (hrest : c.rest <:+ rest)
    (hstack : Waiting stack) : Sound t (readValue stack c) := by
  obtain ⟨hbehind, hsuffix⟩ := soundOn_behind ih hhead hrest
  exact (hbehind.read stack c rfl hstack).mono hsuffix

private theorem sound_close_behind {value : Value} (hhead : head :: rest <:+ t)
    (hrest : c.rest <:+ rest) (hstack : Waiting stack) (hvalue : value.Writable) :
    Sound t (closeValue stack value c) := by
  obtain ⟨hbehind, hsuffix⟩ := soundOn_behind ih hhead hrest
  exact (hbehind.close stack value c rfl hstack hvalue).mono hsuffix

private theorem sound_readValue (hc : c.rest = t) (hstack : Waiting stack) :
    Sound t (readValue stack c) := by
  have hhere : c.skipSpaces.rest <:+ t := hc ▸ skipSpaces_suffix c
  unfold readValue
  simp only
  split
  · exact .malformed _ _
  · next rest hr =>
    rw [hr] at hhere
    split
    · next rest' hclosed =>
      exact sound_close_behind ih hhere (suffix_of_skipSpaces hclosed) hstack
        (Value.writable_list.mpr (List.forall_mem_nil _))
    · exact sound_read_behind ih hhere (skipSpaces_suffix _)
        (waiting_cons.mpr ⟨List.forall_mem_nil _, hstack⟩)
  · next rest hr =>
    rw [hr] at hhere
    split
    · next rest' hclosed =>
      exact sound_close_behind ih hhere (suffix_of_skipSpaces hclosed) hstack
        (Value.writable_mapping.mpr (List.forall_mem_nil _))
    · have hkey := passes_readKey (Cursor.skipSpaces ⟨rest, c.skipSpaces.position + 1⟩)
      split
      · next fault hfault => exact hkey.sound hfault t
      · next key after hafter =>
        exact sound_read_behind ih hhere ((hkey.suffix hafter).trans (skipSpaces_suffix _))
          (waiting_cons.mpr ⟨List.forall_mem_nil _, hstack⟩)
  · next rest hr =>
    rw [hr] at hhere
    have hstring := passes_readString c.skipSpaces.position (c.skipSpaces.position + 1) rest
    split
    · next fault hfault => exact hstring.sound hfault t
    · next u after hafter =>
      exact sound_close_behind ih hhere (hstring.suffix hafter) hstack (Value.writable_text u)
  · next head rest _ _ _ hr =>
    split
    · exact .malformed _ _
    · next fault length hscalar =>
      rcases scalar?_cases hscalar with ⟨value, hvalue, -⟩ | ⟨row, hrow, hlong, hin⟩
      · cases hvalue
      · cases hrow
        exact .tooLong hlong (hin.trans hhere.isInfix)
    · next value length hscalar =>
      rcases scalar?_cases hscalar with ⟨value', hvalue, hwritable⟩ | ⟨row, hrow, -⟩
      · cases hvalue
        have htaken : (c.skipSpaces.skip (max 1 length)).rest <:+ rest := by
          obtain ⟨n, hn⟩ := Nat.exists_eq_add_of_le' (Nat.le_max_left 1 length)
          rw [Cursor.skip, hr, hn, List.drop_succ_cons]
          exact List.drop_suffix n rest
        exact sound_close_behind ih (hr ▸ hhere) htaken hstack hwritable
      · cases hrow

private theorem sound_closeValue {value : Value} (hc : c.rest = t) (hstack : Waiting stack)
    (hvalue : value.Writable) : Sound t (closeValue stack value c) := by
  have hhere : c.skipSpaces.rest <:+ t := hc ▸ skipSpaces_suffix c
  unfold closeValue
  cases stack with
  | nil => exact .value c hvalue
  | cons frame stack =>
    obtain ⟨hframe, hbelow⟩ := waiting_cons.mp hstack
    cases frame with
    | list items =>
      have hitems : ∀ item ∈ value :: items, item.Writable :=
        List.forall_mem_cons.mpr ⟨hvalue, hframe⟩
      simp only
      split
      · next rest hr =>
        exact sound_close_behind ih (hr ▸ hhere) (List.suffix_refl _) hbelow
          (Value.writable_list.mpr fun item hin => hitems item (List.mem_reverse.mp hin))
      · next rest hr =>
        exact sound_read_behind ih (hr ▸ hhere) (List.suffix_refl _)
          (waiting_cons.mpr ⟨hitems, hbelow⟩)
      · exact .malformed _ _
    | mapping entries key =>
      have hentries : ∀ entry ∈ put key value entries, entry.2.Writable :=
        writable_put hvalue hframe
      simp only
      split
      · next rest hr =>
        exact sound_close_behind ih (hr ▸ hhere) (List.suffix_refl _) hbelow
          (Value.writable_mapping.mpr hentries)
      · next rest hr =>
        have hkey := passes_readKey (Cursor.skipSpaces ⟨rest, c.skipSpaces.position + 1⟩)
        split
        · next fault hfault => exact hkey.sound hfault t
        · next key after hafter =>
          exact sound_read_behind ih (hr ▸ hhere)
            ((hkey.suffix hafter).trans (skipSpaces_suffix _))
            (waiting_cons.mpr ⟨hentries, hbelow⟩)
      · exact .malformed _ _

end Step

private theorem soundOn (t : Text) : SoundOn t := by
  induction hn : t.length using Nat.strongRecOn generalizing t with
  | _ n ih =>
    have ih' (u : Text) (hu : u.length < t.length) : SoundOn u := ih _ (hn ▸ hu) u rfl
    exact ⟨fun _ _ => sound_readValue ih', fun _ _ _ => sound_closeValue ih'⟩

/-- A document is read as a value that can be written, or it is malformed, or it holds a row of
digits that is too long. -/
theorem read_cases (t : Text) :
    (∃ value, read t = .ok value ∧ value.Writable) ∨
      (∃ reason position, read t = .error (.malformed reason position)) ∨
      ∃ row, TooLong row ∧ row <:+: t ∧
        read t = .error (.value (.numeralTooLong row.length)) := by
  have hsound := (soundOn t).read [] ⟨t, 0⟩ rfl (List.forall_mem_nil _)
  unfold read
  split
  · exact .inr (.inl ⟨_, _, rfl⟩)
  · generalize readValue [] ⟨t, 0⟩ = outcome at hsound
    cases hsound with
    | @value value after hvalue =>
      simp only [bind, Except.bind]
      split
      · exact .inl ⟨value, rfl, hvalue⟩
      · exact .inr (.inl ⟨_, _, rfl⟩)
    | malformed reason position => exact .inr (.inl ⟨reason, position, rfl⟩)
    | @tooLong row hrow hin => exact .inr (.inr ⟨row, hrow, hin, rfl⟩)

end FilingName.Json
