import FilingName.Proofs.Text
import FilingName.Text.Utf8
import Mathlib.Data.Nat.Basic
import Mathlib.Tactic.Ring

/-! Bytes and text. Bytes are read as a text exactly when they are the bytes of that text, so what
is refused are the bytes of no text at all. -/
namespace FilingName.Text.Utf8

/-- The bytes of the characters, one character after the other. -/
def encode (t : Text) : List UInt8 := t.flatMap String.utf8EncodeChar

/-- The bytes behind the first one of a character, which carry six bits each. -/
def tail : Nat → Nat → List UInt8
  | 0, _ => []
  | count + 1, n => UInt8.ofNat (0x80 + n / 64 ^ count) :: tail count (n % 64 ^ count)

namespace Begun

/-- A character is owed bytes, and none but those that go on with a character. -/
structure Open (b : Begun) : Prop where
  owed : 0 < b.owed
  low : 0x80 ≤ b.low
  high : b.high ≤ 0xBF

/-- The bits that the next bytes may bring to a character that was begun. -/
structure Admits (b : Begun) (n : Nat) : Prop where
  lt : n < 64 ^ b.owed
  low : b.low ≤ 0x80 + n / 64 ^ (b.owed - 1)
  high : 0x80 + n / 64 ^ (b.owed - 1) ≤ b.high

/-- The character with one more of its bytes. -/
def next (b : Begun) (byte : UInt8) : Begun :=
  { position := b.position, byte := b.byte, owed := b.owed - 1,
    bits := 64 * b.bits + (byte.toNat - 0x80) }

private theorem owed_next {b : Begun} {k : Nat} (byte : UInt8) (h : b.owed = k + 1) :
    (b.next byte).owed = k := by
  rw [next, h, Nat.add_sub_cancel]

private theorem open_next {b : Begun} (byte : UInt8) (h : b.owed ≠ 1) (hb : b.Open) :
    (b.next byte).Open :=
  ⟨Nat.sub_pos_of_lt (Nat.lt_of_le_of_ne hb.owed (Ne.symm h)), le_refl _, le_refl _⟩

private theorem open_of_begin? {position : Nat} {byte : UInt8} {b : Begun}
    (h : begin? position byte = some b) : b.Open := by
  unfold begin? at h
  simp only at h
  split_ifs at h <;> obtain rfl := Option.some.inj h <;> constructor <;> simp

end Begun

variable {position : Nat} {b : Begun} {byte : UInt8} {bytes rest : List UInt8} {t : Text}
variable {n k : Nat}

private theorem decodeFrom_last (h : b.owed = 1) (hlow : b.low ≤ byte.toNat)
    (hhigh : byte.toNat ≤ b.high) : decodeFrom position (some b) (byte :: rest) =
      (Char.ofNat (b.next byte).bits :: ·) <$> decodeFrom (position + 1) none rest := by
  rw [decodeFrom, if_pos ⟨hlow, hhigh⟩, if_pos h, map_eq_pure_bind]
  rfl

private theorem decodeFrom_next (h : b.owed ≠ 1) (hlow : b.low ≤ byte.toNat)
    (hhigh : byte.toNat ≤ b.high) : decodeFrom position (some b) (byte :: rest) =
      decodeFrom (position + 1) (some (b.next byte)) rest := by
  rw [decodeFrom, if_pos ⟨hlow, hhigh⟩, if_neg h]
  rfl

/-- The bits of a tail are those of its first byte and those of the rest. -/
private theorem bits_next (hbyte : byte.toNat = 0x80 + n / 64 ^ k) :
    (b.next byte).bits * 64 ^ k + n % 64 ^ k = b.bits * 64 ^ (k + 1) + n := by
  have hdiv := Nat.div_add_mod n (64 ^ k)
  have hbits : (b.next byte).bits = 64 * b.bits + n / 64 ^ k := by
    rw [Begun.next, hbyte, Nat.add_sub_cancel_left]
  calc (b.next byte).bits * 64 ^ k + n % 64 ^ k
      = b.bits * 64 ^ (k + 1) + (64 ^ k * (n / 64 ^ k) + n % 64 ^ k) := by rw [hbits]; ring
    _ = b.bits * 64 ^ (k + 1) + n := by rw [hdiv]

private theorem exists_tail_succ (h : n / 64 ^ k < 0x80) : ∃ byte : UInt8,
    byte.toNat = 0x80 + n / 64 ^ k ∧ tail (k + 1) n = byte :: tail k (n % 64 ^ k) :=
  ⟨_, UInt8.toNat_ofNat_of_lt' (by simp only [UInt8.size]; omega), rfl⟩

/-- A byte that goes on with a character and the tail behind it are a tail. -/
private theorem exists_tail_of_byte {m : Nat} (hlow : 0x80 ≤ byte.toNat) (hhigh : byte.toNat ≤ 0xBF)
    (hm : m < 64 ^ k) : ∃ n, n < 64 ^ (k + 1) ∧ byte.toNat = 0x80 + n / 64 ^ k ∧
      n % 64 ^ k = m ∧ tail (k + 1) n = byte :: tail k m := by
  have hdiv : (64 ^ k * (byte.toNat - 0x80) + m) / 64 ^ k = byte.toNat - 0x80 := by
    rw [Nat.mul_add_div (Nat.pow_pos (by decide)), Nat.div_eq_of_lt hm, Nat.add_zero]
  have hmod : (64 ^ k * (byte.toNat - 0x80) + m) % 64 ^ k = m := by
    rw [Nat.mul_add_mod, Nat.mod_eq_of_lt hm]
  have hbyte : byte.toNat = 0x80 + (64 ^ k * (byte.toNat - 0x80) + m) / 64 ^ k := by
    rw [hdiv]
    omega
  have hsix : byte.toNat - 0x80 + 1 ≤ 64 := by omega
  refine ⟨64 ^ k * (byte.toNat - 0x80) + m, ?_, hbyte, hmod, ?_⟩
  · calc 64 ^ k * (byte.toNat - 0x80) + m
        < 64 ^ k * (byte.toNat - 0x80 + 1) := by rw [Nat.mul_succ]; omega
      _ ≤ 64 ^ (k + 1) := by
        rw [pow_succ]
        exact Nat.mul_le_mul_left _ hsix
  · rw [tail, hmod, ← hbyte, UInt8.ofNat_toNat]

/-- A character that is past its second byte admits all bits that its bytes can carry. -/
private theorem Begun.admits_next (hk : b.owed = k + 1) (hone : k ≠ 0) (hn : n < 64 ^ k) :
    (b.next byte).Admits n := by
  have howed := Begun.owed_next byte hk
  have hdiv : n / 64 ^ (k - 1) < 64 := by
    rw [Nat.div_lt_iff_lt_mul (Nat.pow_pos (by decide)), ← pow_succ',
      Nat.sub_add_cancel (Nat.pos_of_ne_zero hone)]
    exact hn
  refine ⟨howed.symm ▸ hn, Nat.le_add_right _ _, ?_⟩
  rw [howed]
  exact Nat.add_le_add_left (Nat.le_of_lt_succ hdiv) 0x80

private theorem exists_of_map_eq_ok {α β ε : Type} {f : α → β} {x : Except ε α} {y : β}
    (h : f <$> x = .ok y) : ∃ a, x = .ok a ∧ f a = y := by
  cases x with
  | error fault => cases h
  | ok a => exact ⟨a, rfl, Except.ok.inj h⟩

/-- A tail that a begun character admits ends that character. -/
private theorem decodeFrom_tail (hb : b.Open) (hn : b.Admits n) :
    decodeFrom position (some b) (tail b.owed n ++ rest) =
      (Char.ofNat (b.bits * 64 ^ b.owed + n) :: ·) <$>
        decodeFrom (position + b.owed) none rest := by
  induction hk : b.owed generalizing b position n with
  | zero => exact absurd hk hb.owed.ne'
  | succ k ih =>
    obtain ⟨hlt, hlow, hhigh⟩ := hn
    rw [hk, Nat.add_sub_cancel] at hlow hhigh
    obtain ⟨byte, hbyte, htail⟩ := exists_tail_succ (n := n) (k := k) (by have := hb.high; omega)
    rw [← hbyte] at hlow hhigh
    rw [htail, List.cons_append, ← bits_next hbyte]
    by_cases hone : k = 0
    · subst hone
      rw [decodeFrom_last hk hlow hhigh, pow_zero, Nat.mod_one, Nat.mul_one, tail, List.nil_append,
        Nat.add_zero (b.next byte).bits]
    · have hne : b.owed ≠ 1 := hk ▸ mt Nat.succ_inj.mp hone
      have hadmits : (b.next byte).Admits (n % 64 ^ k) :=
        Begun.admits_next hk hone (Nat.mod_lt n (Nat.pow_pos (by decide)))
      rw [decodeFrom_next hne hlow hhigh,
        ih (Begun.open_next byte hne hb) hadmits (Begun.owed_next byte hk),
        Nat.add_assoc, Nat.add_comm 1 k]

/-- A begun character is ended by a tail that it admits, or not at all. -/
private theorem exists_of_decodeFrom_begun (hb : b.Open)
    (h : decodeFrom position (some b) bytes = .ok t) :
    ∃ n rest u, b.Admits n ∧ bytes = tail b.owed n ++ rest ∧
      t = Char.ofNat (b.bits * 64 ^ b.owed + n) :: u ∧
      decodeFrom (position + b.owed) none rest = .ok u := by
  induction hk : b.owed generalizing b position bytes with
  | zero => exact absurd hk hb.owed.ne'
  | succ k ih =>
    cases bytes with
    | nil => cases h
    | cons byte bytes =>
      by_cases hbounds : b.low ≤ byte.toNat ∧ byte.toNat ≤ b.high
      · obtain ⟨hlow, hhigh⟩ := hbounds
        -- the bits of this byte, followed by those of the bytes behind it
        suffices hrest : ∃ m rest u, m < 64 ^ k ∧ bytes = tail k m ++ rest ∧
            t = Char.ofNat ((b.next byte).bits * 64 ^ k + m) :: u ∧
            decodeFrom (position + (k + 1)) none rest = .ok u by
          obtain ⟨m, rest, u, hm, rfl, rfl, hu⟩ := hrest
          obtain ⟨n, hn, hbyte, hmod, htail⟩ :=
            exists_tail_of_byte (hb.low.trans hlow) (hhigh.trans hb.high) hm
          refine ⟨n, rest, u, ⟨hk ▸ hn, ?_, ?_⟩, ?_, ?_, hu⟩
          · rw [hk, Nat.add_sub_cancel, ← hbyte]
            exact hlow
          · rw [hk, Nat.add_sub_cancel, ← hbyte]
            exact hhigh
          · rw [htail, List.cons_append]
          · rw [← bits_next hbyte, hmod]
        by_cases hone : k = 0
        · subst hone
          rw [decodeFrom_last hk hlow hhigh] at h
          obtain ⟨u, hu, rfl⟩ := exists_of_map_eq_ok h
          exact ⟨0, bytes, u, by decide, rfl, by rw [pow_zero, Nat.mul_one, Nat.add_zero], hu⟩
        · have hne : b.owed ≠ 1 := hk ▸ mt Nat.succ_inj.mp hone
          have howed := Begun.owed_next byte hk
          rw [decodeFrom_next hne hlow hhigh] at h
          obtain ⟨m, rest, u, hm, hbytes, ht, hu⟩ := ih (Begun.open_next byte hne hb) h howed
          exact ⟨m, rest, u, howed ▸ hm.lt, hbytes, ht, by rwa [Nat.add_comm k 1, ← Nat.add_assoc]⟩
      · rw [decodeFrom, if_neg hbounds] at h
        cases h

/-- The number of bytes behind the first one of a character, and the first one. -/
inductive Leads (v : Nat) : Nat → Nat → Prop
  | two : 0x80 ≤ v → v < 0x800 → Leads v 1 (0xC0 + v / 64)
  | three : 0x800 ≤ v → v < 0x10000 → Leads v 2 (0xE0 + v / 4096)
  | four : 0x10000 ≤ v → v < 0x110000 → Leads v 3 (0xF0 + v / 262144)

variable {v first : Nat}

private theorem exists_leads (hvalid : v.isValidChar) (h : 0x80 ≤ v) :
    ∃ owed first, Leads v owed first := by
  by_cases htwo : v < 0x800
  · exact ⟨1, _, .two h htwo⟩
  by_cases hthree : v < 0x10000
  · exact ⟨2, _, .three (Nat.le_of_not_lt htwo) hthree⟩
  · refine ⟨3, _, .four (Nat.le_of_not_lt hthree) ?_⟩
    rcases hvalid with hlt | ⟨-, hlt⟩ <;> omega

private theorem utf8EncodeChar_of_lt (h : v < 0x80) :
    String.utf8EncodeChar (Char.ofNat v) = [UInt8.ofNat v] := by
  have hvalue : (Char.ofNat v).val.toNat = v := toNat_ofNat (.inl (by omega))
  rw [String.utf8EncodeChar, hvalue, if_pos (Nat.le_of_lt_succ h)]

private theorem utf8EncodeChar_of_leads (hvalid : v.isValidChar) (h : Leads v k first) :
    String.utf8EncodeChar (Char.ofNat v) = UInt8.ofNat first :: tail k (v % 64 ^ k) := by
  have hvalue : (Char.ofNat v).val.toNat = v := toNat_ofNat hvalid
  rw [String.utf8EncodeChar, hvalue]
  cases h with
  | two hlow hhigh =>
    rw [if_neg (by omega), if_pos (by omega)]
    simp only [tail, List.cons.injEq, and_true]
    constructor <;> congr 1 <;> omega
  | three hlow hhigh =>
    rw [if_neg (by omega), if_neg (by omega), if_pos (by omega)]
    simp only [tail, List.cons.injEq, and_true]
    refine ⟨?_, ?_, ?_⟩ <;> congr 1 <;> omega
  | four hlow hhigh =>
    rw [if_neg (by omega), if_neg (by omega), if_neg (by omega)]
    simp only [tail, List.cons.injEq, and_true]
    refine ⟨?_, ?_, ?_, ?_⟩ <;> congr 1 <;> omega

/-- What a first byte and the tail that it admits stand for is a character that the byte leads. -/
private theorem leads_of_begin? (hbegin : begin? position byte = some b) (hn : b.Admits n)
    (hv : b.bits * 64 ^ b.owed + n = v) :
    v.isValidChar ∧ Leads v b.owed byte.toNat ∧ n = v % 64 ^ b.owed := by
  obtain ⟨hlt, hlow, hhigh⟩ := hn
  simp only [begin?] at hbegin
  split at hbegin
  · obtain rfl := Option.some.inj hbegin
    simp only [Nat.reducePow] at hlt hlow hhigh hv ⊢
    have hfirst : byte.toNat = 0xC0 + v / 64 := by omega
    exact ⟨.inl (by omega), hfirst ▸ .two (by omega) (by omega), by omega⟩
  split at hbegin
  · obtain rfl := Option.some.inj hbegin
    simp only [Nat.reducePow, Nat.reduceSub] at hlt hlow hhigh hv ⊢
    have hfirst : byte.toNat = 0xE0 + v / 4096 := by omega
    have hvalid : v.isValidChar := by
      rw [Nat.isValidChar]
      split_ifs at hhigh <;> omega
    have hleast : 0x800 ≤ v := by split_ifs at hlow <;> omega
    exact ⟨hvalid, hfirst ▸ .three hleast (by omega), by omega⟩
  split at hbegin
  · obtain rfl := Option.some.inj hbegin
    simp only [Nat.reducePow, Nat.reduceSub] at hlt hlow hhigh hv ⊢
    have hfirst : byte.toNat = 0xF0 + v / 262144 := by omega
    have hleast : 0x10000 ≤ v := by split_ifs at hlow <;> omega
    have hmost : v < 0x110000 := by split_ifs at hhigh <;> omega
    exact ⟨.inr ⟨by omega, hmost⟩, hfirst ▸ .four hleast hmost, by omega⟩
  · cases hbegin

private theorem exists_begin?_of_leads (position : Nat) (hvalid : v.isValidChar)
    (h : Leads v k byte.toNat) :
    ∃ b, begin? position byte = some b ∧ b.owed = k ∧ b.bits * 64 ^ k + v % 64 ^ k = v ∧
      b.Admits (v % 64 ^ k) := by
  generalize hfirst : byte.toNat = first at h
  simp only [begin?, hfirst]
  cases h with
  | two hlow hhigh =>
    rw [if_pos (by omega)]
    refine ⟨_, rfl, rfl, ?_, ?_, ?_, ?_⟩ <;> simp only [Nat.reducePow, Nat.reduceSub] <;> omega
  | three hlow hhigh =>
    rw [if_neg (by omega), if_pos (by omega)]
    rw [Nat.isValidChar] at hvalid
    refine ⟨_, rfl, rfl, ?_, ?_, ?_, ?_⟩
    all_goals simp only [Nat.reducePow, Nat.reduceSub]
    · omega
    · omega
    · split_ifs <;> omega
    · split_ifs <;> omega
  | four hlow hhigh =>
    rw [if_neg (by omega), if_neg (by omega), if_pos (by omega)]
    refine ⟨_, rfl, rfl, ?_, ?_, ?_, ?_⟩
    all_goals simp only [Nat.reducePow, Nat.reduceSub]
    · omega
    · omega
    · split_ifs <;> omega
    · split_ifs <;> omega

private theorem decodeFrom_begin (h : begin? position byte = some b) :
    decodeFrom position none (byte :: rest) = decodeFrom (position + 1) (some b) rest := by
  have hbyte : ¬ byte.toNat < 0x80 := by
    intro hlt
    simp only [begin?] at h
    split_ifs at h <;> omega
  rw [decodeFrom, if_neg hbyte, h]

/-- The bytes of a character are read as that character. -/
private theorem exists_decodeFrom_utf8EncodeChar (c : Char) (position : Nat) (rest : List UInt8) :
    ∃ behind, decodeFrom position none (String.utf8EncodeChar c ++ rest) =
      (c :: ·) <$> decodeFrom behind none rest := by
  have hc : Char.ofNat c.toNat = c := Char.ofNat_toNat c
  by_cases hone : c.toNat < 0x80
  · refine ⟨position + 1, ?_⟩
    have hbyte : (UInt8.ofNat c.toNat).toNat = c.toNat :=
      UInt8.toNat_ofNat_of_lt' (by simp only [UInt8.size]; omega)
    rw [← hc, utf8EncodeChar_of_lt hone, List.cons_append, decodeFrom, hbyte, if_pos hone, hc,
      map_eq_pure_bind]
    rfl
  · have hvalid : c.toNat.isValidChar := c.valid
    obtain ⟨k, first, hleads⟩ := exists_leads hvalid (Nat.le_of_not_lt hone)
    have hbyte : (UInt8.ofNat first).toNat = first := by
      refine UInt8.toNat_ofNat_of_lt' ?_
      cases hleads <;> simp only [UInt8.size] <;> omega
    obtain ⟨b, hbegin, rfl, hbits, hadmits⟩ :=
      exists_begin?_of_leads position hvalid (hbyte.symm ▸ hleads)
    refine ⟨position + 1 + b.owed, ?_⟩
    rw [← hc, utf8EncodeChar_of_leads hvalid hleads, List.cons_append, decodeFrom_begin hbegin,
      decodeFrom_tail (Begun.open_of_begin? hbegin) hadmits, hbits]

private theorem decodeFrom_encode (position : Nat) (t : Text) :
    decodeFrom position none (encode t) = .ok t := by
  induction t generalizing position with
  | nil => rfl
  | cons c t ih =>
    obtain ⟨behind, hc⟩ := exists_decodeFrom_utf8EncodeChar c position (encode t)
    rw [encode, List.flatMap_cons, ← encode, hc, ih]
    rfl

/-- The first character of a text that was read, and the text behind it. -/
private theorem exists_of_decodeFrom_none (h : decodeFrom position none (byte :: bytes) = .ok t) :
    ∃ c u rest behind, t = c :: u ∧ byte :: bytes = String.utf8EncodeChar c ++ rest ∧
      decodeFrom behind none rest = .ok u := by
  by_cases hone : byte.toNat < 0x80
  · rw [decodeFrom, if_pos hone] at h
    obtain ⟨u, hu, rfl⟩ := exists_of_map_eq_ok (f := (Char.ofNat byte.toNat :: ·)) h
    refine ⟨_, u, bytes, _, rfl, ?_, hu⟩
    rw [utf8EncodeChar_of_lt hone, UInt8.ofNat_toNat]
    rfl
  · rw [decodeFrom, if_neg hone] at h
    cases hbegin : begin? position byte with
    | none =>
      rw [hbegin] at h
      cases h
    | some b =>
      rw [hbegin] at h
      obtain ⟨n, rest, u, hadmits, rfl, rfl, hu⟩ :=
        exists_of_decodeFrom_begun (Begun.open_of_begin? hbegin) h
      obtain ⟨hvalid, hleads, hn⟩ := leads_of_begin? hbegin hadmits rfl
      refine ⟨_, u, rest, _, rfl, ?_, hu⟩
      rw [utf8EncodeChar_of_leads hvalid hleads, UInt8.ofNat_toNat, ← hn, List.cons_append]

private theorem eq_encode_of_decodeFrom (h : decodeFrom position none bytes = .ok t) :
    bytes = encode t := by
  induction t generalizing position bytes with
  | nil =>
    cases bytes with
    | nil => rfl
    | cons byte bytes =>
      obtain ⟨c, u, rest, behind, ht, -⟩ := exists_of_decodeFrom_none h
      cases ht
  | cons c t ih =>
    cases bytes with
    | nil => cases h
    | cons byte bytes =>
      obtain ⟨c', u, rest, behind, ht, hbytes, hu⟩ := exists_of_decodeFrom_none h
      obtain ⟨rfl, rfl⟩ := List.cons.inj ht
      rw [hbytes, ih hu, encode, encode, List.flatMap_cons]

/-- Bytes are read as the text that they are the bytes of. -/
theorem decode_eq_ok_iff : decode bytes = .ok t ↔ bytes = encode t :=
  ⟨eq_encode_of_decodeFrom, fun h => h ▸ decodeFrom_encode 0 t⟩

end FilingName.Text.Utf8
