import FilingName.Field.Name
import FilingName.Proofs.Field.Record
import FilingName.Proofs.Text.Words

/-! What names are read as. The number of words decides which parts there are, and every word comes
to stand in one part. -/
namespace FilingName.Field.Name
open Text (IsWord IsSpaced words join)

/-- What words are read as: nothing, a given name, a given name and a surname, or both of these with
the words between them as middle names. -/
inductive ReadAs : List Text → Name → Prop
  | nothing : ReadAs [] ⟨unknown, unknown, unknown⟩
  | given (given : Text) : ReadAs [given] ⟨given, unknown, unknown⟩
  | surname (given surname : Text) : ReadAs [given, surname] ⟨given, unknown, surname⟩
  | middle (given surname : Text) {middle : List Text} : middle ≠ [] →
      ReadAs (given :: (middle ++ [surname])) ⟨given, join " ".toList middle, surname⟩

variable {ws middle : List Text} {name : Name}

theorem ofWords_of_middle (h : middle ≠ []) (given surname : Text) :
    ofWords (given :: (middle ++ [surname])) = ⟨given, join " ".toList middle, surname⟩ := by
  obtain ⟨first, rest, rfl⟩ := List.exists_cons_of_ne_nil h
  have hrest : rest ++ [surname] ≠ [] := List.append_ne_nil_of_right_ne_nil rest (by simp)
  obtain ⟨next, others, hnext⟩ := List.exists_cons_of_ne_nil hrest
  have hread : ofWords (given :: first :: next :: others) = ⟨given,
      join " ".toList (first :: next :: others).dropLast,
      (first :: next :: others).getLastD unknown⟩ := rfl
  rw [List.cons_append, hnext, hread, ← hnext, ← List.cons_append, List.dropLast_concat,
    List.getLastD_concat]

/-- The last word is the surname, unless it is the only one. -/
theorem surname_ofWords_concat (ws : List Text) (last : Text) :
    (ofWords (ws ++ [last])).surname = if ws = [] then unknown else last := by
  cases ws with
  | nil => rfl
  | cons given middle =>
    rw [if_neg (List.cons_ne_nil _ _), List.cons_append]
    by_cases h : middle = []
    · rw [h]
      rfl
    · rw [ofWords_of_middle h]

theorem readAs_ofWords (ws : List Text) : ReadAs ws (ofWords ws) := by
  rcases ws with _ | ⟨given, rest⟩
  · exact .nothing
  · rcases List.eq_nil_or_concat rest with rfl | ⟨middle, surname, rfl⟩
    · exact .given given
    · rw [List.concat_eq_append]
      by_cases h : middle = []
      · rw [h]
        exact .surname given surname
      · rw [ofWords_of_middle h]
        exact .middle given surname h

/-- A word for the given name and one for the surname, and one or more for the middle names. The
mark for an unknown part is a word as well. -/
structure Readable (name : Name) (middle : List Text) : Prop where
  given : IsWord name.given
  middle : IsSpaced name.middle middle
  surname : IsWord name.surname

theorem Readable.middle_ne_nil (h : Readable name middle) : name.middle ≠ [] := by
  intro hnil
  have hwords : words name.middle = middle := h.middle.words_eq
  rw [hnil] at hwords
  exact h.middle.ne_nil hwords.symm

theorem isWord_unknown : IsWord unknown := by decide

/-- Whatever is read is a name that can be read, made up of the words that there are. -/
private theorem ReadAs.readable (h : ReadAs ws name) (hws : ∀ w ∈ ws, IsWord w) :
    ∃ middle, Readable name middle ∧
      known (name.given :: (middle ++ [name.surname])) = known ws := by
  cases h with
  | nothing =>
    exact ⟨[unknown], ⟨isWord_unknown, .single isWord_unknown, isWord_unknown⟩, by simp⟩
  | given given =>
    have hgiven : IsWord given := hws given List.mem_cons_self
    refine ⟨[unknown], ⟨hgiven, .single isWord_unknown, isWord_unknown⟩, ?_⟩
    rw [known_cons]
    simp
  | surname given surname =>
    rw [List.forall_mem_cons, List.forall_mem_singleton] at hws
    refine ⟨[unknown], ⟨hws.1, .single isWord_unknown, hws.2⟩, ?_⟩
    rw [known_cons, known_cons given [surname]]
    simp
  | @middle given surname middle hmiddle =>
    rw [List.forall_mem_cons, List.forall_mem_append, List.forall_mem_singleton] at hws
    exact ⟨middle, ⟨hws.1, ⟨hmiddle, hws.2.1, rfl⟩, hws.2.2⟩, rfl⟩

theorem exists_readable_ofText (t : Text) : ∃ middle, Readable (ofText t) middle ∧
    known ((ofText t).given :: (middle ++ [(ofText t).surname])) = known (words t) :=
  (readAs_ofWords (words t)).readable fun _ => Text.isWord_of_mem_words

/-- Given name, middle names and surname with spaces between them. -/
def spaced (name : Name) : Text := join " ".toList [name.given, name.middle, name.surname]

private theorem Readable.words_spaced (h : Readable name middle) :
    words (spaced name) = name.given :: (middle ++ [name.surname]) := by
  rw [spaced, Text.words_join_space, List.flatMap_cons, List.flatMap_cons, List.flatMap_singleton,
    Text.words_of_isWord h.given, h.middle.words_eq, Text.words_of_isWord h.surname,
    List.singleton_append]

/-- A name with spaces is read as itself. -/
theorem Readable.ofText_spaced (h : Readable name middle) : ofText (spaced name) = name := by
  rw [ofText, h.words_spaced, ofWords_of_middle h.middle.ne_nil, h.middle.join_eq]

/-- The known parts are those of a name of so many words: none of them stands behind one that is
unknown, except that a given name and a surname can do without a middle name. -/
structure Gapless (name : Name) : Prop where
  given : name.given ≠ unknown ∨
    name.given = unknown ∧ name.middle = unknown ∧ name.surname = unknown
  surname : name.middle = unknown ∨ name.surname ≠ unknown

/-- The words of the parts that are known. -/
def knownWords (name : Name) : List Text :=
  (known [name.given, name.middle, name.surname]).flatMap words

/-- A middle name stands between the first word and the last one. -/
private theorem ReadAs.words_eq (h : ReadAs ws name) (hws : ∀ w ∈ ws, IsWord w)
    (hname : Readable name middle) (hmiddle : name.middle ≠ unknown) :
    ws = name.given :: (middle ++ [name.surname]) := by
  cases h with
  | nothing | given | surname => exact absurd rfl hmiddle
  | @middle given surname between hbetween =>
    rw [List.forall_mem_cons, List.forall_mem_append] at hws
    have hspaced : IsSpaced (join " ".toList between) between := ⟨hbetween, hws.2.1, rfl⟩
    rw [← hname.middle.words_eq, hspaced.words_eq]

private theorem flatMap_words_known {w : Text} (h : IsWord w) :
    (known [w]).flatMap words = known [w] := by
  by_cases hw : w = unknown
  · rw [hw]
    rfl
  · rw [known_cons_of_ne hw, known_nil, List.flatMap_singleton, Text.words_of_isWord h]

private theorem Readable.knownWords_eq (h : Readable name middle) : knownWords name =
    known [name.given] ++ (known [name.middle]).flatMap words ++ known [name.surname] := by
  rw [knownWords, known_cons, known_cons name.middle, List.flatMap_append, List.flatMap_append,
    flatMap_words_known h.given, flatMap_words_known h.surname, List.append_assoc]

/-- Without middle names the words are read as the name unless the given name is missing alone. -/
private theorem ofWords_known_given_surname {name : Name} (hmiddle : name.middle = unknown) :
    ofWords (known [name.given] ++ known [name.surname]) = name ↔
      (name.given = unknown → name.surname = unknown) := by
  obtain ⟨given, middle, surname⟩ := name
  obtain rfl : middle = unknown := hmiddle
  by_cases hgiven : given = unknown
  · by_cases hsurname : surname = unknown
    · simp [hgiven, hsurname, ofWords]
    · simp [hgiven, hsurname, known_cons_of_ne, ofWords]
  · by_cases hsurname : surname = unknown
    · simp [hgiven, hsurname, known_cons_of_ne, ofWords]
    · simp [hgiven, hsurname, known_cons_of_ne, ofWords]

/-- With middle names the words are read as the name only if none of its words is left away. -/
private theorem Readable.ofWords_known_middle (h : Readable name middle)
    (hmiddle : name.middle ≠ unknown) :
    ofWords (known [name.given] ++ middle ++ known [name.surname]) = name ↔
      name.given ≠ unknown ∧ name.surname ≠ unknown := by
  constructor
  · intro hread
    have hwords : ∀ w ∈ known [name.given] ++ middle ++ known [name.surname], IsWord w := by
      intro w hw
      rcases List.mem_append.mp hw with hw | hsurname
      · rcases List.mem_append.mp hw with hgiven | hmiddle
        · exact List.mem_singleton.mp (List.mem_of_mem_filter hgiven) ▸ h.given
        · exact h.middle.isItem w hmiddle
      · exact List.mem_singleton.mp (List.mem_of_mem_filter hsurname) ▸ h.surname
    -- A name with middle names is read from its own words only, and those are two words more.
    have hreadAs := readAs_ofWords (known [name.given] ++ middle ++ known [name.surname])
    rw [hread] at hreadAs
    have hlength := congrArg List.length (hreadAs.words_eq hwords h hmiddle)
    have hgiven : (known [name.given]).length ≤ 1 := List.length_filter_le _ _
    have hsurname : (known [name.surname]).length ≤ 1 := List.length_filter_le _ _
    simp only [List.length_append, List.length_cons, List.length_nil] at hlength
    constructor
    · intro hunknown
      rw [hunknown, known_unknown, known_nil, List.length_nil] at hlength
      omega
    · intro hunknown
      rw [hunknown, known_unknown, known_nil, List.length_nil] at hlength
      omega
  · rintro ⟨hgiven, hsurname⟩
    rw [known_cons_of_ne hgiven, known_cons_of_ne hsurname, known_nil, List.append_assoc,
      List.singleton_append, ofWords_of_middle h.middle.ne_nil, h.middle.join_eq]

/-- The words of the known parts are read as the name itself if there is no gap between them, and
only then. -/
theorem Readable.ofWords_knownWords_iff (h : Readable name middle) :
    ofWords (knownWords name) = name ↔ Gapless name := by
  rw [h.knownWords_eq]
  by_cases hmiddle : name.middle = unknown
  · rw [hmiddle, known_unknown, known_nil, List.flatMap_nil, List.append_nil,
      ofWords_known_given_surname hmiddle]
    constructor
    · intro hsurname
      refine ⟨?_, .inl hmiddle⟩
      by_cases hgiven : name.given = unknown
      · exact .inr ⟨hgiven, hmiddle, hsurname hgiven⟩
      · exact .inl hgiven
    · rintro ⟨hgiven | ⟨-, -, hsurname⟩, -⟩ hunknown
      · exact absurd hunknown hgiven
      · exact hsurname
  · rw [known_cons_of_ne hmiddle, known_nil, List.flatMap_singleton, h.middle.words_eq,
      h.ofWords_known_middle hmiddle]
    constructor
    · exact fun ⟨hgiven, hsurname⟩ => ⟨.inl hgiven, .inr hsurname⟩
    · rintro ⟨hgiven | ⟨-, hnone, -⟩, hsurname⟩
      · exact ⟨hgiven, hsurname.resolve_left hmiddle⟩
      · exact absurd hnone hmiddle

end FilingName.Field.Name
