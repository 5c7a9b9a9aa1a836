import FilingName.Console.Markup
import FilingName.Proofs.Console.Style

/-! What markup shows of a text that stands between the tags of a style: the text itself, unless it
holds a tag or a backslash before a bracket. Then something of it is not shown. -/
namespace FilingName.Console.Markup

/-- What can stand between the brackets of a tag. -/
structure IsInner (inner : Text) : Prop where
  startsTag_head : inner.head?.any startsTag
  characters : ∀ c ∈ inner, isTagCharacter c

private theorem isTagCharacter_of_startsTag {c : Char} (h : startsTag c) : isTagCharacter c := by
  have hopen : startsTag '[' = false := by decide
  have hclose : startsTag ']' = false := by decide
  simp only [isTagCharacter, ne_eq, Bool.and_eq_true, decide_eq_true_eq]
  exact ⟨fun he => by simp [he, hopen] at h, fun he => by simp [he, hclose] at h⟩

private theorem bracket?_eq_some_iff {t inner after : Text} :
    bracket? t = some (inner, after) ↔ IsInner inner ∧ t = '[' :: (inner ++ ']' :: after) := by
  constructor
  · intro h
    unfold bracket? at h
    split at h
    · next rest =>
      split at h
      · next hstart =>
        split at h
        · next after' hdrop =>
          obtain ⟨rfl, rfl⟩ := Prod.mk.inj (Option.some.inj h)
          refine ⟨⟨?_, fun c hc => List.mem_takeWhile_imp hc⟩, ?_⟩
          · cases rest with
            | nil => cases hstart
            | cons c rest =>
              rwa [List.takeWhile_cons_of_pos (isTagCharacter_of_startsTag hstart)]
          · rw [← hdrop, List.takeWhile_append_dropWhile]
        · cases h
      · cases h
    · cases h
  · rintro ⟨⟨hstart, hinner⟩, rfl⟩
    have hclose : isTagCharacter ']' = false := by decide
    have hhead : (inner ++ ']' :: after).head?.any startsTag := by
      cases inner with
      | nil => cases hstart
      | cons c inner => exact hstart
    simp only [bracket?, hhead, if_true, Text.dropWhile_run hinner hclose,
      Text.takeWhile_run hinner hclose]

private theorem tag?_eq_some_iff {t inner after : Text} {n : Nat} :
    tag? t = some (n, inner, after) ↔
      IsInner inner ∧ t = List.replicate n '\\' ++ '[' :: (inner ++ ']' :: after) := by
  constructor
  · intro h
    obtain ⟨⟨inner', after'⟩, hbracket, he⟩ := Option.map_eq_some_iff.mp h
    simp only [Prod.mk.injEq] at he
    obtain ⟨rfl, rfl, rfl⟩ := he
    obtain ⟨hinner, hbehind⟩ := bracket?_eq_some_iff.mp hbracket
    refine ⟨hinner, ?_⟩
    have hescapes : t.takeWhile (· == '\\') =
        List.replicate (t.takeWhile (· == '\\')).length '\\' :=
      List.eq_replicate_length.mpr fun c hc => by simpa using List.mem_takeWhile_imp hc
    rw [← hescapes, ← hbehind, List.takeWhile_append_dropWhile]
  · rintro ⟨hinner, rfl⟩
    have hrun : ∀ c ∈ List.replicate n '\\', (c == '\\') = true := by simp
    have hopen : ('[' == '\\') = false := by decide
    rw [tag?, Text.dropWhile_run hrun hopen, Text.takeWhile_run hrun hopen,
      bracket?_eq_some_iff.mpr ⟨hinner, rfl⟩, List.length_replicate]
    rfl

private theorem tag?_append {t inner after : Text} {n : Nat} (h : tag? t = some (n, inner, after))
    (rest : Text) : tag? (t ++ rest) = some (n, inner, after ++ rest) := by
  obtain ⟨hinner, rfl⟩ := tag?_eq_some_iff.mp h
  exact tag?_eq_some_iff.mpr ⟨hinner, by simp⟩

/-- A bracket behind a text takes part in no tag of it. -/
private theorem exists_of_tag?_append {t rest inner after : Text} {n : Nat} (hne : t ≠ [])
    (hlast : ¬ ['\\'] <:+ t) (h : tag? (t ++ '[' :: rest) = some (n, inner, after)) :
    ∃ before, tag? t = some (n, inner, before) ∧ after = before ++ '[' :: rest := by
  obtain ⟨hinner, heq⟩ := tag?_eq_some_iff.mp h
  -- the bracket behind the text is no character of a tag and does not close one
  have hclosed {u : Text} (hu : inner ++ ']' :: after = u ++ '[' :: rest) :
      ∃ before, u = inner ++ ']' :: before ∧ after = before ++ '[' :: rest := by
    rcases List.append_eq_append_iff.mp hu with ⟨_ | ⟨c, v⟩, rfl, hv⟩ | ⟨_ | ⟨c, v⟩, rfl, hv⟩
    · cases hv
    · obtain ⟨rfl, hafter⟩ := List.cons.inj hv
      exact ⟨v, rfl, hafter⟩
    · cases hv
    · obtain ⟨rfl, -⟩ := List.cons.inj hv
      exact absurd (hinner.characters '[' (by simp)) (by decide)
  have hescapes : t ≠ List.replicate n '\\' := by
    rintro rfl
    cases n with
    | zero => exact hne rfl
    | succ n => exact hlast ⟨List.replicate n '\\', List.replicate_succ'.symm⟩
  rcases List.append_eq_append_iff.mp heq with ⟨_ | ⟨c, u⟩, hu, hv⟩ | ⟨_ | ⟨c, u⟩, rfl, hv⟩
  · exact absurd (by simpa using hu.symm) hescapes
  · obtain ⟨rfl, -⟩ := List.cons.inj hv
    have hin : '[' ∈ List.replicate n '\\' := hu ▸ by simp
    exact absurd (List.eq_of_mem_replicate hin) (by decide)
  · simp at hescapes
  · obtain ⟨rfl, hu⟩ := List.cons.inj hv
    obtain ⟨before, rfl, hafter⟩ := hclosed hu
    exact ⟨before, tag?_eq_some_iff.mpr ⟨hinner, rfl⟩, hafter⟩

@[simp] private theorem pieces_nil (position : Nat) : pieces position [] = [] := by
  rw [pieces]
  rfl

private theorem pieces_of_tag? {t inner after : Text} {n : Nat}
    (h : tag? t = some (n, inner, after)) (position : Nat) : pieces position t =
      tagPieces position n inner ++ pieces (position + n + inner.length + 2) after := by
  rw [pieces]
  split
  · next he =>
    cases h.symm.trans he
    rfl
  · next he => cases h.symm.trans he

private theorem pieces_cons_of_none {c : Char} {rest : Text} (h : tag? (c :: rest) = none)
    (position : Nat) : pieces position (c :: rest) =
      if c = '\\' ∧ rest.head? = some '[' then pieces (position + 1) rest
      else addPlain c (pieces (position + 1) rest) := by
  rw [pieces]
  split
  · next he => cases h.symm.trans he
  · rfl

/-- A tag takes as many characters as its inside, its brackets and the backslashes before it. -/
private theorem length_of_tag? {t inner after : Text} {n : Nat}
    (h : tag? t = some (n, inner, after)) : t.length = n + inner.length + 2 + after.length := by
  obtain ⟨-, rfl⟩ := tag?_eq_some_iff.mp h
  simp only [List.length_append, List.length_cons, List.length_replicate]
  omega

private theorem suffix_of_tag? {t inner after : Text} {n : Nat}
    (h : tag? t = some (n, inner, after)) : after <:+ t := by
  obtain ⟨-, rfl⟩ := tag?_eq_some_iff.mp h
  exact ⟨List.replicate n '\\' ++ '[' :: (inner ++ [']']), by simp⟩

private theorem addPlain_append_tag (c : Char) (row : List Piece) (inner : Text) (position : Nat)
    (more : List Piece) : addPlain c (row ++ .tag inner position :: more) =
      addPlain c row ++ .tag inner position :: more := by
  rcases row with _ | ⟨⟨t⟩ | ⟨t⟩ | ⟨i, p⟩, row⟩ <;> rfl

/-- A tag stands behind the pieces of a text, unless a backslash at its end escapes the tag. -/
private theorem pieces_append_tag {inner : Text} (hinner : IsInner inner) (after : Text) {t : Text}
    (hlast : ¬ ['\\'] <:+ t) (position : Nat) :
    pieces position (t ++ '[' :: (inner ++ ']' :: after)) = pieces position t ++
      .tag inner (position + t.length) ::
        pieces (position + t.length + inner.length + 2) after := by
  induction hn : t.length using Nat.strongRecOn generalizing t position with
  | _ n ih =>
    subst hn
    cases hfirst : tag? t with
    | some found =>
      obtain ⟨n, inner', before⟩ := found
      have hlength := length_of_tag? hfirst
      have hbefore : ¬ ['\\'] <:+ before := fun h => hlast (h.trans (suffix_of_tag? hfirst))
      have hposition : position + n + inner'.length + 2 + before.length = position + t.length := by
        omega
      rw [pieces_of_tag? (tag?_append hfirst _), pieces_of_tag? hfirst,
        ih before.length (by omega) hbefore _ rfl, List.append_assoc, hposition]
    | none =>
      cases t with
      | nil =>
        have htag : tag? ('[' :: (inner ++ ']' :: after)) = some (0, inner, after) :=
          tag?_eq_some_iff.mpr ⟨hinner, rfl⟩
        rw [List.nil_append, pieces_of_tag? htag, pieces_nil]
        rfl
      | cons c t =>
        have hnone : tag? (c :: t ++ '[' :: (inner ++ ']' :: after)) = none := by
          rw [Option.eq_none_iff_forall_ne_some]
          rintro ⟨n, inner', after'⟩ hsome
          obtain ⟨before, htag, -⟩ := exists_of_tag?_append (List.cons_ne_nil c t) hlast hsome
          cases hfirst.symm.trans htag
        have hrest : ¬ ['\\'] <:+ t := fun h => hlast (h.trans (List.suffix_cons c t))
        have hposition : position + 1 + t.length = position + (c :: t).length := by
          rw [List.length_cons]
          omega
        have hescape : (c = '\\' ∧ (t ++ '[' :: (inner ++ ']' :: after)).head? = some '[') ↔
            (c = '\\' ∧ t.head? = some '[') := by
          cases t with
          | nil => exact iff_of_false (fun h => hlast (h.1 ▸ List.suffix_refl _)) (by simp)
          | cons d t => rfl
        rw [List.cons_append] at hnone ⊢
        rw [pieces_cons_of_none hnone, pieces_cons_of_none hfirst,
          ih t.length (by simp) hrest _ rfl, hposition, if_congr hescape rfl rfl]
        split
        · rfl
        · exact addPlain_append_tag _ _ _ _ _

private theorem pieces_tag {inner : Text} (hinner : IsInner inner) (after : Text) (position : Nat) :
    pieces position ('[' :: (inner ++ ']' :: after)) =
      .tag inner position :: pieces (position + inner.length + 2) after := by
  simpa using pieces_append_tag hinner after (t := []) (by simp) position

/-- What pieces show when no tag among them is at fault. -/
def texts (row : List Piece) : Text :=
  row.flatMap fun
    | .plain text | .escaped text => text
    | .tag _ _ => []

private theorem bind_eq_ok {ε α β : Type} {x : Except ε α} {f : α → Except ε β} {b : β} :
    x >>= f = .ok b ↔ ∃ a, x = .ok a ∧ f a = .ok b := by
  cases x <;> simp [bind, Except.bind]

private theorem showPieces_plain (length : Nat) (opened : List Opened) (t : Text)
    (row : List Piece) : showPieces id length opened (.plain t :: row) =
      Prod.map (t ++ ·) id <$> showPieces id (length + (dropControls t).length) opened row :=
  bind_pure_comp _ _

private theorem eq_texts_of_showPieces {length : Nat} {opened : List Opened} {row : List Piece}
    {found : Text × List Span} (h : showPieces id length opened row = .ok found) :
    found.1 = texts row := by
  induction row generalizing length opened found with
  | nil =>
    rw [← Except.ok.inj h]
    rfl
  | cons piece row ih =>
    cases piece with
    | plain t | escaped t =>
      obtain ⟨later, hlater, hfound⟩ := bind_eq_ok.mp h
      rw [← Except.ok.inj hfound, ih hlater]
      rfl
    | tag inner position =>
      rw [showPieces.eq_def] at h
      simp only at h
      split at h
      · obtain ⟨closed, -, h⟩ := bind_eq_ok.mp h
        obtain ⟨spans, -, h⟩ := bind_eq_ok.mp h
        obtain ⟨later, hlater, hfound⟩ := bind_eq_ok.mp h
        rw [← Except.ok.inj hfound, ih hlater]
        rfl
      · obtain ⟨name, -, h⟩ := bind_eq_ok.mp h
        exact ih h

/-- What markup is read from: brackets that open, and backslashes. -/
def isMark (c : Char) : Bool := c == '[' || c == '\\'

/-- A text that holds no tag and no backslash before a bracket. -/
structure Unmarked (t : Text) : Prop where
  tags : ∀ inner, IsInner inner → ¬ '[' :: (inner ++ [']']) <:+: t
  escapes : ¬ ['\\', '['] <:+: t

private theorem Unmarked.tag?_eq_none {t : Text} (h : Unmarked t) : tag? t = none := by
  rw [Option.eq_none_iff_forall_ne_some]
  rintro ⟨n, inner, after⟩ hsome
  obtain ⟨hinner, rfl⟩ := tag?_eq_some_iff.mp hsome
  exact h.tags inner hinner ⟨List.replicate n '\\', after, by simp⟩

private theorem Unmarked.of_infix {t u : Text} (h : Unmarked t) (hu : u <:+: t) : Unmarked u :=
  ⟨fun inner hinner hin => h.tags inner hinner (hin.trans hu), fun hin => h.escapes (hin.trans hu)⟩

/-- Where markup takes nothing out at the first character, it does so behind it or not at all. -/
private theorem unmarked_cons {c : Char} {t : Text} (htag : tag? (c :: t) = none)
    (hescape : ¬ (c = '\\' ∧ t.head? = some '[')) : Unmarked (c :: t) ↔ Unmarked t := by
  refine ⟨fun h => h.of_infix (List.suffix_cons c t).isInfix, fun h => ⟨?_, ?_⟩⟩
  · intro inner hinner hin
    rcases List.infix_cons_iff.mp hin with ⟨after, hafter⟩ | hin
    · rw [← hafter, tag?_eq_some_iff (n := 0) |>.mpr ⟨hinner, by simp; rfl⟩] at htag
      cases htag
    · exact h.tags inner hinner hin
  · intro hin
    rcases List.infix_cons_iff.mp hin with ⟨after, hafter⟩ | hin
    · obtain ⟨rfl, rfl⟩ := List.cons.inj hafter
      exact hescape ⟨rfl, rfl⟩
    · exact h.escapes hin

private theorem texts_append (row more : List Piece) :
    texts (row ++ more) = texts row ++ texts more :=
  List.flatMap_append

private theorem texts_addPlain (c : Char) (row : List Piece) :
    texts (addPlain c row) = c :: texts row := by
  rcases row with _ | ⟨⟨t⟩ | ⟨t⟩ | ⟨inner, position⟩, row⟩ <;> rfl

private theorem marks_escapes (n : Nat) : (List.replicate n '\\').countP isMark = n := by
  rw [List.countP_replicate, if_pos (by decide)]

/-- Of a tag and the backslashes before it something is always left out. -/
private theorem marks_tagPieces (position n : Nat) (inner : Text) :
    (texts (tagPieces position n inner)).countP isMark < n + 1 + inner.countP isMark := by
  have hbrackets : ('[' :: inner ++ [']']).countP isMark = inner.countP isMark + 1 := by
    simp [isMark]
  have hhalf : (texts (if n / 2 = 0 then [] else [.escaped (List.replicate (n / 2) '\\')])).countP
      isMark = n / 2 := by
    split
    · next h => simp [texts, h]
    · simp [texts, marks_escapes]
  rw [tagPieces, texts_append, List.countP_append, hhalf]
  split
  · next hodd =>
    simp only [texts, List.flatMap_singleton, hbrackets]
    omega
  · simp only [texts, List.flatMap_singleton, List.countP_nil]
    omega

/-- Markup shows no more marks than there are, and fewer where it takes something out. -/
private theorem marks_texts_pieces (t : Text) (position : Nat) :
    (texts (pieces position t)).countP isMark ≤ t.countP isMark ∧
      (¬ Unmarked t → (texts (pieces position t)).countP isMark < t.countP isMark) := by
  induction hn : t.length using Nat.strongRecOn generalizing t position with
  | _ n ih =>
    subst hn
    cases htag : tag? t with
    | some found =>
      obtain ⟨n, inner, after⟩ := found
      have hlength := length_of_tag? htag
      have hafter := (ih after.length (by omega) after (position + n + inner.length + 2) rfl).1
      have htaken := marks_tagPieces position n inner
      have hmarks : t.countP isMark = n + 1 + inner.countP isMark + after.countP isMark := by
        obtain ⟨-, rfl⟩ := tag?_eq_some_iff.mp htag
        have hopen : isMark '[' = true := by decide
        have hclose : isMark ']' = false := by decide
        rw [List.countP_append, marks_escapes, List.countP_cons_of_pos hopen, List.countP_append,
          List.countP_cons_of_neg (by simp [hclose])]
        omega
      rw [pieces_of_tag? htag, texts_append, List.countP_append, hmarks]
      constructor <;> omega
    | none =>
      cases t with
      | nil =>
        rw [pieces_nil]
        exact ⟨le_refl _, fun h => absurd ⟨by simp, by simp⟩ h⟩
      | cons c t =>
        obtain ⟨hle, hlt⟩ := ih t.length (by simp) t (position + 1) rfl
        rw [pieces_cons_of_none htag]
        split
        · next hescape =>
          have hmark : isMark c = true := by rw [hescape.1]; decide
          rw [List.countP_cons_of_pos hmark]
          constructor <;> omega
        · next hescape =>
          rw [texts_addPlain, List.countP_cons, List.countP_cons, unmarked_cons htag hescape]
          exact ⟨Nat.add_le_add_right hle _, fun h => Nat.add_lt_add_right (hlt h) _⟩

private theorem length_dropControls_cons (c : Char) (t : Text) : (dropControls (c :: t)).length =
    (dropControls [c]).length + (dropControls t).length := by
  rw [← List.length_append, dropControls, dropControls, dropControls, ← List.filter_append]
  rfl

private theorem showPieces_addPlain (length : Nat) (opened : List Opened) (c : Char)
    (row : List Piece) : showPieces id length opened (addPlain c row) =
      Prod.map (c :: ·) id <$> showPieces id (length + (dropControls [c]).length) opened row := by
  rcases row with _ | ⟨⟨t⟩ | ⟨t⟩ | ⟨inner, position⟩, row⟩
  case cons.plain =>
    rw [addPlain, showPieces_plain, showPieces_plain, length_dropControls_cons, Nat.add_assoc,
      ← comp_map]
    rfl
  all_goals exact showPieces_plain length opened [c] _

/-- A text without anything to take out is shown as it is, whatever tag follows it. -/
private theorem showPieces_unmarked {t : Text} (h : Unmarked t) (length : Nat)
    (opened : List Opened) (position : Nat) (inner : Text) (place : Nat) (more : List Piece) :
    showPieces id length opened (pieces position t ++ .tag inner place :: more) =
      Prod.map (t ++ ·) id <$>
        showPieces id (length + (dropControls t).length) opened (.tag inner place :: more) := by
  induction t generalizing length position with
  | nil =>
    rw [pieces_nil, List.nil_append]
    exact (id_map _).symm
  | cons c t ih =>
    have hescape : ¬ (c = '\\' ∧ t.head? = some '[') := by
      rintro ⟨rfl, hhead⟩
      obtain ⟨rest, rfl⟩ := List.head?_eq_some_iff.mp hhead
      exact h.escapes ⟨[], rest, rfl⟩
    rw [pieces_cons_of_none h.tag?_eq_none, if_neg hescape, ← addPlain_append_tag,
      showPieces_addPlain, ih (h.of_infix (List.suffix_cons c t).isInfix),
      length_dropControls_cons c t, Nat.add_assoc, ← comp_map]
    rfl

/-- A closing tag with a name is at fault when the style of that name is not open. -/
private theorem showPieces_notOpen {inner name style : Text} (hinner : tagName inner = '/' :: name)
    (hname : Text.trim name ≠ []) (hstyle : Style.normalForm (Text.trim name) = .ok style)
    {opened : List Opened} (hopened : ∀ other ∈ opened, other.name ≠ style) (length position : Nat)
    (row : List Piece) : showPieces id length opened (.tag inner position :: row) =
      .error (.notOpen ('[' :: inner ++ [']']) position) := by
  have hfind : opened.find? (·.name == style) = none := by simpa using hopened
  have hclosed : closedBy name inner position opened =
      .error (.notOpen ('[' :: inner ++ [']']) position) := by
    rw [closedBy.eq_def, if_neg (by simpa using hname), hstyle]
    simp only [Except.mapError, bind, Except.bind, hfind]
    rfl
  simp only [showPieces, hinner, hclosed]
  rfl

/-- A word that opens a style as a tag and closes it behind a slash. -/
structure StyleWord (word : Text) : Prop extends IsInner word where
  tagName_eq : tagName word = word
  trim_eq : Text.trim word = word
  normalForm_eq : Style.normalForm word = .ok word
  head_ne : ∀ c ∈ word.head?, c ≠ '/' ∧ c ≠ '@'

/-- Small letters make a word for a style if they have no meaning of their own. -/
theorem StyleWord.of_bare {word : Text} (h : Style.Bare word) : StyleWord word := by
  have hstart {c : Char} (hc : c ∈ word) : startsTag c := by
    obtain ⟨hlow, hhigh⟩ := h.isSmall hc
    simp [startsTag, hlow, hhigh]
  have hother {c d : Char} (hd : ¬ ('a' ≤ d ∧ d ≤ 'z')) (hc : c ∈ word) : c ≠ d :=
    fun he => hd (he ▸ h.isSmall hc)
  refine ⟨⟨?_, fun c hc => isTagCharacter_of_startsTag (hstart hc)⟩, ?_, h.trim_eq,
    h.normalForm_eq, fun c hc => ?_⟩
  · obtain ⟨c, rest, rfl⟩ := List.exists_cons_of_ne_nil h.isWord.ne_nil
    exact hstart List.mem_cons_self
  · exact List.takeWhile_eq_self_iff.mpr fun c hc => by simpa using hother (by decide) hc
  · have hin := List.mem_of_mem_head? hc
    exact ⟨hother (by decide) hin, hother (by decide) hin⟩

/-- A text between the tags of a style. -/
def styled (word t : Text) : Text := '[' :: word ++ [']'] ++ t ++ "[/".toList ++ word ++ [']']

namespace StyleWord
variable {word : Text} (h : StyleWord word)
include h

private theorem ne_nil : word ≠ [] := by
  rintro rfl
  cases h.startsTag_head

private theorem tagParameters_eq : tagParameters word = none := by
  have hnone : word.dropWhile (· ≠ '=') = [] :=
    List.dropWhile_eq_nil_iff.mpr (List.takeWhile_eq_self_iff.mp h.tagName_eq)
  rw [tagParameters, hnone]

private theorem showPieces_open (length : Nat) (opened : List Opened) (position : Nat)
    (row : List Piece) : showPieces id length opened (.tag word position :: row) =
      showPieces id length (⟨length, word, none⟩ :: opened) row := by
  rw [showPieces.eq_def]
  simp only [h.tagName_eq]
  split
  · exact absurd rfl (h.head_ne _ rfl).1
  · rw [h.normalForm_eq, h.tagParameters_eq]
    rfl

private theorem showPieces_close (start stop : Nat) (opened : List Opened) (position : Nat)
    (row : List Piece) :
    showPieces id stop (⟨start, word, none⟩ :: opened) (.tag ('/' :: word) position :: row) =
      Prod.map id (⟨start, stop, word⟩ :: ·) <$> showPieces id stop opened row := by
  have hname : tagName ('/' :: word) = '/' :: word := by
    rw [tagName, List.takeWhile_cons_of_pos (by decide)]
    exact congrArg _ h.tagName_eq
  have hclosed : closedBy word ('/' :: word) position (⟨start, word, none⟩ :: opened) =
      .ok (⟨start, word, none⟩, opened) := by
    rw [closedBy.eq_def, h.trim_eq, if_neg (by simpa using h.ne_nil), h.normalForm_eq]
    simp [Except.mapError, bind, Except.bind, pure, Except.pure]
  have hspan : Opened.close stop ⟨start, word, none⟩ = .ok [⟨start, stop, word⟩] := by
    have hhead : ¬ word.head? = some '@' := fun hat => (h.head_ne _ hat).2 rfl
    rw [Opened.close, if_neg hhead]
    simp [Opened.span]
  rw [← bind_pure_comp]
  simp only [showPieces, hname, hclosed]
  simp only [bind, Except.bind, hspan]
  rfl

/-- The pieces of a styled text are its own pieces between two tags. -/
private theorem exists_pieces_styled {t : Text} (ht : ¬ ['\\'] <:+ t) : ∃ position place,
    pieces 0 (styled word t) = .tag word 0 ::
      (pieces position t ++ [.tag ('/' :: word) place]) := by
  have hclose : IsInner ('/' :: word) :=
    ⟨rfl, by simpa [isTagCharacter] using h.characters⟩
  have htext : styled word t = '[' :: (word ++ ']' :: (t ++ '[' :: ('/' :: word ++ [']']))) := by
    simp [styled]
  refine ⟨0 + word.length + 2, 0 + word.length + 2 + t.length, ?_⟩
  rw [htext, pieces_tag h.toIsInner, pieces_append_tag hclose [] ht, pieces_nil]

private theorem checkStyles_eq (t : Text) (start stop : Nat) :
    checkStyles t [⟨start, stop, word⟩] = .ok () := by
  obtain ⟨style, hstyle⟩ := Style.exists_parse?_of_normalForm h.normalForm_eq
  rw [checkStyles, List.reverse_singleton, List.mergeSort_singleton, List.filter_singleton]
  cases Span.counts t ⟨start, stop, word⟩ with
  | false => rfl
  | true =>
    simp only [cond_true, List.forM, hstyle]
    rfl

/-- Between the tags of a style a text is shown as it is when there is nothing to take out. -/
theorem render_unmarked {t : Text} (hlast : ¬ ['\\'] <:+ t) (ht : Unmarked t) :
    render (styled word t) = .ok t := by
  obtain ⟨position, place, hpieces⟩ := h.exists_pieces_styled hlast
  have hshown : showPieces id 0 [] (pieces 0 (styled word t)) =
      .ok (t ++ [], [⟨0, 0 + (dropControls t).length, word⟩]) := by
    rw [hpieces, h.showPieces_open, showPieces_unmarked ht, h.showPieces_close, showPieces]
    rfl
  rw [render, renderWith, hshown]
  simp only [List.append_nil, bind, Except.bind, h.checkStyles_eq]
  rfl

/-- Whatever else is shown has fewer marks. -/
theorem marks_of_render {t shown : Text} (hlast : ¬ ['\\'] <:+ t) (ht : ¬ Unmarked t)
    (hshown : render (styled word t) = .ok shown) : shown.countP isMark < t.countP isMark := by
  obtain ⟨position, place, hpieces⟩ := h.exists_pieces_styled hlast
  obtain ⟨found, hfound, hchecked⟩ := bind_eq_ok.mp hshown
  obtain ⟨-, -, hsame⟩ := bind_eq_ok.mp hchecked
  have htexts : shown = texts (pieces position t) := by
    rw [← Except.ok.inj hsame, eq_texts_of_showPieces hfound, hpieces, ← List.singleton_append,
      texts_append, texts_append]
    exact List.append_nil _
  rw [htexts]
  exact (marks_texts_pieces t position).2 ht

/-- A text with a closing tag of another style is not shown at all, if it holds nothing to take out
before that tag. -/
theorem render_notOpen {t inner name style : Text} (after : Text) (hlast : ¬ ['\\'] <:+ t)
    (ht : Unmarked t) (hinner : IsInner inner) (hclosing : tagName inner = '/' :: name)
    (hname : Text.trim name ≠ []) (hstyle : Style.normalForm (Text.trim name) = .ok style)
    (hother : word ≠ style) :
    render (styled word (t ++ '[' :: (inner ++ ']' :: after))) =
      .error (.notOpen ('[' :: inner ++ [']']) (word.length + 2 + t.length)) := by
  have htext : styled word (t ++ '[' :: (inner ++ ']' :: after)) =
      '[' :: (word ++ ']' :: (t ++ '[' :: (inner ++ ']' ::
        (after ++ ("[/".toList ++ word ++ [']']))))) := by
    simp [styled]
  have hopened (other : Opened) (hin : other ∈ [⟨0, word, none⟩]) : other.name ≠ style := by
    rwa [List.mem_singleton.mp hin]
  rw [render, renderWith, htext, pieces_tag h.toIsInner, pieces_append_tag hinner _ hlast,
    h.showPieces_open, showPieces_unmarked ht, showPieces_notOpen hclosing hname hstyle hopened,
    Nat.zero_add]
  rfl

end StyleWord

/-- Text that holds nothing markup is read from. -/
def Plain (t : Text) : Prop := '[' ∉ t ∧ '\\' ∉ t

instance (t : Text) : Decidable (Plain t) :=
  inferInstanceAs (Decidable ('[' ∉ t ∧ '\\' ∉ t))

theorem plain_append {t u : Text} : Plain (t ++ u) ↔ Plain t ∧ Plain u := by
  simp only [Plain, List.mem_append, not_or]
  tauto

theorem plain_join {separator : Text} {items : List Text} (hseparator : Plain separator)
    (h : ∀ item ∈ items, Plain item) : Plain (Text.join separator items) := by
  have hall {c : Char} (hc : c ∉ separator) (hitems : ∀ item ∈ items, c ∉ item) :
      c ∉ Text.join separator items := fun hin =>
    (Text.mem_join hin).elim hc fun ⟨item, hitem, hcitem⟩ => hitems item hitem hcitem
  exact ⟨hall hseparator.1 fun item hin => (h item hin).1,
    hall hseparator.2 fun item hin => (h item hin).2⟩

private theorem plain_cons {c : Char} {t : Text} :
    Plain (c :: t) ↔ (c ≠ '[' ∧ c ≠ '\\') ∧ Plain t := by
  simp only [Plain, List.mem_cons, not_or, ne_eq, eq_comm]
  tauto

theorem Plain.unmarked {t : Text} (h : Plain t) : Unmarked t where
  tags _ _ hin := h.1 (hin.subset List.mem_cons_self)
  escapes hin := h.2 (hin.subset List.mem_cons_self)

/-- Plain text in front adds nothing to take out. -/
theorem unmarked_append {t u : Text} (h : Plain t) : Unmarked (t ++ u) ↔ Unmarked u := by
  induction t with
  | nil => rfl
  | cons c t ih =>
    obtain ⟨⟨hopen, hescape⟩, ht⟩ := plain_cons.mp h
    have htag : tag? (c :: (t ++ u)) = none := by
      rw [Option.eq_none_iff_forall_ne_some]
      rintro ⟨_ | n, inner, after⟩ hsome
      · exact hopen (List.cons.inj (tag?_eq_some_iff.mp hsome).2).1
      · exact hescape (List.cons.inj (tag?_eq_some_iff.mp hsome).2).1
    rw [List.cons_append, unmarked_cons htag fun he => hescape he.1, ih ht]

theorem Plain.not_suffix {t : Text} (h : Plain t) : ¬ ['\\'] <:+ t :=
  fun hin => h.2 (hin.subset List.mem_cons_self)

end FilingName.Console.Markup
