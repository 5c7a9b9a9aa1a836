import FilingName.Console.Line
import FilingName.Proofs.Text.Row

/-! What a console keeps of a text: every character that is neither a blank nor a control, in its
order. A text without tabs and controls is shown as it is. -/
namespace FilingName.Console

theorem forall_movesCursor {P : Char → Prop} : (∀ c, movesCursor c → P c) ↔
    P '\x07' ∧ P '\x08' ∧ P '\x0b' ∧ P '\x0c' ∧ P '\r' := by
  simp only [movesCursor, Bool.or_eq_true, beq_iff_eq, or_imp, forall_and, forall_eq, and_assoc]

/-- Characters that a console shows wherever they stand. -/
structure Kept (p : Char → Bool) : Prop where
  newline : p '\n' = false
  tab : p '\t' = false
  space : p ' ' = false
  control : ∀ c, movesCursor c → p c = false

/-- Neither what a console leaves out nor what it puts in. -/
def alwaysShown (c : Char) : Bool := c != '\t' && c != ' ' && !movesCursor c

private theorem Kept.alwaysShown {p : Char → Bool} (hp : Kept p) {c : Char} (hc : p c) :
    alwaysShown c := by
  have hne (d : Char) (hd : p d = false) : c ≠ d := by
    rintro rfl
    exact absurd hc (by simp [hd])
  have hstays : movesCursor c = false := by
    by_contra hmoves
    exact absurd hc (by simp [hp.control c (Bool.of_not_eq_false hmoves)])
  simp [Console.alwaysShown, hne _ hp.tab, hne _ hp.space, hstays]

private theorem unlines_eq_join {rows : List Text} (h : rows ≠ []) :
    unlines rows = Text.join ['\n'] rows ++ ['\n'] := by
  induction rows with
  | nil => exact absurd rfl h
  | cons row rows ih =>
    by_cases hlast : rows = []
    · rw [hlast, Text.join_singleton, unlines, List.flatMap_singleton]
    · rw [Text.join_cons hlast, List.append_assoc, ← ih hlast]
      rfl

private theorem unlines_splitOn (t : Text) : unlines (Text.splitOn '\n' t) = t ++ ['\n'] := by
  have hrow := Text.isRow_splitOn '\n' t
  rw [unlines_eq_join hrow.ne_nil, hrow.join_eq]

/-- An empty line stands in front where a text starts with a line feed. -/
theorem print_newline_cons (t : Text) : print ('\n' :: t) = '\n' :: print t := rfl

/-- Text with nothing in it that a console leaves out or expands. -/
def Verbatim (t : Text) : Prop := ∀ c ∈ t, c ≠ '\t' ∧ movesCursor c = false

instance (t : Text) : Decidable (Verbatim t) := List.decidableBAll _ t

private theorem verbatim_unlines {rows : List Text} :
    Verbatim (unlines rows) ↔ ∀ row ∈ rows, Verbatim row := by
  have hnewline : '\n' ≠ '\t' ∧ movesCursor '\n' = false := by decide
  constructor
  · intro h row hrow c hc
    exact h c (List.mem_flatMap.mpr ⟨row, hrow, List.mem_append_left _ hc⟩)
  · intro h c hc
    obtain ⟨row, hrow, hc⟩ := List.mem_flatMap.mp hc
    rcases List.mem_append.mp hc with hin | hin
    · exact h row hrow c hin
    · exact List.mem_singleton.mp hin ▸ hnewline

private theorem Verbatim.expandTabsFrom_eq {t : Text} (h : Verbatim t) (column : Nat) :
    expandTabsFrom column t = t := by
  induction t generalizing column with
  | nil => rfl
  | cons c t ih =>
    obtain ⟨⟨htab, -⟩, hrest⟩ := List.forall_mem_cons.mp h
    rw [expandTabsFrom, if_neg htab, ih hrest]

private theorem Verbatim.print_eq {t : Text} (h : Verbatim t) : print t = t ++ ['\n'] := by
  have hcontrols : dropControls t = t :=
    List.filter_eq_self.mpr fun c hc => by rw [(h c hc).2, Bool.not_false]
  have hline (line : Text) (hline : line ∈ Text.splitOn '\n' t) : Verbatim line := fun c hc =>
    h c ((Text.isRow_splitOn '\n' t).join_eq ▸ Text.mem_join_of_mem hline hc)
  rw [print, lines, hcontrols,
    List.map_congr_left fun line hin => (hline line hin).expandTabsFrom_eq 0, List.map_id',
    unlines_splitOn]

private theorem verbatim_expandTabsFrom {t : Text} (h : ∀ c ∈ t, movesCursor c = false)
    (column : Nat) : Verbatim (expandTabsFrom column t) := by
  induction t generalizing column with
  | nil => exact List.forall_mem_nil _
  | cons c t ih =>
    obtain ⟨hc, hrest⟩ := List.forall_mem_cons.mp h
    rw [expandTabsFrom]
    split
    · refine List.forall_mem_append.mpr ⟨fun d hd => ?_, ih hrest _⟩
      rw [List.eq_of_mem_replicate hd]
      decide
    · next htab => exact List.forall_mem_cons.mpr ⟨⟨htab, hc⟩, ih hrest _⟩

/-- Nothing that is printed would be printed in another way. -/
private theorem verbatim_print (t : Text) : Verbatim (print t) := by
  refine verbatim_unlines.mpr fun row hrow => ?_
  obtain ⟨line, hline, rfl⟩ := List.mem_map.mp hrow
  refine verbatim_expandTabsFrom (fun c hc => ?_) 0
  have hin : c ∈ dropControls t :=
    (Text.isRow_splitOn '\n' (dropControls t)).join_eq ▸ Text.mem_join_of_mem hline hc
  simpa using (List.mem_filter.mp hin).2

/-- Texts are printed as they are, each on lines of its own, exactly if a console leaves out and
expands nothing in any of them. -/
theorem flatMap_print_eq_unlines_iff {rows : List Text} :
    rows.flatMap print = unlines rows ↔ ∀ row ∈ rows, Verbatim row := by
  constructor
  · intro h
    rw [← verbatim_unlines, ← h]
    intro c hc
    obtain ⟨row, -, hc⟩ := List.mem_flatMap.mp hc
    exact verbatim_print row c hc
  · intro h
    exact List.flatMap_congr fun row hrow => (h row hrow).print_eq

/-- Text that takes one line and has nothing in it that a console leaves out or expands. -/
def SingleLine (t : Text) : Prop := ∀ c ∈ t, c ≠ '\n' ∧ c ≠ '\t' ∧ movesCursor c = false

instance (t : Text) : Decidable (SingleLine t) := List.decidableBAll _ t

private theorem SingleLine.verbatim {t : Text} (h : SingleLine t) :
    Verbatim t := fun c hc => (h c hc).2

theorem SingleLine.of_kept {p : Char → Bool} (hp : Kept p) {t : Text} (h : ∀ c ∈ t, p c) :
    SingleLine t := by
  intro c hc
  have hshown : c ≠ '\t' ∧ c ≠ ' ' ∧ movesCursor c = false := by
    simpa [alwaysShown, and_assoc] using hp.alwaysShown (h c hc)
  refine ⟨?_, hshown.1, hshown.2.2⟩
  rintro rfl
  exact absurd (h _ hc) (by simp [hp.newline])

theorem SingleLine.append {t u : Text} (ht : SingleLine t) (hu : SingleLine u) :
    SingleLine (t ++ u) :=
  List.forall_mem_append.mpr ⟨ht, hu⟩

theorem SingleLine.print_eq {t : Text} (h : SingleLine t) : print t = t ++ ['\n'] :=
  h.verbatim.print_eq

/-- Single lines that are printed one after the other. -/
theorem flatMap_print {rows : List Text} (h : ∀ row ∈ rows, SingleLine row) :
    rows.flatMap print = unlines rows :=
  flatMap_print_eq_unlines_iff.mpr fun row hrow => (h row hrow).verbatim

private theorem filter_dropControls (t : Text) :
    (dropControls t).filter alwaysShown = t.filter alwaysShown := by
  rw [dropControls, List.filter_filter]
  refine List.filter_congr fun c _ => ?_
  rw [alwaysShown, Bool.and_assoc, Bool.and_self]

private theorem filter_expandTabsFrom (column : Nat) (t : Text) :
    (expandTabsFrom column t).filter alwaysShown = t.filter alwaysShown := by
  induction t generalizing column with
  | nil => rfl
  | cons c t ih =>
    rw [expandTabsFrom]
    split
    · next hc =>
      rw [List.filter_append, List.filter_replicate_of_neg (by decide), List.nil_append, ih, hc]
      rfl
    · rw [List.filter_cons, List.filter_cons, ih]

/-- What is printed has the characters of the text in their order. -/
private theorem filter_print (t : Text) :
    (print t).filter alwaysShown = (t ++ ['\n']).filter alwaysShown := by
  have hlines (rows : List Text) : (unlines (rows.map (expandTabsFrom 0))).filter alwaysShown =
      (unlines rows).filter alwaysShown := by
    rw [unlines, unlines, List.flatMap_map, List.filter_flatMap, List.filter_flatMap]
    refine List.flatMap_congr fun row _ => ?_
    rw [List.filter_append, List.filter_append, filter_expandTabsFrom]
  rw [print, lines, hlines, unlines_splitOn, List.filter_append, List.filter_append,
    filter_dropControls]

theorem filter_flatMap_print (rows : List Text) :
    (rows.flatMap print).filter alwaysShown = (unlines rows).filter alwaysShown := by
  rw [unlines, List.filter_flatMap, List.filter_flatMap]
  exact List.flatMap_congr fun row _ => filter_print row

/-- What is printed has as many of these characters as the text. -/
theorem countP_print {p : Char → Bool} (hp : Kept p) (t : Text) :
    (print t).countP p = t.countP p := by
  have hcount (u : Text) : (u.filter alwaysShown).countP p = u.countP p := by
    rw [List.countP_filter]
    refine List.countP_congr fun c _ => ?_
    simpa using hp.alwaysShown
  rw [← hcount (print t), filter_print, hcount, List.countP_append, List.countP_singleton,
    hp.newline]
  simp

end FilingName.Console
