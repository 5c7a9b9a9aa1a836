import FilingName.Display
import FilingName.Proofs.Console.Line
import FilingName.Proofs.Console.Markup
import FilingName.Proofs.Console.Style
import FilingName.Proofs.Display
import FilingName.Proofs.Logged

/-! Errors on the console. An error is markup, so it is shown in full exactly when there is nothing
in it that markup takes out; and a closing tag in it may end the run. -/
namespace FilingName.Display
open Console.Markup

/-- What the console prints of an error that is shown in full. -/
def errorLine (message : Text) : Printed :=
  .message (Console.print ("Error: ".toList ++ message))

private theorem styleWord_red : StyleWord "red".toList :=
  .of_bare ⟨by decide, by decide +kernel, by decide +kernel, by decide⟩

private theorem kept_isMark : Console.Kept isMark where
  newline := by decide
  tab := by decide
  space := by decide
  control := Console.forall_movesCursor.mpr (by decide)

private theorem not_suffix_error {message : Text} (h : ¬ ['\\'] <:+ message) :
    ¬ ['\\'] <:+ "Error: ".toList ++ message := by
  by_cases hempty : message = []
  · rw [hempty]
    decide
  · exact Text.not_suffix_append hempty h

/-- An error is shown in full if there is nothing in it to take out, and only then. -/
theorem error_eq_iff {message : Text} (h : ¬ ['\\'] <:+ message) :
    error message = ⟨[errorLine message], .ok ()⟩ ↔ Unmarked message := by
  have hprefix : Plain "Error: ".toList := by decide
  have hlast := not_suffix_error h
  rw [← unmarked_append hprefix (u := message)]
  constructor
  · intro herror
    by_contra hmarked
    cases hrender : render (styled "red".toList ("Error: ".toList ++ message)) with
    | error fault =>
      rw [error, printColored_of_error hrender] at herror
      cases herror
    | ok shown =>
      -- what is left out was a mark, and the console keeps the number of marks
      have hfewer := styleWord_red.marks_of_render hlast hmarked hrender
      rw [error, printColored_of_ok hrender, errorLine] at herror
      have hprint : Console.print shown = Console.print ("Error: ".toList ++ message) := by
        simpa using herror
      have hmarks := congrArg (List.countP isMark) hprint
      rw [Console.countP_print kept_isMark, Console.countP_print kept_isMark] at hmarks
      exact hfewer.ne hmarks
  · exact printColored_unmarked styleWord_red hlast

/-- An error with a closing tag of a style that is not open prints nothing and ends the run, if
there is nothing to take out before that tag. -/
theorem error_of_closing_tag {t inner name style : Text} (hlast : ¬ ['\\'] <:+ t)
    (ht : Unmarked t) (hinner : IsInner inner) (hclosing : tagName inner = '/' :: name)
    (hname : Text.trim name ≠ [])
    (hstyle : Console.Style.normalForm (Text.trim name) = .ok style)
    (hother : "red".toList ≠ style) (after : Text) :
    ∃ position, error (t ++ '[' :: (inner ++ ']' :: after)) =
      ⟨[], .error (.markup (.notOpen ('[' :: inner ++ [']']) position))⟩ := by
  have hprefix : Plain "Error: ".toList := by decide
  have hrender := styleWord_red.render_notOpen after (not_suffix_error hlast)
    ((unmarked_append hprefix).mpr ht) hinner hclosing hname hstyle hother
  rw [List.append_assoc] at hrender
  exact ⟨_, printColored_of_error hrender⟩

private theorem error_cases (message : Text) :
    (∃ shown, error message = ⟨[.message shown], .ok ()⟩) ∨
      ∃ fault, error message = ⟨[], .error (.markup fault)⟩ := by
  cases hrender : render (styled "red".toList ("Error: ".toList ++ message)) with
  | ok shown => exact .inl ⟨_, printColored_of_ok hrender⟩
  | error fault => exact .inr ⟨fault, printColored_of_error hrender⟩

private theorem forM_error_cons {message shown : Text}
    (h : error message = ⟨[.message shown], .ok ()⟩) (messages : List Text) :
    (message :: messages).forM error =
      ⟨.message shown :: (messages.forM error).log, (messages.forM error).outcome⟩ := by
  rw [List.forM, h, Logged.bind_of_ok rfl]
  rfl

theorem forM_error_cons_of_error {message : Text} {fault : Fault}
    (h : error message = ⟨[], .error (.markup fault)⟩) (messages : List Text) :
    (message :: messages).forM error = ⟨[], .error (.markup fault)⟩ := by
  rw [List.forM, h, Logged.bind_of_error rfl]

/-- Errors print messages only, up to the first that markup has a fault with. -/
theorem forM_error_cases (messages : List Text) :
    results (messages.forM error).log = [] ∧ ((messages.forM error).outcome = .ok () ∨
      ∃ fault, (messages.forM error).outcome = .error (.markup fault)) := by
  induction messages with
  | nil => exact ⟨rfl, .inl rfl⟩
  | cons message messages ih =>
    rcases error_cases message with ⟨shown, hshown⟩ | ⟨fault, hfault⟩
    · rw [forM_error_cons hshown]
      exact ih
    · rw [forM_error_cons_of_error hfault]
      exact ⟨rfl, .inr ⟨fault, rfl⟩⟩

theorem forM_error_iff {messages : List Text} (h : ∀ message ∈ messages, ¬ ['\\'] <:+ message) :
    messages.forM error = ⟨messages.map errorLine, .ok ()⟩ ↔
      ∀ message ∈ messages, Unmarked message := by
  induction messages with
  | nil => exact iff_of_true rfl (List.forall_mem_nil _)
  | cons message messages ih =>
    rw [List.forall_mem_cons] at h
    rw [List.forall_mem_cons, ← error_eq_iff h.1, ← ih h.2]
    rcases error_cases message with ⟨shown, hshown⟩ | ⟨fault, hfault⟩
    · rw [forM_error_cons hshown, hshown]
      simp [Logged.ext_iff, and_assoc]
    · rw [forM_error_cons_of_error hfault, hfault]
      simp [Logged.ext_iff]

/-- Errors that come before the first one with something to take out are shown in any case. -/
theorem forM_error_log_append {before : List Text} (h : ∀ message ∈ before, ¬ ['\\'] <:+ message)
    (hunmarked : ∀ message ∈ before, Unmarked message) (after : List Text) :
    ((before ++ after).forM error).log = before.map errorLine ++ (after.forM error).log := by
  induction before with
  | nil => rfl
  | cons message before ih =>
    rw [List.forall_mem_cons] at h hunmarked
    rw [List.cons_append, forM_error_cons ((error_eq_iff h.1).mpr hunmarked.1),
      ih h.2 hunmarked.2]
    rfl

end FilingName.Display
