import FilingName.CommandLine.Run
import FilingName.Proofs.Console.Line
import FilingName.Proofs.Console.Markup
import FilingName.Proofs.Logged
import FilingName.Proofs.Template.Modifier
import FilingName.Proofs.Template.TextSource

/-! Diagnostics on the console. Their names are letters, so that markup finds nothing in them: each
is shown as it is, and showing it never fails. -/
namespace FilingName
open Console.Markup

namespace Template

private theorem plain_of_letters {t : Text} (h : ∀ c ∈ t, isLetter c) : Plain t :=
  ⟨fun hin => absurd (h _ hin) (by decide), fun hin => absurd (h _ hin) (by decide)⟩

private theorem kept_isLetter : Console.Kept isLetter where
  newline := by decide
  tab := by decide
  space := by decide
  control := Console.forall_movesCursor.mpr (by decide)

theorem Token.WellFormed.plain_name {token : Token} (h : token.WellFormed) : Plain token.name :=
  plain_of_letters h.letters_name

end Template

namespace Diagnostic

/-- What a diagnostic is about. -/
def named : Diagnostic → Text
  | unknownPlaceholder name => name
  | unknownModifier modifier => modifier

/-- A diagnostic about something that is written in letters, like all names and modifiers. -/
def Lettered (diagnostic : Diagnostic) : Prop := ∀ c ∈ diagnostic.named, Template.isLetter c

variable {diagnostic : Diagnostic}

theorem Lettered.plain (h : diagnostic.Lettered) : Plain diagnostic.message := by
  have hnamed : Plain diagnostic.named := Template.plain_of_letters h
  cases diagnostic with
  | unknownPlaceholder name => exact plain_append.mpr ⟨by decide, hnamed⟩
  | unknownModifier modifier => exact plain_append.mpr ⟨by decide, hnamed⟩

theorem Lettered.singleLine (h : diagnostic.Lettered) : Console.SingleLine diagnostic.message := by
  have hnamed : Console.SingleLine diagnostic.named := .of_kept Template.kept_isLetter h
  cases diagnostic with
  | unknownPlaceholder name => exact .append (by decide) hnamed
  | unknownModifier modifier => exact .append (by decide) hnamed

end Diagnostic

namespace Template.TextSource
variable {source : TextSource} {diagnostic : Diagnostic}

private theorem lettered_of_mem_reported {token : Token} (htoken : token.WellFormed)
    (h : diagnostic ∈ source.reported token) : diagnostic.Lettered := by
  unfold reported at h
  split at h
  · rw [List.mem_singleton.mp h]
    exact htoken.letters_name
  · cases h
  · split_ifs at h
    · cases h
    · rw [List.mem_singleton.mp h]
      exact htoken.letters_modifier

/-- All that processing a template reports is about names and modifiers of the template. -/
theorem lettered_of_mem_log {t : Text} (hfit : source.NumeralsFit t)
    (h : diagnostic ∈ (source.engine.process t source.record).log) : diagnostic.Lettered := by
  rw [process_eq hfit] at h
  obtain ⟨token, hin, hreported⟩ := List.mem_flatMap.mp h
  exact lettered_of_mem_reported ((splits_parse t).wellFormed token (mem_tokens.mp hin)) hreported

/-- All that processing a template reports can be shown as it is. -/
theorem plain_of_mem_log {t : Text} (hfit : source.NumeralsFit t)
    (h : diagnostic ∈ (source.engine.process t source.record).log) : Plain diagnostic.message :=
  (lettered_of_mem_log hfit h).plain

end Template.TextSource

namespace Display

@[simp] theorem results_append (log more : List Printed) :
    results (log ++ more) = results log ++ results more := List.flatMap_append

@[simp] theorem messages_append (log more : List Printed) :
    messages (log ++ more) = messages log ++ messages more := List.flatMap_append

/-- What the console prints of a warning when nothing in it is taken for markup. -/
def warningLine (message : Text) : Printed :=
  .message (Console.print ("Warning: ".toList ++ message))

private theorem styleWord_yellow : StyleWord "yellow".toList :=
  .of_bare ⟨by decide, by decide +kernel, by decide +kernel, by decide⟩

theorem printColored_of_ok {color text shown : Text} (h : render (styled color text) = .ok shown) :
    printColored color text = ⟨[.message (Console.print shown)], .ok ()⟩ := by
  rw [styled] at h
  simp only [printColored, h]
  rfl

theorem printColored_of_error {color text : Text} {fault : Fault}
    (h : render (styled color text) = .error fault) :
    printColored color text = ⟨[], .error (.markup fault)⟩ := by
  rw [styled] at h
  simp only [printColored, h]

theorem printColored_unmarked {color text : Text} (hcolor : StyleWord color)
    (hlast : ¬ ['\\'] <:+ text) (h : Unmarked text) :
    printColored color text = ⟨[.message (Console.print text)], .ok ()⟩ :=
  printColored_of_ok (hcolor.render_unmarked hlast h)

private theorem warn_plain {message : Text} (h : Plain message) :
    warn message = ⟨[warningLine message], .ok ()⟩ := by
  have hplain : Plain ("Warning: ".toList ++ message) := plain_append.mpr ⟨by decide, h⟩
  exact printColored_unmarked styleWord_yellow hplain.not_suffix hplain.unmarked

theorem forM_warn {messages : List Text} (h : ∀ message ∈ messages, Plain message) :
    messages.forM warn = ⟨messages.map warningLine, .ok ()⟩ := by
  induction messages with
  | nil => rfl
  | cons message messages ih =>
    rw [List.forall_mem_cons] at h
    rw [List.forM, warn_plain h.1, Logged.bind_of_ok rfl, ih h.2]
    rfl

theorem results_warnings (warnings : List Text) : results (warnings.map warningLine) = [] := by
  induction warnings with
  | nil => rfl
  | cons warning warnings ih => exact ih

/-- Warnings of one line take one line each. -/
theorem messages_warnings {warnings : List Text}
    (h : ∀ warning ∈ warnings, Console.SingleLine warning) :
    messages (warnings.map warningLine) =
      Console.unlines (warnings.map ("Warning: ".toList ++ ·)) := by
  have hlines : ∀ line ∈ warnings.map ("Warning: ".toList ++ ·), Console.SingleLine line := by
    intro line hline
    obtain ⟨warning, hin, rfl⟩ := List.mem_map.mp hline
    exact .append (by decide) (h warning hin)
  rw [← Console.flatMap_print hlines, messages, List.flatMap_map, List.flatMap_map]
  rfl

end Display

namespace CommandLine
variable {α β : Type} {x : Reported α} {a : α}

/-- A run goes on with what was computed. -/
theorem orFail_bind_ok (a : α) (f : α → Display.Action β) : orFail (.ok a) >>= f = f a :=
  Logged.bind_of_ok rfl f

/-- Reporting does not change what is returned. It prints a line for every diagnostic, or holds the
messages back when the run is quiet. -/
theorem reportTo_of_ok (h : ∀ diagnostic ∈ x.log, Plain diagnostic.message)
    (hx : x.outcome = .ok a) (quiet : Bool) : reportTo quiet x =
      ⟨if quiet then [] else x.log.map fun diagnostic => Display.warningLine diagnostic.message,
        .ok (a, if quiet then x.log.map Diagnostic.message else [])⟩ := by
  cases quiet with
  | true =>
    simp only [reportTo, if_true, hx, orFail_bind_ok]
    rfl
  | false =>
    have hmessages : ∀ message ∈ x.log.map Diagnostic.message, Plain message := by
      simpa using h
    rw [reportTo]
    simp only [Bool.false_eq_true, if_false, Display.forM_warn hmessages, hx, orFail_bind_ok]
    rw [Logged.bind_of_ok rfl, List.map_map]
    simp

/-- Reporting to the console prints a line for every diagnostic and does not change what is
returned. -/
theorem reportTo_console (h : ∀ diagnostic ∈ x.log, Plain diagnostic.message)
    (hx : x.outcome = .ok a) : reportTo false x =
      ⟨x.log.map fun diagnostic => Display.warningLine diagnostic.message, .ok (a, [])⟩ :=
  reportTo_of_ok h hx false

end CommandLine
end FilingName
