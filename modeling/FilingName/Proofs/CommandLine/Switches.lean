import FilingName.Proofs.CommandLine.Errors
import FilingName.Proofs.CommandLine.Formatting
import FilingName.Proofs.Display.Summary

/-! What the switches of a command line change. Templates that are checked without an error never
warn; a quiet run sums up the warnings that it does not print, and a run with previews prints them
before its rows. Neither changes anything else. -/
namespace FilingName.CommandLine
open Display

variable {request : Request}

/-- An item is written alike in a quiet run and in one with previews. -/
private theorem items_of_switches (request : Request) (preview quiet : Bool) :
    Item.warnings { request with preview, quiet } = Item.warnings request ∧
      Item.row { request with preview, quiet } = Item.row request := by
  constructor <;> funext item <;> cases item <;> rfl

private theorem placeholders_eq (field : Field) :
    placeholders field = field.placeholders.map fun entry => entry.1.toList := by
  cases field <;> rfl

private theorem accepted_of_no_problem {field : Field} {t : Text}
    (h : Template.problem? field.keyMap t = .ok none) :
    Template.Accepted (placeholders field) t :=
  placeholders_eq field ▸ Field.accepted_of_no_problem h

private theorem accepted_defaultTemplate (field : Field) :
    Template.Accepted (placeholders field) field.defaultTemplate := by
  refine accepted_of_no_problem ?_
  cases field <;> decide +kernel

/-- What stands in for an empty template is valid too. -/
private theorem accepted_orDefault {field : Field} {t : Text}
    (h : Template.Accepted (placeholders field) t) :
    Template.Accepted (placeholders field) (field.orDefault t) := by
  rw [Field.orDefault]
  split
  · exact accepted_defaultTemplate field
  · exact h

private theorem Errors.accepted {row : List (Setting × Field)} (h : Errors request row []) :
    ∀ option ∈ row, request.supplied option.1 = [] ∨
      Template.Accepted (placeholders option.2) (request.checked option.1) := by
  generalize hnone : ([] : List Text) = errors at h
  induction h with
  | nil => exact List.forall_mem_nil _
  | absent hsupplied _ ih => exact List.forall_mem_cons.mpr ⟨.inl hsupplied, ih hnone⟩
  | valid _ haccepted _ ih => exact List.forall_mem_cons.mpr ⟨.inr haccepted, ih hnone⟩
  | invalid => cases hnone

/-- Without an error the template of every field is valid, given or not. -/
private theorem Errors.accepted_field (h : Errors request templateOptions []) (field : Field) :
    Template.Accepted (placeholders field) (field.orDefault (request.templateFor field)) := by
  have hoption : (Setting.template field, field) ∈ templateOptions := by
    cases field <;> simp [templateOptions]
  rcases h.accepted _ hoption with habsent | haccepted
  · have htemplate : request.templateFor field = [] := habsent
    rw [htemplate]
    exact accepted_defaultTemplate field
  · exact accepted_orDefault haccepted

/-- The same holds for what stands before the delimiter of the template for people. -/
private theorem Errors.accepted_people (h : Errors request templateOptions [])
    (persons : List People.Person) : Template.Accepted (placeholders .name) (Field.name.orDefault
      (People.splitTemplate ((Item.people persons).template request)).1) := by
  have hdefault : Template.Accepted (placeholders .name)
      (People.splitTemplate People.defaultTemplate).1 := accepted_of_no_problem (by decide +kernel)
  refine accepted_orDefault ?_
  rw [Item.template]
  rcases h.accepted (.peopleTemplate, .name) (by simp [templateOptions]) with habsent | haccepted
  · have htemplate : request.peopleTemplateText = [] := habsent
    rw [htemplate]
    exact hdefault
  · split
    · exact hdefault
    · exact haccepted

private theorem Errors.render_log (h : Errors request templateOptions []) (item : Item) :
    (item.render request).log = [] := by
  cases item with
  | supplied field t =>
    exact Field.render_log_of_accepted (placeholders_eq field ▸ h.accepted_field field) t
  | people persons =>
    obtain ⟨out, hlist⟩ := People.list_persons persons ((Item.people persons).template request)
    rw [Item.render, hlist]
    refine List.flatMap_eq_nil_iff.mpr fun person _ => ?_
    exact Field.render_log_of_accepted (placeholders_eq .name ▸ h.accepted_people persons) _

/-- Where no error is found in the templates, nothing is reported of what a run formats with them,
so there is neither a warning nor a summary. -/
theorem checked_templates_never_warn (folder : Storage.Folder) {arguments : List Text}
    {request : Request} {persons : List People.Person} (h : parse arguments = .request request)
    (hvalidate : request.validate = false) (hchecked : problems request.givenTemplates = .ok [])
    (hpeople : people folder request = .ok persons) :
    (∀ item ∈ request.items persons, (item.render request).log = []) ∧
    (request.isEmpty = false → (run folder arguments).outcome = .ok 0 ∧
      messages (run folder arguments).log = []) ∧
    (request.isEmpty = true → run folder arguments = ⟨nothingToFormat, .ok 1⟩) := by
  obtain ⟨errors, hproblems, herrors⟩ := exists_problems request templateOptions
  obtain rfl : errors = [] := by
    rw [← givenTemplates_eq, hchecked] at hproblems
    exact (Except.ok.inj hproblems).symm
  have hlog (item : Item) : (item.render request).log = [] := herrors.render_log item
  have hwarnings : (request.items persons).flatMap (Item.warnings request) = [] :=
    List.flatMap_eq_nil_iff.mpr fun item _ => by rw [Item.warnings, hlog, List.map_nil]
  rw [run_eq_format h hvalidate]
  refine ⟨fun item _ => hlog item, fun hempty => ?_, format_of_isEmpty⟩
  rw [format_of_people hempty hpeople]
  refine ⟨congrArg Logged.outcome (formatAll_eq persons), ?_⟩
  rw [messages_formatAll, hwarnings]
  cases request.quiet <;> rfl

/-- A person by a template whose delimiter looks like a token. -/
def tokenAsDelimiter : List Text :=
  ["--person".toList, "Smith".toList, "--people-template".toList,
    "\x7bSURNAME\x7d|\x7bAGE:shout\x7d".toList]

theorem token_as_delimiter_never_warns :
    ∃ request, parse tokenAsDelimiter = .request request ∧ request.validate = false ∧
      problems request.givenTemplates = .ok [] ∧
      people {} request = .ok (request.persons.map People.Person.ofText) ∧
      (run {} tokenAsDelimiter).outcome = .ok 0 ∧
      messages (run {} tokenAsDelimiter).log = [] := by
  let request : Request :=
    { persons := ["Smith".toList]
      peopleTemplate := some "\x7bSURNAME\x7d|\x7bAGE:shout\x7d".toList }
  have hwords : words tokenAsDelimiter = .ok [.option .person none, .plain "Smith".toList,
      .option .peopleTemplate none, .plain "\x7bSURNAME\x7d|\x7bAGE:shout\x7d".toList] := by
    decide +kernel
  have hparse : parse tokenAsDelimiter = .request request := (parse_of_words hwords).trans rfl
  have hchecked : problems request.givenTemplates = .ok [] := by decide +kernel
  obtain ⟨-, hclean, -⟩ := checked_templates_never_warn {} hparse rfl hchecked rfl
  exact ⟨request, hparse, rfl, hchecked, rfl, hclean rfl⟩

/-- Two runs with the same results and the same exit status. One prints a line for each warning, the
other the summary of them. -/
structure SumsUp (warnings : List Text) (loud quiet : Action Nat) : Prop where
  outcome_eq : quiet.outcome = loud.outcome
  results_eq : results quiet.log = results loud.log
  singleLine : ∀ warning ∈ warnings, Console.SingleLine warning
  printed : messages loud.log = Console.unlines (warnings.map ("Warning: ".toList ++ ·))
  summary : IsSummary warnings (messages quiet.log)

private theorem previewed_of_quiet (request : Request) (quiet : Bool) :
    Item.previewed { request with quiet } = Item.previewed request := by
  funext item
  cases item <;> rfl

private theorem formatAll_sumsUp (hloud : request.quiet = false) (persons : List People.Person) :
    SumsUp ((request.items persons).flatMap (Item.warnings request)) (formatAll request persons)
      (formatAll { request with quiet := true } persons) := by
  obtain ⟨hwarnings, hrow⟩ := items_of_switches request request.preview true
  have hlines : ∀ warning ∈ (request.items persons).flatMap (Item.warnings request),
      Console.SingleLine warning := by
    intro warning hin
    obtain ⟨item, -, hwarning⟩ := List.mem_flatMap.mp hin
    exact Item.singleLine_of_mem_warnings hwarning
  refine ⟨?_, ?_, hlines, ?_, ?_⟩
  · rw [formatAll_eq, formatAll_eq]
  · rw [results_formatAll, results_formatAll, hrow, previewed_of_quiet]
    rfl
  · rw [messages_formatAll, hloud, if_neg Bool.false_ne_true]
  · rw [messages_formatAll, if_pos rfl, hwarnings]
    exact isSummary hlines

/-- A quiet run comes to the same exit status and results as one that is not. Its summary counts the
warnings that the other run prints, which are all that is reported of the items, and lists each of
them with the number of times that it is printed there. Without a warning there is no summary. -/
theorem quiet_run_sums_up_warnings (folder : Storage.Folder) {arguments quieted : List Text}
    {request : Request} {persons : List People.Person} (h : parse arguments = .request request)
    (hquieted : parse quieted = .request { request with quiet := true })
    (hloud : request.quiet = false) (hvalidate : request.validate = false)
    (hpeople : people folder request = .ok persons) :
    (request.isEmpty = false →
      SumsUp ((request.items persons).flatMap (Item.warnings request)) (run folder arguments)
        (run folder quieted)) ∧
    (request.isEmpty = true → run folder arguments = ⟨nothingToFormat, .ok 1⟩ ∧
      run folder quieted = ⟨nothingToFormat, .ok 1⟩) := by
  let quiet : Request := { request with quiet := true }
  have hpeople' : people folder quiet = .ok persons := hpeople
  rw [run_eq_format h hvalidate, run_eq_format hquieted hvalidate]
  constructor
  · intro hempty
    have hempty' : quiet.isEmpty = false := hempty
    rw [format_of_people hempty hpeople, format_of_people hempty' hpeople']
    exact formatAll_sumsUp hloud persons
  · intro hempty
    have hempty' : quiet.isEmpty = true := hempty
    exact ⟨format_of_isEmpty hempty, format_of_isEmpty hempty'⟩

/-- A place by a template that makes for two warnings, one of them twice. -/
def warnedTwice : List Text :=
  ["--place".toList, "Ulm".toList, "--place-template".toList,
    "\x7bAGE\x7d\x7bCITY:shout\x7d\x7bAGE\x7d".toList]

theorem warned_twice_summed_up :
    ∃ request, parse warnedTwice = .request request ∧
      parse ("--quiet".toList :: warnedTwice) = .request { request with quiet := true } ∧
      request.quiet = false ∧ request.validate = false ∧ people {} request = .ok [] ∧
      SumsUp ["Unknown placeholder: AGE".toList, "Unknown modifier: shout".toList,
        "Unknown placeholder: AGE".toList] (run {} warnedTwice)
        (run {} ("--quiet".toList :: warnedTwice)) := by
  let request : Request :=
    { input := fun field => if field = .place then some "Ulm".toList else none
      template := fun field => if field = .place then
        some "\x7bAGE\x7d\x7bCITY:shout\x7d\x7bAGE\x7d".toList else none }
  have hwords : words warnedTwice = .ok [.option (.input .place) none, .plain "Ulm".toList,
      .option (.template .place) none,
      .plain "\x7bAGE\x7d\x7bCITY:shout\x7d\x7bAGE\x7d".toList] := by
    decide +kernel
  have hquiet : words ("--quiet".toList :: warnedTwice) = .ok [.option .quiet none,
      .option (.input .place) none, .plain "Ulm".toList, .option (.template .place) none,
      .plain "\x7bAGE\x7d\x7bCITY:shout\x7d\x7bAGE\x7d".toList] := by
    decide +kernel
  have hparse : parse warnedTwice = .request request := (parse_of_words hwords).trans rfl
  have hquieted : parse ("--quiet".toList :: warnedTwice) =
      .request { request with quiet := true } := (parse_of_words hquiet).trans rfl
  have hwarnings : (request.items []).flatMap (Item.warnings request) =
      ["Unknown placeholder: AGE".toList, "Unknown modifier: shout".toList,
        "Unknown placeholder: AGE".toList] := by
    decide +kernel
  exact ⟨request, hparse, hquieted, rfl, rfl, rfl,
    hwarnings ▸ (quiet_run_sums_up_warnings {} hparse hquieted rfl rfl rfl).1 rfl⟩

private theorem exists_previews (hpreview : request.preview = true) (given : List (Field × Text)) :
    ∃ previews : List (List Printed),
      List.Forall₂ (fun field => IsPreview field.1 field.2 (request.template field.1))
        given previews ∧
      (given.map fun field => Item.supplied field.1 field.2).flatMap (Item.previewed request) =
        previews.flatten := by
  induction given with
  | nil => exact ⟨[], .nil, rfl⟩
  | cons field given ih =>
    obtain ⟨previews, hpreviews, hflatten⟩ := ih
    obtain ⟨printed, hshown, hprinted⟩ :=
      printPreview_eq field.1 field.2 (request.template field.1)
    have hitem : (Item.supplied field.1 field.2).previewed request = printed := by
      rw [Item.previewed, if_pos hpreview, Request.templateFor, hprinted]
    refine ⟨printed :: previews, .cons hshown hpreviews, ?_⟩
    rw [List.map_cons, List.flatMap_cons, hitem, hflatten, List.flatten_cons]

theorem previewed_of_no_preview (hpreview : request.preview = false) (items : List Item) :
    items.flatMap (Item.previewed request) = [] := by
  refine List.flatMap_eq_nil_iff.mpr fun item _ => ?_
  cases item with
  | supplied field t => rw [Item.previewed, hpreview, if_neg Bool.false_ne_true]
  | people persons => rfl

private theorem exists_previews_of_items (hpreview : request.preview = true)
    (persons : List People.Person) : ∃ previews : List (List Printed),
      List.Forall₂ (fun given => IsPreview given.1 given.2 (request.template given.1))
        (request.supplies Field.all) previews ∧
      (request.items persons).flatMap (Item.previewed request) = previews.flatten := by
  obtain ⟨previews, hpreviews, hflatten⟩ := exists_previews hpreview (request.supplies Field.all)
  refine ⟨previews, hpreviews, ?_⟩
  rw [Request.items, List.flatMap_append, hflatten]
  cases persons.isEmpty <;> simp [Item.previewed]

/-- A run with previews of the given fields as one without them. Only its results differ, for a
preview of each field stands in front of them. -/
structure Previews (request : Request) (given : List (Field × Text))
    (plain previewed : Action Nat) : Prop where
  outcome_eq : previewed.outcome = plain.outcome
  messages_eq : messages previewed.log = messages plain.log
  results_eq : ∃ previews : List (List Printed),
    List.Forall₂ (fun field => IsPreview field.1 field.2 (request.template field.1))
      given previews ∧
    results previewed.log = results previews.flatten ++ results plain.log

private theorem Previews.refl (request : Request) (run : Action Nat) :
    Previews request [] run run :=
  ⟨rfl, rfl, [], .nil, rfl⟩

private theorem formatAll_previews (hpreview : request.preview = false)
    (persons : List People.Person) :
    Previews request (request.supplies Field.all) (formatAll request persons)
      (formatAll { request with preview := true } persons) := by
  obtain ⟨hwarnings, hrow⟩ := items_of_switches request true request.quiet
  let shown : Request := { request with preview := true }
  obtain ⟨previews, hpreviews, hflatten⟩ :=
    exists_previews_of_items (show shown.preview = true from rfl) persons
  refine ⟨?_, ?_, previews, hpreviews, ?_⟩
  · rw [formatAll_eq, formatAll_eq]
  · rw [messages_formatAll, messages_formatAll, hwarnings]
    rfl
  · rw [results_formatAll, results_formatAll, hflatten, hrow, previewed_of_no_preview hpreview]
    rfl

/-- The fields that a run comes to format, with their texts. -/
def Request.formatted (folder : Storage.Folder) (request : Request) : List (Field × Text) :=
  if request.validate then []
  else
    match people folder request with
    | .ok _ => request.supplies Field.all
    | .error _ => []

private theorem formatted_of_isEmpty (folder : Storage.Folder) (h : request.isEmpty = true) :
    request.formatted folder = [] := by
  rw [Request.formatted]
  split
  · rfl
  · split
    · exact supplies_of_isEmpty h Field.all
    · rfl

private theorem format_previews (folder : Storage.Folder) (hpreview : request.preview = false)
    (hvalidate : request.validate = false) :
    Previews request (request.formatted folder) (format folder request)
      (format folder { request with preview := true }) := by
  let shown : Request := { request with preview := true }
  have hsame : people folder shown = people folder request := rfl
  cases hempty : request.isEmpty with
  | true =>
    have hshown : format folder shown = ⟨nothingToFormat, .ok 1⟩ := format_of_isEmpty hempty
    rw [formatted_of_isEmpty folder hempty, format_of_isEmpty hempty, hshown]
    exact .refl request _
  | false =>
    cases hpeople : people folder request with
    | ok persons =>
      have hformatted : request.formatted folder = request.supplies Field.all := by
        rw [Request.formatted, hvalidate, if_neg Bool.false_ne_true, hpeople]
      have hshown : format folder shown = formatAll shown persons :=
        format_of_people hempty (hsame.trans hpeople)
      rw [hformatted, format_of_people hempty hpeople, hshown]
      exact formatAll_previews hpreview persons
    | error fault =>
      -- The file is read before anything is formatted, so the run comes to no preview.
      have hformatted : request.formatted folder = [] := by
        rw [Request.formatted, hvalidate, if_neg Bool.false_ne_true, hpeople]
      have hshown : format folder shown = format folder request := by
        have hempty' : shown.isEmpty = false := hempty
        rw [format, format, hempty, hempty', hsame, hpeople]
        cases fault <;> rfl
      rw [hformatted, hshown]
      exact .refl request _

/-- Previews go before the rows of a run and change nothing else: neither the exit status nor the
messages nor the rows. Each of the fields that are formatted has one, and the result that it shows
is what the field is written as on its own. -/
theorem previews_precede_same_run (folder : Storage.Folder) {arguments previewed : List Text}
    {request : Request} (h : parse arguments = .request request)
    (hpreviewed : parse previewed = .request { request with preview := true })
    (hpreview : request.preview = false) :
    Previews request (request.formatted folder) (run folder arguments) (run folder previewed) := by
  cases hvalidate : request.validate with
  | true =>
    have hrun : run folder previewed = run folder arguments := by
      simp only [run, h, hpreviewed, Request.run, hvalidate, if_true]
      rfl
    rw [hrun, Request.formatted, hvalidate, if_pos rfl]
    exact .refl request _
  | false =>
    rw [run_eq_format h hvalidate, run_eq_format hpreviewed hvalidate]
    exact format_previews folder hpreview hvalidate

/-- A date by a template that names a placeholder there is not. -/
def datedByAge : List Text :=
  ["--date".toList, "1900".toList, "--date-template".toList, "\x7bYYYY\x7d\x7bAGE\x7d".toList]

theorem dated_by_age_previewed :
    ∃ request, parse datedByAge = .request request ∧
      parse ("--preview".toList :: datedByAge) = .request { request with preview := true } ∧
      request.preview = false ∧ Previews request [(.date, "1900".toList)] (run {} datedByAge)
        (run {} ("--preview".toList :: datedByAge)) := by
  let request : Request :=
    { input := fun field => if field = .date then some "1900".toList else none
      template := fun field =>
        if field = .date then some "\x7bYYYY\x7d\x7bAGE\x7d".toList else none }
  have hwords : words datedByAge = .ok [.option (.input .date) none, .plain "1900".toList,
      .option (.template .date) none, .plain "\x7bYYYY\x7d\x7bAGE\x7d".toList] := by
    decide +kernel
  have hpreview : words ("--preview".toList :: datedByAge) = .ok [.option .preview none,
      .option (.input .date) none, .plain "1900".toList, .option (.template .date) none,
      .plain "\x7bYYYY\x7d\x7bAGE\x7d".toList] := by
    decide +kernel
  have hparse : parse datedByAge = .request request := (parse_of_words hwords).trans rfl
  have hpreviewed : parse ("--preview".toList :: datedByAge) =
      .request { request with preview := true } := (parse_of_words hpreview).trans rfl
  exact ⟨request, hparse, hpreviewed, rfl, previews_precede_same_run {} hparse hpreviewed rfl⟩

end FilingName.CommandLine
