import FilingName.Proofs.Display.Error
import FilingName.Proofs.Display.Preview
import FilingName.Proofs.People.Listing

/-! What a run formats: the fields that were supplied, in their order, and then the people. Each of
them is written on its own, with its warnings and its preview, and none of them can fail; so a run
that reads no people file always comes to its exit status. -/
namespace FilingName.CommandLine
open Console.Markup Display

/-- What is written as one: the text of a field, or all people. -/
inductive Item where
  | supplied (field : Field) (t : Text)
  | people (persons : List People.Person)

/-- Fields with the texts that they were supplied with. -/
def Request.supplies (request : Request) (fields : List Field) : List (Field × Text) :=
  fields.filterMap fun field => (request.input field).map (field, ·)

/-- The fields that were supplied, and the people if there are any. -/
def Request.items (request : Request) (persons : List People.Person) : List Item :=
  (request.supplies Field.all).map (fun given => .supplied given.1 given.2) ++
    if persons.isEmpty then [] else [.people persons]

namespace Item

def word : Item → Text
  | .supplied field _ => field.word
  | .people _ => "people".toList

def input : Item → Text
  | .supplied _ t => t
  | .people persons => Text.join "; ".toList (persons.map People.Person.fullName)

/-- The template that was given for the item, or the one that stands in for it. -/
def template (request : Request) : Item → Text
  | .supplied field _ => field.orDefault (request.templateFor field)
  | .people _ =>
    if request.peopleTemplateText.isEmpty then People.defaultTemplate
    else request.peopleTemplateText

/-- The item as its template writes it, with what is reported on the way. -/
def render (request : Request) : Item → Reported Text
  | .supplied field t => field.render t (request.templateFor field)
  | .people persons =>
    People.list (persons.map .person) ((Item.people persons).template request)

/-- The preview of a field, where previews are asked for. -/
def previewed (request : Request) : Item → List Printed
  | .supplied field t =>
    if request.preview then (printPreview field t (request.templateFor field)).log else []
  | .people _ => []

variable (request : Request) (item : Item)

/-- What is reported of an item, in words. -/
def warnings : List Text := (item.render request).log.map Diagnostic.message

def output : Text := (item.render request).outcome.toOption.getD []

/-- Only fields are sanitized, for every person is written with dashes anyway. -/
def row : Row where
  field := item.word
  input := item.input
  template := item.template request
  output := match item with
    | .supplied _ _ => if request.sanitize then Text.dashed (item.output request)
        else item.output request
    | .people _ => item.output request

/-- What is printed when the item is taken up. -/
def printed : List Printed :=
  (if request.quiet then [] else (item.warnings request).map warningLine) ++ item.previewed request

/-- The warnings that a quiet run keeps for its summary. -/
def held : List Text := if request.quiet then item.warnings request else []

variable {request item}

/-- Every item is written. -/
theorem render_eq : item.render request =
    ⟨(item.render request).log, .ok (item.output request)⟩ := by
  obtain ⟨log, out, h⟩ : ∃ log out, item.render request = ⟨log, .ok out⟩ := by
    cases item with
    | supplied field t => exact field.exists_render t _
    | people persons => exact ⟨_, People.list_persons persons _⟩
  rw [output, h]
  rfl

/-- All that is reported of an item is about names and modifiers of its template. -/
private theorem lettered_of_mem_render {diagnostic : Diagnostic}
    (h : diagnostic ∈ (item.render request).log) : diagnostic.Lettered := by
  cases item with
  | supplied field t => exact Field.lettered_of_mem_render h
  | people persons =>
    obtain ⟨out, hlist⟩ := People.list_persons persons ((people persons).template request)
    rw [render, hlist] at h
    obtain ⟨person, -, hin⟩ := List.mem_flatMap.mp h
    exact Field.lettered_of_mem_render hin

private theorem reportTo_render (request : Request) (item : Item) (quiet : Bool) :
    reportTo quiet (item.render request) =
      ⟨if quiet then [] else (item.warnings request).map warningLine,
        .ok (item.output request, if quiet then item.warnings request else [])⟩ := by
  rw [reportTo_of_ok (fun _ hin => (lettered_of_mem_render hin).plain)
    (congrArg Logged.outcome render_eq), warnings, List.map_map]
  rfl

end Item

variable {request : Request}

private theorem formatField_eq (field : Field) (t : Text) : formatField request field t =
    ⟨(Item.supplied field t).printed request,
      .ok ((Item.supplied field t).row request, (Item.supplied field t).held request)⟩ := by
  obtain ⟨printed, -, hpreview⟩ := printPreview_eq field t (request.template field)
  rw [← Request.templateFor] at hpreview
  have hrender := Item.reportTo_render request (.supplied field t) request.quiet
  rw [Item.render] at hrender
  rw [formatField]
  simp only [hrender]
  rw [Logged.bind_of_ok rfl, Item.printed, Item.previewed, hpreview]
  cases request.preview with
  | true =>
    rw [if_pos rfl, if_pos rfl, Logged.bind_of_ok rfl, Logged.pure_log, List.append_nil]
    rfl
  | false => rfl

private theorem supplies_of_absent {field : Field} (h : request.input field = none)
    (fields : List Field) : request.supplies (field :: fields) = request.supplies fields := by
  rw [Request.supplies, List.filterMap_cons_none (by rw [h]; rfl), Request.supplies]

private theorem supplies_of_given {field : Field} {t : Text} (h : request.input field = some t)
    (fields : List Field) :
    request.supplies (field :: fields) = (field, t) :: request.supplies fields := by
  rw [Request.supplies, List.filterMap_cons_some (by rw [h]; rfl), Request.supplies]

/-- Fields are taken up one after the other. -/
private theorem formatFields_eq (fields : List Field) : formatFields request fields =
    let items := (request.supplies fields).map fun given => Item.supplied given.1 given.2
    ⟨items.flatMap (Item.printed request),
      .ok (items.map (Item.row request), items.flatMap (Item.held request))⟩ := by
  induction fields with
  | nil => rfl
  | cons field fields ih =>
    rw [formatFields]
    cases hinput : request.input field with
    | none =>
      rw [supplies_of_absent hinput]
      exact ih
    | some t =>
      rw [supplies_of_given hinput]
      simp only [formatField_eq, ih]
      rw [Logged.bind_of_ok rfl, Logged.bind_of_ok rfl]
      simp

private theorem formatPeople_eq (persons : List People.Person) : formatPeople request persons =
    let items := if persons.isEmpty then [] else [Item.people persons]
    ⟨items.flatMap (Item.printed request),
      .ok (items.map (Item.row request), items.flatMap (Item.held request))⟩ := by
  rw [formatPeople]
  cases hempty : persons.isEmpty with
  | true => rfl
  | false =>
    have hrender := Item.reportTo_render request (.people persons) request.quiet
    rw [Item.render, Item.template] at hrender
    simp only [Bool.false_eq_true, if_false, hrender]
    rw [Logged.bind_of_ok rfl, List.flatMap_singleton, List.flatMap_singleton]
    rfl

/-- The rows line by line, or all of them in a table. -/
def shownRows (request : Request) (rows : List Row) : List Printed :=
  if request.plain then rows.map fun row => .result (Console.print row.output)
  else [.result (resultsTable (some resultsTitle) rows).print]

private theorem printRows_eq (rows : List Row) :
    printRows request rows = ⟨shownRows request rows, .ok ()⟩ := by
  rw [printRows, shownRows]
  cases request.plain with
  | false => rfl
  | true =>
    simp only [if_true]
    induction rows with
    | nil => rfl
    | cons row rows ih =>
      rw [List.forM, printResult, Logged.entry, Logged.bind_of_ok rfl, ih]
      rfl

/-- What a run prints at its end: the rows, and the summary if it is quiet. -/
def closing (request : Request) (items : List Item) : List Printed :=
  shownRows request (items.map (Item.row request)) ++
    if request.quiet then [.message (summary (items.flatMap (Item.warnings request)))] else []

/-- A run takes up its items in their order and then shows the rows. It never fails. -/
theorem formatAll_eq (persons : List People.Person) : formatAll request persons =
    ⟨(request.items persons).flatMap (Item.printed request) ++
      closing request (request.items persons), .ok 0⟩ := by
  -- A quiet run holds back all warnings, so its summary is of every item.
  have hheld (hquiet : request.quiet = true) : Item.held request = Item.warnings request :=
    funext fun item => if_pos hquiet
  rw [formatAll, formatFields_eq, formatPeople_eq]
  simp only
  rw [Logged.bind_of_ok rfl, Logged.bind_of_ok rfl]
  simp only [← List.map_append, ← List.flatMap_append, printRows_eq]
  rw [Logged.bind_of_ok rfl, closing]
  cases hquiet : request.quiet with
  | true =>
    rw [if_pos rfl, if_pos rfl, hheld hquiet, printMessage, Logged.entry, Logged.bind_of_ok rfl]
    simp [Request.items]
  | false =>
    rw [if_neg Bool.false_ne_true, if_neg Bool.false_ne_true]
    simp [Request.items]

namespace Item
variable {item : Item}

theorem singleLine_of_mem_warnings {warning : Text} (h : warning ∈ item.warnings request) :
    Console.SingleLine warning := by
  obtain ⟨diagnostic, hin, rfl⟩ := List.mem_map.mp h
  exact (lettered_of_mem_render hin).singleLine

private theorem messages_previewed : messages (item.previewed request) = [] := by
  cases item with
  | people persons => rfl
  | supplied field t =>
    obtain ⟨printed, hshown, hpreview⟩ := printPreview_eq field t (request.template field)
    rw [← Request.templateFor] at hpreview
    rw [previewed, hpreview]
    cases request.preview with
    | true => exact hshown.messages_eq_nil
    | false => rfl

end Item

variable {items : List Item}

private theorem results_items :
    results (items.flatMap (Item.printed request)) =
      results (items.flatMap (Item.previewed request)) := by
  induction items with
  | nil => rfl
  | cons item items ih =>
    have hwarnings : results (if request.quiet then []
        else (item.warnings request).map warningLine) = [] := by
      split
      · rfl
      · exact results_warnings _
    simp only [List.flatMap_cons, results_append, ih, Item.printed, hwarnings, List.nil_append]

private theorem messages_items : messages (items.flatMap (Item.printed request)) =
    if request.quiet then []
    else Console.unlines
      ((items.flatMap (Item.warnings request)).map ("Warning: ".toList ++ ·)) := by
  induction items with
  | nil => cases request.quiet <;> rfl
  | cons item items ih =>
    simp only [List.flatMap_cons, messages_append, ih, Item.printed, Item.messages_previewed,
      List.append_nil]
    cases request.quiet with
    | true => rfl
    | false =>
      simp only [Bool.false_eq_true, if_false, List.map_append, Console.unlines,
        List.flatMap_append, messages_warnings fun _ => Item.singleLine_of_mem_warnings]

private theorem messages_shownRows (rows : List Row) : messages (shownRows request rows) = [] := by
  rw [shownRows]
  cases request.plain with
  | false => rfl
  | true =>
    simp only [if_true]
    induction rows with
    | nil => rfl
    | cons row rows ih => exact ih

/-- The results of a run are its previews and then its rows. -/
theorem results_formatAll (persons : List People.Person) :
    results (formatAll request persons).log =
      results ((request.items persons).flatMap (Item.previewed request)) ++
        results (shownRows request ((request.items persons).map (Item.row request))) := by
  rw [formatAll_eq, results_append, results_items, closing, results_append]
  cases request.quiet <;> simp [results]

/-- The messages of a run are its warnings, each where it comes up or summed up at the end. -/
theorem messages_formatAll (persons : List People.Person) :
    messages (formatAll request persons).log =
      if request.quiet then summary ((request.items persons).flatMap (Item.warnings request))
      else Console.unlines (((request.items persons).flatMap (Item.warnings request)).map
        ("Warning: ".toList ++ ·)) := by
  rw [formatAll_eq, messages_append, messages_items, closing, messages_append, messages_shownRows]
  cases request.quiet <;> simp [messages]

variable {folder : Storage.Folder} {arguments : List Text} {persons : List People.Person}

theorem isEmpty_iff : request.isEmpty = true ↔
    (∀ field, request.input field = none) ∧ request.persons = [] ∧ request.peopleFile = none := by
  have hall : (∀ field ∈ Field.all, request.input field = none) ↔
      ∀ field, request.input field = none :=
    ⟨fun h field => h field (by cases field <;> decide), fun h field _ => h field⟩
  simp [Request.isEmpty, ← hall, and_assoc]

theorem supplies_of_isEmpty (h : request.isEmpty = true) (fields : List Field) :
    request.supplies fields = [] :=
  List.filterMap_eq_nil_iff.mpr fun field _ => by rw [(isEmpty_iff.mp h).1 field]; rfl

/-- What a run prints that was given nothing. -/
def nothingToFormat : List Printed :=
  [.message usage,
    errorLine "Nothing to format (use --date, --name, --place, --person or --people-file)".toList]

theorem format_of_isEmpty (h : request.isEmpty = true) :
    format folder request = ⟨nothingToFormat, .ok 1⟩ := by
  have hplain : Plain
      "Nothing to format (use --date, --name, --place, --person or --people-file)".toList := by
    decide
  rw [format, if_pos h, (error_eq_iff hplain.not_suffix).mpr hplain.unmarked]
  rfl

theorem format_of_people (hempty : request.isEmpty = false)
    (h : people folder request = .ok persons) :
    format folder request = formatAll request persons := by
  rw [format, if_neg (by simp [hempty]), h]

theorem parse_of_words {row : List Word} (h : words arguments = .ok row) :
    parse arguments = parseWords {} [] row := by
  rw [parse, h]

theorem run_eq_format (h : parse arguments = .request request)
    (hvalidate : request.validate = false) : run folder arguments = format folder request := by
  simp only [run, h, Request.run, hvalidate, Bool.false_eq_true, if_false]

/-- A run that neither checks templates nor reads a people file comes to an exit status, whatever it
is given: to one if that is nothing at all, and to zero if there is something to format. -/
theorem run_without_file_never_fails (folder : Storage.Folder) {arguments : List Text}
    {request : Request} (h : parse arguments = .request request)
    (hvalidate : request.validate = false) (hfile : request.peopleFile = none) :
    ((∀ field, request.input field = none) ∧ request.persons = [] →
      (run folder arguments).outcome = .ok 1) ∧
    ((∃ field, request.input field ≠ none) ∨ request.persons ≠ [] →
      (run folder arguments).outcome = .ok 0) := by
  have hpeople : people folder request = .ok (request.persons.map People.Person.ofText) := by
    rw [people, hfile]
    rfl
  rw [run_eq_format h hvalidate]
  constructor
  · rintro ⟨hfields, hpersons⟩
    rw [format_of_isEmpty (isEmpty_iff.mpr ⟨hfields, hpersons, hfile⟩)]
  · intro hgiven
    have hempty : request.isEmpty = false := by
      rw [← Bool.not_eq_true, isEmpty_iff]
      rintro ⟨hfields, hpersons, -⟩
      rcases hgiven with ⟨field, hfield⟩ | hperson
      · exact hfield (hfields field)
      · exact hperson hpersons
    rw [format_of_people hempty hpeople, formatAll_eq]

/-- A place that looks like markup, by a template that does so too, with a preview. -/
def bracketedPlace : List Text :=
  ["--place".toList, "[/i] \\[b]".toList, "--place-template".toList,
    "[/]\x7bCITY:shout\x7d\x7bAGE\x7d".toList, "--preview".toList]

theorem bracketed_place_formatted :
    ∃ request, parse bracketedPlace = .request request ∧ request.validate = false ∧
      request.peopleFile = none ∧ request.input .place ≠ none ∧
      (run {} bracketedPlace).outcome = .ok 0 := by
  let request : Request :=
    { input := fun field => if field = .place then some "[/i] \\[b]".toList else none
      template := fun field =>
        if field = .place then some "[/]\x7bCITY:shout\x7d\x7bAGE\x7d".toList else none
      preview := true }
  have hwords : words bracketedPlace = .ok [.option (.input .place) none,
      .plain "[/i] \\[b]".toList, .option (.template .place) none,
      .plain "[/]\x7bCITY:shout\x7d\x7bAGE\x7d".toList, .option .preview none] := by
    decide +kernel
  have hparse : parse bracketedPlace = .request request := (parse_of_words hwords).trans rfl
  have hplace : request.input .place ≠ none := Option.some_ne_none _
  exact ⟨request, hparse, rfl, rfl, hplace,
    (run_without_file_never_fails {} hparse rfl rfl).2 (.inl ⟨.place, hplace⟩)⟩

end FilingName.CommandLine
