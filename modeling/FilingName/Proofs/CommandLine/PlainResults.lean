import FilingName.Proofs.CommandLine.Switches
import FilingName.Proofs.Operation

/-! What a plain run prints: what the library writes for each item on its own, on lines of its own.
The console shows it as it is but for controls, which it leaves out, and tabs, which it expands. -/
namespace FilingName.CommandLine
open Display

/-- What the library writes for an item that it is handed alone. In a sanitized run what is written
for a field is sanitized then. -/
inductive Item.Writes (engine : Template.Engine) (request : Request) : Item → Text → Prop
  | supplied {field : Field} {t out : Text} {log : List Diagnostic} :
      request.sanitize = false →
      Operation.run engine (.render field (.text t) (.ofText? (request.template field))) =
        ⟨log, .ok (.value (.text out))⟩ →
      Writes engine request (.supplied field t) out
  | sanitized {field : Field} {t out shown : Text} {log : List Diagnostic} :
      request.sanitize = true →
      Operation.run engine (.render field (.text t) (.ofText? (request.template field))) =
        ⟨log, .ok (.value (.text out))⟩ →
      Operation.run engine (.sanitize (.text out)) = pure (.value (.text shown)) →
      Writes engine request (.supplied field t) shown
  | people {persons : List People.Person} {out : Text} {log : List Diagnostic} :
      Operation.run engine (.people (persons.map .person)
        (some (.text ((Item.people persons).template request)))) =
        ⟨log, .ok (.value (.text out))⟩ →
      Writes engine request (.people persons) out

variable {request : Request}

private theorem Item.writes_row (engine : Template.Engine) (item : Item) :
    item.Writes engine request (item.row request).output := by
  have hrender : item.render request = ⟨(item.render request).log, .ok (item.output request)⟩ :=
    render_eq
  cases item with
  | supplied field t =>
    have hwritten := Operation.run_render_ofText? engine field (some t) (request.template field)
      hrender
    cases hsanitize : request.sanitize with
    | false =>
      simp only [Item.row, hsanitize]
      exact .supplied hsanitize hwritten
    | true =>
      simp only [Item.row, hsanitize]
      exact .sanitized hsanitize hwritten (Operation.run_sanitize engine _)
  | people persons =>
    rw [Item.render] at hrender
    by_cases hnobody : persons = []
    · subst hnobody
      exact @Writes.people engine request [] [] [] rfl
    · have hentries : persons.map People.Entry.person ≠ [] := by simpa using hnobody
      exact .people (People.run_people_of_list hentries hrender)

/-- An item is written in one way only. -/
private theorem Item.Writes.unique {engine : Template.Engine} {item : Item} {out other : Text}
    (h : item.Writes engine request out) (hother : item.Writes engine request other) :
    out = other := by
  cases h with
  | supplied hsanitize hrun =>
    cases hother with
    | supplied _ hrun' =>
      cases hrun.symm.trans hrun'
      rfl
    | sanitized hsanitize' _ _ => cases hsanitize.symm.trans hsanitize'
  | sanitized hsanitize hrun hshown =>
    cases hother with
    | supplied hsanitize' _ => cases hsanitize.symm.trans hsanitize'
    | sanitized _ hrun' hshown' =>
      cases hrun.symm.trans hrun'
      cases hshown.symm.trans hshown'
      rfl
  | people hrun =>
    cases hother with
    | people hrun' =>
      cases hrun.symm.trans hrun'
      rfl

private theorem Item.writes_rows (engine : Template.Engine) (items : List Item) :
    List.Forall₂ (Item.Writes engine request) items
      (items.map fun item => (item.row request).output) := by
  rw [List.forall₂_map_right_iff, List.forall₂_same]
  exact fun item _ => item.writes_row engine

private theorem items_of_isEmpty {folder : Storage.Folder} {persons : List People.Person}
    (h : request.isEmpty = true) (hpeople : people folder request = .ok persons) :
    request.items persons = [] := by
  obtain ⟨-, hpersons, hfile⟩ := isEmpty_iff.mp h
  rw [people, hfile, hpersons] at hpeople
  obtain rfl : [] = persons := Except.ok.inj hpeople
  rw [Request.items, supplies_of_isEmpty h]
  rfl

private theorem results_shownRows (hplain : request.plain = true) (rows : List Row) :
    results (shownRows request rows) = rows.flatMap fun row => Console.print row.output := by
  rw [shownRows, if_pos hplain, results, List.flatMap_map]

/-- The results of a plain run without previews are the outputs of its rows. -/
private theorem results_run (folder : Storage.Folder) {arguments : List Text}
    {persons : List People.Person} (h : parse arguments = .request request)
    (hplain : request.plain = true) (hpreview : request.preview = false)
    (hvalidate : request.validate = false) (hpeople : people folder request = .ok persons) :
    results (run folder arguments).log =
      ((request.items persons).map fun item => (item.row request).output).flatMap
        Console.print := by
  rw [run_eq_format h hvalidate]
  cases hempty : request.isEmpty with
  | true =>
    rw [format_of_isEmpty hempty, items_of_isEmpty hempty hpeople]
    rfl
  | false =>
    rw [format_of_people hempty hpeople, results_formatAll, previewed_of_no_preview hpreview,
      results_shownRows hplain, List.flatMap_map, List.flatMap_map]
    rfl

/-- A plain run prints what the library writes for each item alone, in the order of the items. Each
text stands on lines of its own; they are exactly as they were written if there is no tab and no
control in any of them, and otherwise nothing but these, and the spaces for tabs, is different. -/
theorem plain_run_prints_outputs (engine : Template.Engine) (folder : Storage.Folder)
    {arguments : List Text} {request : Request} {persons : List People.Person}
    (h : parse arguments = .request request) (hplain : request.plain = true)
    (hpreview : request.preview = false) (hvalidate : request.validate = false)
    (hpeople : people folder request = .ok persons) :
    ∃ outputs, List.Forall₂ (Item.Writes engine request) (request.items persons) outputs ∧
      results (run folder arguments).log = outputs.flatMap Console.print ∧
      (results (run folder arguments).log = Console.unlines outputs ↔
        ∀ output ∈ outputs, Console.Verbatim output) ∧
      (results (run folder arguments).log).filter Console.alwaysShown =
        (Console.unlines outputs).filter Console.alwaysShown := by
  have hresults := results_run folder h hplain hpreview hvalidate hpeople
  refine ⟨_, Item.writes_rows engine _, hresults, ?_, ?_⟩
  · rw [hresults]
    exact Console.flatMap_print_eq_unlines_iff
  · rw [hresults]
    exact Console.filter_flatMap_print _

/-- A name in brackets, to be sanitized, and a person. -/
def bracketedName : List Text :=
  ["--plain".toList, "--sanitize".toList, "--name".toList, "Ann Roe".toList,
    "--name-template".toList, "[b]{GIVEN} :x: {SURNAME}".toList, "--person".toList,
    "Jane Doe".toList]

theorem bracketed_name_printed : ∃ request,
    parse bracketedName = .request request ∧ request.plain = true ∧ request.preview = false ∧
      request.validate = false ∧ people {} request = .ok [People.Person.ofText "Jane Doe".toList] ∧
      results (run {} bracketedName).log =
        Console.unlines ["[b]Ann-:x:-Roe".toList, "Jane.Doe".toList] := by
  let request : Request :=
    { input := fun field => if field = .name then some "Ann Roe".toList else none
      template := fun field =>
        if field = .name then some "[b]{GIVEN} :x: {SURNAME}".toList else none
      persons := ["Jane Doe".toList]
      plain := true
      sanitize := true }
  have hwords : words bracketedName = .ok [.option .plain none, .option .sanitize none,
      .option (.input .name) none, .plain "Ann Roe".toList, .option (.template .name) none,
      .plain "[b]{GIVEN} :x: {SURNAME}".toList, .option .person none,
      .plain "Jane Doe".toList] := by
    decide +kernel
  have hparse : parse bracketedName = .request request := (parse_of_words hwords).trans rfl
  have hrows : (request.items [People.Person.ofText "Jane Doe".toList]).map
      (fun item => (item.row request).output) =
        ["[b]Ann-:x:-Roe".toList, "Jane.Doe".toList] := by
    decide +kernel
  obtain ⟨outputs, hwrites, -, hverbatim, -⟩ :=
    plain_run_prints_outputs ⟨.null, .null⟩ {} hparse rfl rfl rfl rfl
  have houtputs : outputs = ["[b]Ann-:x:-Roe".toList, "Jane.Doe".toList] :=
    (List.right_unique_forall₂' (fun _ _ _ h hother => h.unique hother) hwrites
      (Item.writes_rows _ _)).trans hrows
  subst houtputs
  refine ⟨request, hparse, rfl, rfl, rfl, rfl, hverbatim.mpr ?_⟩
  decide

/-- A name by a template with a tab in it. -/
def tabbedName : List Text :=
  ["--plain".toList, "--name".toList, "a".toList, "--name-template".toList, "x\ty{GIVEN}".toList]

/-- The tab is written for the name, and it is not what is printed. -/
theorem tab_expanded_in_plain_run : ∃ request,
    parse tabbedName = .request request ∧ request.plain = true ∧ request.preview = false ∧
      request.validate = false ∧ people {} request = .ok [] ∧
      request.items [] = [.supplied .name "a".toList] ∧
      Item.Writes ⟨.null, .null⟩ request (.supplied .name "a".toList) "x\tya".toList ∧
      results (run {} tabbedName).log = "x       ya\n".toList ∧
      results (run {} tabbedName).log ≠ Console.unlines ["x\tya".toList] := by
  let request : Request :=
    { input := fun field => if field = .name then some "a".toList else none
      template := fun field => if field = .name then some "x\ty{GIVEN}".toList else none
      plain := true }
  have hwords : words tabbedName = .ok [.option .plain none, .option (.input .name) none,
      .plain "a".toList, .option (.template .name) none, .plain "x\ty{GIVEN}".toList] := by
    decide +kernel
  have hparse : parse tabbedName = .request request := (parse_of_words hwords).trans rfl
  have houtput : ((Item.supplied .name "a".toList).row request).output = "x\tya".toList := by
    decide +kernel
  have hresults : results (run {} tabbedName).log = "x       ya\n".toList := by
    have hrows : results (run {} tabbedName).log = [((Item.supplied .name "a".toList).row
        request).output].flatMap Console.print := results_run {} hparse rfl rfl rfl rfl
    rw [hrows, houtput]
    decide
  refine ⟨request, hparse, rfl, rfl, rfl, rfl, rfl, ?_, hresults, ?_⟩
  · exact houtput ▸ Item.writes_row _ _
  · rw [hresults]
    decide

end FilingName.CommandLine
