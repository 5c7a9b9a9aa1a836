import FilingName.Proofs.Display
import FilingName.Proofs.Display.Error
import FilingName.Proofs.People.File
import FilingName.Proofs.Template.Validity

/-! How a run reports the errors that it finds: invalid templates, each by its option, and a bad
people file. -/
namespace FilingName
open Console.Markup

private theorem Text.not_suffix_quoted (t : Text) : ¬ ['\\'] <:+ quoted t := by
  rw [quoted]
  split <;> exact not_suffix_append (by decide) (by decide)

namespace Template

private theorem Token.WellFormed.plain_of_offends {token : Token} (h : token.WellFormed)
    {named : Text} (hoffends : token.Offends named) : Plain named := by
  obtain ⟨chain, hchain, -, last, hlast, rfl⟩ := hoffends
  have hcharacters {c : Char} (hc : isChainCharacter c = false) : c ∉ chain := fun hin =>
    absurd (h.chain_characters chain hchain c hin) (by simp [hc])
  have hopen := hcharacters (c := '[') (by decide)
  have hescape := hcharacters (c := '\\') (by decide)
  split
  · exact ⟨hopen, hescape⟩
  · exact ⟨fun hc => hopen (hlast.mem hc), fun hc => hescape (hlast.mem hc)⟩

/-- Of the reasons that a template is not valid only a brace outside every token quotes more than
names. -/
private theorem Rejected.strayBrace_or_plain {keys : List Text} {t message : Text}
    (h : Rejected keys t message) :
    (∃ literal, message = "Invalid brace syntax found in '".toList ++ literal ++ "'".toList) ∨
      Plain message := by
  have hformed := (splits_parse t).wellFormed
  cases h with
  | @strayBrace before after literal => exact .inl ⟨literal, rfl⟩
  | @unknownPlaceholders names _ _ hnames _ =>
    refine .inr (plain_append.mpr ⟨by decide, plain_join (by decide) fun name hin => ?_⟩)
    rw [hnames] at hin
    obtain ⟨token, htoken, rfl⟩ := mem_required.mp (List.mem_filter.mp hin).1
    exact (hformed token (mem_tokens.mp htoken)).plain_name
  | @unknownModifiers modifiers _ _ _ hmodifiers =>
    refine .inr (plain_append.mpr ⟨by decide, plain_join (by decide) fun named hin => ?_⟩)
    obtain ⟨token, htoken, hoffends⟩ := (hmodifiers.mem_iff named).mp hin
    exact (hformed token (mem_tokens.mp htoken)).plain_of_offends hoffends

private theorem Rejected.not_suffix {keys : List Text} {t message : Text}
    (h : Rejected keys t message) (start : Text) : ¬ ['\\'] <:+ start ++ ": ".toList ++ message := by
  rcases h.strayBrace_or_plain with ⟨literal, rfl⟩ | hplain
  · rw [← List.append_assoc]
    exact Text.not_suffix_append (by decide) (by decide)
  · rw [List.append_assoc]
    refine Text.not_suffix_append (by simp) (Plain.not_suffix ?_)
    exact plain_append.mpr ⟨by decide, hplain⟩

end Template

private theorem Storage.Problem.not_suffix (problem : Problem) (path : Path) :
    problem.message path ≠ [] ∧ ¬ ['\\'] <:+ problem.message path := by
  have hquoted : Text.quoted path.text ≠ [] := List.cons_ne_nil _ _
  unfold message
  exact ⟨List.append_ne_nil_of_right_ne_nil _ hquoted,
    Text.not_suffix_append hquoted (Text.not_suffix_quoted _)⟩

private theorem Json.SyntaxFault.not_suffix (fault : SyntaxFault) :
    fault.message ≠ [] ∧ ¬ ['\\'] <:+ fault.message := by
  have hclose : ")".toList ≠ [] := by decide
  unfold message
  exact ⟨List.append_ne_nil_of_right_ne_nil _ hclose, Text.not_suffix_append hclose (by decide)⟩

private theorem People.File.Problem.not_suffix (path : Text) (problem : Problem) :
    ¬ ['\\'] <:+ problem.message path := by
  cases problem with
  | unreadable problem =>
    obtain ⟨hne, hend⟩ := problem.not_suffix (Storage.Path.ofText path)
    unfold message
    exact Text.not_suffix_append hne hend
  | malformed fault =>
    obtain ⟨hne, hend⟩ := fault.not_suffix
    unfold message
    exact Text.not_suffix_append hne hend
  | notList | notMapping entry =>
    unfold message
    exact Text.not_suffix_append (by decide) (by decide)

namespace CommandLine
open Display

/-- What becomes of the errors that a run has found. They are the only thing that is printed, and
then the exit status is one, unless markup has a fault. They are shown in their order as far as
nothing in them is taken out, and only then all of them are shown in full. -/
structure Reports (run : Action Nat) (errors : List Text) : Prop where
  results_eq_nil : results run.log = []
  outcome : run.outcome = .ok 1 ∨ ∃ fault, run.outcome = .error (.markup fault)
  shown_before : ∀ before, before <+: errors → (∀ message ∈ before, Unmarked message) →
    before.map errorLine <+: run.log
  in_full_iff : run = ⟨errors.map errorLine, .ok 1⟩ ↔ ∀ message ∈ errors, Unmarked message

private theorem reports {errors : List Text} (h : ∀ message ∈ errors, ¬ ['\\'] <:+ message) :
    Reports (do errors.forM error; return 1) errors := by
  obtain ⟨hresults, houtcome⟩ := forM_error_cases errors
  have hmap : (do errors.forM error; return 1 : Action Nat) =
      (fun _ => 1) <$> errors.forM error := bind_pure_comp _ _
  rw [hmap]
  refine ⟨?_, ?_, ?_, ?_⟩
  · rw [Logged.map_log, hresults]
  · rw [Logged.map_outcome]
    rcases houtcome with hok | ⟨fault, hfault⟩
    · exact .inl (by rw [hok]; rfl)
    · exact .inr ⟨fault, by rw [hfault]; rfl⟩
  · rintro before ⟨after, rfl⟩ hunmarked
    rw [Logged.map_log, forM_error_log_append (fun message hin => h message
      (List.mem_append_left after hin)) hunmarked]
    exact List.prefix_append _ _
  · rw [← forM_error_iff h, Logged.ext_iff, Logged.ext_iff, Logged.map_log, Logged.map_outcome]
    refine and_congr_right fun _ => ?_
    cases (errors.forM error).outcome <;> simp

/-- The options that templates are supplied with, and the field whose placeholders each takes. -/
def templateOptions : List (Setting × Field) :=
  [(.template .date, .date), (.template .name, .name), (.template .place, .place),
    (.peopleTemplate, .name)]

/-- The template that was supplied with an option. -/
def Request.supplied (request : Request) : Setting → Text
  | .template field => request.templateFor field
  | .peopleTemplate => request.peopleTemplateText
  | _ => []

/-- What is checked of it: without the delimiter, for people. -/
def Request.checked (request : Request) (setting : Setting) : Text :=
  if setting = .peopleTemplate then (People.splitTemplate (request.supplied setting)).1
  else request.supplied setting

/-- The placeholders that there are for a field. -/
def placeholders : Field → List Text
  | .date => Template.dateFields.map (·.1.toList)
  | .name => Template.nameFields.map (·.1.toList)
  | .place => Template.placeFields.map (·.1.toList)

/-- The errors of the templates that were supplied with a row of options: one for every template
that is not valid, with its option and the reason. -/
inductive Errors (request : Request) : List (Setting × Field) → List Text → Prop
  | nil : Errors request [] []
  | absent {setting : Setting} {field : Field} {row : List (Setting × Field)} {errors : List Text} :
      request.supplied setting = [] → Errors request row errors →
      Errors request ((setting, field) :: row) errors
  | valid {setting : Setting} {field : Field} {row : List (Setting × Field)} {errors : List Text} :
      request.supplied setting ≠ [] →
      Template.Accepted (placeholders field) (request.checked setting) →
      Errors request row errors → Errors request ((setting, field) :: row) errors
  | invalid {setting : Setting} {field : Field} {row : List (Setting × Field)}
      {errors : List Text} {message : Text} : request.supplied setting ≠ [] →
      ¬ Template.Accepted (placeholders field) (request.checked setting) →
      Template.Rejected (placeholders field) (request.checked setting) message →
      Errors request row errors →
      Errors request ((setting, field) :: row)
        ((setting.long ++ ": ".toList ++ message) :: errors)

private theorem Errors.not_suffix {request : Request} {row : List (Setting × Field)}
    {errors : List Text} (h : Errors request row errors) :
    ∀ message ∈ errors, ¬ ['\\'] <:+ message := by
  induction h with
  | nil => exact List.forall_mem_nil _
  | absent _ _ ih => exact ih
  | valid _ _ _ ih => exact ih
  | @invalid setting _ _ _ _ _ _ hrejected _ ih =>
    exact List.forall_mem_cons.mpr ⟨hrejected.not_suffix setting.long, ih⟩

/-- The templates that were supplied with a row of options, as they are checked. -/
def givenWith (request : Request) (row : List (Setting × Field)) : List (Setting × Value × Text) :=
  ((row.map fun option => (option.1, option.2.keyMap, request.supplied option.1)).filter
    fun given => !given.2.2.isEmpty).map fun (setting, keyMap, t) =>
      (setting, keyMap, if setting = .peopleTemplate then (People.splitTemplate t).1 else t)

theorem givenTemplates_eq (request : Request) :
    request.givenTemplates = givenWith request templateOptions := rfl

private theorem givenWith_of_absent {request : Request} {setting : Setting}
    (h : request.supplied setting = []) (field : Field) (row : List (Setting × Field)) :
    givenWith request ((setting, field) :: row) = givenWith request row := by
  rw [givenWith, List.map_cons, List.filter_cons_of_neg (by simp [h])]
  rfl

private theorem givenWith_of_supplied {request : Request} {setting : Setting}
    (h : request.supplied setting ≠ []) (field : Field) (row : List (Setting × Field)) :
    givenWith request ((setting, field) :: row) =
      (setting, field.keyMap, request.checked setting) :: givenWith request row := by
  rw [givenWith, List.map_cons, List.filter_cons_of_pos (by simpa using h), List.map_cons]
  rfl

private theorem exists_keyMap (field : Field) : ∃ entries : List (Text × Value),
    field.keyMap = .mapping entries ∧ entries.map Prod.fst = placeholders field := by
  cases field <;> exact ⟨_, rfl, rfl⟩

theorem exists_problems (request : Request) (row : List (Setting × Field)) :
    ∃ errors, problems (givenWith request row) = .ok errors ∧ Errors request row errors := by
  induction row with
  | nil => exact ⟨[], rfl, .nil⟩
  | cons option row ih =>
    obtain ⟨setting, field⟩ := option
    obtain ⟨errors, hproblems, herrors⟩ := ih
    by_cases hsupplied : request.supplied setting = []
    · exact ⟨errors, by rw [givenWith_of_absent hsupplied, hproblems], .absent hsupplied herrors⟩
    · obtain ⟨entries, hkeyMap, hnames⟩ := exists_keyMap field
      obtain ⟨verdict, hverdict, hreason⟩ :=
        Template.verdict_of_problem? entries (request.checked setting)
      rw [hnames] at hreason
      rw [givenWith_of_supplied hsupplied, hkeyMap, problems, hverdict, hproblems]
      cases verdict with
      | none => exact ⟨errors, rfl, .valid hsupplied hreason herrors⟩
      | some problem => exact ⟨_, rfl, .invalid hsupplied hreason.1 hreason.2 herrors⟩

private theorem styleWord_green : StyleWord "green".toList :=
  .of_bare ⟨by decide, by decide +kernel, by decide +kernel, by decide⟩

private theorem validate_of_problems {request : Request} {errors : List Text}
    (h : problems request.givenTemplates = .ok errors) : validate request =
      if errors.isEmpty then
        ⟨[.message (Console.print "All templates are valid".toList)], .ok 0⟩
      else do errors.forM error; return 1 := by
  have hgreen : Plain "All templates are valid".toList := by decide
  rw [validate, h, orFail, Except.mapError, Logged.bind_of_ok rfl]
  split
  · rw [printColored_unmarked styleWord_green hgreen.not_suffix hgreen.unmarked]
    rfl
  · rfl

/-- A bad people file is reported as the one error of the run. -/
private theorem format_of_problem {folder : Storage.Folder} {request : Request} {given path : Text}
    {cause : People.File.Problem} (hgiven : request.peopleFile = some given)
    (hload : People.File.load folder (Storage.Path.ofText given).text =
      .error (.problem path cause)) :
    format folder request = do [cause.message path].forM error; return 1 := by
  rw [People.File.format_eq_proceed hgiven, hload, People.File.proceed]
  simp only [List.forM, bind_assoc, pure_bind]

/-- A run that checks templates finds the errors of all that are not valid, and a run that is given
a people file finds what is wrong with it. The errors are shown in full, and the exit status is one,
unless markup takes something out of one of them. -/
theorem errors_shown_unless_marked (folder : Storage.Folder) {arguments : List Text}
    {request : Request} (h : parse arguments = .request request) :
    (request.validate = true → ∃ errors, Errors request templateOptions errors ∧
      (errors = [] → run folder arguments =
        ⟨[.message (Console.print "All templates are valid".toList)], .ok 0⟩) ∧
      (errors ≠ [] → Reports (run folder arguments) errors)) ∧
    (request.validate = false → ∀ given path cause, request.peopleFile = some given →
      People.File.load folder (Storage.Path.ofText given).text = .error (.problem path cause) →
      Reports (run folder arguments) [cause.message path]) := by
  have hrun : run folder arguments = request.run folder := by rw [run, h]
  rw [hrun, Request.run]
  constructor
  · intro hvalidate
    obtain ⟨errors, hproblems, herrors⟩ := exists_problems request templateOptions
    rw [← givenTemplates_eq] at hproblems
    rw [if_pos hvalidate, validate_of_problems hproblems]
    refine ⟨errors, herrors, ?_, ?_⟩
    · rintro rfl
      rfl
    · intro hne
      rw [if_neg (by simpa using hne)]
      exact reports herrors.not_suffix
  · intro hvalidate given path cause hgiven hload
    have hcause : ∀ message ∈ [cause.message path], ¬ ['\\'] <:+ message := by
      rw [List.forall_mem_singleton]
      exact cause.not_suffix path
    rw [if_neg (by simp [hvalidate]), format_of_problem hgiven hload]
    exact reports hcause

theorem missing_file_reported :
    parse ["--people-file".toList, "p.json".toList] =
        .request { peopleFile := some "p.json".toList } ∧
      Reports (run {} ["--people-file".toList, "p.json".toList])
       ["Cannot read people file p.json: [Errno 2] No such file or directory: 'p.json'".toList] := by
  have hmessage : (People.File.Problem.unreadable .notFound).message "p.json".toList =
      "Cannot read people file p.json: [Errno 2] No such file or directory: 'p.json'".toList := by
    decide +kernel
  refine ⟨rfl, ?_⟩
  rw [← hmessage]
  exact (errors_shown_unless_marked {} rfl).2 rfl _ _ _ rfl rfl

theorem closing_tag_in_template_ends_the_run : ∃ position,
    run {} ["--validate".toList, "--date-template".toList, "\x7b[/i]".toList] =
      ⟨[], .error (.markup (.notOpen "[/i]".toList position))⟩ := by
  obtain ⟨request, hparse, hvalidate, hproblems⟩ : ∃ request,
      parse ["--validate".toList, "--date-template".toList, "\x7b[/i]".toList] =
        .request request ∧ request.validate = true ∧ problems request.givenTemplates =
          .ok ["--date-template: Invalid brace syntax found in '\x7b[/i]'".toList] :=
    ⟨_, rfl, rfl, by decide +kernel⟩
  have hplain : Plain "--date-template: Invalid brace syntax found in '\x7b".toList := by decide
  have hitalic : Console.Style.normalForm "i".toList = .ok "italic".toList := rfl
  obtain ⟨position, herror⟩ := error_of_closing_tag hplain.not_suffix hplain.unmarked
    (show IsInner "/i".toList from ⟨by decide, List.all_eq_true.mp (by decide)⟩) rfl (by decide)
    hitalic (by decide) "'".toList
  have hmessage : "--date-template: Invalid brace syntax found in '\x7b".toList ++
      '[' :: ("/i".toList ++ ']' :: "'".toList) =
        "--date-template: Invalid brace syntax found in '\x7b[/i]'".toList := by decide
  rw [hmessage] at herror
  refine ⟨position, ?_⟩
  rw [run, hparse]
  simp only [Request.run, hvalidate, if_true]
  rw [validate_of_problems hproblems, if_neg (by decide), forM_error_cons_of_error herror,
    Logged.bind_of_error rfl]
  rfl

end CommandLine
end FilingName
