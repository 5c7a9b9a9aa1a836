import FilingName.Operation.OnValues

/-! The operations of the library, what they answer, and what they report on the way. -/
namespace FilingName

/-- A caller's request for one operation. -/
inductive Operation where
  | applyModifier (value modifier : Value)
  | titleCase (text : Value)
  | lastModifier (chain : Value)
  | parseTemplate (template : Value)
  | format (name value : Value)
  | process (template record : Value)
  | preview (template record : Value)
  | validate (template : Value)
  | requireValid (template : Value)
  | required (template : Value)
  /-- Only places ask for the countries that are known; null stands for the library's own. -/
  | parseField (field : Field) (text countries : Value)
  | isCountry (segment countries : Value)
  | render (field : Field) (text template : Value)
  /-- There are no entries where the people are no list, and the default template where none is
  given. -/
  | people (entries : List People.Entry) (template : Option Value)
  | person (data : Value)
  | personFromText (text : Value)
  | splitTemplate (template : Value)
  | sanitize (text : Value)
  | loadPeople (folder : Storage.Folder) (path : Value)

inductive Answer where
  | nothing
  | value (value : Value)
  | segments (segments : List Template.Segment)
  | preview (template : Value) (preview : Template.Engine.Preview)
  /-- The first problem of a template, if it has one. -/
  | validity (problem : Option Template.Problem)
  | names (names : List Text)
  | fields (fields : List (String × Text))
  | persons (persons : List People.Person)
  | person (person : People.Person)
  | parts (before after : Text)

namespace Operation

/-- What an operation reports and answers; an engine belongs to those on templates. -/
abbrev Work : Type → Type := Logged Diagnostic Failure

def ofReported {α : Type} (x : Reported α) : Work α := x.convert id .value

def ofExcept {α : Type} (x : Except ValueFault α) : Work α := ⟨[], x.mapError .value⟩

private def text (x : Except ValueFault Text) : Work Answer := do
  return .value (.text (← ofExcept x))

def run (engine : Template.Engine) : Operation → Work Answer
  | .applyModifier value modifier => do
    return .value (← ofReported (OnValues.applyModifier value modifier))
  | .titleCase t => text (OnValues.titleCase t)
  | .lastModifier chain => text (OnValues.lastModifier chain)
  | .parseTemplate template => do
    return .segments (Template.parse (← ofExcept (OnValues.searchable template)))
  | .format name value => text (OnValues.format name value)
  | .process template record => do
    return .value (.text (← ofReported (engine.process (OnValues.templateText template) record)))
  | .preview template record => do
    return .preview template (← ofReported (engine.preview (OnValues.templateText template) record))
  | .validate template => do
    return .validity (← ofExcept (OnValues.problem? engine.keyMap template))
  | .requireValid template => do
    match ← ofExcept (OnValues.problem? engine.keyMap template) with
    | none => return .value template
    | some problem => ⟨[], .error (.template problem)⟩
  | .required template =>
    return .names (OnValues.sorted (Template.required (OnValues.templateText template)))
  | .parseField field t countries => do
    return .fields (← ofExcept (OnValues.parseField field t countries))
  | .isCountry segment countries => do
    return .value (.truth (← ofExcept (OnValues.isCountry segment countries)))
  | .render field t template => do
    return .value (.text (← ofReported (OnValues.render field t template)))
  | .people entries template => do
    return .value (.text (← ofReported (OnValues.people entries template)))
  | .person data => do return .person (← ofExcept (People.Person.ofMapping data))
  | .personFromText t => do
    return .person (People.Person.ofText (← ofExcept (OnValues.blankOr .trim t)))
  | .splitTemplate template => do
    let (before, after) ← ofExcept (OnValues.splitTemplate template)
    return .parts before after
  | .sanitize t => text (OnValues.sanitize t)
  | .loadPeople folder path => do
    return .persons (← (⟨[], OnValues.loadPeople folder path⟩ : Work _))

end Operation
end FilingName
