import FilingName.CommandLine.Setting
import FilingName.Text.DecimalDigit
import FilingName.Text.Quoted

/-!
From the words of a command line to a request. Long options may be cut short as long as one option
is meant; every word is first taken for an option or for plain text, and only then do options find
their arguments.
-/
namespace FilingName.CommandLine

/-- What a run is asked to do. -/
structure Request where
  input : Field → Option Text := fun _ => none
  template : Field → Option Text := fun _ => none
  persons : List Text := []
  peopleFile : Option Text := none
  peopleTemplate : Option Text := none
  sanitize : Bool := false
  plain : Bool := false
  preview : Bool := false
  validate : Bool := false
  quiet : Bool := false

inductive Misuse where
  | ambiguous (given : Text) (candidates : List Setting)
  | missingArgument (setting : Setting)
  | unusedArgument (setting : Setting) (argument : Text)
  | unrecognized (words : List Text)
  deriving DecidableEq, Repr

private def about (setting : Setting) : Text :=
  "argument ".toList ++ Text.join "/".toList setting.names ++ ": ".toList

def Misuse.message : Misuse → Text
  | ambiguous given candidates =>
    "ambiguous option: ".toList ++ given ++ " could match ".toList
      ++ Text.join ", ".toList (candidates.map Setting.long)
  | missingArgument setting => about setting ++ "expected one argument".toList
  | unusedArgument setting argument =>
    about setting ++ "ignored explicit argument ".toList ++ Text.quoted argument
  | unrecognized words => "unrecognized arguments: ".toList ++ Text.join " ".toList words

inductive Word where
  /-- Text that an option may take as its argument. -/
  | plain (t : Text)
  /-- Two dashes; no word behind them is an option. -/
  | separator
  /-- An option, with its argument if that stands behind an equals sign. -/
  | option (setting : Setting) (argument : Option Text)
  /-- What follows the short option for help in the same word, an equals sign left out. -/
  | helpTail (tail : Text)
  /-- A word that looks like an option and is none. -/
  | unknown (t : Text)
  deriving DecidableEq, Repr

/-- Digits that end the word, but for one line feed. -/
def endsInDigits (t : Text) : Bool :=
  let t := if t.getLast? = some '\n' then t.dropLast else t
  !t.isEmpty && t.all Text.isDecimalDigit

/-- A dash and a whole number, or one with a point and digits behind it. -/
def isNegativeNumber : Text → Bool
  | '-' :: t =>
    endsInDigits t ||
      match t.dropWhile Text.isDecimalDigit with
      | '.' :: fraction => endsInDigits fraction
      | _ => false
  | _ => false

/-- A word and what stands behind its first equals sign. -/
def splitArgument (t : Text) : Text × Option Text :=
  match Text.splitFirst? '=' t with
  | some (name, argument) => (name, some argument)
  | none => (t, none)

/-- The options whose long form starts with a word. -/
def candidates (t : Text) : List Setting := Setting.all.filter (t.isPrefixOf ·.long)

/-- What a word with a dash in front is that is no option as it stands. -/
def loneWord (t : Text) : Word :=
  if isNegativeNumber t || t.contains ' ' then .plain t else .unknown t

def longWord (t : Text) : Except Misuse Word :=
  let (name, argument) := splitArgument t
  match Setting.all.find? (·.long = name) with
  | some setting => .ok (.option setting argument)
  | none =>
    match candidates name with
    | [] => .ok (loneWord t)
    | [setting] => .ok (.option setting argument)
    | settings => .error (.ambiguous t settings)

def word : Text → Except Misuse Word
  | '-' :: '-' :: rest => longWord ('-' :: '-' :: rest)
  | ['-', 'h'] => .ok (.option .help none)
  | '-' :: 'h' :: '=' :: tail => .ok (.helpTail tail)
  | '-' :: 'h' :: tail => .ok (.helpTail tail)
  | '-' :: c :: rest => .ok (loneWord ('-' :: c :: rest))
  | t => .ok (.plain t)

def words : List Text → Except Misuse (List Word)
  | [] => .ok []
  | t :: rest =>
    if t = "--".toList then .ok (.separator :: rest.map .plain)
    else do return (← word t) :: (← words rest)

inductive Parsed where
  | help
  | version
  | misuse (misuse : Misuse)
  | request (request : Request)

/-- The last argument of an option counts, but every person does. -/
def Request.set (request : Request) (t : Text) : Setting → Request
  | .input field => { request with input := fun f => if f = field then some t else request.input f }
  | .template field =>
    { request with template := fun f => if f = field then some t else request.template f }
  | .person => { request with persons := request.persons ++ [t] }
  | .peopleFile => { request with peopleFile := some t }
  | .peopleTemplate => { request with peopleTemplate := some t }
  | _ => request

/-- Sets what stands behind an equals sign. Two dashes there are no argument: they leave an empty
text, and no people file. -/
def Request.assign (request : Request) (t : Text) (setting : Setting) : Request :=
  if t = "--".toList then
    if setting = .peopleFile then { request with peopleFile := none } else request.set [] setting
  else request.set t setting

/-- Turns an option without argument on. -/
def Request.enable (request : Request) : Setting → Request
  | .sanitize => { request with sanitize := true }
  | .plain => { request with plain := true }
  | .preview => { request with preview := true }
  | .validate => { request with validate := true }
  | .quiet => { request with quiet := true }
  | _ => request

/-- The letter for help may be repeated; anything else behind it is an argument too many. -/
def parseHelpTail : Text → Parsed
  | ['h'] => .help
  | 'h' :: rest => parseHelpTail rest
  | tail => .misuse (.unusedArgument .help tail)

/-- Goes through the words; `unrecognized` are those that no option took. -/
def parseWords (request : Request) (unrecognized : List Text) : List Word → Parsed
  | [] => if unrecognized.isEmpty then .request request else .misuse (.unrecognized unrecognized)
  | .plain t :: rest => parseWords request (unrecognized ++ [t]) rest
  | .separator :: rest => parseWords request (unrecognized ++ ["--".toList]) rest
  | .unknown t :: rest => parseWords request (unrecognized ++ [t]) rest
  | .helpTail tail :: _ => parseHelpTail tail
  | .option setting (some argument) :: rest =>
    if setting.takesArgument then parseWords (request.assign argument setting) unrecognized rest
    else .misuse (.unusedArgument setting argument)
  | .option setting none :: rest =>
    if setting.takesArgument then
      match rest with
      | .plain t :: rest => parseWords (request.set t setting) unrecognized rest
      | _ => .misuse (.missingArgument setting)
    else
      match setting with
      | .help => .help
      | .version => .version
      | _ => parseWords (request.enable setting) unrecognized rest

def parse (arguments : List Text) : Parsed :=
  match words arguments with
  | .ok words => parseWords {} [] words
  | .error misuse => .misuse misuse

end FilingName.CommandLine
