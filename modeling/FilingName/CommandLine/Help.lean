import FilingName.CommandLine.Setting

/-! Usage, help and version. The console is taken to be wide enough for the usage to be one line. -/
namespace FilingName.CommandLine

def programName : Text := "genealogy-filename".toList

def versionLine : Text := programName ++ " 20251019\n".toList

/-- How an option is written, with what stands for its argument. -/
def Setting.invocation (name : Text) (setting : Setting) : Text :=
  match setting.argument with
  | some argument => name ++ ' ' :: argument
  | none => name

/-- All options in one line, each by its shortest name. -/
def usage : Text :=
  "usage: ".toList ++ Text.join " ".toList (programName :: Setting.all.map fun setting =>
    '[' :: setting.invocation (setting.short.getD setting.long) ++ [']']) ++ ['\n']

private def defaultNote (template : Text) : Text := " (default: ".toList ++ template ++ [')']

def Setting.description : Setting → Text
  | help => "show this help message and exit".toList
  | version => "Show program version and exit".toList
  | input .date => "Date text, e.g. \"2024-03-05\", \"1900-06\", \"Bef 1900\"".toList
  | input .name => "Name text, e.g. \"John Robert Smith\"".toList
  | input .place => "Place text, e.g. \"Cleveland, Cuyahoga, Ohio, USA\"".toList
  | template field =>
    Text.upper field.word ++ " sub-template".toList ++ defaultNote field.defaultTemplate
  | person => "Additional person as \"Given [Middle] Surname\" (repeatable)".toList
  | peopleFile => "JSON list of people with givenName/middleName/surname keys".toList
  | peopleTemplate =>
    "NAME sub-template plus \"|delimiter\"".toList ++ defaultNote People.defaultTemplate
  | sanitize => "Replace whitespace with dashes in date/name/place output".toList
  | plain => "Print one result per line instead of a table".toList
  | preview => "Show how each placeholder was resolved".toList
  | validate => "Only check the supplied templates and report problems".toList
  | quiet => "Collect template warnings and show a summary at the end".toList

/-- The column in which descriptions start, and the room for an option before it. -/
def descriptionColumn : Nat := 24

def invocationRoom : Nat := 20

/-- A description goes below an option that leaves it no room. -/
def settingHelp (setting : Setting) : Text :=
  let invocation := Text.join ", ".toList (setting.names.map setting.invocation)
  let padding (n : Nat) : Text := List.replicate n ' '
  padding 2 ++ invocation
    ++ (if invocation.length ≤ invocationRoom then
          padding (descriptionColumn - 2 - invocation.length)
        else '\n' :: padding descriptionColumn)
    ++ setting.description ++ ['\n']

def groupHelp (heading : Text) (settings : List Setting) : Text :=
  heading ++ ":\n".toList ++ settings.flatMap settingHelp ++ ['\n']

def examples : Text :=
"Placeholders:
    DATE:     \x7bYYYY\x7d \x7bYY\x7d \x7bMM\x7d \x7bM\x7d \x7bDD\x7d \x7bD\x7d
    NAME:     \x7bSURNAME\x7d \x7bGIVEN\x7d \x7bMIDDLE\x7d
    PLACE:    \x7bCOUNTRY\x7d \x7bC\x7d \x7bSTATE\x7d \x7bS\x7d \x7bCOUNTY\x7d \x7bCO\x7d \x7bCITY\x7d \x7bCI\x7d

Modifiers (case-insensitive, last one in a chain wins):
    \x7bSURNAME:upper\x7d     SMITH
    \x7bGIVEN:lower\x7d       john
    \x7bCITY:title\x7d        New York
    \x7bMIDDLE:abbrev\x7d     R

Missing components are written as \"x\".

Examples:
    genealogy-filename --date \"Abt 1850\" --date-template \"\x7bYYYY\x7d\"
    genealogy-filename --name \"John Robert Smith\" --name-template \"\x7bSURNAME:upper\x7d.\x7bGIVEN\x7d.\x7bMIDDLE:abbrev\x7d\"
    genealogy-filename --place \"Cleveland, Ohio, USA\" --place-template \"\x7bCOUNTRY\x7d.\x7bSTATE\x7d.\x7bCITY\x7d\"
    genealogy-filename --person \"Jane Doe\" --person \"Robert James Smith\" --people-template \"\x7bSURNAME:upper\x7d.\x7bGIVEN\x7d|+\"
".toList

def help : Text :=
  usage ++ "\nFormat genealogy dates, names and places with sub-templates\n\n".toList
    ++ groupHelp "options".toList Setting.general
    ++ groupHelp "fields".toList Setting.fields
    ++ groupHelp "additional people".toList Setting.people
    ++ groupHelp "output options".toList Setting.output
    ++ examples

end FilingName.CommandLine
