import FilingName.People.Listing

/-! The options of the command line, in the order in which they are listed. -/
namespace FilingName.CommandLine

inductive Setting where
  | help
  | version
  | input (field : Field)
  | template (field : Field)
  | person
  | peopleFile
  | peopleTemplate
  | sanitize
  | plain
  | preview
  | validate
  | quiet
  deriving DecidableEq, Repr

namespace Setting

def general : List Setting := [help, version]

def fields : List Setting := Field.all.flatMap fun field => [input field, template field]

def people : List Setting := [person, peopleFile, peopleTemplate]

def output : List Setting := [sanitize, plain, preview, validate, quiet]

def all : List Setting := general ++ fields ++ people ++ output

/-- The option without the dashes in front. -/
def word : Setting → Text
  | help => "help".toList
  | version => "version".toList
  | input field => field.word
  | template field => field.word ++ "-template".toList
  | person => "person".toList
  | peopleFile => "people-file".toList
  | peopleTemplate => "people-template".toList
  | sanitize => "sanitize".toList
  | plain => "plain".toList
  | preview => "preview".toList
  | validate => "validate".toList
  | quiet => "quiet".toList

def long (setting : Setting) : Text := "--".toList ++ setting.word

/-- The option that can also be written as a dash and a letter. -/
def short : Setting → Option Text
  | help => some "-h".toList
  | _ => none

/-- What stands for the argument in the help, for an option that takes one. -/
def argument : Setting → Option Text
  | input _ => some "TEXT".toList
  | template _ | peopleTemplate => some "TEMPLATE".toList
  | person => some "NAME".toList
  | peopleFile => some "FILE".toList
  | _ => none

def takesArgument (setting : Setting) : Bool := setting.argument.isSome

/-- Both ways to write the option. -/
def names (setting : Setting) : List Text := setting.short.toList ++ [setting.long]

end Setting
end FilingName.CommandLine
