import FilingName.CommandLine.Help
import FilingName.CommandLine.Request
import FilingName.CommandLine.Run
import FilingName.CommandLine.Setting
import FilingName.Console.ColorNames
import FilingName.Console.Emoji
import FilingName.Console.Emoji.Codes
import FilingName.Console.Line
import FilingName.Console.Markup
import FilingName.Console.Style
import FilingName.Console.Table
import FilingName.Console.Wrap
import FilingName.Diagnostic
import FilingName.Display
import FilingName.Failure
import FilingName.Field
import FilingName.Field.Date
import FilingName.Field.Name
import FilingName.Field.Place
import FilingName.Field.Record
import FilingName.Json.Fault
import FilingName.Json.Reader
import FilingName.Logged
import FilingName.Main
import FilingName.Number.Binary64
import FilingName.Operation
import FilingName.Operation.Display
import FilingName.Operation.OnValues
import FilingName.People.File
import FilingName.People.Listing
import FilingName.People.Person
import FilingName.Proofs.CommandLine.Errors
import FilingName.Proofs.CommandLine.Formatting
import FilingName.Proofs.CommandLine.Switches
import FilingName.Proofs.Console.Line
import FilingName.Proofs.Console.Markup
import FilingName.Proofs.Console.Style
import FilingName.Proofs.Display
import FilingName.Proofs.Display.Error
import FilingName.Proofs.Display.Preview
import FilingName.Proofs.Display.Summary
import FilingName.Proofs.Field.Conservation
import FilingName.Proofs.Field.Date
import FilingName.Proofs.Field.Name
import FilingName.Proofs.Field.Place
import FilingName.Proofs.Field.Record
import FilingName.Proofs.Field.Render
import FilingName.Proofs.Field.RoundTrip
import FilingName.Proofs.Json.Reader
import FilingName.Proofs.Logged
import FilingName.Proofs.Operation
import FilingName.Proofs.People.File
import FilingName.Proofs.People.Listing
import FilingName.Proofs.People.Person
import FilingName.Proofs.Template.Format
import FilingName.Proofs.Template.Prediction
import FilingName.Proofs.Template.Preview
import FilingName.Proofs.Template.Process
import FilingName.Proofs.Template.Resolution
import FilingName.Proofs.Template.Segments
import FilingName.Proofs.Template.TextSource
import FilingName.Proofs.Template.Validity
import FilingName.Proofs.Text
import FilingName.Proofs.Text.Dashed
import FilingName.Proofs.Text.LetterCase
import FilingName.Proofs.Text.Row
import FilingName.Proofs.Text.Utf8
import FilingName.Proofs.Text.Words
import FilingName.Proofs.Value
import FilingName.Session
import FilingName.Storage.Folder
import FilingName.Storage.Path
import FilingName.Template.Engine
import FilingName.Template.KeyMap
import FilingName.Template.Modifier
import FilingName.Template.Segment
import FilingName.Template.Validation
import FilingName.Text
import FilingName.Text.CellWidth
import FilingName.Text.DecimalDigit
import FilingName.Text.LetterCase
import FilingName.Text.LetterCase.Context
import FilingName.Text.LetterCase.Shifts
import FilingName.Text.Printable
import FilingName.Text.Quoted
import FilingName.Text.Ranges
import FilingName.Text.Utf8
import FilingName.Text.WordCharacter
import FilingName.Value
import FilingName.Value.Fault
import FilingName.Proofs.Template.Dependence
import FilingName.Proofs.Template.Composition
import FilingName.Proofs.CommandLine.PlainResults
import FilingName.Proofs.Text.LetterCase.Stability
import FilingName.Proofs.Text.LetterCase.BasicAlphabet
import FilingName.Proofs.Template.Modifier
import FilingName.Proofs.Template.Chain
import FilingName.Proofs.Reporter
import FilingName.Proofs.Template.Diagnostics
import FilingName.Proofs.Text.LetterCase.TitleCase
import FilingName.Proofs.Field.Missing
import FilingName.Proofs.Field.Year
import FilingName.Proofs.Template.Alias
import FilingName.Proofs.Field.Alias
import FilingName.Proofs.Template.Numeral
import FilingName.Proofs.Template.Outcome
import FilingName.Proofs.Field.Combined
import FilingName.Proofs.People.Supply
import FilingName.Proofs.People.Delimiter
import FilingName.Proofs.Session
