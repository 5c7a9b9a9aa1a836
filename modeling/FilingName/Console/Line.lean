import FilingName.Text
import FilingName.Text.CellWidth

/-!
What a console shows of a text. Controls that would move the cursor are left out, and a tab becomes
spaces up to the next stop. The console is taken to be wider than every line. Then nothing else is
changed, while a narrower one breaks lines and cuts blanks off their ends.
-/
namespace FilingName.Console

/-- Bell, backspace, vertical tab, form feed and carriage return. -/
def movesCursor (c : Char) : Bool :=
  c == '\x07' || c == '\x08' || c == '\x0b' || c == '\x0c' || c == '\r'

def dropControls (t : Text) : Text := t.filter (!movesCursor ·)

/-- The cells from one tab stop to the next. -/
def tabWidth : Nat := 8

/-- Expands the tabs of what stands in a line behind the first `column` cells. -/
def expandTabsFrom (column : Nat) : Text → Text
  | [] => []
  | c :: rest =>
    if c = '\t' then
      let spaces := tabWidth - column % tabWidth
      List.replicate spaces ' ' ++ expandTabsFrom (column + spaces) rest
    else c :: expandTabsFrom (column + Text.charWidth c) rest

/-- The lines of a text as they are shown. -/
def lines (t : Text) : List Text :=
  (Text.splitOn '\n' (dropControls t)).map (expandTabsFrom 0)

/-- Ends every line with a line feed. -/
def unlines (lines : List Text) : Text := lines.flatMap (· ++ ['\n'])

/-- A text as it is printed on lines of its own. -/
def print (t : Text) : Text := unlines (lines t)

end FilingName.Console
