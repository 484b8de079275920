import Std.Data.ExtTreeMap
import Multipath.Text.Blank
import Multipath.Text.Pieces

/-!
# Key-value files

A properties file has one `key=value` entry a line. Blank lines and lines whose
first character is `#` say nothing, but they count when lines are numbered.

* Blanks around a line, a key and a value do not belong to it. Double quotes are
  dropped from a value after that, so blanks inside quotes are kept.
* A line with no `=` or with several is ill-formed, and the first such line is
  the error.
* Of several entries for one key the last one counts.
-/

namespace Multipath

abbrev Properties := Std.ExtTreeMap String String

/-- The first line that is no entry: its number, counted from one, and its text. -/
structure IllFormedLine where
  number : Nat
  content : String
deriving DecidableEq, Repr

inductive PropertyLine
  | silent
  | entry (key value : String)
  | illFormed
deriving DecidableEq, Repr

namespace PropertyLine

def ofChars (line : List Char) : PropertyLine :=
  let content := Text.trim line
  if content = [] ∨ content.head? = some '#' then .silent
  else match Text.pieces '=' content with
    | [key, value] =>
      .entry (String.ofList (Text.trim key)) (String.ofList ((Text.trim value).filter (· ≠ '"')))
    | _ => .illFormed

end PropertyLine

namespace Properties

def readLine (known : Properties) (numbered : List Char × Nat) :
    Except IllFormedLine Properties :=
  match PropertyLine.ofChars numbered.1 with
  | .silent => .ok known
  | .entry key value => .ok (known.insert key value)
  | .illFormed => .error ⟨numbered.2, String.ofList numbered.1⟩

def ofText (text : String) : Except IllFormedLine Properties :=
  ((Text.lines text.toList).zipIdx 1).foldlM readLine ∅

end Properties

end Multipath
