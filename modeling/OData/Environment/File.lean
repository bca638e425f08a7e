import OData.Environment
import OData.Fault
import OData.Text.Blank

/-!
# Files of variables

A file sets one variable a line: a name, an equals sign, a text. A line ends with a line feed, a
carriage return or both. Blank lines and lines that start with a number sign say nothing. A variable
that the environment already has keeps its text, even an empty one; of two lines for the same
variable the later counts.
-/

namespace OData.Environment

/-- Whether a line ends at a character. -/
def endsLine (c : Char) : Bool :=
  c == '\n' || c == '\r'

/-- A text cut at its line ends. Between a carriage return and the line feed after it there is a
line too, which is empty. -/
def lines : List Char → List (List Char)
  | [] => [[]]
  | c :: rest =>
    if endsLine c then [] :: lines rest
    else
      match lines rest with
      | line :: more => (c :: line) :: more
      | [] => [[c]]

/-- A text up to a number sign that follows a blank. -/
def beforeComment : List Char → List Char
  | [] => []
  | [c] => [c]
  | c :: d :: rest =>
    if Text.isBlank c && d == '#' then [] else c :: beforeComment (d :: rest)

/-- The variable that a line sets, if it sets one. -/
def setting? (line : List Char) : Option (String × String) :=
  let body := Text.stripChars line
  let name := Text.stripChars (body.takeWhile (· != '='))
  match body.dropWhile (· != '='), name with
  | '=' :: text, c :: _ =>
    if c = '#' then none
    else some (String.ofList name, String.ofList (Text.stripChars (beforeComment text)))
  | _, _ => none

/-- The variables that a file sets, in order. -/
def ofFile (file : String) : Environment :=
  (lines file.toList).filterMap setting?

/-- What a file adds to an environment: the last setting of each variable that is not set yet. -/
def additions (env : Environment) (file : String) : Environment :=
  ((ofFile file).reverse.filter fun v => (env.lookup v.1).isNone).eraseDupsBy fun a b => a.1 == b.1

/-- Whether a variable can be set: no null character occurs in it. -/
def isSettable (v : String × String) : Bool :=
  !(v.1.toList.contains '\x00' || v.2.toList.contains '\x00')

/-- An environment with the variables of a file added, if all of them can be. -/
def load (env : Environment) (file : String) : Except Fault Environment :=
  let added := env.additions file
  if added.all isSettable then .ok (env ++ added) else .error .badContent

end OData.Environment
