import OData.Value

/-!
# The environment

A list of variables, each with a name and a text. A variable that is not set has the text that the
caller falls back on; one that is set to the empty text keeps it.
-/

namespace OData

/-- The variables of an environment: their names and texts. -/
abbrev Environment := List (String × String)

namespace Environment

/-- The text of a variable, or the given one if the variable is not set. -/
def get (env : Environment) (name fallback : String) : String :=
  (env.lookup name).getD fallback

/-- An argument if it is present, else the text of a variable. -/
def resolve (env : Environment) (argument : Value) (name fallback : String) : Value :=
  argument.orElse (.text (env.get name fallback))

end Environment

end OData
