import OData.Text.LetterCase

/-!
# Headers

Headers are names with values. The letter case of a name does not count: names that agree in lower
case name one header.
-/

namespace OData

/-- Headers in order. -/
abbrev Headers := List (String × String)

namespace Headers

/-- Whether two names name one header. -/
def sameName (a b : String) : Bool :=
  Text.lowerCase a == Text.lowerCase b

/-- The value of the first header of the given name. -/
def find? (headers : Headers) (name : String) : Option String :=
  (List.find? (fun h => sameName h.1 name) headers).map (·.2)

/-- The headers that count: of those with one name, the last. -/
def distinct : Headers → Headers
  | [] => []
  | h :: rest =>
    if rest.any fun other => sameName h.1 other.1 then distinct rest else h :: distinct rest

end Headers

end OData
