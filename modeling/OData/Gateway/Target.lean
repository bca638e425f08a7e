import OData.Text.Digit
import OData.Value.Number

/-!
# Request targets

The target of a request is the text that says where the request goes: a path or a whole address,
perhaps with a query and a fragment, which do not count. The path that arrives is found in two
steps: dot segments are followed, then escapes are decoded.
-/

namespace OData.Gateway

/-- A target. -/
structure Target where
  /-- The scheme, empty if there is none. -/
  scheme : List Char
  /-- The host with what belongs to it, empty if there is none. -/
  authority : List Char
  /-- The path. -/
  path : List Char
deriving DecidableEq, Repr

namespace Target

/-! ## Segments -/

/-- The segments of a path: what stands between its slashes. -/
def segments : List Char → List (List Char)
  | [] => [[]]
  | c :: rest =>
    if c = '/' then [] :: segments rest
    else
      match segments rest with
      | [] => [[c]]
      | segment :: more => (c :: segment) :: more

/-- The path that has the given segments. -/
def joined : List (List Char) → List Char
  | [] => []
  | [segment] => segment
  | segment :: more => segment ++ '/' :: joined more

/-- Follows dot segments: one dot leads nowhere, two lead one segment up, but not above the root.
The segments walked so far are given in reverse. -/
def walk (trail : List (List Char)) : List (List Char) → List (List Char)
  | [] => trail.reverse
  | segment :: more =>
    if segment = ['.'] then walk trail more
    else if segment = ['.', '.'] then walk (if trail = [[]] then trail else trail.tail) more
    else walk (segment :: trail) more

/-- A path without dot segments. -/
def withoutDots (path : List Char) : List Char :=
  joined (walk [] (segments path))

/-! ## Escapes -/

/-- The ASCII character whose number two hexadecimal digits spell. -/
def escaped? (a b : Char) : Option Char :=
  match Text.hexDigitValue? a, Text.hexDigitValue? b with
  | some high, some low => if high < 8 then some (Char.ofNat (high * 16 + low)) else none
  | _, _ => none

/-- A path with its escapes of ASCII characters decoded. What the other escapes stand for occurs in
no path of the gateway. -/
def decoded : List Char → List Char
  | '%' :: a :: b :: rest =>
    match escaped? a b with
    | some c => c :: decoded rest
    | none => '%' :: decoded (a :: b :: rest)
  | c :: rest => c :: decoded rest
  | [] => []

/-! ## Reading a target -/

/-- Whether a character may stand in a scheme. -/
def isSchemeCharacter (c : Char) : Bool :=
  c.isAlphanum || c == '+' || c == '.' || c == '-'

/-- The scheme at the front, which ends with a colon, and what follows it. It is empty or begins
with a letter. -/
def splitScheme (cs : List Char) : List Char × List Char :=
  let scheme := cs.takeWhile isSchemeCharacter
  match cs.dropWhile isSchemeCharacter with
  | ':' :: rest => if scheme.head?.all Char.isAlpha then (scheme, rest) else ([], cs)
  | _ => ([], cs)

/-- The authority at the front, which follows two slashes, and what follows it. -/
def splitAuthority : List Char → List Char × List Char
  | '/' :: '/' :: rest => (rest.takeWhile (· != '/'), rest.dropWhile (· != '/'))
  | cs => ([], cs)

/-- What follows the host of an authority, which is what a pair of brackets encloses or all up to a
colon. A user in front of the host ends with an at sign. -/
def afterHost (authority : List Char) : List Char :=
  let located := (authority.reverse.takeWhile (· != '@')).reverse
  if located.head? == some '[' && located.contains ']' then
    (located.reverse.takeWhile (· != ']')).reverse
  else located.dropWhile (· != ':')

/-- The socket that an authority names, empty if there is none. -/
def socket (authority : List Char) : List Char :=
  match afterHost authority with
  | ':' :: rest => rest
  | rest => rest

/-- Whether a socket is absent or spells an integer. -/
def isSocket (cs : List Char) : Bool :=
  cs.isEmpty || (readInteger (String.ofList cs)).isOk

/-- Whether a target can be asked for: its socket is one, and a path that stands alone begins
neither with two slashes nor with a colon. -/
def isProper (t : Target) : Bool :=
  isSocket (socket t.authority) &&
    (!t.scheme.isEmpty || !t.authority.isEmpty ||
      !(['/', '/'].isPrefixOf t.path || [':'].isPrefixOf t.path))

/-- Whether a character is one that no target may hold: an ASCII control character. -/
def isControl (c : Char) : Bool :=
  c.toNat < 0x20 || c.toNat == 0x7F

/-- Reads a target, unless it cannot be asked for. -/
def ofText? (s : String) : Option Target :=
  let (scheme, afterScheme) := splitScheme (s.toList.takeWhile fun c => c != '?' && c != '#')
  let (authority, path) := splitAuthority afterScheme
  let t : Target := ⟨scheme, authority, path⟩
  if s.toList.any isControl || !t.isProper then none else some t

/-! ## Where a target leads -/

/-- The path as it is sent. That of a whole address is sent as it is; any other begins with one
slash. A path of which more than the path is known has its dot segments followed before. -/
def sent (t : Target) : List Char :=
  let path := if t.scheme.isEmpty && t.authority.isEmpty then t.path else withoutDots t.path
  if t.scheme.isEmpty || t.authority.isEmpty then
    withoutDots ('/' :: path.dropWhile (· == '/'))
  else path

/-- The path as it arrives. Escapes are decoded when it is sent and again when it is received. -/
def arriving (t : Target) : String :=
  String.ofList (decoded (decoded t.sent))

end Target

end OData.Gateway
