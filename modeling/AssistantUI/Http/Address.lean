import AssistantUI.Fault
import AssistantUI.Http.HostName
import AssistantUI.Text.Integer

/-!
# Addresses

An address says where a service is, and what of it is asked for: a scheme, who asks, a host
and a number there, a path, a query and a fragment. Reading one settles how it is written. Scheme
and host lose their case, the usual number of a scheme is left out, steps up and down are
taken out of the path, and characters that cannot stand in an address are written as
their bytes. A relative address has no scheme or no host.
-/

namespace AssistantUI.Http

/-- An address, each part as it is written. -/
structure Address where
  /-- Empty, like the host, if there is none. -/
  scheme : String
  user : String
  host : String
  portNumber : Option Int
  path : String
  query : Option String
  fragment : Option String
  deriving DecidableEq, Inhabited

namespace Address

/-! ## Characters -/

/-- Can the character be written in a query? -/
def inQuery (c : Char) : Bool :=
  0x20 < c.toNat && c.toNat < 0x7F && !(['"', '#', '<', '>'].contains c)

/-- Can the character be written in a path? -/
def inPath (c : Char) : Bool := inQuery c && !(['?', '`', '\x7b', '\x7d'].contains c)

/-- Can the character be written in the name of who asks? -/
def inUser (c : Char) : Bool :=
  inPath c && !(['/', ';', '=', '@', '[', '\\', ']', '^', '|'].contains c)

/-- Can the character be written in a fragment? -/
def inFragment (c : Char) : Bool := (inQuery c && c != '`') || c == '#'

/-- Control characters, which stand in no address. -/
def isControl (c : Char) : Bool := c.toNat < 0x20 || c.toNat == 0x7F

/-- A part of an address as it is written. -/
def written (safe : Char → Bool) (s : List Char) : String :=
  String.ofList (Text.percentEncode safe s)

/-! ## Parts -/

/-- The scheme at the start of a text, which ends in a colon, and what follows it. -/
def splitScheme (s : List Char) : List Char × List Char :=
  let scheme := s.takeWhile fun c => c.isAlphanum || ['+', '.', '-'].contains c
  match s.drop scheme.length with
  | ':' :: rest => if scheme.isEmpty || (scheme.headD ' ').isAlpha then (scheme, rest) else ([], s)
  | _ => ([], s)

/-- Who asks, the host and the number there, between two slashes and what follows. -/
def splitAuthority (s : List Char) : List Char × List Char :=
  match s with
  | '/' :: '/' :: rest =>
    let stop (c : Char) := c == '/' || c == '?' || c == '#'
    (rest.takeWhile fun c => !stop c, rest.dropWhile fun c => !stop c)
  | s => ([], s)

/-- What stands before the first such character, and what follows that, if there is one. -/
def cutAt (c : Char) (s : List Char) : List Char × Option (List Char) :=
  match s.dropWhile (· != c) with
  | [] => (s, none)
  | _ :: rest => (s.takeWhile (· != c), some rest)

/-- What stands before the last such character, and what follows that or is all there is. -/
def cutAtLast (c : Char) (s : List Char) : List Char × List Char :=
  let after := (s.reverse.takeWhile (· != c)).reverse
  (s.take (s.length - after.length - 1), after)

/-- Host and number; brackets around a host end at the last one. -/
def splitHost (s : List Char) : List Char × List Char :=
  let host := if s.head? = some '[' ∧ s.contains ']' then
      s.take (s.length - (s.reverse.takeWhile (· != ']')).length)
    else s.takeWhile (· != ':')
  (host, match s.drop host.length with
    | ':' :: rest => rest
    | rest => rest)

/-- The number that services of a scheme usually have. -/
def usualPort? (scheme : String) : Option Int :=
  [("ftp", 21), ("http", 80), ("https", 443), ("ws", 80), ("wss", 443)].lookup scheme

/-- The number that a text names, none if it is the usual one of the scheme. -/
def readPort (scheme : String) (s : List Char) : Except Fault (Option Int) :=
  if s.isEmpty then .ok none
  else match Text.integer? (String.ofList s) with
    | none => .error .addressInvalid
    | some n => .ok (if usualPort? scheme = some n then none else some n)

/-! ## Paths -/

/-- Takes the parts of a path one by one; a part of two dots takes back the one before it. -/
def walk (done : List (List Char)) : List (List Char) → List (List Char)
  | [] => done
  | part :: rest =>
    if part = ['.'] then walk done rest
    else if part = ['.', '.'] then walk (if done = [[]] then done else done.dropLast) rest
    else walk (done ++ [part]) rest

/-- A path without steps up and down. -/
def straighten (path : List Char) : List Char :=
  ['/'].intercalate (walk [] (path.splitOn '/'))

/-- Is this no path that can stand where it does? -/
def isMisplaced (absolute hosted : Bool) (path : List Char) : Bool :=
  if hosted then !path.isEmpty && path.head? != some '/'
  else !absolute && (['/', '/'].isPrefixOf path || path.head? == some ':')

/-! ## Reading and writing -/

/-- The most characters that an address may have. -/
def maxLength : Nat := 65536

/-- Reads an address. -/
def parse (text : String) : Except Fault Address := do
  let s := text.toList
  if s.length > maxLength || s.any isControl then throw .addressInvalid
  let (scheme, s) := splitScheme s
  let (authority, s) := splitAuthority s
  let (s, fragment) := cutAt '#' s
  let (path, query) := cutAt '?' s
  let (user, authority) := cutAtLast '@' authority
  let (host, digits) := splitHost authority
  match HostName.ofText? host with
  | none => throw .addressInvalid
  | some host =>
    let portNumber ← readPort (String.ofList scheme) digits
    let hosted := !user.isEmpty || !host.isEmpty || portNumber.isSome
    if isMisplaced (!scheme.isEmpty) hosted path then throw .addressInvalid
    return {
      scheme := String.ofList (scheme.map Char.toLower)
      user := written inUser user
      host := String.ofList host
      portNumber
      path := written inPath (if !scheme.isEmpty || hosted then straighten path else path)
      query := query.map (written inQuery)
      fragment := fragment.map (written inFragment) }

/-- Host and number, and who asks, as they are written. -/
def authority (a : Address) : String :=
  (if a.user = "" then "" else a.user ++ "@") ++
    (if a.host.toList.contains ':' then "[" ++ a.host ++ "]" else a.host) ++
    (match a.portNumber with | none => "" | some n => ":" ++ toString n)

/-- The text of an address. -/
def write (a : Address) : String :=
  (if a.scheme = "" then "" else a.scheme ++ ":") ++
    (if a.authority = "" then "" else "//" ++ a.authority) ++ a.path ++
    (match a.query with | none => "" | some s => "?" ++ s) ++
    (match a.fragment with | none => "" | some s => "#" ++ s)

/-! ## Addresses on their own and under others -/

/-- Does the address say where the service is? -/
def isAbsolute (a : Address) : Bool := a.scheme != "" && a.host != ""

/-- The address that says nothing. -/
def empty : Address := ⟨"", "", "", none, "", none, none⟩

/-- An address as it is meant at a place, whose root a relative one starts from. -/
def resolve (place a : Address) : Address :=
  if a.isAbsolute then a
  else
    let path := '/' :: a.path.toList.dropWhile (· == '/')
    { place with
      path := String.ofList (if place.isAbsolute then straighten path else path)
      query := a.query }

/-- The path that is asked for, with every character as itself. -/
def target (a : Address) : String :=
  if a.path = "" then "/" else (Text.percentDecode? a.path.toList).getD a.path

example : (parse "http://User@API.Test:80/a/./b/../c d?q#f").toOption.map write =
    some "http://User@api.test/a/c%20d?q#f" := by decide +kernel
example : (parse "http://h:x").toOption = none ∧ (parse "http://1.2.3.400").toOption = none := by
  decide +kernel

end Address

end AssistantUI.Http
