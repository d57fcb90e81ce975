import ModelLayout.Shell.Uri.Host
import ModelLayout.Shell.Uri.Path

/-!
# URIs

An editor names its documents by URIs.  One document has many spellings; a URI is kept by its
parts in their standard form, so that two spellings of it are equal.

## Main definitions

* `SchemeKind` — what is known of a scheme.
* `Authority`, `Uri` — the parts of a URI.
* `Uri.text` — the standard spelling.
* `Uri.parse?` — the URI of a spelling.
-/

namespace ModelLayout

/-- What is known of a scheme. -/
inductive SchemeKind
  /-- Places on a disk. -/
  | file
  /-- Places on the web; the number after the host need not be given if it is the usual one. -/
  | web (usual : Nat)
  | other
  deriving DecidableEq, Repr, Inhabited

/-- What is known of the scheme of the given name. -/
def SchemeKind.ofName : String → SchemeKind
  | "file" => .file
  | "http" | "ws" => .web 80
  | "https" | "wss" => .web 443
  | "ftp" => .web 21
  | _ => .other

namespace Uri

/-- Whose place a URI stands for. -/
structure Authority where
  /-- Name and password, if there are any. -/
  userinfo : String := ""
  host : Host := .name ""
  /-- The number after the host, unless it is the usual one. -/
  portNumber : Option Nat := none
  deriving DecidableEq, Repr, Inhabited

/-- How an authority is written. -/
def Authority.text (a : Authority) : String :=
  (if a.userinfo.isEmpty then "" else a.userinfo ++ "@") ++ a.host.text ++
    (match a.portNumber with
    | none => ""
    | some n => ":" ++ toString n)

end Uri

/-- A URI by its parts, each as it is written. -/
structure Uri where
  scheme : String
  authority : Option Uri.Authority
  path : String
  query : Option String
  fragment : Option String
  deriving DecidableEq, Repr, Inhabited

namespace Uri

open Text (isDigitOf pieces valueOf)

/-- The standard spelling of a URI.  Without an authority, a path must not look as if it began
with one. -/
def text (u : Uri) : String :=
  u.scheme ++ ":" ++
    (match u.authority with
    | none => if u.path.startsWith "//" then "/." else ""
    | some a => "//" ++ a.text) ++
    u.path ++
    (match u.query with
    | none => ""
    | some q => "?" ++ q) ++
    (match u.fragment with
    | none => ""
    | some f => "#" ++ f)

/-! ### Reading -/

/-- What stands before and after the first character `c`; nothing stands after it if there is
none. -/
def cut (c : Char) (cs : List Char) : List Char × Option (List Char) :=
  match cs.span (· != c) with
  | (before, []) => (before, none)
  | (before, _ :: after) => (before, some after)

/-- Characters without control characters and spaces at either end. -/
def tidy (cs : List Char) : List Char :=
  let isOuter (c : Char) : Bool := c ≤ ' '
  ((cs.dropWhile isOuter).reverse.dropWhile isOuter).reverse

/-- The scheme of a spelling, in small letters, and what follows its colon. -/
def scheme? (cs : List Char) : Option (String × List Char) :=
  let (before, after?) := cut ':' cs
  match visible before, after? with
  | first :: rest, some after =>
    if first.isAlpha && rest.all (fun c => c.isAlphanum || "+-.".toList.contains c) then
      some (String.ofList ((first :: rest).map Char.toLower), after)
    else none
  | _, _ => none

/-- The separators of segments. -/
def isSlash (kind : SchemeKind) (c : Char) : Bool :=
  c == '/' || (kind != .other && c == '\\')

/-- The path that is given by its segments, with slashes between them. -/
def pathOf (kind : SchemeKind) (cs : List Char) : Path :=
  Path.resolve (kind == .file) (pieces (isSlash kind) cs)

/-- Name and password in their written form; no colon stands in front of an empty password. -/
def userinfoText (cs : List Char) : String :=
  match cut ':' cs with
  | (user, none) | (user, some []) => String.ofList (encode .userinfo user)
  | (user, some password) =>
    String.ofList (encode .userinfo user ++ ':' :: encode .userinfo password)

/-- The number after the colon of a host: 16 bits.  The usual number of a scheme is not
written. -/
def portNumber? (kind : SchemeKind) (cs : List Char) : Option (Option Nat) :=
  let n := valueOf 10 cs
  if !cs.all (isDigitOf 10) || 65536 ≤ n then none
  else if cs.isEmpty || kind == .web n then some none
  else some (some n)

/-- A host and what follows it: nothing, or a colon and a number.  Colons in brackets belong to
the host. -/
def splitHost (inBrackets : Bool) : List Char → List Char × List Char
  | [] => ([], [])
  | c :: cs =>
    if c == ':' && !inBrackets then ([], c :: cs)
    else
      let (host, rest) := splitHost (c == '[' || (inBrackets && c != ']')) cs
      (c :: host, rest)

/-- A host and the number after it.  Only schemes of which nothing is known do without a host.
What follows the number after a backslash is left over. -/
def hostAndNumber? (kind : SchemeKind) (userinfo : String) (cs : List Char) :
    Option (Authority × List Char) := do
  let (hostChars, rest) := splitHost false cs
  if hostChars.isEmpty && (kind != .other || !userinfo.isEmpty || !rest.isEmpty) then none
  let host ← if kind == .other then Host.parsePlain? hostChars else Host.parse? hostChars
  match rest with
  | [] => return ({ userinfo, host }, [])
  | _ :: rest =>
    let (digits, left) := rest.span (· != '\\')
    return ({ userinfo, host, portNumber := ← portNumber? kind digits }, left)

/-- An authority, and what is left over after it.  The last at sign ends name and password.
Something has to stand around it, unless the URI ends there. -/
def authority? (kind : SchemeKind) (isLast : Bool) (cs : List Char) :
    Option (Authority × List Char) :=
  match cut '@' cs.reverse with
  | (_, none) => hostAndNumber? kind "" cs
  | ([], some []) => if isLast then hostAndNumber? kind "" [] else none
  | (host, some user) => hostAndNumber? kind (userinfoText user.reverse) host.reverse

/-- The authority and the path of a file, given what follows two slashes.  A drive is part of
the path, and has no host; nor has the host of this machine a name. -/
def filePlace? (cs : List Char) : Option (Authority × Path) :=
  let (hostChars, rest) := cs.span (!isSlash .file ·)
  let hostChars := visible hostChars
  if hostChars.isEmpty then some ({}, pathOf .file rest)
  else if isDrive hostChars then some ({}, pathOf .file cs)
  else
    match Host.parse? hostChars with
    | none => none
    | some (.name "localhost") => some ({}, pathOf .file rest)
    | some host =>
      let path := pathOf .file (rest.drop 1)
      if path.onDrive then some ({}, path) else some ({ host }, path)

/-- What follows a slash in front, if there is one. -/
def afterSlash? (cs : List Char) : Option (List Char) :=
  match cs.dropWhile isPassedOver with
  | c :: rest => if isSlash .file c then some rest else none
  | [] => none

/-- The authority and the path of a file. -/
def filePath? (cs : List Char) : Option (Option Authority × String) := do
  let (authority, path) ← match afterSlash? cs with
    | none => some ({}, pathOf .file cs)
    | some rest =>
      match afterSlash? rest with
      | none => some ({}, pathOf .file rest)
      | some rest => filePlace? rest
  return (some authority, path.trimmed.text)

/-- The authority and the path of a place on the web.  Any number of slashes may stand in front
of the authority. -/
def webPath? (kind : SchemeKind) (cs : List Char) : Option (Option Authority × String) := do
  let (chars, rest) := (cs.dropWhile (isSlash kind)).span (!isSlash kind ·)
  let (authority, _) ← authority? kind false chars
  return (some authority, (pathOf kind (rest.drop 1)).text)

/-- The authority and the path of any other URI.  A path that does not start with a slash has no
segments; after an authority it gets a slash. -/
def otherPath? (isLast : Bool) : List Char → Option (Option Authority × String)
  | '/' :: '/' :: cs => do
    let (chars, rest) := cs.span (· != '/')
    let (authority, left) ← authority? .other (isLast && rest.isEmpty) chars
    let path := match left ++ rest with
      | [] => ""
      | '/' :: path | path => (pathOf .other path).text
    return (some authority, path)
  | '/' :: cs => some (none, (pathOf .other cs).text)
  | cs => some (none, String.ofList (encode .plain cs))

/-- The URI of a spelling, if it is one. -/
def parse? (spelling : String) : Option Uri := do
  let (scheme, cs) ← scheme? (tidy spelling.toList)
  let kind := SchemeKind.ofName scheme
  let (cs, fragment) := cut '#' cs
  let (cs, query) := cut '?' cs
  let (authority, path) ← match kind with
    | .file => filePath? cs
    | .web _ => webPath? kind (visible cs)
    | .other => otherPath? (query.isNone && fragment.isNone) (visible cs)
  let queryPart := if kind == .other then Part.query else Part.placeQuery
  return {
    scheme, authority, path
    query := query.map fun q => String.ofList (encode queryPart (visible q))
    fragment := fragment.map fun f => String.ofList (encode .fragment (visible f)) }

end Uri
end ModelLayout
