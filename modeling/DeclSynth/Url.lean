import DeclSynth.Unicode.Blank
import DeclSynth.Url.Host
import DeclSynth.Url.Path

/-!
# URLs

A URL has a scheme, may have an authority, and has a path, a query and a fragment. The
schemes of the web and of files are special: a backslash counts as a slash, the host is
a domain name or an address, and the path is never empty. `Url.parse` reads an absolute
URL in the way browsers do, which mends much and refuses little, and `Url.render` writes
it in its normal form.
-/

namespace DeclSynth

namespace Url

/-- How a scheme reads what follows it. -/
inductive SchemeKind where
  /-- A scheme of the web, with the number of the service that needs no mention. -/
  | web (service : Nat)
  | file
  | general
deriving DecidableEq, Repr

/-- The kind of a scheme, given in lower case. -/
def SchemeKind.of : String → SchemeKind
  | "http" | "ws" => .web 80
  | "https" | "wss" => .web 443
  | "ftp" => .web 21
  | "file" => .file
  | _ => .general

/-- How a path behind the scheme is read. -/
def SchemeKind.pathKind : SchemeKind → PathKind
  | .web _ => .special
  | .file => .file
  | .general => .general

/-- What stands between two slashes and the path. A user name and a password may be empty; the
number of the service is left out if it is the one of the scheme. -/
structure Authority where
  user : String
  password : String
  host : Host
  service : Option Nat
deriving DecidableEq, Repr

/-- The authority as it is written. -/
def Authority.render (a : Authority) : String :=
  let secret := if a.password = "" then "" else ":" ++ a.password
  let credentials := if a.user = "" ∧ a.password = "" then "" else a.user ++ secret ++ "@"
  let service := match a.service with
    | some number => ":" ++ toString number
    | none => ""
  credentials ++ a.host.render ++ service

end Url

/-- An absolute URL, all parts escaped as they are written. -/
structure Url where
  scheme : String
  authority : Option Url.Authority
  path : String
  query : Option String
  fragment : Option String
deriving DecidableEq, Repr

namespace Url

/-- The URL in its normal form. A path that starts with two slashes is kept from being taken for an
authority. -/
def render (u : Url) : String :=
  let authority := match u.authority with
    | some a => "//" ++ a.render
    | none => if "//".toList.isPrefixOf u.path.toList then "/." else ""
  let part (mark : String) (text : Option String) := match text with
    | some t => mark ++ t
    | none => ""
  u.scheme ++ ":" ++ authority ++ u.path ++ part "?" u.query ++ part "#" u.fragment

/-- The text that is read: controls and spaces at both ends, and line ends and tabs anywhere, are
passed over. -/
def significant (cs : List Char) : List Char :=
  let blank (c : Char) := c.toNat ≤ 0x20
  (((cs.dropWhile blank).reverse.dropWhile blank).reverse).filter (· ∉ ['\t', '\n', '\x0d'])

/-- The scheme in lower case, and the text behind its colon. -/
def splitScheme (cs : List Char) : Option (String × List Char) :=
  let word := cs.takeWhile (· ≠ ':')
  match word, cs.dropWhile (· ≠ ':') with
  | first :: _, _ :: rest =>
    if first.isAlpha ∧ word.all (fun c => c.isAlphanum || c ∈ ['+', '-', '.']) then
      some (String.ofList (word.map Char.toLower), rest)
    else none
  | _, _ => none

/-- The text up to the query and the fragment, and these two. -/
def splitTail (cs : List Char) : List Char × Option (List Char) × Option (List Char) :=
  let body (cs : List Char) := cs.takeWhile (· ∉ ['?', '#'])
  match cs.dropWhile (· ∉ ['?', '#']) with
  | '?' :: rest =>
    (body cs, some (rest.takeWhile (· ≠ '#')), (rest.dropWhile (· ≠ '#')).tail?)
  | '#' :: rest => (body cs, none, some rest)
  | _ => (cs, none, none)

/-- The text before the last at sign, if there is one, and the text after it. -/
def splitCredentials (cs : List Char) : Option (List Char) × List Char :=
  let after := (cs.reverse.takeWhile (· ≠ '@')).reverse
  if after.length = cs.length then (none, cs)
  else (some (cs.take (cs.length - after.length - 1)), after)

/-- The host's text, which ends at a colon outside square brackets, and the rest. -/
def splitHost (inBrackets : Bool) : List Char → List Char × List Char
  | [] => ([], [])
  | c :: rest =>
    if c = ':' ∧ !inBrackets then ([], c :: rest)
    else
      let inside := if c = '[' then true else if c = ']' then false else inBrackets
      let (host, after) := splitHost inside rest
      (c :: host, after)

/-- The number of a service, none if no digit is written, and the text behind it. Only a backslash
may follow the digits. -/
def readService (cs : List Char) : Except UrlError (Option Nat × List Char) :=
  let digits := cs.takeWhile Char.isDigit
  let rest := cs.dropWhile Char.isDigit
  let number := digitsValue 10 digits
  if 0xFFFF < number || !rest.head?.all (· == '\\') then .error .invalidPortNumber
  else .ok (if digits = [] then none else some number, rest)

/-- Reads an authority. `more` says that something follows it. What is left of it belongs to the
path. -/
def readAuthority (kind : SchemeKind) (cs : List Char) (more : Bool) :
    Except UrlError (Authority × List Char) := do
  let (credentials, place) := splitCredentials cs
  if credentials = some [] && place = [] && more then throw .emptyHost
  let secret := credentials.getD []
  let user := escape escapedInCredentials (secret.takeWhile (· ≠ ':'))
  let password := escape escapedInCredentials (secret.dropWhile (· ≠ ':')).tail
  let (hostText, behind) := splitHost false place
  let host ← match kind with
    | .general => Host.ofText hostText
    | _ => if hostText = [] then .error .emptyHost else Host.ofDomain hostText
  if host.isEmpty && behind ≠ [] then throw .emptyHost
  let (service, rest) ← readService behind.tail
  if host.isEmpty && (user ≠ [] || password ≠ []) then throw .emptyHost
  let told := match kind with
    | .web number => if service = some number then none else service
    | _ => service
  return (⟨String.ofList user, String.ofList password, host, told⟩, rest)

/-- Whether a character is a slash of either kind. -/
def isSlash (c : Char) : Bool := c == '/' || c == '\\'

/-- The text without a slash at its start. -/
def dropSlash (kind : PathKind) : List Char → List Char
  | c :: rest => if kind.isSeparator c then rest else c :: rest
  | [] => []

/-- The authority and the path behind two slashes. -/
def readHierarchy (kind : SchemeKind) (cs : List Char) (tailed : Bool) :
    Except UrlError (Authority × List Char) := do
  let ends (c : Char) := kind.pathKind.isSeparator c
  let after := cs.dropWhile (!ends ·)
  let (authority, rest) ← readAuthority kind (cs.takeWhile (!ends ·)) (after ≠ [] || tailed)
  let path := rest ++ after
  if kind = .general ∧ path = [] then return (authority, [])
  return (authority, (readPath kind.pathKind (dropSlash kind.pathKind path)).1)

/-- An authority that is its host alone. -/
def Authority.ofHost (host : Host) : Authority := ⟨"", "", host, none⟩

/-- The authority and the path of a file, behind its scheme. A host is read after two slashes,
unless a drive letter stands there; the local host, and a host before a drive letter, are left
out. -/
def readFile (cs : List Char) : Except UrlError (Authority × List Char) :=
  let nowhere := Authority.ofHost (.name "")
  match cs with
  | first :: second :: rest =>
    if isSlash first && isSlash second then do
      let text := rest.takeWhile (!isSlash ·)
      let after := rest.dropWhile (!isSlash ·)
      if isDrive text then return (nowhere, (readPath .file rest).1)
      let host ← if text = [] then pure (.name "") else Host.ofDomain text
      if host.isEmpty || host = .name "localhost" then
        return (nowhere, (readPath .file after).1)
      let (path, onDrive) := readPath .file (dropSlash .file after)
      return (if onDrive then nowhere else .ofHost host, path)
    else .ok (nowhere, (readPath .file (dropSlash .file cs)).1)
  | _ => .ok (nowhere, (readPath .file (dropSlash .file cs)).1)

/-- The authority, if there is one, and the path, behind the scheme. -/
def readBody (kind : SchemeKind) (cs : List Char) (tailed : Bool) :
    Except UrlError (Option Authority × List Char) :=
  match kind with
  | .file => (readFile cs).map fun (a, path) => (some a, path)
  | .web _ => (readHierarchy kind (cs.dropWhile isSlash) tailed).map fun (a, path) => (some a, path)
  | .general =>
    match cs with
    | '/' :: '/' :: rest => (readHierarchy kind rest tailed).map fun (a, path) => (some a, path)
    | '/' :: rest => .ok (none, (readPath .general rest).1)
    | _ => .ok (none, escape isControl cs)

/-- Reads an absolute URL. -/
def parse (text : String) : Except UrlError Url := do
  let some (scheme, rest) := splitScheme (significant text.toList) | throw .relative
  let kind := SchemeKind.of scheme
  let (body, query, fragment) := splitTail rest
  let (authority, path) ← readBody kind body (query.isSome || fragment.isSome)
  let escapedQuery := if kind = .general then escapedInQuery else escapedInSpecialQuery
  return {
    scheme := scheme
    authority := authority
    path := String.ofList path
    query := query.map fun q => String.ofList (escape escapedQuery q)
    fragment := fragment.map fun f => String.ofList (escape escapedInFragment f) }

end Url

end DeclSynth
