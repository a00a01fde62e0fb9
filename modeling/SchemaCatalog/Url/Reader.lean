/-
  Reading URLs
  ============
  **The URL of a text, perhaps relative to another URL.**

  A text that starts with a scheme stands on its own; any other is relative
  to a base and takes from it what it does not say itself: the scheme, then
  the authority, then the path but for its last segment.  Dots and double
  dots in a path are resolved while it is read.  Control characters and
  spaces around a text, and tabs and line breaks anywhere in it, count for
  nothing.
-/
import SchemaCatalog.Url.Basic

namespace SchemaCatalog.Url

/-! ### Parts of a text -/

def isTrimmed (c : Char) : Bool := c.toNat ≤ 0x20

/-- The characters that count. -/
def clean (s : String) : List Char :=
  let l := ((s.toList.dropWhile isTrimmed).reverse.dropWhile isTrimmed).reverse
  l.filter fun c => c ≠ '\t' ∧ c ≠ '\n' ∧ c ≠ '\r'

def isSchemeChar (c : Char) : Bool := c.isAlphanum || c = '+' || c = '-' || c = '.'

/-- The scheme that a text starts with, in lower case, and the text behind its colon. -/
def scheme? (l : List Char) : Option (String × List Char) :=
  match l.head?, l.dropWhile isSchemeChar with
  | some c, ':' :: rest =>
    if c.isAlpha then
      some (String.ofList ((l.takeWhile isSchemeChar).map Char.toLower), rest)
    else none
  | _, _ => none

/-- Whether a character is a slash where the scheme is one of the web or not. -/
def isSlash (web : Bool) (c : Char) : Bool := c = '/' || (web && c = '\\')

/-- Whether a path, or what stands before it, ends at a character. -/
def endsPath (c : Char) : Bool := c = '?' || c = '#'

/-- Sets the query and the fragment of a URL to those that a text has behind its path. -/
def withTail (u : Url) (l : List Char) : Url :=
  let reserved := if isWebScheme u.scheme then '\'' :: Percent.inQuery else Percent.inQuery
  let query := match l with
    | '?' :: rest => some (Percent.encode reserved (String.ofList (rest.takeWhile (· ≠ '#'))))
    | _ => none
  let fragment := match l.dropWhile (· ≠ '#') with
    | _ :: rest => some (Percent.encode Percent.inFragment (String.ofList rest))
    | [] => none
  { u with query, fragment }

/-! ### Paths -/

/-- Splits a text at its slashes. -/
def splitSlashes (web : Bool) (l : List Char) : List (List Char) := l.splitOnP (isSlash web)

def isDot (segment : String) : Bool := segment ∈ [".", "%2e", "%2E"]

def isDoubleDot (segment : String) : Bool :=
  segment ∈ ["..", ".%2e", ".%2E", "%2e.", "%2E.", "%2e%2e", "%2e%2E", "%2E%2e", "%2E%2E"]

/-- Adds segments to the ones before them: a dot stays, two dots lead back, and either of them
    as the last one leaves an empty segment. -/
def pushSegments (before : List String) : List String → List String
  | [] => before
  | segment :: rest =>
    let before' :=
      if isDoubleDot segment then before.dropLast
      else if isDot segment then before
      else before ++ [segment]
    if rest = [] ∧ (isDot segment ∨ isDoubleDot segment) then before' ++ [""]
    else pushSegments before' rest

/-- The segments that a text adds to the ones before it; the text has no slash in front. -/
def readSegments (web : Bool) (before : List String) (l : List Char) : List String :=
  pushSegments before
    ((splitSlashes web l).map fun s => Percent.encode Percent.inPath (String.ofList s))

/-- The path behind an authority. -/
def pathBehindAuthority (web : Bool) (l : List Char) : List String :=
  match l with
  | [] => if web then [""] else []
  | c :: rest => readSegments web [] (if isSlash web c then rest else c :: rest)

/-! ### Authorities -/

/-- The user in front of the last `@`, and what stands behind it. -/
def readUser (l : List Char) : String × List Char :=
  if l.contains '@' then
    let back := (l.reverse.takeWhile (· ≠ '@')).reverse
    let front := l.take (l.length - back.length - 1)
    let name := front.takeWhile (· ≠ ':')
    let password := (front.dropWhile (· ≠ ':')).drop 1
    let encoded (l : List Char) : String := Percent.encode Percent.inUser (String.ofList l)
    (encoded name ++ (if password = [] then "" else ":" ++ encoded password), back)
  else ("", l)

/-- Splits a host from the colon of its port; a colon between brackets is part of the host. -/
def splitHost (inBrackets : Bool) : List Char → List Char × List Char
  | [] => ([], [])
  | c :: rest =>
    if c = ':' ∧ ¬ inBrackets then ([], c :: rest)
    else
      let (host, port) := splitHost (if c = '[' then true else inBrackets && c ≠ ']') rest
      (c :: host, port)

/-- A port behind its colon. -/
def readPort (scheme : String) (l : List Char) : Except UrlError (Option Nat) :=
  if l = [] then .ok none
  else
    match numeral? 10 l with
    | none => .error .invalidPort
    | some n =>
      if 65535 < n then .error .invalidPort
      else .ok (if (scheme, n) ∈ webPorts then none else some n)

/-- The authority of a text that is nothing else. -/
def readAuthority (scheme : String) (l : List Char) : Except UrlError Authority := do
  let (user, rest) := readUser l
  if l.contains '@' ∧ rest = [] then throw .emptyHost
  let (hostText, portText) := splitHost false rest
  let web := isWebScheme scheme
  if web ∧ hostText = [] then throw .emptyHost
  let host ← if web then Host.ofWebText hostText else Host.ofText hostText
  if host = .name "" ∧ (portText ≠ [] ∨ user ≠ "") then throw .emptyHost
  let port ← readPort scheme (portText.drop 1)
  return { user, host, port }

/-- A URL whose authority starts here. -/
def readBehindSlashes (scheme : String) (l : List Char) : Except UrlError Url := do
  let web := isWebScheme scheme
  let inAuthority (c : Char) : Bool := !(isSlash web c || endsPath c)
  let authority ← readAuthority scheme (l.takeWhile inAuthority)
  let rest := l.dropWhile inAuthority
  let path := pathBehindAuthority web (rest.takeWhile fun c => !endsPath c)
  return withTail { scheme, authority := some authority, path := .rooted path }
    (rest.dropWhile fun c => !endsPath c)

/-! ### Files -/

/-- A URL of a file.  Two slashes lead to a host, which may be left empty. -/
def readFile (l : List Char) : Except UrlError Url := do
  let (hostText, rest) := match l with
    | a :: b :: rest =>
      if isSlash true a && isSlash true b then
        let inHost (c : Char) : Bool := !(isSlash true c || endsPath c)
        (rest.takeWhile inHost, rest.dropWhile inHost)
      else ([], l)
    | l => ([], l)
  let host ← if hostText = [] then pure (Host.name "") else Host.ofWebText hostText
  let host := if host = .name "localhost" then .name "" else host
  let path := pathBehindAuthority true (rest.takeWhile fun c => !endsPath c)
  return withTail { scheme := "file", authority := some { host }, path := .rooted path }
    (rest.dropWhile fun c => !endsPath c)

/-! ### URLs -/

/-- A URL behind its scheme, which is not that of files. -/
def readBehindScheme (scheme : String) (l : List Char) : Except UrlError Url :=
  if isWebScheme scheme then readBehindSlashes scheme (l.dropWhile (isSlash true))
  else
    match l with
    | '/' :: '/' :: rest => readBehindSlashes scheme rest
    | l =>
      let pathText := l.takeWhile fun c => !endsPath c
      let path : UrlPath := match pathText with
        | '/' :: rest => .rooted (readSegments false [] rest)
        | text => .plain (Percent.encode [] (String.ofList text))
      .ok (withTail { scheme, path } (l.dropWhile fun c => !endsPath c))

/-- A URL relative to a base that has a rooted path of these segments. -/
def readRelative (base : Url) (segments : List String) (l : List Char) : Except UrlError Url :=
  let web := isWebScheme base.scheme
  let tail := l.dropWhile fun c => !endsPath c
  let pathText := l.takeWhile fun c => !endsPath c
  match pathText with
  | [] =>
    match tail with
    | '?' :: _ => .ok (withTail base tail)
    | _ => .ok { withTail base tail with query := base.query }
  | c :: rest =>
    if isSlash true c then
      match rest with
      | d :: _ =>
        if isSlash true d then
          let behind := match l with
            | '/' :: '/' :: behind => behind
            | l => l.dropWhile (isSlash true)
          readBehindSlashes base.scheme behind
        else .ok (withTail { base with path := .rooted (readSegments web [] rest) } tail)
      | [] => .ok (withTail { base with path := .rooted [""] } tail)
    else
      let segments := readSegments web segments.dropLast pathText
      .ok (withTail { base with path := .rooted segments } tail)

/-- How many slashes a text starts with. -/
def slashes (l : List Char) : Nat := (l.takeWhile (isSlash true)).length

/-- The URL of a text, relative to the base if there is one. -/
def read (base : Option Url) (s : String) : Except UrlError Url :=
  let l := clean s
  match scheme? l, base with
  | some ("file", rest), _ => readFile rest
  | some (scheme, rest), some b =>
    match b.path with
    | .rooted segments =>
      -- a scheme of the web that is that of the base may be left without slashes
      if isWebScheme scheme && scheme = b.scheme && slashes rest < 2 then
        readRelative b segments rest
      else readBehindScheme scheme rest
    | .plain _ => readBehindScheme scheme rest
  | some (scheme, rest), none => readBehindScheme scheme rest
  | none, none => .error .relativeWithoutBase
  | none, some b =>
    match b.path, l with
    | .plain _, '#' :: _ => .ok { withTail b l with query := b.query }
    | .plain _, _ => .error .relativeToPlain
    | .rooted segments, l => readRelative b segments l

end SchemaCatalog.Url
