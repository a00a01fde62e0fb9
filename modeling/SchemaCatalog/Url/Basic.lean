/-
  URLs
  ====
  **What a URL consists of, and how it is written.**

  A URL has a scheme, perhaps an authority (who answers for it), a path,
  perhaps a query and perhaps a fragment.  A path is either rooted, a list
  of segments each behind a slash, or plain text, which nothing can be
  relative to.  All parts are kept in their encoded form, so that writing
  puts them one behind the other.
-/
import SchemaCatalog.Url.Host

namespace SchemaCatalog

structure Authority where
  /-- The name of a user, perhaps with a colon and a password. -/
  user : String := ""
  host : Host
  /-- The port, unless it is the one of the scheme. -/
  port : Option Nat := none
deriving DecidableEq, Repr

namespace Authority

def text (a : Authority) : String :=
  (if a.user = "" then "" else a.user ++ "@") ++ a.host.text ++
    ((a.port.map fun n => ":" ++ Nat.repr n).getD "")

end Authority

inductive UrlPath where
  /-- Segments, each behind a slash. -/
  | rooted (segments : List String)
  /-- Text that does not start with a slash. -/
  | plain (text : String)
deriving DecidableEq, Repr

namespace UrlPath

def text : UrlPath → String
  | rooted segments => String.join (segments.map ("/" ++ ·))
  | plain text => text

end UrlPath

structure Url where
  scheme : String
  authority : Option Authority := none
  path : UrlPath := .rooted []
  query : Option String := none
  fragment : Option String := none
deriving DecidableEq, Repr

namespace Url

/-- The schemes of the web, with their ports. -/
def webPorts : List (String × Nat) :=
  [("http", 80), ("https", 443), ("ws", 80), ("wss", 443), ("ftp", 21)]

/-- Whether a scheme is one of the web: there is always a host, and a backslash counts as a
    slash. -/
def isWebScheme (scheme : String) : Bool := webPorts.any (·.1 = scheme)

/-- Between a scheme and a path that starts with two slashes something must stand. -/
def separator (u : Url) : String :=
  match u.authority, u.path with
  | none, .rooted ("" :: _ :: _) => "/."
  | _, _ => ""

def text (u : Url) : String :=
  u.scheme ++ ":" ++ ((u.authority.map fun a => "//" ++ a.text).getD "") ++ u.separator ++
    u.path.text ++ ((u.query.map ("?" ++ ·)).getD "") ++ ((u.fragment.map ("#" ++ ·)).getD "")

/-- The document that a URL leads into. -/
def document (u : Url) : Url := { u with fragment := none }

/-- An empty fragment is as good as none. -/
def withoutEmptyFragment (u : Url) : Url := if u.fragment = some "" then u.document else u

end Url

end SchemaCatalog
