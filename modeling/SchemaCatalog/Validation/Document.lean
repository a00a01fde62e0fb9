/-
  Schema documents
  ================
  **What the references in a schema document lead to.**

  A reference is a URL, relative to the address of the schema that it stands
  in.  A schema has an address of its own if it names one with `$id`, and
  shares that of the schema around it otherwise.  A document without an
  address counts as the one at `Scope.rootUrl`.

  A reference that is the address of a part leads to that part.  Any other
  leads into a document, and its fragment is a pointer to a place in it.
-/
import SchemaCatalog.Text.Utf8
import SchemaCatalog.Url.Reader
import SchemaCatalog.Validation.Location
import SchemaCatalog.Validation.MetaSchema

namespace SchemaCatalog

/-- What the references in a schema are relative to; nothing where no address is known. -/
abbrev Scope := Option Url

namespace Scope

def rootScheme : String := "json-schema"

/-- The address of a document without an address of its own. -/
def rootUrl : Url :=
  { scheme := rootScheme, authority := some { host := .name "" }, path := .rooted [""] }

/-- The scope of what stands at an address. -/
def ofUrl (u : Url) : Scope := if u.scheme = rootScheme then none else some u

/-- The URL of a reference. -/
def urlOf (s : Scope) (reference : String) : Except UrlError Url :=
  Url.read (some (s.getD rootUrl)) reference

/-- The scope inside a schema with this `$id`. -/
def enter (s : Scope) (id : String) : Except UrlError Scope :=
  match s, Url.read s id with
  | _, .ok u => .ok (ofUrl u)
  | none, .error .relativeWithoutBase => .ok none
  | _, .error e => .error e

end Scope

namespace Json

/-- The address that a schema names for itself. -/
def id? (schema : Json) : Option String :=
  match schema.get? "$id" with
  | some (str id) => some id
  | _ => none

mutual

/-- The parts of a value at the address `base` that have addresses of their own, with these.
    A part comes before the parts in it. -/
def partsWithin (base : Url) : Json → Except UrlError (List (String × Json))
  | arr l => partsOfElements base l
  | obj ⟨l⟩ =>
    match id? (obj ⟨l⟩) with
    | some id => do
      let url := (← Url.read (some base) id).withoutEmptyFragment
      return (url.text, obj ⟨l⟩) :: (← partsOfMembers url l)
    | none => partsOfMembers base l
  | null | bool _ | num _ | str _ => .ok []

def partsOfElements (base : Url) : List Json → Except UrlError (List (String × Json))
  | [] => .ok []
  | v :: rest => do return (← partsWithin base v) ++ (← partsOfElements base rest)

/-- Constants and options are no schemas. -/
def partsOfMembers (base : Url) : List (String × Json) → Except UrlError (List (String × Json))
  | [] => .ok []
  | (k, v) :: rest => do
    let parts ← if k = "enum" ∨ k = "const" then .ok [] else partsWithin base v
    return parts ++ (← partsOfMembers base rest)

end

end Json

structure SchemaDocument where
  root : Json
  url : Url := Scope.rootUrl
  /-- The parts with addresses of their own. -/
  parts : List (String × Json) := []

/-- Why a reference leads nowhere. -/
inductive ReferenceError where
  | fragmentNoText (f : Utf8Fault)
  | noDocument (u : Url)
  | noPlace (u : Url)
  | noUrl (e : UrlError)
deriving DecidableEq, Repr

namespace ReferenceError

/-- Why there is no document at an address. -/
def reason (u : Url) : String :=
  let host := u.authority.map (·.host)
  match u.scheme with
  | "json-schema" => "cannot resolve relative external schema without root schema ID"
  | "file" =>
    if host ≠ some (.name "") then "invalid file path"
    else if u.path = .rooted [""] then "Is a directory (os error 21)"
    else "No such file or directory (os error 2)"
  | "http" | "https" =>
    "error sending request for url (" ++ u.text ++ "): error trying to connect: dns error: " ++
      "failed to lookup address information: Temporary failure in name resolution"
  | scheme => "unknown scheme " ++ scheme

def message : ReferenceError → String
  | fragmentNoText f => f.message
  | noDocument u => "failed to resolve " ++ u.text ++ ": " ++ reason u
  | noPlace u => "Invalid reference: " ++ u.text
  | noUrl e => e.message

end ReferenceError

namespace SchemaDocument

/-- The document with this root, if all addresses in it are URLs. -/
def ofJson (root : Json) : Except UrlError SchemaDocument := do
  let url ← match root.id? with
    | some id => Url.read none id
    | none => .ok Scope.rootUrl
  return { root, url, parts := ← root.partsWithin url }

/-- The document at an address. -/
def documentAt? (d : SchemaDocument) (address : String) : Option Json :=
  if address = Scope.rootUrl.text then some d.root
  else (d.parts.reverse.lookup address).or <|
    if address = d.url.text then some d.root
    else if address = Json.metaSchemaAddress then some Json.metaSchema
    else none

/-- What a reference leads to, and the scope in there. -/
def resolve (d : SchemaDocument) (url : Url) : Except ReferenceError (Scope × Json) := do
  let fragment ← (Bytes.toText (Percent.decode (Bytes.ofString (url.fragment.getD "")))).mapError
    .fragmentNoText
  match d.parts.lookup url.text with
  | some schema => return (.ofUrl url.document, schema)
  | none =>
    let some document := d.documentAt? url.document.text | throw (.noDocument url.document)
    match (Pointer.ofText? fragment).bind document.follow? with
    | none => throw (.noPlace url)
    | some way =>
      -- the first address on the way is that of the document itself
      let ids := (way.dropLast.filterMap Json.id?).drop 1
      let url ← (ids.foldlM (fun u id => Url.read (some u) id) url.document).mapError .noUrl
      return (.ofUrl url, way.getLast?.getD document)

end SchemaDocument

end SchemaCatalog
