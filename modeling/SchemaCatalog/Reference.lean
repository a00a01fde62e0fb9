/-
  Reference tokens
  ================
  **What a reference token names.**

  A token is a prefix followed by a name.  Inside a document the prefix is
  that of the definitions, and a token without it is a name as a whole
  (`entityIdentifier`).  When tokens are carried over to another
  prefix, several prefixes are recognized, and a token with none of them
  names what stands after its last slash (`refIdentifier`).
-/
namespace SchemaCatalog

/-- The prefix of references to the definitions of the same document. -/
def definitionsPrefix : String := "#/definitions/"

/-- The prefix of references in published documents. -/
def componentsPrefix : String := "#/components/schemas/"

/-- What follows `start` in a list of characters that begins with it. -/
def afterStart? : List Char → List Char → Option (List Char)
  | [], l => some l
  | _ :: _, [] => none
  | c :: start, d :: l => if c = d then afterStart? start l else none

/-- What follows the prefix `start` of a token, if it begins so. -/
def stripPrefix? (token start : String) : Option String :=
  (afterStart? start.toList token.toList).map String.ofList

/-- The name of the entity that a token refers to. -/
def entityIdentifier (token definitionsPrefix : String) : String :=
  (stripPrefix? token definitionsPrefix).getD token

/-- The characters after the last slash. -/
def afterLastSlash (l : List Char) : List Char :=
  (l.reverse.takeWhile (· ≠ '/')).reverse

/-- The name that a token carries after any of the prefixes, or after the prefixes of
    definitions and components, or after its last slash. -/
def refIdentifier (token : String) (prefixes : List String) : String :=
  let known := (prefixes ++ [definitionsPrefix, componentsPrefix]).filter (· ≠ "")
  (known.findSome? (stripPrefix? token)).getD (String.ofList (afterLastSlash token.toList))

/-- The token of the same name under the prefix `target`; the name is what follows `source`, or
    `target`, or else as `refIdentifier` finds it. -/
def retargetToken (source target token : String) : String :=
  target ++ refIdentifier token [source, target]

end SchemaCatalog
