/-
  Files
  =====
  **The files that a command reads and writes.**

  Commands reach files only through a `FileAccess`, so what a command does
  is the same over a disk and over a `FileTree`, the files below one working
  directory as a value.

  A path is a list of components between slashes, and is followed from
  component to component: whatever another component follows must be a
  directory, also where that component is empty, a dot that stays, or two
  dots that lead back.  Files are listed in the order of their components,
  so what lies in a directory comes where the directory's name would.
-/
import SchemaCatalog.Json.Token
import SchemaCatalog.Table

namespace SchemaCatalog

inductive FileError where
  | notFound
  | notDirectory
  | isDirectory
  | other (text : String)
deriving DecidableEq, Repr

def FileError.message : FileError → String
  | notFound => "No such file or directory (os error 2)"
  | notDirectory => "Not a directory (os error 20)"
  | isDirectory => "Is a directory (os error 21)"
  | other text => text

/-- The operations on files, as actions of `m`. -/
structure FileAccess (m : Type → Type) where
  read : String → m (Except FileError Bytes)
  write : String → Bytes → m (Except FileError Unit)
  /-- Whether there is a file or a directory at a path. -/
  isPresent : String → m Bool
  isFile : String → m Bool
  isDirectory : String → m Bool
  /-- The paths of all files below a directory, in order. -/
  filesBelow : String → m (List String)

/-! ### Paths -/

namespace FilePath

def isAbsolute (path : String) : Bool := path.toList.head? = some '/'

/-- The path `path` as seen from `directory`. -/
def join (directory path : String) : String :=
  if isAbsolute path then path
  else if directory.toList.getLast? = some '/' then directory ++ path
  else directory ++ "/" ++ path

/-- Takes one component to those before it, latest first; `none` if it leads out. -/
def pushComponent (before : List String) (component : String) : Option (List String) :=
  if component = "" ∨ component = "." then some before
  else if component = ".." then
    match before with
    | [] => none
    | _ :: rest => some rest
  else some (component :: before)

def split (path : String) : List String := (path.toList.splitOn '/').map String.ofList

/-- The components of a relative path, or `none` if it leads out of its directory. -/
def components? (path : String) : Option (List String) :=
  ((split path).foldlM pushComponent []).map List.reverse

/-- The last component. -/
def name (path : String) : String := (split path).getLast?.getD ""

/-- A path without empty components and dots at its end. -/
def trimmed (path : String) : String :=
  "/".intercalate
    ((split path).reverse.dropWhile fun component => component = "" ∨ component = ".").reverse

/-- Whether the first list of components is listed before the second. -/
def precedes : List String → List String → Bool
  | [], _ => true
  | _ :: _, [] => false
  | a :: l, b :: m => a < b || (a == b && precedes l m)

end FilePath

/-! ### Files as a value -/

/-- The files below a working directory, by their components joined with slashes. -/
structure FileTree where
  /-- The name of the working directory. -/
  directory : String
  files : Table Bytes := {}
deriving Repr

namespace FileTree

/-- The part of a path behind the working directory, or `none` if it leads elsewhere. -/
def inside? (t : FileTree) (path : String) : Option String :=
  let front := (t.directory ++ "/").toList
  if front.isPrefixOf path.toList then some (String.ofList (path.toList.drop front.length))
  else if path = t.directory then some "."
  else if FilePath.isAbsolute path then none
  else some path

def keyOf (components : List String) : String := "/".intercalate components

/-- The components of every file, in path order. -/
def paths (t : FileTree) : List (List String) :=
  (t.files.keys.map FilePath.split).mergeSort FilePath.precedes

def hasFile (t : FileTree) (components : List String) : Bool :=
  components ≠ [] && t.files.contains (keyOf components)

/-- A directory is the working directory or one with a file below. -/
def hasDirectory (t : FileTree) (components : List String) : Bool :=
  components = [] ||
    t.paths.any fun p => components.isPrefixOf p && components.length < p.length

/-- The place that components lead to from the place `before`, which must be a directory unless
    it is the end. -/
def follow (t : FileTree) (before : List String) : List String → Except FileError (List String)
  | [] => .ok before
  | component :: rest =>
    if t.hasFile before then .error .notDirectory
    else if ¬ t.hasDirectory before then .error .notFound
    else if component = "" ∨ component = "." then t.follow before rest
    else if component = ".." then
      if before = [] then .error .notFound else t.follow before.dropLast rest
    else t.follow (before ++ [component]) rest

/-- The place that a path leads to.  A file or directory there may be missing, but not one on
    the way. -/
def locate (t : FileTree) (path : String) : Except FileError (List String) :=
  match t.inside? path with
  | none | some "" => .error .notFound
  | some path => t.follow [] (FilePath.split path)

def isFile (t : FileTree) (path : String) : Bool :=
  match t.locate path with
  | .ok place => t.hasFile place
  | .error _ => false

def isDirectory (t : FileTree) (path : String) : Bool :=
  match t.locate path with
  | .ok place => t.hasDirectory place
  | .error _ => false

def read (t : FileTree) (path : String) : Except FileError Bytes := do
  let place ← t.locate path
  if t.hasDirectory place then throw .isDirectory
  match t.files.get? (keyOf place) with
  | some bytes => return bytes
  | none => throw .notFound

/-- A path without the slashes at its end. -/
def withoutEndSlashes (path : String) : String :=
  String.ofList (path.toList.reverse.dropWhile (· = '/')).reverse

/-- Writes a file into a directory that exists.  What ends in a slash can be no file. -/
def write (t : FileTree) (path : String) (bytes : Bytes) : Except FileError FileTree := do
  let place ← t.locate (withoutEndSlashes path)
  if t.hasDirectory place ∨ withoutEndSlashes path ≠ path then throw .isDirectory
  return { t with files := t.files.insert (keyOf place) bytes }

def filesBelow (t : FileTree) (path : String) : List String :=
  match t.locate path with
  | .error _ => []
  | .ok place =>
    (t.paths.filter fun p => place.isPrefixOf p).map fun p =>
      FilePath.join path (keyOf (p.drop place.length))

/-- Access to the files of a tree that is passed along. -/
def access : FileAccess (StateM FileTree) where
  read path := do return (← get).read path
  write path bytes := do
    match (← get).write path bytes with
    | .ok t =>
      set t
      return .ok ()
    | .error e => return .error e
  isPresent path := do return (← get).isFile path || (← get).isDirectory path
  isFile path := do return (← get).isFile path
  isDirectory path := do return (← get).isDirectory path
  filesBelow path := do return (← get).filesBelow path

end FileTree

end SchemaCatalog
