/-
  Bundles in files
  ================
  **The entities of a bundle file, or of all bundle files in a directory.**

  The files below a directory whose names have the right ending are read in
  path order, and the first that cannot be read is the failure of the whole.
-/
import SchemaCatalog.Bundle
import SchemaCatalog.Config.Basic

namespace SchemaCatalog

namespace Bundle

section

variable {m : Type → Type} [Monad m] (files : FileAccess m)

def readFile (path : String) : m (Outcome Bundle) := do
  match ← files.read path with
  | .ok bytes => return ofBytes bytes
  | .error e => return .error (.io e.message)

/-- The entities of files in order, until one cannot be read. -/
def readFiles : List String → m (Outcome Bundle)
  | [] => return .ok {}
  | path :: rest => do
    match ← readFile files path with
    | .error e => return .error e
    | .ok first => return (← readFiles rest).map fun b => ⟨first.entities ++ b.entities⟩

/-- Whether the name of a file ends in `ending`. -/
def isNamed (ending path : String) : Bool :=
  ending.toList.isSuffixOf (FilePath.name path).toList

/-- The bundle of a file or a directory. -/
def load (path ending : String) : m (Outcome Bundle) := do
  if ← files.isDirectory path then
    readFiles files ((← files.filesBelow path).filter (isNamed ending))
  else readFile files path

/-- The registry of a bundle, which is that of the configuration unless a path is given. -/
def loadRegistry (c : Config) (directory : String) (path : Option String) :
    m (Outcome Registry) := do
  match path <|> c.bundlePathFrom directory with
  | none => return .error (.config "no entity bundle given; pass --bundle or set [bundle] path")
  | some path => return (← load files path c.bundleExtension).map toRegistry

end

end Bundle

end SchemaCatalog
