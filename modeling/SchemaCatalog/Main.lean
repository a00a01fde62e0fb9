/-
  The programs
  ============
  **The tools over the files of a disk.**

  The first word is the name of a tool and the others are for the tool.
  Everything that is decided here is how to reach files and variables.
-/
import SchemaCatalog.Command.Tool

namespace SchemaCatalog

namespace Disk

/-- The place on the disk that a path names. -/
def place (path : String) := IO.FS.DirEntry.root ⟨path, ""⟩

def fileError : IO.Error → FileError
  | .noFileOrDirectory .. => .notFound
  | .inappropriateType _ 20 _ => .notDirectory
  | .inappropriateType _ 21 _ => .isDirectory
  | e => .other e.toString

/-- An action on a file, with its failure as a value. -/
def attempt {α : Type} (action : IO α) : IO (Except FileError α) := do
  try
    return .ok (← action)
  catch e => return .error (fileError e)

/-- The files below a directory; what cannot be listed is left out. -/
partial def filesBelow (path : String) : IO (List String) := do
  match ← attempt (place path).readDir with
  | .error _ => return []
  | .ok entries =>
    let mut found := []
    for e in entries do
      let inner := FilePath.join path e.fileName
      if ← e.path.isDir then found := found ++ (← filesBelow inner)
      else found := found ++ [inner]
    return found

def access : FileAccess IO where
  read path := attempt do return (← IO.FS.readBinFile (place path)).toList
  write path bytes := attempt (IO.FS.writeBinFile (place path) ⟨bytes.toArray⟩)
  isPresent path := (place path).pathExists
  isFile path := do return (← (place path).pathExists) && !(← (place path).isDir)
  isDirectory path := (place path).isDir
  filesBelow path := do
    let found := (← filesBelow path).map FilePath.split
    return (found.mergeSort FilePath.precedes).map FileTree.keyOf

/-- The variables of the environment. -/
def environment : IO (List (String × String)) := do
  match ← access.read "/proc/self/environ" with
  | .error _ => return []
  | .ok bytes =>
    return (bytes.splitOn 0).filterMap fun setting => do
      let text := (← Bytes.toString? setting).toList
      let value ← (text.dropWhile (· ≠ '=')).tail?
      return (String.ofList (text.takeWhile (· ≠ '=')), String.ofList value)

/-- Where this program runs. -/
def surroundings : IO Surroundings := do
  let home := (← IO.getEnv "HOME").map (· ++ "/.config")
  let chosen := (← IO.getEnv "XDG_CONFIG_HOME").filter FilePath.isAbsolute
  return {
    directory := (← IO.currentDir).toString
    userDirectory := chosen <|> home
    environment := ← environment }

end Disk

end SchemaCatalog

open SchemaCatalog in
/-- Runs the tool that the first word names. -/
def main (words : List String) : IO UInt32 := do
  let t ← match words with
    | [] => pure (Command.Transcript.ofStop (.misuse .missingCommand))
    | name :: rest =>
      match Command.Tool.ofName? name with
      | none => pure (.ofStop (.misuse (.unknownCommand name)))
      | some tool => tool.run Disk.access (← Disk.surroundings) rest
  IO.print t.output
  IO.eprint t.errorOutput
  return t.exitCode.toUInt32
