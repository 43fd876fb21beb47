import Bitslice.Circuit.Load
import Bitslice.File.Path
import Bitslice.File.Writer

/-!
# File operations

`FileSystem` names the operations that programs need. They answer with a
failure as a value, so a program decides what to do about it. Making a
directory with all that is above it is put together from them.
-/

namespace Bitslice

/-- A context in which files can be used. -/
class FileSystem (m : Type → Type) where
  /-- Opens a file for reading. A directory can be opened too, but not read. -/
  openFile : String → m (Except IoFailure OpenedFile)
  /-- Makes an empty file, or empties one that is there, and tells what it stands on. -/
  createFile : String → m (Except IoFailure Device)
  /-- Replaces what a file holds, as far as there is room for it. -/
  storeBytes : String → Bytes → m (Except IoFailure Unit)
  /-- Makes a directory inside one that exists. -/
  makeDirectory : String → m (Except IoFailure Unit)
  /-- Whether a path names a directory. -/
  isDirectory : String → m Bool
  /-- Removes a file. -/
  removeFile : String → m (Except IoFailure Unit)
  /-- Prints a text and ends the line. -/
  say : String → m Unit

namespace FileSystem

variable {m : Type → Type} [Monad m] [FileSystem m]

/-- Makes a directory that may be there already. -/
def makeOrKeep (path : String) : m (Except IoFailure Unit) := do
  match ← makeDirectory path with
  | .ok () => pure (.ok ())
  | .error cause => if ← isDirectory path then pure (.ok ()) else pure (.error cause)

/-- Makes a directory, given those above it, nearest first. They are made only if the directory
cannot be made without them. -/
def makeBelow (path : String) : List String → m (Except IoFailure Unit)
  | [] => makeOrKeep path
  | parent :: above => do
    match ← makeDirectory path with
    | .ok () => pure (.ok ())
    | .error cause =>
      if cause.kind = .notFound then
        match ← makeBelow parent above with
        | .error cause => pure (.error cause)
        | .ok () => makeOrKeep path
      else if ← isDirectory path then pure (.ok ())
      else pure (.error cause)

/-- Makes a directory and whatever is missing above it. -/
def makeDirectories (path : String) : m (Except IoFailure Unit) :=
  makeBelow path (Path.ancestors path)

/-- Writes a file whole. -/
def writeFile (path : String) (contents : Bytes) : m (Except IoFailure Unit) := do
  match ← createFile path with
  | .error cause => pure (.error cause)
  | .ok _ => storeBytes path contents

end FileSystem

end Bitslice
