import Bitslice.File.System
import Std.Data.TreeMap.Basic

/-!
# File trees

A `FileTree` is a file system as a value: what stands under each sequence of
names below the root, what the files stand on, and the directory that relative
paths begin in. Every operation answers as the operating system would; one that
fails changes nothing, except that a file keeps what its device has room for.
-/

namespace Bitslice

/-- What a name can stand for. -/
inductive Entry where
  /-- A file with its contents. -/
  | file (contents : Bytes)
  /-- A directory. -/
  | directory

/-- A tree of files and directories. -/
structure FileTree where
  /-- What is below the root. Every entry's directory is an entry too. -/
  entries : Std.TreeMap (List String) Entry
  /-- The names that lead to the working directory. -/
  working : List String
  /-- What a file of these names stands on. -/
  device : List String → Device

namespace FileTree

/-- An empty working directory of the given name, with room for every file. -/
def empty (working : String) : FileTree :=
  ⟨(∅ : Std.TreeMap (List String) Entry).insert [working] .directory, [working],
    fun _ => .unlimited⟩

/-- What some names lead to. The root is a directory. -/
def entry? (tree : FileTree) (names : List String) : Option Entry :=
  if names = [] then some .directory else tree.entries.get? names

/-- The tree with one entry replaced or added. -/
def insert (tree : FileTree) (names : List String) (entry : Entry) : FileTree :=
  { tree with entries := tree.entries.insert names entry }

/-- The directory that a step leads to. -/
def enter (tree : FileTree) (directory : List String) (step : String) :
    Except IoFailure (List String) :=
  if step = "." then .ok directory
  else if step = ".." then .ok directory.dropLast
  else
    match tree.entry? (directory ++ [step]) with
    | none => .error (.system .noEntry)
    | some (.file _) => .error (.system .notDirectory)
    | some .directory => .ok (directory ++ [step])

/-- The directory that several steps lead to. -/
def walk (tree : FileTree) (directory : List String) : List String → Except IoFailure (List String)
  | [] => .ok directory
  | step :: later =>
    match tree.enter directory step with
    | .error cause => .error cause
    | .ok next => tree.walk next later

/-- The names that a path leads to. All steps but the last have to be directories that exist. -/
def locate (tree : FileTree) (path : String) : Except IoFailure (List String) :=
  let start := if Path.isAbsolute path then [] else tree.working
  let steps := Path.steps path
  if path = "" then .error (.system .noEntry)
  else
    match steps.getLast? with
    | none => .ok start
    | some last =>
      match tree.walk start steps.dropLast with
      | .error cause => .error cause
      | .ok directory =>
        if last = "." then .ok directory
        else if last = ".." then .ok directory.dropLast
        else .ok (directory ++ [last])

/-- A source that fails as reading a directory does. -/
def directorySource : ByteSource :=
  ⟨[], some (.system .isDirectory)⟩

/-- Opens what a path names. -/
def openFile (tree : FileTree) (path : String) : Except IoFailure OpenedFile :=
  match tree.locate path with
  | .error cause => .error cause
  | .ok names =>
    match tree.entry? names with
    | none => .error (.system .noEntry)
    | some .directory => .ok ⟨directorySource, 0⟩
    | some (.file contents) =>
      if Path.namesDirectory path then .error (.system .notDirectory)
      else .ok ⟨.ofBytes contents, UInt64.ofNat contents.length⟩

/-- Makes an empty file, or empties one. -/
def createFile (tree : FileTree) (path : String) : Except IoFailure FileTree :=
  match tree.locate path with
  | .error cause => .error cause
  | .ok names =>
    match tree.entry? names with
    | some .directory => .error (.system .isDirectory)
    | _ =>
      if Path.namesDirectory path then .error (.system .isDirectory)
      else .ok (tree.insert names (.file []))

/-- What the file of a path stands on. Where a path leads nowhere, nothing is refused. -/
def deviceAt (tree : FileTree) (path : String) : Device :=
  match tree.locate path with
  | .error _ => .unlimited
  | .ok names => tree.device names

/-- Replaces the contents of a file. Nothing happens where there is none. -/
def storeBytes (tree : FileTree) (path : String) (contents : Bytes) : FileTree :=
  match tree.locate path with
  | .error _ => tree
  | .ok names =>
    match tree.entry? names with
    | some (.file _) => tree.insert names (.file contents)
    | _ => tree

/-- Makes a directory where nothing is. -/
def makeDirectory (tree : FileTree) (path : String) : Except IoFailure FileTree :=
  match tree.locate path with
  | .error cause => .error cause
  | .ok names =>
    match tree.entry? names with
    | some _ => .error (.system .entryExists)
    | none => .ok (tree.insert names .directory)

/-- Whether a path names a directory. -/
def isDirectory (tree : FileTree) (path : String) : Bool :=
  match tree.locate path with
  | .error _ => false
  | .ok names =>
    match tree.entry? names with
    | some .directory => true
    | _ => false

/-- Removes a file. -/
def removeFile (tree : FileTree) (path : String) : Except IoFailure FileTree :=
  match tree.locate path with
  | .error cause => .error cause
  | .ok names =>
    match tree.entry? names with
    | none => .error (.system .noEntry)
    | some .directory => .error (.system .isDirectory)
    | some (.file _) =>
      if Path.namesDirectory path then .error (.system .notDirectory)
      else .ok { tree with entries := tree.entries.erase names }

/-- The contents of a file, if a path names one. -/
def contents? (tree : FileTree) (path : String) : Option Bytes :=
  match tree.locate path with
  | .error _ => none
  | .ok names =>
    match tree.entry? names with
    | some (.file contents) => some contents
    | _ => none

/-- All files below the working directory: the path from there and the contents, in the order
of their names. -/
def files (tree : FileTree) : List (String × Bytes) :=
  tree.entries.toList.filterMap fun (names, entry) =>
    match entry with
    | .directory => none
    | .file contents =>
      if tree.working.isPrefixOf names then
        some (Path.ofSteps false (names.drop tree.working.length), contents)
      else none

end FileTree

/-- A console and a file tree: what a program that runs on values can see and change. -/
structure Machine where
  /-- The files. -/
  tree : FileTree
  /-- The texts printed so far, each of which has ended its line. -/
  printed : Array String

namespace Machine

/-- Replaces the tree by what an operation makes of it, if it succeeds. -/
def update (operation : FileTree → Except IoFailure FileTree) :
    StateM Machine (Except IoFailure Unit) :=
  fun machine =>
    match operation machine.tree with
    | .error cause => (.error cause, machine)
    | .ok tree => (.ok (), { machine with tree := tree })

instance : FileSystem (StateM Machine) where
  openFile path := fun machine => (machine.tree.openFile path, machine)
  createFile path := fun machine =>
    match machine.tree.createFile path with
    | .error cause => (.error cause, machine)
    | .ok tree => (.ok (tree.deviceAt path), { machine with tree := tree })
  storeBytes path contents := fun machine =>
    let device := machine.tree.deviceAt path
    (device.answer contents.length,
      { machine with tree := machine.tree.storeBytes path (device.fitting contents) })
  makeDirectory path := update fun tree => tree.makeDirectory path
  isDirectory path := fun machine => (machine.tree.isDirectory path, machine)
  removeFile path := update fun tree => tree.removeFile path
  say text := fun machine => ((), { machine with printed := machine.printed.push text })

end Machine

end Bitslice
