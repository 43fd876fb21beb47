import Bitslice.Campaign.CommandLine

/-!
# The campaign program

Runs a command line on the files and the clock of the operating system.
-/

namespace Bitslice.Program

/-- An error number of the operating system, which some operations report with its sign turned. -/
def errorNumber (code : UInt32) : UInt32 :=
  min code (0 - code)

/-- The failure that an exception of the operating system stands for. -/
def failureOf : IO.Error → IoFailure
  | .noFileOrDirectory .. => .system .noEntry
  | .noSuchThing .. => .system .noEntry
  | .alreadyExists .. => .system .entryExists
  | .resourceExhausted _ code details =>
    if errorNumber code = 28 then .system .noSpace else .device .other details
  | .inappropriateType _ code details =>
    if errorNumber code = 20 then .system .notDirectory
    else if errorNumber code = 21 then .system .isDirectory
    else .device .other details
  | failure => .device .other (toString failure)

/-- Performs an operation of the operating system. -/
def attempt {α : Type} (operation : IO α) : IO (Except IoFailure α) := do
  match ← operation.toBaseIO with
  | .ok value => pure (.ok value)
  | .error failure => pure (.error (failureOf failure))

/-- Whether a path names a directory. -/
def isDirectory (path : String) : IO Bool := do
  match ← (IO.FS.realPath path).toBaseIO with
  | .ok real => real.isDir
  | .error _ => pure false

instance : FileSystem IO where
  openFile path := do
    if ← isDirectory path then pure (.ok ⟨⟨[], some (.system .isDirectory)⟩, 0⟩)
    else
      attempt do
        let contents ← IO.FS.readBinFile path
        pure ⟨.ofBytes contents.toList, UInt64.ofNat contents.size⟩
  createFile path := attempt do
    let _ ← IO.FS.Handle.mk path .write
    pure .unlimited
  storeBytes path contents := attempt do
    let handle ← IO.FS.Handle.mk path .write
    handle.write ⟨contents.toArray⟩
    handle.flush
  makeDirectory path := attempt (IO.FS.createDir path)
  isDirectory := isDirectory
  removeFile path := attempt (IO.FS.removeFile path)
  say text := IO.println text

/-- A duration in its largest whole unit, with two decimals. -/
def duration (nanoseconds : Nat) : String :=
  let inUnit (unit : Nat) (name : String) : String :=
    let hundredths := (nanoseconds * 100 + unit / 2) / unit
    let whole := hundredths / 100
    let tens := hundredths / 10 % 10
    let ones := hundredths % 10
    s!"{whole}.{tens}{ones}{name}"
  if 1000000000 ≤ nanoseconds then inUnit 1000000000 "s"
  else if 1000000 ≤ nanoseconds then inUnit 1000000 "ms"
  else inUnit 1000 "µs"

/-- The regular texts of an ending; the closing line of a campaign tells the time it took. -/
def closing (ending : Ending) (elapsed : Nat) : List String :=
  match ending with
  | .recorded summary => [summary.line ++ " in " ++ duration elapsed]
  | ending => ending.printed

end Bitslice.Program

open Bitslice in
/-- Runs the command line and exits with its status. -/
def main (words : List String) : IO UInt32 := do
  let start ← IO.monoNanosNow
  let ending ← Campaign.ofCommandLine Reservation.standard words (UInt64.ofNat start)
  let stop ← IO.monoNanosNow
  for text in Program.closing ending (stop - start) do
    IO.println text
  for text in ending.reported do
    IO.eprintln text
  return ending.status.toUInt32
