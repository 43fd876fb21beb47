import Bitslice.Circuit.LoadFailure
import Bitslice.Execution.RunFailure

/-!
# Why a campaign stops

A failure names the step that could not be done and keeps what caused it. The
report lists the causes below the failure, outermost first. Messages name
paths, and a path may hold line breaks of its own.
-/

namespace Bitslice

/-- A campaign that stops before its end. -/
inductive CampaignFailure where
  /-- The circuit does not load. -/
  | load (circuit : String) (cause : LoadFailure)
  /-- The circuit's path has no name to call the traces by. -/
  | unnamed (circuit : String)
  /-- A file or directory cannot be made. -/
  | create (path : String) (cause : IoFailure)
  /-- A batch does not run. -/
  | batch (number : Nat) (cause : RunFailure)
  /-- A batch's trace cannot be opened again. -/
  | reopen (path : String) (cause : IoFailure)
  /-- A batch's trace cannot be split. -/
  | split (path : String) (cause : IoFailure)
  /-- A batch's trace cannot be removed. -/
  | remove (path : String) (cause : IoFailure)
  /-- A plaintext or ciphertext cannot be written. -/
  | write (cause : IoFailure)
  deriving DecidableEq, Repr

namespace CampaignFailure

/-- The messages of the failure and of its causes, outermost first. -/
def messages : CampaignFailure → List String
  | .load circuit cause => s!"failed to load {circuit}" :: cause.messages
  | .unnamed circuit => [s!"{circuit} has no usable file name"]
  | .create path cause => [s!"failed to create {path}", cause.message]
  | .batch number cause => s!"batch {number} failed" :: cause.messages
  | .reopen path cause => [s!"failed to open {path}", cause.message]
  | .split path cause => [s!"failed to split {path}", cause.message]
  | .remove path cause => [s!"failed to remove {path}", cause.message]
  | .write cause => [cause.message]

/-- A text behind a mark. The lines after the first are indented as far as the mark reaches. -/
def hanging (mark text : String) : String :=
  let indentation := String.ofList (List.replicate mark.length ' ')
  mark ++ ("\n" ++ indentation).intercalate (text.splitOn "\n")

/-- The causes, indented, and numbered if there are several. -/
def listedCauses (causes : List String) : List String :=
  match causes with
  | [cause] => [hanging "    " cause]
  | causes => causes.zipIdx.map fun (cause, index) => hanging s!"    {index}: " cause

/-- The report of the failure, to be printed text by text. -/
def report (failure : CampaignFailure) : List String :=
  match failure.messages with
  | [] => []
  | [message] => ["Error: " ++ message]
  | message :: causes => ["Error: " ++ message, "", "Caused by:"] ++ listedCauses causes

end CampaignFailure

end Bitslice
