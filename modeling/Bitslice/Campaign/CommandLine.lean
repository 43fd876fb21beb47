import Bitslice.Campaign

/-!
# Campaigns from the command line

A command line ends in one of five ways. Each has an exit status and texts to
print or to report, each of which ends its line.
-/

namespace Bitslice

/-- How a command line ended. -/
inductive Ending where
  /-- All traces have been recorded. -/
  | recorded (summary : Campaign.Summary)
  /-- The campaign stopped. -/
  | failed (failure : CampaignFailure)
  /-- The version was asked for. -/
  | version
  /-- Help was asked for. -/
  | help
  /-- The words made no sense. -/
  | misused
  deriving DecidableEq, Repr

namespace Ending

/-- The exit status. -/
def status : Ending → UInt8
  | recorded _ => 0
  | failed _ => 1
  | version => 0
  | help => 0
  | misused => 2

/-- How the program is called. -/
def usage : String :=
  "Usage: wbtrace [OPTIONS] <CIRCUIT> <TRACES_DIR>"

/-- The texts that close the regular output. -/
def printed : Ending → List String
  | recorded summary => [summary.line]
  | failed _ => []
  | version => ["wbtrace 0.1.0"]
  | help =>
    ["Trace a boolean circuit on random inputs", "", usage, "",
      "Arguments:",
      "  <CIRCUIT>     Circuit descriptor file",
      "  <TRACES_DIR>  Output directory (a subdirectory named after the circuit is created)", "",
      "Options:",
      "  -t, --n-traces <N_TRACES>  Number of traces to record [default: 512]",
      "      --seed <SEED>          Seed used to generate plaintexts [default: 0]",
      "      --rng-seed <RNG_SEED>  Seed for RANDOM gates (taken from the clock when absent)",
      "      --fingerprint          Print the BLAKE3 digest of every batched trace",
      "  -h, --help                 Print help",
      "  -V, --version              Print version"]
  | misused => []

/-- The texts that report what went wrong. -/
def reported : Ending → List String
  | failed failure => failure.report
  | misused => ["error: invalid command line", "", usage, "", "For more information, try '--help'."]
  | _ => []

end Ending

/-- Does what the words of a command line ask for. -/
def Campaign.ofCommandLine {m : Type → Type} [Monad m] [FileSystem m] (reservation : Reservation)
    (words : List String) (clock : UInt64) : m Ending := do
  match Request.ofWords? words with
  | none => pure .misused
  | some .version => pure .version
  | some .help => pure .help
  | some (.record settings) =>
    match ← (Campaign.record reservation settings clock).run with
    | .ok summary => pure (.recorded summary)
    | .error failure => pure (.failed failure)

end Bitslice
