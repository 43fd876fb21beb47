/-!
# Command lines

A command line names a circuit and a directory and may set options. Words are
taken in order: an option takes the rest of its word or the next word as its
value, `--` ends the options, and what is not an option is a path. The first
word that makes no sense ends the reading, and so does a request for the
version or for help.
-/

namespace Bitslice

/-- What to record, and where. -/
structure Settings where
  /-- The path of the circuit's descriptor. -/
  circuit : String
  /-- The directory that receives the traces. -/
  directory : String
  /-- The number of traces. -/
  traces : Nat
  /-- The seed of the plaintexts. -/
  seed : UInt64
  /-- The seed of the random gates, if it is not left to the clock. -/
  randomSeed : Option UInt64
  /-- Whether the digest of every batch is printed. -/
  fingerprints : Bool
  deriving DecidableEq, Repr

/-- What a command line asks for. -/
inductive Request where
  /-- To record traces. -/
  | record (settings : Settings)
  /-- To print the version. -/
  | version
  /-- To print the usage. -/
  | help
  deriving DecidableEq, Repr

/-- The options that take a value. -/
inductive ValueOption where
  /-- The number of traces. -/
  | traces
  /-- The seed of the plaintexts. -/
  | seed
  /-- The seed of the random gates. -/
  | randomSeed
  deriving DecidableEq, Repr

/-- A word of the command line, before its value is looked at. -/
inductive Word where
  /-- A path. -/
  | path (text : String)
  /-- An option and its value, unless that is the next word. -/
  | option (name : ValueOption) (value : Option String)
  /-- The option that turns on digests. -/
  | fingerprint
  /-- The request for the version. -/
  | version
  /-- The request for help. -/
  | help
  /-- The end of the options. -/
  | endOfOptions
  /-- Something else. -/
  | unknown
  deriving DecidableEq, Repr

/-- What has been read of a command line. -/
structure Reading where
  /-- The paths so far, in reverse. -/
  paths : List String
  /-- The number of traces, once set. -/
  traces : Option UInt64
  /-- The seed of the plaintexts, once set. -/
  seed : Option UInt64
  /-- The seed of the random gates, once set. -/
  randomSeed : Option UInt64
  /-- Whether digests are turned on. -/
  fingerprints : Bool

namespace Word

/-- An option word of which a first `=` splits off the value. -/
def splitValue (text : String) : String × Option String :=
  match text.splitOn "=" with
  | [] => (text, none)
  | [name] => (name, none)
  | name :: values => (name, some ("=".intercalate values))

/-- A word that starts with two dashes. -/
def ofLong (text : String) : Word :=
  match splitValue text with
  | ("", none) => endOfOptions
  | ("n-traces", value) => option .traces value
  | ("seed", value) => option .seed value
  | ("rng-seed", value) => option .randomSeed value
  | ("fingerprint", none) => fingerprint
  | ("version", none) => version
  | ("help", none) => help
  | _ => unknown

/-- A word that starts with one dash. Its value may follow at once, with or without `=`. -/
def ofShort : List Char → Word
  | 't' :: value | 'T' :: value =>
    match value with
    | [] => option .traces none
    | '=' :: value => option .traces (some (String.ofList value))
    | value => option .traces (some (String.ofList value))
  | 'V' :: _ => version
  | 'h' :: _ => help
  | _ => unknown

/-- Sorts a word. A single dash is a path. -/
def ofText (text : String) : Word :=
  match text.toList with
  | '-' :: '-' :: name => ofLong (String.ofList name)
  | ['-'] => path text
  | '-' :: name => ofShort name
  | _ => path text

end Word

namespace Reading

/-- Nothing read yet. -/
def start : Reading :=
  ⟨[], none, none, none, false⟩

/-- A decimal number of at most 64 bits, possibly after a plus sign. -/
def number? (text : String) : Option UInt64 :=
  let digits := match text.toList with
    | '+' :: digits => digits
    | digits => digits
  if digits.isEmpty || !digits.all Char.isDigit then none
  else
    let value := digits.foldl (fun value digit => 10 * value + (digit.toNat - 48)) 0
    if value < UInt64.size then some (UInt64.ofNat value) else none

/-- Takes a path. There are two of them, and neither is empty. -/
def addPath (reading : Reading) (text : String) : Option Reading :=
  if text = "" ∨ 2 ≤ reading.paths.length then none
  else some { reading with paths := text :: reading.paths }

/-- Takes the value of an option that has none yet. -/
def setValue (reading : Reading) (name : ValueOption) (text : String) : Option Reading :=
  match number? text, name with
  | none, _ => none
  | some value, .traces =>
    if reading.traces.isSome then none else some { reading with traces := some value }
  | some value, .seed =>
    if reading.seed.isSome then none else some { reading with seed := some value }
  | some value, .randomSeed =>
    if reading.randomSeed.isSome then none else some { reading with randomSeed := some value }

/-- What has been read, once both paths are there. -/
def finish (reading : Reading) : Option Request :=
  match reading.paths with
  | [directory, circuit] =>
    some (.record
      { circuit
        directory
        traces := (reading.traces.getD 512).toNat
        seed := reading.seed.getD 0
        randomSeed := reading.randomSeed
        fingerprints := reading.fingerprints })
  | _ => none

/-- Takes words that are all paths. -/
def readPaths (reading : Reading) : List String → Option Request
  | [] => reading.finish
  | text :: rest =>
    match reading.addPath text with
    | none => none
    | some reading => reading.readPaths rest

/-- Takes the remaining words. A word after an option is its value only if it looks like a path. -/
def readWords (reading : Reading) : List String → Option Request
  | [] => reading.finish
  | text :: rest =>
    match Word.ofText text with
    | .path path =>
      match reading.addPath path with
      | none => none
      | some reading => reading.readWords rest
    | .option name (some value) =>
      match reading.setValue name value with
      | none => none
      | some reading => reading.readWords rest
    | .option name none =>
      match rest with
      | [] => none
      | value :: rest =>
        match Word.ofText value with
        | .path value =>
          match reading.setValue name value with
          | none => none
          | some reading => reading.readWords rest
        | _ => none
    | .fingerprint =>
      if reading.fingerprints then none
      else { reading with fingerprints := true }.readWords rest
    | .version => some .version
    | .help => some .help
    | .endOfOptions => reading.readPaths rest
    | .unknown => none

end Reading

/-- What the words of a command line ask for, or `none` if they make no sense. -/
def Request.ofWords? (words : List String) : Option Request :=
  Reading.start.readWords words

end Bitslice
