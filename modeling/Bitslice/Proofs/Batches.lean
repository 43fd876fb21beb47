import Bitslice.Proofs.Machines
import Bitslice.Proofs.Plaintexts
import Bitslice.Proofs.Series
import Bitslice.Proofs.Splitting
import Bitslice.Proofs.Tracing

/-!
# The batches of a campaign

A campaign runs its plaintexts batch by batch like a series, but cuts them by
itself and sends every trace through a file and the splitter. One batch is
described by `Campaign.succeeds_recordBatch`, and all of them by induction in
`Campaign.succeeds_recordFrom`.
-/

namespace Bitslice

namespace HashedTrace

variable {lanes : Lanes}

/-- A hashed trace in front of a file without a limit takes every trace, stores it and has the
digest of what is stored. -/
theorem keep_unlimited (trace : List (Register lanes)) :
    ∃ last, Recorder.keep (start (StoredTrace.start lanes (FileWriter.start .unlimited))) trace =
        (.ok (), last) ∧
      last.inner.sink.close = Trace.stored trace ∧
      last.digest = Digest.ofBytes (Trace.stored trace) := by
  obtain ⟨answered, filled⟩ := StoredTrace.keep_start .unlimited trace
  have keeps : Recorder.keep (StoredTrace.start lanes (FileWriter.start .unlimited)) trace =
      (.ok (), (Recorder.keep (StoredTrace.start lanes (FileWriter.start .unlimited)) trace).2) :=
    Prod.ext answered rfl
  obtain ⟨last, keepsHashed, inner, -, digest⟩ := keep_start keeps
  refine ⟨last, keepsHashed, ?_, digest⟩
  rw [inner, filled, Device.fitting_unlimited]

theorem reliable_unlimited :
    Recorder.Reliable (start (StoredTrace.start lanes (FileWriter.start .unlimited))) := by
  intro trace
  obtain ⟨last, keeps, -⟩ := keep_unlimited trace
  rw [keeps]

end HashedTrace

namespace Campaign

open Machine

/-- The files of the traces of a batch, the first of them with the given number. -/
def laneFiles (first count : Nat) (trace : List (Register .sixtyFour)) : List (String × Bytes) :=
  (List.range count).map fun lane =>
    (fileName (first + lane) ".bin", Bits.toBytes (trace.map (·.lane lane)))

theorem batchName_not_mem_laneFiles (number first count : Nat)
    (trace : List (Register .sixtyFour)) :
    batchName number ∉ (laneFiles first count trace).map Prod.fst := by
  rw [laneFiles, List.map_map]
  intro member
  obtain ⟨lane, -, same⟩ := List.mem_map.mp member
  exact batchName_ne_fileName number (first + lane) (.head _ : ".bin" ∈ endings) same.symm

section Splitting

variable {base : FileTree} {place : String} {directory : List String} {listing : Listing}
  {printed : List String} {machine : Machine} (vacant : base.Vacant place directory)

include vacant

theorem succeeds_createTraces (numbers : List Nat)
    (shows : Shows base directory listing printed machine) :
    Succeeds (createTraces place numbers) machine fun writers later =>
      writers = numbers.map (fun _ => FileWriter.start .unlimited) ∧ Shows base directory
        (listing.putAll (numbers.map fun number => (fileName number ".bin", []))) printed
        later := by
  induction numbers generalizing listing machine with
  | nil => exact succeeds_pure ⟨rfl, shows⟩
  | cons number numbers ih =>
    have plain := plain_fileName number (.head _ : ".bin" ∈ endings)
    refine (succeeds_createFile vacant shows plain _).bind ?_
    rintro _ later ⟨rfl, showsLater⟩
    refine (ih showsLater).bind ?_
    rintro _ last ⟨rfl, showsLast⟩
    exact succeeds_pure ⟨rfl, showsLast⟩

theorem succeeds_storeTraces (path : String) (files : List (Nat × FileWriter))
    (shows : Shows base directory listing printed machine)
    (present : ∀ file ∈ files, (listing (fileName file.1 ".bin")).isSome) :
    Succeeds (storeTraces place path files) machine fun _ => Shows base directory
      (listing.putAll (files.map fun file => (fileName file.1 ".bin", file.2.close)))
      printed := by
  induction files generalizing listing machine with
  | nil => exact succeeds_pure shows
  | cons file files ih =>
    have plain := plain_fileName file.1 (.head _ : ".bin" ∈ endings)
    refine (succeeds_storeBytes vacant shows plain (present file (.head _)) _ _).bind ?_
    intro _ later showsLater
    apply ih showsLater
    intro other member
    by_cases same : fileName other.1 ".bin" = fileName file.1 ".bin"
    · rw [same, Listing.put_self]
      rfl
    · rw [Listing.put_of_ne same]
      exact present other (.tail _ member)

/-- A stored trace is split into the files of its lanes; these are made first, and then filled. -/
theorem succeeds_splitBatch {number first count : Nat} {trace : List (Register .sixtyFour)}
    (shows : Shows base directory listing printed machine)
    (listed : listing (batchName number) = some (Trace.stored trace))
    (fits : count ≤ Lanes.count .sixtyFour) :
    Succeeds (splitBatch place (batchFile place number) ((List.range count).map (first + ·)))
      machine fun _ => Shows base directory
        ((listing.putAll ((List.range count).map fun lane => (fileName (first + lane) ".bin",
          []))).putAll (laneFiles first count trace)) printed := by
  refine (succeeds_openFile vacant shows (plain_batchName number) listed _).bind ?_
  rintro file opened ⟨rfl, showsOpened⟩
  refine (succeeds_createTraces vacant _ showsOpened).bind ?_
  rintro _ created ⟨rfl, showsCreated⟩
  rw [List.map_map] at showsCreated
  let writers := ((List.range count).map (first + ·)).map fun _ => FileWriter.start .unlimited
  have limitless : ∀ writer ∈ writers, writer.device = .unlimited := by
    intro writer member
    obtain ⟨_, -, rfl⟩ := List.mem_map.mp member
    rfl
  have many : writers.length = count := by simp [writers]
  obtain ⟨laters, split, received⟩ := Trace.split_stored (ByteSource.contents_ofBytes _)
    (ByteSource.failure_ofBytes _) (by rwa [many])
    fun writer member => FileWriter.reliable_of_unlimited (limitless writer member)
  have limitlessLater := Trace.split_keeps
    (fun writer bytes here => (FileWriter.device_write writer bytes).trans here)
    (fun _ here => here) .sixtyFour (ByteSource.ofBytes (Trace.stored trace)) limitless
  rw [split] at limitlessLater
  have counted : laters.length = count := received.counted.trans many
  -- The files hold the lanes' bits, in the order of the numbers.
  have files : ((((List.range count).map (first + ·)).zip laters).map
      fun file => (fileName file.1 ".bin", file.2.close)) = laneFiles first count trace := by
    apply List.ext_getElem
    · simp [laneFiles, counted]
    · intro lane inside insideToo
      have before : lane < laters.length := by
        rw [List.length_map, List.length_zip] at inside
        omega
      have held := received.contents lane (by rwa [← received.counted]) before
      simp only [laneFiles, List.getElem_map, List.getElem_zip, List.getElem_range,
        Prod.mk.injEq, true_and]
      have empty : StoringSink.contents (FileWriter.start .unlimited) = [] := rfl
      rw [List.getElem_map, empty, List.nil_append] at held
      rw [FileWriter.close_of_unlimited (limitlessLater _ (List.getElem_mem before))]
      exact held
  simp only [writers] at split
  simp only [split]
  refine (succeeds_storeTraces vacant _ _ showsCreated ?_).bind ?_
  · intro file member
    apply Listing.isSome_putAll
    obtain ⟨lane, inside, same⟩ := List.mem_map.mp (List.of_mem_zip member).1
    rw [← same]
    exact List.mem_map.mpr ⟨_, List.mem_map.mpr ⟨lane, inside, rfl⟩, rfl⟩
  · intro _ stored showsStored
    rw [files] at showsStored
    exact succeeds_pure showsStored

/-- What is left to do for a batch once its trace is stored: the trace is split and removed. -/
theorem succeeds_finishBatch {number first count : Nat} {trace : List (Register .sixtyFour)}
    (shows : Shows base directory (listing.put (batchName number) (Trace.stored trace)) printed
      machine)
    (clear : listing (batchName number) = none) (fits : count ≤ Lanes.count .sixtyFour)
    (next : Stage) :
    Succeeds (do
        splitBatch place (batchFile place number) ((List.range count).map (first + ·))
        need (.remove (batchFile place number)) (FileSystem.removeFile (batchFile place number))
        pure next) machine
      fun result later => result = next ∧
        Shows base directory (listing.putAll (laneFiles first count trace)) printed later := by
  have absent := batchName_not_mem_laneFiles number first count trace
  have names : ((List.range count).map fun lane => (fileName (first + lane) ".bin",
      ([] : Bytes))).map Prod.fst = (laneFiles first count trace).map Prod.fst := by
    rw [laneFiles, List.map_map, List.map_map]
    rfl
  refine (succeeds_splitBatch vacant shows Listing.put_self fits).bind ?_
  intro _ split showsSplit
  have left : (((listing.put (batchName number) (Trace.stored trace)).putAll
      ((List.range count).map fun lane => (fileName (first + lane) ".bin", []))).putAll
        (laneFiles first count trace) (batchName number)).isSome := by
    rw [Listing.putAll_of_not_mem absent, Listing.putAll_of_not_mem (by rwa [names]),
      Listing.put_self]
    rfl
  refine (succeeds_removeFile vacant showsSplit (plain_batchName number) left _).bind ?_
  intro _ removed showsRemoved
  rw [Listing.putAll_of_temporary clear absent names] at showsRemoved
  exact succeeds_pure ⟨rfl, showsRemoved⟩

end Splitting

section Batches

/-- The line that tells the digest of a batch. -/
def digestLine (number : Nat) (trace : List (Register .sixtyFour)) : String :=
  s!"batch {fourDigits number} trace {Hex.ofBytes (Digest.ofBytes (Trace.stored trace))}"

/-- The lines of several batches, if they are asked for. -/
def digestLines (fingerprints : Bool) (first batches : Nat)
    (traces : Nat → List (Register .sixtyFour)) : List String :=
  if fingerprints then
    (List.range batches).map fun batch => digestLine (first + batch) (traces batch)
  else []

theorem digestLines_one (fingerprints : Bool) (first : Nat)
    (traces : Nat → List (Register .sixtyFour)) :
    digestLines fingerprints first 1 traces =
      if fingerprints then [digestLine first (traces 0)] else [] := by
  rw [digestLines, List.range_one, List.map_singleton, Nat.add_zero]

theorem digestLines_succ (fingerprints : Bool) (first batches : Nat)
    (traces : Nat → List (Register .sixtyFour)) :
    digestLines fingerprints first (batches + 1) traces =
      digestLines fingerprints first 1 traces ++
        digestLines fingerprints (first + 1) batches fun batch => traces (batch + 1) := by
  cases fingerprints with
  | false => rfl
  | true =>
    simp only [digestLines, if_true, List.range_succ_eq_map, List.map_cons, List.map_map,
      List.range_zero, List.map_nil, List.cons_append, List.nil_append, List.cons.injEq, true_and]
    apply List.map_congr_left
    intro batch _
    rw [Function.comp_apply, Nat.add_assoc, Nat.add_comm 1]

/-- The files of the traces of all instances, the first of them with the given number. -/
def traceFiles (circuit : Circuit .sixtyFour) (gates : List Gate) (instances : List Bytes)
    (generator : Generator) (first : Nat) : List (String × Bytes) :=
  (List.range instances.length).map fun index => (fileName (first + index) ".bin",
    Bits.toBytes (circuit.evaluateInstance gates instances generator index).written)

variable {base : FileTree} {place : String} {directory : List String} {listing : Listing}
  {printed : List String} {machine : Machine} {stage : Stage} {gates : List Gate}
  {instances : List Bytes}

/-- What a batch makes of a stage. -/
structure Advances (gates : List Gate) (instances : List Bytes) (stage : Stage)
    (trace : List (Register .sixtyFour)) (next : Stage) : Prop where
  program : Circuit.SameProgram stage.circuit next.circuit
  drawn : next.generator = stage.generator.after .sixtyFour (Gate.draws gates)
  ciphertexts : next.ciphertexts.toList = stage.ciphertexts.toList ++
    (List.range (instances.take batchSize).length).map fun lane => stage.circuit.answer
      (stage.circuit.evaluateInstance gates instances stage.generator lane)
  lanewise : ∀ lane < batchSize, trace.map (·.lane lane) =
    (stage.circuit.evaluateInstance gates instances stage.generator lane).written

/-- The run of a batch, on the rows of its instances and buffers of exactly their size. -/
theorem runsBatch (sound : stage.circuit.Sound gates) (nonempty : instances ≠ [])
    (sized : ∀ input ∈ instances, input.length = stage.circuit.header.inputBytes) :
    ∃ trace, stage.circuit.RunsBatch gates instances stage.generator
      (List.replicate ((instances.take batchSize).length * stage.circuit.header.outputBytes) 0)
      (HashedTrace.start (StoredTrace.start .sixtyFour (FileWriter.start .unlimited))) trace
      (stage.circuit.run (instances.take batchSize).flatten
        (List.replicate ((instances.take batchSize).length * stage.circuit.header.outputBytes) 0)
        (HashedTrace.start (StoredTrace.start .sixtyFour (FileWriter.start .unlimited)))
        (instances.take batchSize).length stage.generator) := by
  have long : ∀ input ∈ instances, stage.circuit.header.inputBytes ≤ input.length :=
    fun input member => Nat.le_of_eq (sized input member).symm
  have rows : stage.circuit.firstRows instances = instances.take batchSize := by
    rw [Circuit.firstRows, List.map_congr_left (g := id), List.map_id]
    · rfl
    · intro input member
      exact List.take_of_length_le (Nat.le_of_eq (sized input (List.mem_of_mem_take member)))
  -- In a series these rows would be the buffer, with nothing behind them.
  have packed : (instances.take batchSize).flatten =
      Circuit.refill [] (stage.circuit.firstRows instances) := by
    rw [Circuit.refill, rows, List.drop_nil, List.append_nil]
  have present := List.length_pos_iff.mpr nonempty
  have fits : (instances.take batchSize).length ≤ batchSize := by
    rw [List.length_take]
    exact Nat.min_le_left _ _
  have accepts : stage.circuit.Accepts (Circuit.refill [] (stage.circuit.firstRows instances))
      (List.replicate ((instances.take batchSize).length * stage.circuit.header.outputBytes) 0)
      (instances.take batchSize).length := by
    refine ⟨?_, fits, ?_, ?_⟩
    · rw [List.length_take]
      exact Nat.lt_min.mpr ⟨by decide, present⟩
    · rw [← packed, Bits.length_flatten_rows fun input member =>
        sized input (List.mem_of_mem_take member)]
    · rw [List.length_replicate]
  rw [packed]
  exact sound.run_rows long accepts stage.generator HashedTrace.reliable_unlimited

theorem succeeds_recordBatch (vacant : base.Vacant place directory)
    (sound : stage.circuit.Sound gates) (nonempty : instances ≠ [])
    (sized : ∀ input ∈ instances, input.length = stage.circuit.header.inputBytes)
    (settings : Settings) (number : Nat)
    (shows : Shows base directory listing printed machine)
    (clear : listing (batchName number) = none) :
    ∃ trace, Succeeds (recordBatch settings place number (instances.take batchSize) stage) machine
      fun next later => Advances gates instances stage trace next ∧
        Shows base directory
          (listing.putAll (laneFiles (number * batchSize) (instances.take batchSize).length trace))
          (printed ++ digestLines settings.fingerprints number 1 fun _ => trace) later := by
  obtain ⟨trace, ran⟩ := runsBatch sound nonempty sized
  obtain ⟨kept, keeps, stored, digest⟩ := HashedTrace.keep_unlimited trace
  have recorder := ran.kept
  rw [keeps] at recorder
  refine ⟨trace, ?_⟩
  have plain := plain_batchName number
  unfold recordBatch
  refine (succeeds_createFile vacant shows plain _).bind ?_
  rintro _ created ⟨rfl, showsCreated⟩
  have started : (listing.put (batchName number) [] (batchName number)).isSome := by
    rw [Listing.put_self]
    rfl
  refine (succeeds_storeBytes vacant showsCreated plain started _ _).bind ?_
  intro _ filled showsFilled
  have twice : ∀ contents, (listing.put (batchName number) []).put (batchName number) contents =
      listing.put (batchName number) contents := fun _ => Function.update_idem _ _ _
  rw [twice] at showsFilled
  generalize stage.circuit.run (instances.take batchSize).flatten _
    (HashedTrace.start (StoredTrace.start .sixtyFour (FileWriter.start .unlimited))) _
      stage.generator =
      outcome at ran recorder showsFilled ⊢
  rw [recorder, stored] at showsFilled
  have fits : (instances.take batchSize).length ≤ batchSize := by
    rw [List.length_take]
    exact Nat.min_le_left _ _
  have line : digestLine number trace =
      s!"batch {fourDigits number} trace {Hex.ofBytes outcome.recorder.digest}" := by
    rw [recorder, digest, digestLine]
  have advances : Advances gates instances stage trace
      { circuit := outcome.circuit
        generator := outcome.generator
        ciphertexts := stage.ciphertexts ++ Bits.rows stage.circuit.header.outputBytes
          (instances.take batchSize).length outcome.outputs } := by
    refine ⟨ran.program, ran.drawn, ?_, ran.lanewise⟩
    rw [Array.toList_appendList]
    exact congrArg _ ran.rows
  simp only [ran.succeeded]
  split
  · next asked =>
    refine (succeeds_say showsFilled _).bind ?_
    intro _ told showsTold
    obtain ⟨next, later, ran, rfl, showsLater⟩ :=
      succeeds_finishBatch vacant showsTold clear fits _
    refine ⟨_, later, ran, advances, ?_⟩
    rw [digestLines_one, if_pos asked, line]
    exact showsLater
  · next unasked =>
    obtain ⟨next, later, ran, rfl, showsLater⟩ :=
      succeeds_finishBatch vacant showsFilled clear fits _
    refine ⟨_, later, ran, advances, ?_⟩
    rw [digestLines_one, if_neg unasked, List.append_nil]
    exact showsLater

/-- The files of the first batch and those of the rest. -/
theorem traceFiles_eq_append (circuit : Circuit .sixtyFour) (generator : Generator)
    {trace : List (Register .sixtyFour)}
    (lanewise : ∀ lane < batchSize, trace.map (·.lane lane) =
      (circuit.evaluateInstance gates instances generator lane).written) (number : Nat) :
    traceFiles circuit gates instances generator (number * batchSize) =
      laneFiles (number * batchSize) (instances.take batchSize).length trace ++
        traceFiles circuit gates (instances.drop batchSize)
          (generator.after .sixtyFour (Gate.draws gates)) ((number + 1) * batchSize) := by
  have parts := Circuit.evaluations_eq_append (fun index evaluation =>
    (fileName (number * batchSize + index) ".bin", Bits.toBytes evaluation.written))
    circuit gates instances generator
  refine parts.trans (congrArg₂ (· ++ ·) (List.map_congr_left ?_) (List.map_congr_left ?_))
  · intro lane listed
    have inside : lane < batchSize := by
      have before := List.mem_range.mp listed
      rw [List.length_take] at before
      exact Nat.lt_of_lt_of_le before (Nat.min_le_left _ _)
    rw [lanewise lane inside]
  · intro index _
    have place : number * batchSize + (Lanes.count .sixtyFour + index) =
        (number + 1) * batchSize + index := by
      rw [Nat.succ_mul, Nat.add_assoc]
      rfl
    rw [place]
    rfl

theorem Advances.traceFiles_eq {trace : List (Register .sixtyFour)} {next : Stage}
    (advances : Advances gates instances stage trace next) (others : List Bytes) (first : Nat) :
    traceFiles next.circuit gates others next.generator first =
      traceFiles stage.circuit gates others
        (stage.generator.after .sixtyFour (Gate.draws gates)) first := by
  rw [traceFiles, advances.program.evaluateInstance_eq, advances.drawn, traceFiles]

/-- All batches. The induction takes the first one off; what it leaves in the circuit and in the
directory is as good as what was there before. -/
theorem succeeds_recordFrom (vacant : base.Vacant place directory) (settings : Settings)
    (sound : stage.circuit.Sound gates)
    (sized : ∀ input ∈ instances, input.length = stage.circuit.header.inputBytes) (number : Nat)
    (shows : Shows base directory listing printed machine)
    (clear : ∀ number, listing (batchName number) = none) :
    ∃ traces : Nat → List (Register .sixtyFour),
      Succeeds (recordFrom settings place number instances stage) machine (fun last later =>
        last.ciphertexts.toList = stage.ciphertexts.toList ++
          stage.circuit.answers gates instances stage.generator ∧
        Shows base directory (listing.putAll (traceFiles stage.circuit gates instances
            stage.generator (number * batchSize)))
          (printed ++ digestLines settings.fingerprints number
            (Lanes.batches .sixtyFour instances.length) traces) later) ∧
      ∀ batch < Lanes.batches .sixtyFour instances.length, ∀ lane < batchSize,
        (traces batch).map (·.lane lane) = (stage.circuit.evaluateInstance gates instances
          stage.generator (batch * batchSize + lane)).written := by
  induction instances using Lanes.batch_induction .sixtyFour
    generalizing stage number listing printed machine with
  | nil =>
    refine ⟨fun _ => [], ?_, ?_⟩
    · rw [recordFrom]
      refine succeeds_pure ⟨(List.append_nil _).symm, ?_⟩
      have none : digestLines settings.fingerprints number 0 (fun _ => []) = [] := by
        unfold digestLines
        split <;> rfl
      rw [List.length_nil, Lanes.batches_zero, none, List.append_nil]
      exact shows
    · intro batch before
      rw [List.length_nil, Lanes.batches_zero] at before
      cases before
  | batch instances nonempty ih =>
    obtain ⟨trace, next, middle, ran, advances, showsMiddle⟩ :=
      succeeds_recordBatch vacant sound nonempty sized settings number shows (clear number)
    have sizedLater : ∀ input ∈ instances.drop batchSize,
        input.length = next.circuit.header.inputBytes := by
      intro input member
      rw [advances.program.header]
      exact sized input (List.mem_of_mem_drop member)
    have clearLater : ∀ other, listing.putAll (laneFiles (number * batchSize)
        (instances.take batchSize).length trace) (batchName other) = none := by
      intro other
      rw [Listing.putAll_of_not_mem (batchName_not_mem_laneFiles other _ _ trace), clear other]
    obtain ⟨traces, rest, lanewise⟩ := ih (sound.of_sameProgram advances.program) sizedLater
      (number + 1) showsMiddle clearLater
    rw [advances.program.evaluateInstance_eq, advances.drawn] at lanewise
    refine ⟨_, ?_, Circuit.lanewise_cons nonempty advances.lanewise lanewise⟩
    have unfinished : ¬instances.isEmpty = true := by simpa using nonempty
    have first : Succeeds (recordBatch settings place number (instances.take batchSize) stage)
        machine fun value later => value = next ∧ later = middle := ⟨next, middle, ran, rfl, rfl⟩
    rw [recordFrom, if_neg unfinished]
    refine first.bind ?_
    rintro _ _ ⟨rfl, rfl⟩
    obtain ⟨last, later, ranRest, ciphertexts, showsLater⟩ := rest
    refine ⟨last, later, ranRest, ?_, ?_⟩
    · rw [ciphertexts, advances.ciphertexts, advances.program.answers_eq, advances.drawn,
        List.append_assoc, Circuit.answers_eq_append stage.circuit gates instances]
      rfl
    · have files := traceFiles_eq_append stage.circuit stage.generator advances.lanewise number
      rw [advances.traceFiles_eq] at showsLater
      rw [digestLines_one, List.append_assoc] at showsLater
      rw [files, Listing.putAll_append, Circuit.batches_eq_succ nonempty, digestLines_succ,
        digestLines_one]
      exact showsLater

end Batches

end Campaign

end Bitslice
