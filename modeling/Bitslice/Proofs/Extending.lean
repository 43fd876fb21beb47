import Bitslice.Proofs.Campaigns

/-!
# Instances that are added change nothing for those before

An instance is evaluated on its own bytes and on the draws of its batch, so
more instances behind it make no difference to it, even if they fill its batch
up. A series shows this in its outputs and in the lanes of its traces, whatever
its recorders are (`Circuit.Sound.gives`). A campaign shows it in its files and
in the digests of its full batches, because its plaintexts are pieces of one
stream.
-/

namespace Bitslice

variable {lanes : Lanes}

namespace Circuit

/-- What a series gives back and what it tells its recorders. It succeeds if every instance is long
enough and every batch gets a recorder that takes its trace, or none, and fails otherwise. -/
def Gives (circuit : Circuit lanes) (instances : List Bytes) (generator : Generator)
    (outputs : List Bytes) (traces : Nat → List (Register lanes)) : Prop :=
  ∀ (A R : Type) [Recorder lanes R] (supply : RecorderSupplier A R) (supplier : A)
      (results : List Bytes × List R),
    let batches := lanes.batches instances.length
    (circuit.runSeries instances generator supply supplier).result = .ok results ↔
      (∀ input ∈ instances, circuit.header.inputBytes ≤ input.length) ∧
        ∃ supplied, Takes supply supplier 0 batches traces supplied ∧
          results = (outputs, keptRecorders supplied traces batches)

section Results

variable {circuit : Circuit lanes} {gates : List Gate} {instances : List Bytes}
  {generator : Generator} {traces : Nat → List (Register lanes)} {A R : Type} [Recorder lanes R]
  {supply : RecorderSupplier A R} {supplier : A} {number : Nat} {buffer outputs : Bytes}

/-- A series that succeeds has been given recorders that take its traces. The induction takes the
first batch off. -/
theorem Prepared.exists_takes (prepared : circuit.Prepared gates instances buffer outputs)
    (traced : circuit.TracesOf gates instances generator traces) {done : Array Bytes}
    {kept : Array R} {results : List Bytes × List R}
    (succeeded : (runSeriesFrom supply circuit generator supplier number buffer outputs done kept
      instances).result = .ok results) :
    ∃ supplied, Takes supply supplier number (lanes.batches instances.length) traces supplied := by
  induction instances using lanes.batch_induction
    generalizing circuit buffer outputs generator supplier number traces done kept with
  | nil =>
    have none : lanes.batches ([] : List Bytes).length = 0 := lanes.batches_zero
    rw [none]
    exact ⟨fun _ => .none, fun _ before => absurd before (Nat.not_lt_zero _),
      fun _ before => absurd before (Nat.not_lt_zero _)⟩
  | batch instances empty ih =>
    rcases answered : supply supplier number with ⟨failure | recorder, next⟩
    · rw [runSeriesFrom_of_unsupplied empty answered] at succeeded
      cases succeeded
    · obtain ⟨first, rest⟩ := traced.uncons empty
      have accepts := prepared.accepts empty
      rcases answer : (circuit.run (refill buffer (circuit.firstRows instances)) outputs recorder
        (instances.take lanes.count).length generator).result with failure | ⟨⟩
      · rw [runSeriesFrom_of_failed empty answered rfl answer] at succeeded
        cases succeeded
      · have keeps := prepared.sound.keep_of_run_rows prepared.long accepts first answer
        have ran := prepared.sound.run_rows_of_keep prepared.long accepts first keeps
        rw [runSeriesFrom_of_batch empty answered rfl answer] at succeeded
        rw [← ran.drawn, ← ran.program.tracesOf_eq] at rest
        obtain ⟨supplied, takes⟩ := ih (prepared.afterBatch ran) rest succeeded
        refine ⟨prepend recorder supplied, ?_⟩
        rw [batches_eq_succ empty, takes_succ_iff, answered]
        exact ⟨rfl, keeps, takes⟩

/-- What a series gives back is what its instances evaluate to. -/
theorem Sound.gives (sound : circuit.Sound gates)
    (traced : circuit.TracesOf gates instances generator traces) :
    circuit.Gives instances generator (circuit.answers gates instances generator) traces := by
  intro A R _ supply supplier results batches
  constructor
  · intro succeeded
    rcases found : instances.find? (·.length < circuit.header.inputBytes) with none | short
    · have long : ∀ input ∈ instances, circuit.header.inputBytes ≤ input.length := by
        intro input member
        have enough := List.find?_eq_none.mp found input member
        simpa using enough
      obtain ⟨warnings, whole⟩ := runSeries_of_long circuit long generator supply supplier
      rw [whole] at succeeded
      obtain ⟨supplied, takes⟩ := (sound.prepared long).exists_takes traced succeeded
      have runs := (sound.prepared long).runSeriesFrom_runs traced takes #[] #[]
      exact ⟨long, supplied, takes, Except.ok.inj (succeeded.symm.trans runs.result)⟩
    · rw [runSeries_of_short circuit found] at succeeded
      cases succeeded
  · rintro ⟨long, supplied, takes, rfl⟩
    obtain ⟨warnings, whole⟩ := runSeries_of_long circuit long generator supply supplier
    rw [whole]
    exact ((sound.prepared long).runSeriesFrom_runs traced takes #[] #[]).result

theorem Gives.untraced {answers : List Bytes}
    (gives : circuit.Gives instances generator answers traces)
    (long : ∀ input ∈ instances, circuit.header.inputBytes ≤ input.length) :
    (circuit.runSeriesUntraced instances generator).result = .ok (answers, []) := by
  have keeps : ∀ trace : List (Register lanes),
      Recorder.keep (none : Option (Untraced lanes)) trace = (.ok (), none) := Recorder.keep_none
  refine (gives Unit (Untraced lanes) _ () _).mpr ⟨long, fun _ => none, ⟨fun _ _ => rfl, ?_⟩, ?_⟩
  · intro batch _
    rw [keeps]
  · simp [keptRecorders, keeps]

end Results

section Added

variable {circuit : Circuit lanes} {gates : List Gate} {instances others : List Bytes}
  {generator : Generator}

/-- An instance does not depend on the others. -/
theorem evaluateInstance_congr {index : Nat}
    (same : ∀ wire, Bits.bitAt ((instances.getD index []).take circuit.header.inputBytes) wire =
      Bits.bitAt ((others.getD index []).take circuit.header.inputBytes) wire) :
    circuit.evaluateInstance gates instances generator index =
      circuit.evaluateInstance gates others generator index := by
  unfold evaluateInstance
  rw [funext same]

theorem evaluateInstance_append {index : Nat} (inside : index < instances.length)
    (more : List Bytes) :
    circuit.evaluateInstance gates (instances ++ more) generator index =
      circuit.evaluateInstance gates instances generator index := by
  apply evaluateInstance_congr
  intro wire
  rw [List.getD_eq_getElem?_getD, List.getElem?_append_left inside, List.getD_eq_getElem?_getD]

/-- Bytes that are missing count as zero, so all instances have traces. -/
theorem Sound.exists_tracesOf (sound : circuit.Sound gates) (instances : List Bytes)
    (generator : Generator) : ∃ traces, circuit.TracesOf gates instances generator traces := by
  let padded := instances.map fun input => input ++ List.replicate circuit.header.inputBytes 0
  have long : ∀ input ∈ padded, circuit.header.inputBytes ≤ input.length := by
    intro input member
    obtain ⟨unpadded, -, rfl⟩ := List.mem_map.mp member
    simp
  obtain ⟨traces, traced⟩ := sound.exists_traces generator long
  refine ⟨traces, ?_⟩
  intro batch before lane inside
  have counted : padded.length = instances.length := List.length_map _
  rw [TracesOf, counted] at traced
  rw [traced batch before lane inside]
  refine congrArg Evaluation.written (evaluateInstance_congr ?_)
  intro wire
  rw [List.getD_eq_getElem?_getD, List.getD_eq_getElem?_getD, List.getElem?_map]
  cases instances[batch * lanes.count + lane]? with
  | none => rfl
  | some input =>
    rw [Option.map_some, Option.getD_some, Option.getD_some, List.take_append, List.take_replicate,
      Bits.bitAt_append_zeros]

@[simp] theorem length_answers (circuit : Circuit lanes) (gates : List Gate)
    (instances : List Bytes) (generator : Generator) :
    (circuit.answers gates instances generator).length = instances.length := by
  rw [answers, List.length_map, List.length_range]

theorem answers_append (circuit : Circuit lanes) (gates : List Gate) (instances more : List Bytes)
    (generator : Generator) :
    ∃ further, circuit.answers gates (instances ++ more) generator =
      circuit.answers gates instances generator ++ further := by
  rw [answers, List.length_append, List.range_add, List.map_append, answers]
  refine ⟨_, congrArg (· ++ _) (List.map_congr_left ?_)⟩
  intro index listed
  rw [evaluateInstance_append (List.mem_range.mp listed)]

/-- In a batch that both lists have, the lanes of the shorter one's instances are the same. -/
theorem TracesOf.lane_eq {more : List Bytes} {traces longer : Nat → List (Register lanes)}
    (traced : circuit.TracesOf gates instances generator traces)
    (tracedLonger : circuit.TracesOf gates (instances ++ more) generator longer)
    {batch lane : Nat} (among : lane < lanes.count)
    (inside : batch * lanes.count + lane < instances.length) :
    (traces batch).map (·.lane lane) = (longer batch).map (·.lane lane) := by
  have further : batch * lanes.count + lane < (instances ++ more).length := by
    rw [List.length_append]
    exact Nat.lt_add_right _ inside
  rw [traced batch (Lanes.lt_batches inside) lane among,
    tracedLonger batch (Lanes.lt_batches further) lane among, evaluateInstance_append inside]

end Added

end Circuit

namespace Campaign

open Machine

/-- One campaign goes further than another: it has at least as many traces, and the same seeds,
where the one of the random gates may come from the clock. -/
structure Extends (settings : Settings) (clock : UInt64) (longer : Settings)
    (longerClock : UInt64) : Prop where
  traces : settings.traces ≤ longer.traces
  seed : longer.seed = settings.seed
  randomSeed : longer.randomSeed.getD longerClock = settings.randomSeed.getD clock

/-- A campaign gets to its end and, if it is asked to, tells the digests of these traces. -/
structure Records (reservation : Reservation) (settings : Settings) (clock : UInt64)
    (machine : Machine) (circuit : Circuit .sixtyFour) (place : String)
    (traces : Nat → List (Register .sixtyFour)) (later : Machine) : Prop where
  recorded : (record reservation settings clock : ExceptT CampaignFailure (StateM Machine)
    Summary).run.run machine = (.ok ⟨settings.traces, circuit.header.gateCount.toNat⟩, later)
  commanded : ∀ words, Request.ofWords? words = some (.record settings) →
    (ofCommandLine reservation words clock : StateM Machine Ending).run machine =
      (.recorded ⟨settings.traces, circuit.header.gateCount.toNat⟩, later)
  printed : later.printed.toList = machine.printed.toList ++
    [s!"Tracing {settings.circuit} on {settings.traces} traces", s!"Saving to {place}"] ++
    digestLines settings.fingerprints 0 (Lanes.batches .sixtyFour settings.traces) traces

section Recording

variable {reservation : Reservation} {settings : Settings} {machine : Machine}
  {circuit : Circuit .sixtyFour} {place : String} {directory : List String} {made : FileTree}
  (ready : Ready reservation settings machine circuit place directory made)

include ready

/-- A campaign leaves for each instance what its evaluation gives. -/
theorem Ready.exists_records {gates : List Gate} (sound : circuit.Sound gates) (clock : UInt64) :
    let texts := plaintexts settings.seed circuit.header.inputBytes settings.traces
    let generator := Generator.ofSeed (settings.randomSeed.getD clock)
    let evaluation := circuit.evaluateInstance gates texts generator
    ∃ traces later, Records reservation settings clock machine circuit place traces later ∧
      circuit.TracesOf gates texts generator traces ∧
      ∀ number < settings.traces,
        later.tree.contents? (traceFile place number ".pt") =
            some (plaintext settings.seed circuit.header.inputBytes number) ∧
          later.tree.contents? (traceFile place number ".ct") =
            some (circuit.answer (evaluation number)) ∧
          later.tree.contents? (traceFile place number ".bin") =
            some (Bits.toBytes (evaluation number).written) := by
  intro texts generator evaluation
  obtain ⟨traces, ⟨_, later, ran, rfl, shows⟩, lanewise⟩ := ready.succeeds_record sound clock
  refine ⟨traces, later, ⟨ran, ?_, shows.printed⟩, ?_, ?_⟩
  · exact fun words asked => run_ofCommandLine asked ran
  · rw [Circuit.TracesOf, length_plaintexts]
    exact lanewise
  · intro number inside
    have found : ∀ {ending : String}, ending ∈ endings → _ :=
      fun listed => shows.holds.contents? ready.vacant (plain_fileName number listed)
    obtain ⟨plain, cipher, bits⟩ := putAll_files inside
    exact ⟨(found (by decide)).trans plain, (found (by decide)).trans cipher,
      (found (by decide)).trans bits⟩

end Recording

/-- Instances that are added keep what there was. Of two campaigns with the same circuit and the
same seeds, one may have more traces than the other: all files of the other's instances are then
the same, and so are the digests of its full batches. Of two series from equal generators, one may
have more instances behind those of the other: the outputs of the other come first, and in the
traces of its batches the lanes of its instances are the same. -/
theorem extending_keeps_instances :
    (∀ {reservation longerReservation : Reservation} {settings longer : Settings}
        {machine longerMachine : Machine} {circuit : Circuit .sixtyFour}
        {place longerPlace : String} {directory longerDirectory : List String}
        {made longerMade : FileTree} {clock longerClock : UInt64},
      Ready reservation settings machine circuit place directory made →
      Ready longerReservation longer longerMachine circuit longerPlace longerDirectory
        longerMade →
      Extends settings clock longer longerClock →
      ∃ (traces longerTraces : Nat → List (Register .sixtyFour)) (later longerLater : Machine),
        Records reservation settings clock machine circuit place traces later ∧
        Records longerReservation longer longerClock longerMachine circuit longerPlace longerTraces
          longerLater ∧
        (∀ number < settings.traces, ∀ ending ∈ endings, ∃ contents,
          later.tree.contents? (traceFile place number ending) = some contents ∧
          longerLater.tree.contents? (traceFile longerPlace number ending) = some contents) ∧
        ∀ batch < settings.traces / batchSize, traces batch = longerTraces batch) ∧
    ∀ {lanes : Lanes} {reservation : Reservation} {length : Option UInt64} {source : ByteSource}
        {circuit : Circuit lanes},
      Circuit.read lanes reservation length source = .ok circuit →
      ∀ {earlier longerEarlier : Ram lanes}, earlier.size = circuit.ram.size →
        longerEarlier.size = circuit.ram.size →
      ∀ (instances more : List Bytes) (generator : Generator),
      ∃ (outputs further : List Bytes) (traces longerTraces : Nat → List (Register lanes)),
        outputs.length = instances.length ∧ further.length = more.length ∧
        Circuit.Gives { circuit with ram := earlier } instances generator outputs traces ∧
        Circuit.Gives { circuit with ram := longerEarlier } (instances ++ more) generator
          (outputs ++ further) longerTraces ∧
        ∀ batch, ∀ lane < lanes.count, batch * lanes.count + lane < instances.length →
          (traces batch).map (·.lane lane) = (longerTraces batch).map (·.lane lane) := by
  constructor
  · intro reservation longerReservation settings longer machine longerMachine circuit place
      longerPlace directory longerDirectory made longerMade clock longerClock ready longerReady
      further
    obtain ⟨gates, sound⟩ := ready.exists_sound
    obtain ⟨traces, later, records, traced, held⟩ := ready.exists_records sound clock
    obtain ⟨longerTraces, longerLater, longerRecords, longerTraced, longerHeld⟩ :=
      longerReady.exists_records sound longerClock
    obtain ⟨more, texts⟩ := plaintexts_append settings.seed circuit.header.inputBytes further.traces
    rw [further.seed, further.randomSeed, texts] at longerTraced longerHeld
    refine ⟨traces, longerTraces, later, longerLater, records, longerRecords, ?_, ?_⟩
    · intro number inside ending listed
      have among : number < (plaintexts settings.seed circuit.header.inputBytes
          settings.traces).length := by
        rwa [length_plaintexts]
      obtain ⟨plain, cipher, bits⟩ := held number inside
      obtain ⟨longerPlain, longerCipher, longerBits⟩ :=
        longerHeld number (Nat.lt_of_lt_of_le inside further.traces)
      rw [Circuit.evaluateInstance_append among] at longerCipher longerBits
      rcases List.mem_cons.mp listed with rfl | listed
      · exact ⟨_, bits, longerBits⟩
      rcases List.mem_cons.mp listed with rfl | listed
      · exact ⟨_, plain, longerPlain⟩
      · obtain rfl := List.mem_singleton.mp listed
        exact ⟨_, cipher, longerCipher⟩
    · intro batch before
      apply Trace.ext_lane
      intro lane among
      apply traced.lane_eq longerTraced among
      have full : (batch + 1) * batchSize ≤ settings.traces :=
        (Nat.le_div_iff_mul_le (by decide)).mp before
      rw [Nat.succ_mul] at full
      rw [length_plaintexts]
      exact Nat.lt_of_lt_of_le (Nat.add_lt_add_left among _) full
  · intro lanes reservation length source circuit loaded earlier longerEarlier sized longerSized
      instances more generator
    obtain ⟨gates, loadedSound⟩ := (Circuit.accepted_of_read loaded).sound
    have sound : ∀ {ram : Ram lanes}, ram.size = circuit.ram.size →
        Circuit.Sound { circuit with ram := ram } gates :=
      fun same => loadedSound.of_sameProgram ⟨rfl, rfl, rfl, rfl, same⟩
    obtain ⟨traces, traced⟩ := (sound sized).exists_tracesOf instances generator
    obtain ⟨longerTraces, longerTraced⟩ :=
      (sound longerSized).exists_tracesOf (instances ++ more) generator
    obtain ⟨further, whole⟩ := circuit.answers_append gates instances more generator
    have counted := congrArg List.length whole
    rw [List.length_append, Circuit.length_answers, Circuit.length_answers, List.length_append]
      at counted
    refine ⟨circuit.answers gates instances generator, further, traces, longerTraces,
      Circuit.length_answers .., Nat.add_left_cancel counted.symm, (sound sized).gives traced,
      ?_, ?_⟩
    · rw [← whole]
      exact (sound longerSized).gives longerTraced
    · intro batch lane among inside
      exact traced.lane_eq longerTraced among inside

/-- One trace of the inverter and sixty-five of them, and one instance on eight lanes and two. -/
theorem inverter_extended :
    (∃ later longerLater : Machine,
      (record Reservation.standard (inverterSettings 1) 0 :
        ExceptT CampaignFailure (StateM Machine) Summary).run.run inverterMachine =
          (.ok ⟨1, 1⟩, later) ∧
      (record Reservation.standard (inverterSettings 65) 0 :
        ExceptT CampaignFailure (StateM Machine) Summary).run.run inverterMachine =
          (.ok ⟨65, 1⟩, longerLater) ∧
      ∀ ending ∈ endings, ∃ contents,
        later.tree.contents? (traceFile (Path.join "/" "t") 0 ending) = some contents ∧
        longerLater.tree.contents? (traceFile (Path.join "/" "t") 0 ending) = some contents) ∧
    ∃ outputs further : List Bytes, outputs.length = 1 ∧ further.length = 1 ∧
      ((Circuit.inverterLoaded .eight).runSeriesUntraced [[0]] (.ofSeed 2)).result =
        .ok (outputs, []) ∧
      ((Circuit.inverterLoaded .eight).runSeriesUntraced [[0], [128]] (.ofSeed 2)).result =
        .ok (outputs ++ further, []) := by
  obtain ⟨campaigns, series⟩ := extending_keeps_instances
  constructor
  · obtain ⟨traces, longerTraces, later, longerLater, records, longerRecords, files, -⟩ :=
      campaigns (ready_inverterMachine 1) (ready_inverterMachine 65)
        (⟨by decide, rfl, rfl⟩ : Extends (inverterSettings 1) 0 (inverterSettings 65) 0)
    exact ⟨later, longerLater, records.recorded, longerRecords.recorded,
      files 0 (Nat.zero_lt_succ 0)⟩
  · obtain ⟨outputs, further, traces, longerTraces, counted, added, gives, longerGives, -⟩ :=
      series (Circuit.read_inverter .eight) rfl rfl [[0]] [[128]] (.ofSeed 2)
    exact ⟨outputs, further, counted, added, gives.untraced (by decide),
      longerGives.untraced (by decide)⟩

end Campaign

end Bitslice
