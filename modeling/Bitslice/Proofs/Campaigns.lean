import Bitslice.Campaign.CommandLine
import Bitslice.Proofs.Batches
import Bitslice.Proofs.Canonical
import Mathlib.Data.List.Nodup
import Mathlib.Data.List.ProdSigma

/-!
# A campaign and a series agree

A campaign that finds its place vacant leaves there the files of its instances
and nothing else (`Campaign.succeeds_record`). What they hold is what a series
on the same plaintexts and draws gives back, instance by instance.
-/

namespace Bitslice

namespace Campaign

open Machine

section Texts

variable {base : FileTree} {place : String} {directory : List String} {listing : Listing}
  {printed : List String} {machine : Machine}

/-- The plaintext and ciphertext files of instances that are numbered from the given number on. -/
def textFiles (number : Nat) (texts : List (Bytes × Bytes)) : List (String × Bytes) :=
  (texts.zipIdx number).flatMap fun text =>
    [(fileName text.2 ".pt", text.1.1), (fileName text.2 ".ct", text.1.2)]

theorem succeeds_writeTexts (vacant : base.Vacant place directory) (texts : List (Bytes × Bytes))
    (number : Nat) (shows : Shows base directory listing printed machine) :
    Succeeds (writeTexts place number texts) machine fun _ =>
      Shows base directory (listing.putAll (textFiles number texts)) printed := by
  induction texts generalizing number listing machine with
  | nil => exact succeeds_pure shows
  | cons text texts ih =>
    obtain ⟨plaintext, ciphertext⟩ := text
    have plain := plain_fileName number (by decide : ".pt" ∈ endings)
    have plainToo := plain_fileName number (by decide : ".ct" ∈ endings)
    refine (succeeds_writeFile vacant shows plain _ plaintext).bind ?_
    intro _ middle showsMiddle
    refine (succeeds_writeFile vacant showsMiddle plainToo _ ciphertext).bind ?_
    intro _ later showsLater
    have files : textFiles number ((plaintext, ciphertext) :: texts) =
        (fileName number ".pt", plaintext) :: (fileName number ".ct", ciphertext) ::
          textFiles (number + 1) texts := by
      rw [textFiles, List.zipIdx_cons, List.flatMap_cons, textFiles]
      rfl
    rw [files, Listing.putAll_cons, Listing.putAll_cons]
    exact ih (number + 1) showsLater

end Texts

section Files

variable {count number : Nat} {plaintext ciphertext trace : Nat → Bytes}

/-- The names of the files of so many instances that have one of some endings. -/
def names (count : Nat) (chosen : List String) : List String :=
  (List.range count).flatMap fun number => chosen.map (fileName number)

theorem mem_names_iff {chosen : List String} {name : String} :
    name ∈ names count chosen ↔
      ∃ number < count, ∃ ending ∈ chosen, fileName number ending = name := by
  simp only [names, List.mem_flatMap, List.mem_map, List.mem_range]

theorem names_eq_map (count : Nat) (chosen : List String) :
    names count chosen =
      (List.range count ×ˢ chosen).map fun file => fileName file.1 file.2 := by
  change _ = ((List.range count).flatMap fun number => chosen.map (Prod.mk number)).map _
  rw [List.map_flatMap]
  simp only [List.map_map]
  rfl

theorem length_names (count : Nat) (chosen : List String) :
    (names count chosen).length = count * chosen.length := by
  rw [names_eq_map, List.length_map, List.length_product, List.length_range]

/-- Different instances and different endings have different files. -/
theorem nodup_names (count : Nat) {chosen : List String}
    (listed : ∀ ending ∈ chosen, ending ∈ endings) (once : chosen.Nodup) :
    (names count chosen).Nodup := by
  rw [names_eq_map]
  refine List.Nodup.map_on ?_ (List.nodup_range.product once)
  rintro ⟨number, ending⟩ member ⟨other, otherEnding⟩ otherMember same
  obtain ⟨rfl, rfl⟩ := (fileName_inj (listed _ (List.mem_product.mp member).2)
    (listed _ (List.mem_product.mp otherMember).2)).mp same
  rfl

/-- All files of a campaign. -/
def files (count : Nat) (plaintext ciphertext trace : Nat → Bytes) : List (String × Bytes) :=
  ((List.range count).map fun number => (fileName number ".bin", trace number)) ++
    (List.range count).flatMap fun number =>
      [(fileName number ".pt", plaintext number), (fileName number ".ct", ciphertext number)]

theorem keys_files (count : Nat) (plaintext ciphertext trace : Nat → Bytes) :
    (files count plaintext ciphertext trace).map Prod.fst =
      names count [".bin"] ++ names count [".pt", ".ct"] := by
  rw [files, List.map_append, List.map_map, List.map_flatMap, List.map_eq_flatMap]
  rfl

/-- No file of a campaign is written twice. -/
theorem nodup_keys_files (count : Nat) (plaintext ciphertext trace : Nat → Bytes) :
    ((files count plaintext ciphertext trace).map Prod.fst).Nodup := by
  rw [keys_files, List.nodup_append]
  refine ⟨nodup_names count (by decide) (by decide), nodup_names count (by decide) (by decide), ?_⟩
  intro name bits other text same
  obtain ⟨number, -, ending, among, rfl⟩ := mem_names_iff.mp bits
  obtain ⟨otherNumber, -, otherEnding, otherAmong, rfl⟩ := mem_names_iff.mp text
  obtain rfl := List.mem_singleton.mp among
  have listed : otherEnding ∈ endings := List.mem_of_mem_tail (l := endings) otherAmong
  obtain ⟨-, rfl⟩ := (fileName_inj (by decide) listed).mp same
  exact absurd otherAmong (by decide)

theorem mem_keys_files_iff {name : String} :
    name ∈ (files count plaintext ciphertext trace).map Prod.fst ↔ name ∈ names count endings := by
  rw [keys_files, List.mem_append, mem_names_iff, mem_names_iff, mem_names_iff]
  constructor
  · rintro (⟨number, inside, ending, listed, same⟩ | ⟨number, inside, ending, listed, same⟩)
    · obtain rfl := List.mem_singleton.mp listed
      exact ⟨number, inside, _, .head _, same⟩
    · exact ⟨number, inside, ending, .tail _ listed, same⟩
  · rintro ⟨number, inside, ending, listed, same⟩
    rcases List.mem_cons.mp listed with rfl | text
    · exact .inl ⟨number, inside, _, .head _, same⟩
    · exact .inr ⟨number, inside, ending, text, same⟩

/-- What a directory lists that has exactly the files of a campaign. -/
theorem putAll_files (inside : number < count) :
    let listing := Listing.none.putAll (files count plaintext ciphertext trace)
    listing (fileName number ".pt") = some (plaintext number) ∧
      listing (fileName number ".ct") = some (ciphertext number) ∧
      listing (fileName number ".bin") = some (trace number) := by
  have once := nodup_keys_files count plaintext ciphertext trace
  have listed := List.mem_range.mpr inside
  refine ⟨Listing.putAll_of_mem once ?_, Listing.putAll_of_mem once ?_,
    Listing.putAll_of_mem once ?_⟩
  · exact List.mem_append_right _ (List.mem_flatMap.mpr ⟨number, listed, .head _⟩)
  · exact List.mem_append_right _ (List.mem_flatMap.mpr ⟨number, listed, .tail _ (.head _)⟩)
  · exact List.mem_append_left _ (List.mem_map.mpr ⟨number, listed, rfl⟩)

end Files

/-- The files of the traces and those of the texts are all the files. -/
theorem files_eq (circuit : Circuit .sixtyFour) (gates : List Gate) (seed : UInt64) (count : Nat)
    (generator : Generator) :
    let texts := plaintexts seed circuit.header.inputBytes count
    let evaluation := circuit.evaluateInstance gates texts generator
    traceFiles circuit gates texts generator 0 ++
        textFiles 0 (texts.zip (circuit.answers gates texts generator)) =
      files count (plaintext seed circuit.header.inputBytes)
        (fun number => circuit.answer (evaluation number))
        fun number => Bits.toBytes (evaluation number).written := by
  intro texts evaluation
  have counted : texts.length = count := length_plaintexts seed circuit.header.inputBytes count
  have numbered : (List.range count).zipIdx = (List.range count).map fun number =>
      (number, number) := by
    apply List.ext_getElem
    · simp
    · intro number _ _
      simp
  have pairs : (texts.zip (circuit.answers gates texts generator)).zipIdx =
      (List.range count).map fun number =>
        ((plaintext seed circuit.header.inputBytes number, circuit.answer (evaluation number)),
          number) := by
    have listed : texts = (List.range count).map (plaintext seed circuit.header.inputBytes) := rfl
    have answered : circuit.answers gates texts generator =
        (List.range count).map fun number => circuit.answer (evaluation number) := by
      rw [Circuit.answers, counted]
    rw [answered, listed, List.zip_map', List.zipIdx_map, numbered, List.map_map]
    rfl
  rw [traceFiles, textFiles, counted, pairs, List.flatMap_map, files]
  simp only [Nat.zero_add]
  rfl

/-- Everything that a campaign needs is there: its circuit loads and has a name, and the place of
its traces can be made and leads to a directory that holds nothing and has room for every file. -/
structure Ready (reservation : Reservation) (settings : Settings) (machine : Machine)
    (circuit : Circuit .sixtyFour) (place : String) (directory : List String)
    (made : FileTree) : Prop where
  loads : Circuit.load .sixtyFour reservation settings.circuit
    (machine.tree.openFile settings.circuit) = .ok circuit
  named : (circuitName? settings.circuit).map (Path.join settings.directory) = some place
  makes : (FileSystem.makeDirectories place : StateM Machine (Except IoFailure Unit)).run machine =
    (.ok (), { machine with tree := made })
  leads : made.locate place = .ok directory
  fresh : ∀ names, names ≠ [] → made.entry? (directory ++ names) = none
  roomy : ∀ name, made.device (directory ++ [name]) = .unlimited

section Record

variable {reservation : Reservation} {settings : Settings} {machine : Machine}
  {circuit : Circuit .sixtyFour} {place : String} {directory : List String} {made : FileTree}
  (ready : Ready reservation settings machine circuit place directory made)

include ready

theorem Ready.vacant : made.Vacant place directory where
  leads := ready.leads
  stands := FileTree.entry?_of_isDirectory (isDirectory_of_makeDirectories ready.makes) ready.leads
  empty := ready.fresh
  roomy := ready.roomy

theorem Ready.exists_sound : ∃ gates, circuit.Sound gates := by
  have loads := ready.loads
  unfold Circuit.load at loads
  split at loads
  · cases loads
  · exact (Circuit.accepted_of_read loads).sound

/-- The place is made whatever has been printed before. -/
theorem Ready.makes_printed (printed : Array String) :
    (FileSystem.makeDirectories place : StateM Machine (Except IoFailure Unit)).run
        { machine with printed := printed } =
      (.ok (), { tree := made, printed := printed }) := by
  rw [silent_makeDirectories place machine printed, ready.makes]

/-- A whole campaign. -/
theorem Ready.succeeds_record {gates : List Gate} (sound : circuit.Sound gates) (clock : UInt64) :
    let texts := plaintexts settings.seed circuit.header.inputBytes settings.traces
    let generator := Generator.ofSeed (settings.randomSeed.getD clock)
    let evaluation := circuit.evaluateInstance gates texts generator
    ∃ traces : Nat → List (Register .sixtyFour),
      Succeeds (record reservation settings clock) machine (fun summary later =>
        summary = ⟨settings.traces, circuit.header.gateCount.toNat⟩ ∧
        Shows made directory (Listing.none.putAll (files settings.traces
            (plaintext settings.seed circuit.header.inputBytes)
            (fun number => circuit.answer (evaluation number))
            fun number => Bits.toBytes (evaluation number).written))
          (machine.printed.toList ++
            [s!"Tracing {settings.circuit} on {settings.traces} traces", s!"Saving to {place}"] ++
            digestLines settings.fingerprints 0 (Lanes.batches .sixtyFour settings.traces) traces)
          later) ∧
      ∀ batch < Lanes.batches .sixtyFour settings.traces, ∀ lane < batchSize,
        (traces batch).map (·.lane lane) = (evaluation (batch * batchSize + lane)).written := by
  intro texts generator evaluation
  obtain ⟨name, named, rfl⟩ := Option.map_eq_some_iff.mp ready.named
  have vacant := ready.vacant
  let printed :=
    (machine.printed.push s!"Tracing {settings.circuit} on {settings.traces} traces").push
      s!"Saving to {Path.join settings.directory name}"
  have shows : Shows made directory Listing.none
      (machine.printed.toList ++ [s!"Tracing {settings.circuit} on {settings.traces} traces",
        s!"Saving to {Path.join settings.directory name}"]) { tree := made, printed := printed } :=
    ⟨vacant.holds, by simp [printed]⟩
  have sized : ∀ input ∈ texts, input.length = circuit.header.inputBytes :=
    fun _ => length_of_mem_plaintexts
  let start : Stage := ⟨circuit, generator, #[]⟩
  have soundStart : start.circuit.Sound gates := sound
  obtain ⟨traces, ran, lanewise⟩ :=
    succeeds_recordFrom vacant settings soundStart sized 0 shows fun _ => rfl
  rw [length_plaintexts] at ran lanewise
  refine ⟨traces, ?_, lanewise⟩
  have opened : Succeeds (ExceptT.lift (FileSystem.openFile settings.circuit)) machine
      fun file later => file = machine.tree.openFile settings.circuit ∧ machine = later :=
    succeeds_lift rfl ⟨rfl, rfl⟩
  have told : ∀ (earlier : Machine) (line : String), Succeeds (ExceptT.lift (FileSystem.say line))
      earlier fun _ later => later = { earlier with printed := earlier.printed.push line } :=
    fun _ _ => succeeds_lift rfl rfl
  refine opened.bind ?_
  rintro _ _ ⟨rfl, rfl⟩
  simp only [ready.loads, named]
  refine (told _ _).bind ?_
  rintro _ _ rfl
  refine (told _ _).bind ?_
  rintro _ _ rfl
  have prepared : Succeeds (need (.create (Path.join settings.directory name))
      (FileSystem.makeDirectories (Path.join settings.directory name)))
      { machine with printed := printed }
      fun _ later => later = { tree := made, printed := printed } :=
    succeeds_need (ready.makes_printed printed) rfl
  refine prepared.bind ?_
  rintro _ _ rfl
  simp only [rows_bytesOfSeed]
  refine ran.bind ?_
  rintro last recorded ⟨ciphertexts, showsRecorded⟩
  refine (succeeds_writeTexts vacant _ 0 showsRecorded).bind ?_
  intro _ written showsWritten
  refine succeeds_pure ⟨rfl, ?_⟩
  rw [ciphertexts, ← Listing.putAll_append] at showsWritten
  rw [← files_eq circuit gates settings.seed settings.traces generator]
  exact showsWritten

end Record

section Start

variable {reservation : Reservation} {settings : Settings} {machine : Machine}
  {circuit : Circuit .sixtyFour} {name : String} {outer : List String}

/-- A campaign can start in a directory that is there, has nothing of the circuit's name and has
room. -/
theorem ready_of_free
    (loads : Circuit.load .sixtyFour reservation settings.circuit
      (machine.tree.openFile settings.circuit) = .ok circuit)
    (named : circuitName? settings.circuit = some name) (plain : Path.Plain name)
    (leads : machine.tree.locate settings.directory = .ok outer)
    (stands : machine.tree.entry? outer = some .directory)
    (free : ∀ others, machine.tree.entry? (outer ++ name :: others) = none)
    (roomy : ∀ names, machine.tree.device (outer ++ names) = .unlimited) :
    Ready reservation settings machine circuit (Path.join settings.directory name)
      (outer ++ [name]) (machine.tree.insert (outer ++ [name]) .directory) := by
  have missing : machine.tree.entry? (outer ++ [name]) = none := free []
  have absent : machine.tree.entry? (outer ++ [name]) ≠ some .directory := by
    rw [missing]
    simp
  have located := FileTree.locate_join leads stands plain
  have made : machine.tree.makeDirectory (Path.join settings.directory name) =
      .ok (machine.tree.insert (outer ++ [name]) .directory) := by
    rw [FileTree.makeDirectory, located]
    simp only [missing]
  have tried := run_makeDirectory (Path.join settings.directory name) machine
  rw [made] at tried
  constructor
  · exact loads
  · rw [named, Option.map_some]
  · rw [FileSystem.makeDirectories]
    cases Path.ancestors (Path.join settings.directory name) with
    | nil =>
      rw [FileSystem.makeBelow, FileSystem.makeOrKeep, run_bind_of_eq tried]
      rfl
    | cons parent above =>
      rw [FileSystem.makeBelow, run_bind_of_eq tried]
      rfl
  · exact (FileTree.keepsDirectories_insert absent .directory).locate located
  · intro others some
    have apart : outer ++ [name] ++ others ≠ outer ++ [name] := by
      intro same
      exact some (List.append_right_eq_self.mp same)
    rw [FileTree.entry?_insert (FileTree.append_singleton_ne_nil outer name), if_neg apart,
      List.append_assoc]
    exact free others
  · intro file
    rw [List.append_assoc]
    exact roomy _

end Start

section Leaving

variable {made tree : FileTree} {place : String} {directory : List String}

/-- A tree has in a directory the files of some instances, and nothing else, and is otherwise like
the tree in which the directory was made. Each instance has its plaintext, its ciphertext and its
trace. -/
structure Leaves (made : FileTree) (place : String) (directory : List String)
    (texts outputs bits : List Bytes) (tree : FileTree) : Prop where
  working : tree.working = made.working
  device : tree.device = made.device
  elsewhere : ∀ others, ¬directory <+: others → tree.entry? others = made.entry? others
  stands : tree.entry? directory = some .directory
  listed : ∀ name, tree.entry? (directory ++ [name]) ≠ none ↔
    name ∈ names texts.length endings
  distinct : (names texts.length endings).Nodup
  counted : (names texts.length endings).length = 3 * texts.length
  deeper : ∀ others, 2 ≤ others.length → tree.entry? (directory ++ others) = none
  plaintexts : ∀ number < texts.length,
    tree.contents? (traceFile place number ".pt") = texts[number]?
  ciphertexts : ∀ number < texts.length,
    tree.contents? (traceFile place number ".ct") = outputs[number]?
  traces : ∀ number < texts.length,
    tree.contents? (traceFile place number ".bin") = bits[number]?

theorem leaves_of_holds (vacant : made.Vacant place directory) {count : Nat}
    {plaintext ciphertext trace : Nat → Bytes}
    (holds : made.Holds directory
      (Listing.none.putAll (files count plaintext ciphertext trace)) tree) :
    Leaves made place directory ((List.range count).map plaintext)
      ((List.range count).map ciphertext) ((List.range count).map trace) tree := by
  have counted : ((List.range count).map plaintext).length = count := by simp
  have found : ∀ (number : Nat) {ending : String}, ending ∈ endings →
      tree.contents? (traceFile place number ending) =
        Listing.none.putAll (files count plaintext ciphertext trace) (fileName number ending) :=
    fun number _ listed => holds.contents? vacant (plain_fileName number listed)
  have among : ∀ (bytes : Nat → Bytes) {number : Nat}, number < count →
      ((List.range count).map bytes)[number]? = some (bytes number) := by
    intro bytes number inside
    simp [inside]
  constructor
  · exact holds.working
  · exact holds.device
  · intro others outside
    apply holds.elsewhere
    rintro name rfl
    exact outside (List.prefix_append directory [name])
  · exact (holds.keepsDirectories vacant).directories directory vacant.stands
  · intro name
    rw [holds.listed, counted, ← mem_keys_files_iff]
    constructor
    · intro present
      by_contra absent
      rw [Listing.putAll_of_not_mem absent] at present
      exact present rfl
    · intro member
      obtain ⟨contents, listed⟩ := Option.isSome_iff_exists.mp (Listing.isSome_putAll member)
      rw [listed]
      simp
  · exact nodup_names _ (fun _ listed => listed) (by decide)
  · rw [length_names, Nat.mul_comm]
    rfl
  · intro others long
    rw [holds.elsewhere]
    · apply vacant.empty
      rintro rfl
      cases long
    · intro name same
      obtain rfl := List.append_cancel_left same
      exact absurd long (by simp)
  · intro number inside
    rw [counted] at inside
    rw [found number (by decide), (putAll_files inside).1, among plaintext inside]
  · intro number inside
    rw [counted] at inside
    rw [found number (by decide), (putAll_files inside).2.1, among ciphertext inside]
  · intro number inside
    rw [counted] at inside
    rw [found number (by decide), (putAll_files inside).2.2, among trace inside]

end Leaving

section Agreement

variable {lanes : Lanes}

/-- Traces that are kept in memory come back one for each batch. -/
theorem keptRecorders_traceList (traces : Nat → List (Register lanes)) (batches : Nat) :
    Circuit.keptRecorders (fun _ => some (TraceList.empty lanes)) traces batches =
      (List.range batches).map fun batch => ⟨(traces batch).toArray⟩ := by
  have kept : ∀ batch, (Recorder.keep (some (TraceList.empty lanes)) (traces batch)).2 =
      some ⟨(traces batch).toArray⟩ := by
    intro batch
    rw [Recorder.keep_some, Recorder.keep, Recorder.feed_traceList]
    simp [TraceList.empty, Recorder.finish]
  simp only [Circuit.keptRecorders, kept]
  exact congrFun List.filterMap_eq_map _

theorem digestLines_congr (fingerprints : Bool) (first : Nat) {batches : Nat}
    {left right : Nat → List (Register .sixtyFour)}
    (same : ∀ batch < batches, left batch = right batch) :
    digestLines fingerprints first batches left = digestLines fingerprints first batches right := by
  have lines : (List.range batches).map (fun batch => digestLine (first + batch) (left batch)) =
      (List.range batches).map fun batch => digestLine (first + batch) (right batch) := by
    apply List.map_congr_left
    intro batch listed
    rw [same batch (List.mem_range.mp listed)]
  rw [digestLines, lines, digestLines]

/-- Every instance of a campaign is in one of its batches. -/
theorem batch_lt {number count : Nat} (inside : number < count) :
    number / batchSize < Lanes.batches .sixtyFour count := by
  have whole : number / batchSize * Lanes.count .sixtyFour + number % batchSize = number :=
    Nat.div_add_mod' number batchSize
  exact Lanes.lt_batches (whole.trans_lt inside)

variable {reservation : Reservation} {settings : Settings} {machine : Machine}
  {circuit : Circuit .sixtyFour} {place : String} {directory : List String} {made : FileTree}

/-- A command line that asks for a campaign ends as the campaign does. -/
theorem run_ofCommandLine {words : List String} {clock : UInt64} {summary : Summary}
    {later : Machine} (asked : Request.ofWords? words = some (.record settings))
    (ran : (record reservation settings clock : ExceptT CampaignFailure (StateM Machine)
      Summary).run.run machine = (.ok summary, later)) :
    (ofCommandLine reservation words clock : StateM Machine Ending).run machine =
      (.recorded summary, later) := by
  rw [ofCommandLine, asked]
  simp only
  rw [run_bind_of_eq ran]
  rfl

/-- A campaign and a series agree. Where everything is there that a campaign needs, it records, and
leaves for each of its instances exactly one file with the plaintext, a piece of the stream of its
seed, one with the output and one with the trace. The outputs are those of the series that runs
the same plaintexts with the same draws, and each trace packs the lane of the instance in what the
series has recorded for its batch. The digests that are printed are those of these records. -/
theorem campaign_agrees_with_series
    (ready : Ready reservation settings machine circuit place directory made) (clock : UInt64) :
    let texts := plaintexts settings.seed circuit.header.inputBytes settings.traces
    let batches := Lanes.batches .sixtyFour settings.traces
    let summary : Summary := ⟨settings.traces, circuit.header.gateCount.toNat⟩
    let series := circuit.runSeries texts (.ofSeed (settings.randomSeed.getD clock))
      (fun supplier _ => (.ok (some (TraceList.empty .sixtyFour)), supplier)) ()
    ∃ (outputs : List Bytes) (recorders : List (TraceList .sixtyFour)) (bits : List Bytes)
        (later : Machine),
      series.result = .ok (outputs, recorders) ∧ outputs.length = settings.traces ∧
      recorders.length = batches ∧ bits.length = settings.traces ∧
      (∀ number (inside : number < bits.length), ∃ recorder,
        recorders[number / batchSize]? = some recorder ∧
          Bits.Packs bits[number]
            (recorder.records.toList.map (·.lane (number % batchSize)))) ∧
      (record reservation settings clock : ExceptT CampaignFailure (StateM Machine)
        Summary).run.run machine = (.ok summary, later) ∧
      (∀ words, Request.ofWords? words = some (.record settings) →
        (ofCommandLine reservation words clock : StateM Machine Ending).run machine =
          (.recorded summary, later)) ∧
      Leaves made place directory texts outputs bits later.tree ∧
      later.printed.toList = machine.printed.toList ++
        [s!"Tracing {settings.circuit} on {settings.traces} traces", s!"Saving to {place}"] ++
        digestLines settings.fingerprints 0 batches fun batch =>
          (recorders.getD batch (TraceList.empty .sixtyFour)).records.toList := by
  intro texts batches summary series
  obtain ⟨gates, sound⟩ := ready.exists_sound
  obtain ⟨traces, ⟨_, later, ran, rfl, shows⟩, lanewise⟩ := ready.succeeds_record sound clock
  have long : ∀ input ∈ texts, circuit.header.inputBytes ≤ input.length :=
    fun input member => Nat.le_of_eq (length_of_mem_plaintexts member).symm
  have counted : texts.length = settings.traces :=
    length_plaintexts settings.seed circuit.header.inputBytes settings.traces
  obtain ⟨kept, runs⟩ : ∃ kept, circuit.RunsSeries gates texts
      (.ofSeed (settings.randomSeed.getD clock))
      (fun supplier _ => (.ok (some (TraceList.empty .sixtyFour)), supplier)) () 0
      (fun _ => some (TraceList.empty .sixtyFour)) [] [] kept series :=
    sound.runSeries_runs long _ (fun _ _ => rfl) fun _ _ => (Recorder.reliable_traceList _).some
  generalize evaluations : circuit.evaluateInstance gates texts
    (.ofSeed (settings.randomSeed.getD clock)) = evaluation at lanewise shows
  have result := runs.result
  have keptLanewise := runs.lanewise
  rw [Circuit.TracesOf, evaluations, counted] at keptLanewise
  rw [counted, keptRecorders_traceList] at result
  -- Both have the same traces, because their lanes are those of the same evaluations.
  have same : ∀ batch < batches, traces batch = kept batch := by
    intro batch before
    apply Trace.ext_lane
    intro lane inside
    exact (lanewise batch before lane inside).trans (keptLanewise batch before lane inside).symm
  have answered : circuit.answers gates texts (.ofSeed (settings.randomSeed.getD clock)) =
      (List.range settings.traces).map fun number => circuit.answer (evaluation number) := by
    rw [Circuit.answers, counted, evaluations]
  rw [List.nil_append, List.nil_append, answered] at result
  refine ⟨_, _, (List.range settings.traces).map fun number =>
    Bits.toBytes (evaluation number).written, later, result, ?_, ?_, ?_, ?_, ran, ?_, ?_, ?_⟩
  · rw [List.length_map, List.length_range]
  · rw [List.length_map, List.length_range]
  · rw [List.length_map, List.length_range]
  · intro number inside
    have among : number < settings.traces := by simpa using inside
    have before := batch_lt among
    refine ⟨⟨(kept (number / batchSize)).toArray⟩, ?_, ?_⟩
    · simp [before]
    · have lane := keptLanewise (number / batchSize) before (number % batchSize)
        (Nat.mod_lt _ (by decide))
      have place : number / batchSize * Lanes.count .sixtyFour + number % batchSize = number :=
        Nat.div_add_mod' number batchSize
      rw [place] at lane
      rw [List.toList_toArray, lane]
      simp only [List.getElem_map, List.getElem_range]
      exact Bits.packs_toBytes _
  · exact fun words asked => run_ofCommandLine asked ran
  · exact leaves_of_holds ready.vacant shows.holds
  · rw [shows.printed]
    refine congrArg _ (digestLines_congr _ 0 ?_)
    intro batch before
    rw [same batch before, List.getD_eq_getElem?_getD, List.getElem?_map,
      List.getElem?_range before, Option.map_some, Option.getD_some, List.toList_toArray]

/-- A machine whose working directory holds the inverter and nothing else. -/
def inverterMachine : Machine :=
  ⟨(FileTree.empty "w").insert ["w", "t"] (.file Circuit.inverter), #[]⟩

/-- A number of traces of the inverter, below the root. -/
def inverterSettings (traces : Nat) : Settings :=
  ⟨"t", "/", traces, 0, none, false⟩

theorem entry?_inverterMachine (names : List String) :
    inverterMachine.tree.entry? names =
      if names = ["w", "t"] then some (.file Circuit.inverter)
      else FileTree.entry? (FileTree.empty "w") names :=
  FileTree.entry?_insert (by decide) _ _

theorem locate_inverterMachine :
    inverterMachine.tree.locate "t" = .ok ["w", "t"] := by
  simp [FileTree.locate, FileTree.steps_t, FileTree.isAbsolute_t, FileTree.walk, inverterMachine,
    FileTree.insert, FileTree.empty]

theorem load_inverterMachine :
    Circuit.load .sixtyFour Reservation.standard "t" (inverterMachine.tree.openFile "t") =
      .ok (Circuit.inverterLoaded .sixtyFour) := by
  have opened : inverterMachine.tree.openFile "t" =
      .ok ⟨.ofBytes Circuit.inverter, UInt64.ofNat Circuit.inverter.length⟩ := by
    rw [FileTree.openFile, locate_inverterMachine]
    simp only [entry?_inverterMachine, if_pos]
    rw [FileTree.namesDirectory_t]
    rfl
  rw [opened]
  exact Circuit.read_of_accepted
    { Circuit.accepted_of_read (Circuit.read_inverter .sixtyFour) with lengthAgrees := by decide }

theorem ready_inverterMachine (traces : Nat) :
    Ready Reservation.standard (inverterSettings traces) inverterMachine
      (Circuit.inverterLoaded .sixtyFour) (Path.join "/" "t") ["t"]
      (inverterMachine.tree.insert ["t"] .directory) := by
  have plain : Path.Plain "t" :=
    Path.Plain.of_mem (List.mem_singleton_self 't') (by decide) (by decide)
  have rootSteps : Path.steps "/" = [] := by
    rw [Path.steps_eq]
    decide
  have absolute : Path.isAbsolute "/" = true := Path.isAbsolute_iff.mpr ⟨[], by decide⟩
  have root : inverterMachine.tree.locate "/" = .ok [] := by
    rw [FileTree.locate, rootSteps, if_neg (by decide), if_pos absolute]
    rfl
  have stands : inverterMachine.tree.entry? [] = some .directory := if_pos rfl
  have named : circuitName? "t" = some "t" := by
    have whole : ¬"t".endsWith ".bin" = true := by
      rw [String.endsWith, String.Slice.endsWith_string_iff, String.copy_toSlice]
      decide
    have name : Path.fileName? "t" = some "t" := by
      rw [Path.fileName?, Path.moves, FileTree.steps_t]
      decide
    rw [circuitName?, name, Option.map_some, if_neg whole]
  refine ready_of_free load_inverterMachine named plain root stands ?_ fun _ => rfl
  intro others
  rw [List.nil_append, entry?_inverterMachine, if_neg (by simp), FileTree.entry?,
    if_neg (List.cons_ne_nil _ _)]
  simp [FileTree.empty, Std.TreeMap.get?_eq_getElem?]

/-- Seventy instances of the inverter, a full batch and a part of one, recorded from the command
line. -/
theorem inverter_campaign :
    ∃ (circuit : Circuit .sixtyFour) (made : FileTree),
      Ready Reservation.standard (inverterSettings 70) inverterMachine circuit (Path.join "/" "t")
        ["t"] made ∧
      Request.ofWords? ["t", "/", "-t70"] = some (.record (inverterSettings 70)) ∧
      ∃ (texts outputs : List Bytes) (recorders : List (TraceList .sixtyFour))
          (bits : List Bytes) (later : Machine),
        texts.length = 70 ∧ outputs.length = 70 ∧ recorders.length = 2 ∧ bits.length = 70 ∧
        (∀ inside : 69 < bits.length, ∃ recorder, recorders[1]? = some recorder ∧
          Bits.Packs bits[69] (recorder.records.toList.map (·.lane 5))) ∧
        (ofCommandLine Reservation.standard ["t", "/", "-t70"] 0 : StateM Machine Ending).run
          inverterMachine = (.recorded ⟨70, 1⟩, later) ∧
        Leaves made (Path.join "/" "t") ["t"] texts outputs bits later.tree := by
  have words : Request.ofWords? ["t", "/", "-t70"] = some (.record (inverterSettings 70)) := by
    decide
  refine ⟨_, _, ready_inverterMachine 70, words, ?_⟩
  obtain ⟨outputs, recorders, bits, later, -, counted, batches, packed, packs, -, asked, leaves,
    -⟩ := campaign_agrees_with_series (ready_inverterMachine 70) 0
  exact ⟨_, outputs, recorders, bits, later, length_plaintexts _ _ _, counted, batches, packed,
    packs 69, asked _ words, leaves⟩

end Agreement

end Campaign

end Bitslice
