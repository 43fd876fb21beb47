import Bitslice.Host
import Bitslice.Proofs.Campaigns
import Bitslice.Proofs.Reruns

/-!
# A host does what direct calls do

A host keeps its circuits behind handles, cuts the buffers to what a batch needs
and answers with numbers. A `Caller` does without all this: it runs its circuits
on whole buffers, an empty one where one is missing, and hands one generator
from call to call. One call leads both to the same place
(`Host.perform_eq`), and so does any sequence of calls.
-/

namespace Bitslice

/-- Nothing has happened yet in a run that fails with this status: its arguments are refused or its
trace file cannot be created. -/
def Host.Unstarted (status : Int) : Prop :=
  status = refused ∨ status = -1

namespace Circuit

variable {lanes : Lanes} {R : Type} [Recorder lanes R]

section Whole

variable {inputs outputs : Bytes} {batch : Nat}

theorem take_append_behind (outputs : Bytes) (count : Nat) :
    outputs.take count ++ outputs.drop (outputs.take count).length = outputs :=
  List.prefix_iff_eq_append.mp (List.take_prefix count outputs)

/-- The arguments are checked alike whether or not there are more bytes than the batch needs. -/
theorem checkArguments_take (circuit : Circuit lanes) (inputs outputs : Bytes) (batch : Nat) :
    circuit.checkArguments (inputs.take (batch * circuit.header.inputBytes)).length
        (outputs.take (batch * circuit.header.outputBytes)).length batch =
      circuit.checkArguments inputs.length outputs.length batch := by
  unfold checkArguments
  simp only [List.length_take]
  generalize batch * circuit.header.inputBytes = inputNeed
  generalize batch * circuit.header.outputBytes = outputNeed
  by_cases shortInputs : inputs.length < inputNeed
  · rw [Nat.min_eq_right (Nat.le_of_lt shortInputs), if_pos shortInputs, if_pos shortInputs]
  · have enough : ¬min inputNeed inputs.length < inputNeed := by omega
    rw [if_neg shortInputs, if_neg enough]
    by_cases shortOutputs : outputs.length < outputNeed
    · rw [Nat.min_eq_right (Nat.le_of_lt shortOutputs)]
    · have room : ¬min outputNeed outputs.length < outputNeed := by omega
      rw [if_neg shortOutputs, if_neg room]

theorem unpack_take (ram : Ram lanes) (table : List UInt64) {size : Nat}
    (room : batch * size ≤ outputs.length) :
    ram.unpack table outputs size batch =
      ram.unpack table (outputs.take (batch * size)) size batch ++
        outputs.drop (ram.unpack table (outputs.take (batch * size)) size batch).length := by
  have sized : (outputs.take (batch * size)).length = batch * size := List.length_take_of_le room
  have behind : (outputs.take (batch * size)).drop (batch * size) = [] :=
    List.drop_of_length_le (Nat.le_of_eq sized)
  rw [Ram.length_unpack, sized, ram.unpack_of_room room,
    ram.unpack_of_room (Nat.le_of_eq sized.symm), behind, List.append_nil]

/-- A run reads and writes no further than the batch reaches. -/
theorem run_take (circuit : Circuit lanes) (inputs outputs : Bytes) (recorder : R) (batch : Nat)
    (generator : Generator) :
    let front := circuit.run (inputs.take (batch * circuit.header.inputBytes))
      (outputs.take (batch * circuit.header.outputBytes)) recorder batch generator
    circuit.run inputs outputs recorder batch generator =
      { front with outputs := front.outputs ++ outputs.drop front.outputs.length } := by
  unfold run
  rw [checkArguments_take, Ram.pack_take]
  rcases checked : circuit.checkArguments inputs.length outputs.length batch with failure | ⟨⟩
  · simp only [take_append_behind]
  · have room := (checkArguments_eq_ok_iff.mp checked).outputsHeld
    simp only
    rcases applyGates (circuit.ram.cleared.pack circuit.inputs inputs circuit.header.inputBytes
      batch) recorder generator circuit.gates with ⟨failure | ⟨⟩, progress⟩
    · simp only [take_append_behind]
    · simp only
      rw [← unpack_take progress.ram circuit.outputs room]

/-- The same for a run with a trace file. -/
theorem runToFile_take (circuit : Circuit lanes) (inputs outputs : Bytes) (path : Option String)
    (batch : Nat) (generator : Generator) (tree : FileTree) :
    let front := circuit.runToFile (inputs.take (batch * circuit.header.inputBytes))
      (outputs.take (batch * circuit.header.outputBytes)) path batch generator tree
    circuit.runToFile inputs outputs path batch generator tree =
      { front with outcome := { front.outcome with
          outputs := front.outcome.outputs ++ outputs.drop front.outcome.outputs.length } } := by
  unfold runToFile
  rw [checkArguments_take]
  split
  · simp only
    rw [run_take]
  · rcases circuit.checkArguments inputs.length outputs.length batch with failure | ⟨⟩
    · simp only [take_append_behind]
    · simp only
      split
      · simp only [take_append_behind]
      · rw [run_take]

end Whole

section Refused

variable {circuit : Circuit lanes} {inputs outputs : Bytes} {batch : Nat} {generator : Generator}
  {failure : RunFailure}

theorem ofStream_of_load {ram : Ram lanes} {address : UInt64}
    (failed : Gate.load ram address = .error failure) : failure.OfStream := by
  unfold Gate.load at failed
  split at failed
  · cases failed
  · obtain rfl := Except.error.inj failed
    exact trivial

theorem ofStream_of_evaluate {gate : Gate} {ram : Ram lanes}
    (failed : gate.evaluate ram generator = .error failure) : failure.OfStream := by
  obtain ⟨operator, first, second, destination⟩ := gate
  rcases bind_eq_error_iff.mp failed with missing | ⟨_, -, failed⟩
  · exact ofStream_of_load missing
  cases operator with
  | random => cases failed
  | not =>
    rcases bind_eq_error_iff.mp failed with missing | ⟨_, -, failed⟩
    · exact ofStream_of_load missing
    · cases failed
  | xor | and | or =>
    rcases bind_eq_error_iff.mp failed with missing | ⟨_, -, failed⟩
    · exact ofStream_of_load missing
    rcases bind_eq_error_iff.mp failed with missing | ⟨_, -, failed⟩
    · exact ofStream_of_load missing
    · cases failed

/-- Applying gates, even those of a stream that was never checked, fails because of the stream or
because of the recorder. -/
theorem failure_of_applyGates {ram : Ram lanes} {recorder : R}
    {items : List (Except Malformed Gate)}
    (failed : (applyGates ram recorder generator items).1 = .error failure) :
    failure.OfStream ∨ ∃ cause, failure = .trace cause := by
  induction items generalizing ram recorder generator with
  | nil =>
    rw [applyGates] at failed
    rcases finished : Recorder.finish recorder with ⟨cause | ⟨⟩, next⟩
    · rw [finished] at failed
      exact .inr ⟨cause, (Except.error.inj failed).symm⟩
    · rw [finished] at failed
      cases failed
  | cons item items ih =>
    cases item with
    | error cause =>
      obtain rfl := Except.error.inj failed
      cases cause <;> exact .inl trivial
    | ok gate =>
      rw [applyGates] at failed
      rcases evaluated : gate.evaluate ram generator with cause | ⟨register, next⟩
      · rw [evaluated] at failed
        obtain rfl := Except.error.inj failed
        exact .inl (ofStream_of_evaluate evaluated)
      · rw [evaluated] at failed
        simp only at failed
        rcases told : Recorder.record recorder register with ⟨cause | ⟨⟩, later⟩
        · rw [told] at failed
          exact .inr ⟨cause, (Except.error.inj failed).symm⟩
        · rw [told] at failed
          exact ih failed

/-- In a run, only the check of the arguments fails with such a status. -/
theorem checkArguments_of_unstarted {recorder : R}
    (failed : (circuit.run inputs outputs recorder batch generator).result = .error failure)
    (unstarted : Host.Unstarted failure.status) :
    circuit.checkArguments inputs.length outputs.length batch = .error failure := by
  unfold run at failed
  rcases checked : circuit.checkArguments inputs.length outputs.length batch with cause | ⟨⟩
  · rw [checked] at failed
    exact failed
  · rw [checked] at failed
    simp only at failed
    rcases applied : applyGates (circuit.ram.cleared.pack circuit.inputs inputs
      circuit.header.inputBytes batch) recorder generator circuit.gates with
        ⟨cause | ⟨⟩, progress⟩
    · rw [applied] at failed
      obtain rfl := Except.error.inj failed
      have started : cause.status = -3 ∨ cause.status = -2 := by
        rcases failure_of_applyGates (congrArg Prod.fst applied) with fault | ⟨cause, rfl⟩
        · exact .inl fault.status_eq
        · exact .inr rfl
      rw [Host.Unstarted, Host.refused] at unstarted
      omega
    · rw [applied] at failed
      cases failed

/-- A run that fails with such a status changes nothing. -/
theorem runToFile_of_unstarted {path : Option String} {tree : FileTree}
    (failed : (circuit.runToFile inputs outputs path batch generator tree).outcome.result =
      .error failure) (unstarted : Host.Unstarted failure.status) :
    circuit.runToFile inputs outputs path batch generator tree =
      ⟨⟨.error failure, circuit, outputs, none, generator⟩, tree⟩ := by
  unfold runToFile at failed ⊢
  split
  · next missing =>
    rw [missing] at failed
    rw [run, checkArguments_of_unstarted failed unstarted]
  · next name given =>
    rw [given] at failed
    simp only at failed ⊢
    rcases checked : circuit.checkArguments inputs.length outputs.length batch with cause | ⟨⟩
    · rw [checked] at failed
      obtain rfl := Except.error.inj failed
      rfl
    · rw [checked] at failed
      simp only at failed ⊢
      rcases created : tree.createFile name with cause | made
      · rw [created] at failed
        obtain rfl := Except.error.inj failed
        rfl
      · rw [created] at failed
        rw [checkArguments_of_unstarted failed unstarted] at checked
        cases checked

/-- Refused arguments are reported as such, and nothing changes. -/
theorem runToFile_of_not_accepts (refused : ¬circuit.Accepts inputs outputs batch)
    (path : Option String) (generator : Generator) (tree : FileTree) :
    ∃ failure, failure.status = Host.refused ∧
      circuit.runToFile inputs outputs path batch generator tree =
        ⟨⟨.error failure, circuit, outputs, none, generator⟩, tree⟩ := by
  rcases checked : circuit.checkArguments inputs.length outputs.length batch with failure | ⟨⟩
  · exact ⟨failure, status_of_checkArguments checked,
      runToFile_of_refused checked path generator tree⟩
  · exact absurd (checkArguments_eq_ok_iff.mp checked) refused

end Refused

end Circuit

/-- A call on a host. -/
inductive HostCall where
  /-- Restarts the generator. -/
  | setSeed (seed : UInt64)
  /-- Loads a circuit behind a handle. -/
  | load (handle : Nat) (path : Option String)
  /-- Runs instances on the circuit behind a handle. -/
  | run (handle : Nat) (inputs outputs : Option Bytes) (path : Option String) (batch : Int)
  /-- Empties a handle. -/
  | release (handle : Nat)

/-- What a call answers. -/
inductive HostReply where
  /-- Nothing. -/
  | done
  /-- Whether there is a circuit now. -/
  | loaded (success : Bool)
  /-- The status of a run and the output buffer. -/
  | ran (answer : HostAnswer)

namespace HostCall

/-- Circuits are loaded behind handles that there are. -/
def Within (handles : Nat) : HostCall → Prop
  | load handle _ => handle < handles
  | setSeed _ => True
  | run _ _ _ _ _ => True
  | release _ => True

/-- Calls in sequence: all answers, and what the calls leave. -/
def inSequence {S : Type} (perform : S → HostCall → HostReply × S) (state : S) :
    List HostCall → List HostReply × S
  | [] => ([], state)
  | call :: calls =>
    let answered := perform state call
    let later := inSequence perform answered.2 calls
    (answered.1 :: later.1, later.2)

end HostCall

namespace Host

/-- The status of a result. -/
def statusOf : Except RunFailure Unit → Int
  | .ok () => succeeded
  | .error failure => failure.status

theorem map_getD (buffer : Option Bytes) : (buffer.map fun _ => buffer.getD []) = buffer := by
  cases buffer <;> rfl

/-- Answers a call. -/
def perform (reservation : Reservation) (host : Host) : HostCall → HostReply × Host
  | .setSeed seed => (.done, host.setSeed seed)
  | .load handle path =>
    let answer := host.load reservation handle path
    (.loaded answer.1, answer.2)
  | .run handle inputs outputs path batch =>
    let answer := host.run handle inputs outputs path batch
    (.ran answer.1, answer.2)
  | .release handle => (.done, host.release handle)

end Host

/-- Someone who holds circuits, uses them directly and hands one generator from call to call. -/
structure Caller where
  /-- The circuits, by number. -/
  circuits : Nat → Option (Circuit .sixtyFour)
  /-- What all random gates draw from. -/
  generator : Generator
  /-- The files. -/
  tree : FileTree

namespace Caller

/-- Makes a call directly. A circuit that is missing and a negative batch are refused; a buffer that
is missing is empty. -/
def perform (reservation : Reservation) (caller : Caller) : HostCall → HostReply × Caller
  | .setSeed seed => (.done, { caller with generator := .ofSeed seed })
  | .load number path =>
    let circuit := path.bind fun name =>
      (Circuit.load .sixtyFour reservation name (caller.tree.openFile name)).toOption
    (.loaded circuit.isSome,
      { caller with circuits := Function.update caller.circuits number circuit })
  | .run number inputs outputs path batch =>
    match caller.circuits number with
    | none => (.ran ⟨Host.refused, outputs⟩, caller)
    | some circuit =>
      if batch < 0 then (.ran ⟨Host.refused, outputs⟩, caller)
      else
        let filed := circuit.runToFile (inputs.getD []) (outputs.getD []) path batch.toNat
          caller.generator caller.tree
        (.ran ⟨Host.statusOf filed.outcome.result, outputs.map fun _ => filed.outcome.outputs⟩,
          ⟨Function.update caller.circuits number (some filed.outcome.circuit),
            filed.outcome.generator, filed.tree⟩)
  | .release number =>
    (.done, { caller with circuits := Function.update caller.circuits number none })

/-- A run whose arguments are refused changes nothing. -/
theorem perform_of_not_accepts {caller : Caller} {number : Nat} {circuit : Circuit .sixtyFour}
    {inputs outputs : Option Bytes} {batch : Int} (reservation : Reservation)
    (present : caller.circuits number = some circuit)
    (refuses : ¬circuit.Accepts (inputs.getD []) (outputs.getD []) batch.toNat)
    (path : Option String) :
    caller.perform reservation (.run number inputs outputs path batch) =
      (.ran ⟨Host.refused, outputs⟩, caller) := by
  obtain ⟨failure, status, ran⟩ :=
    Circuit.runToFile_of_not_accepts refuses path caller.generator caller.tree
  have same : Function.update caller.circuits number (some circuit) = caller.circuits := by
    rw [← present, Function.update_eq_self]
  rw [perform, present]
  simp only [ran, Host.statusOf, status, Host.map_getD, same]
  split <;> rfl

end Caller

namespace Host

/-- The caller with the same circuits, generator and files. -/
def caller (host : Host) : Caller :=
  ⟨host.circuit?, host.generator, host.tree⟩

@[simp] theorem caller_circuits (host : Host) : host.caller.circuits = host.circuit? :=
  rfl

@[simp] theorem caller_generator (host : Host) : host.caller.generator = host.generator :=
  rfl

@[simp] theorem caller_tree (host : Host) : host.caller.tree = host.tree :=
  rfl

section Handles

variable {host : Host} {handle : Nat} {circuit : Circuit .sixtyFour}

theorem circuit?_start (handles : Nat) (seed : UInt64) (tree : FileTree) :
    (start handles seed tree).circuit? = fun _ => none := by
  ext1 handle
  rw [start, circuit?, Array.getElem?_replicate]
  split <;> rfl

theorem circuit?_place (inside : handle < host.circuits.size)
    (placed : Option (Circuit .sixtyFour)) :
    (host.place handle placed).circuit? = Function.update host.circuit? handle placed := by
  ext1 other
  by_cases here : other = handle
  · rw [here, Function.update_self, circuit?, place]
    simp [inside]
  · rw [Function.update_of_ne here, circuit?, place, circuit?]
    simp only
    rw [Array.getElem?_setIfInBounds_ne (Ne.symm here)]

theorem inside_of_circuit? (here : host.circuit? handle = some circuit) :
    handle < host.circuits.size := by
  by_contra outside
  rw [circuit?, Array.getElem?_eq_none (Nat.le_of_not_lt outside)] at here
  cases here

theorem place_self (here : host.circuit? handle = some circuit) :
    host.place handle (some circuit) = host := by
  have inside := inside_of_circuit? here
  have held : host.circuits[handle]? = some (some circuit) := by
    rw [circuit?, Array.getElem?_eq_getElem inside] at here
    rw [Array.getElem?_eq_getElem inside]
    exact congrArg some here
  have same : host.circuits.setIfInBounds handle (some circuit) = host.circuits := by
    apply Array.ext_getElem?
    intro other
    rw [Array.getElem?_setIfInBounds]
    by_cases this : handle = other
    · rw [if_pos this, if_pos inside, ← this, held]
    · rw [if_neg this]
  rw [place, same]

theorem circuit?_release (host : Host) (handle : Nat) :
    (host.release handle).circuit? = Function.update host.circuit? handle none := by
  by_cases inside : handle < host.circuits.size
  · exact circuit?_place inside none
  · have outside := Nat.le_of_not_lt inside
    have missing : host.circuit? handle = none := by
      rw [circuit?, Array.getElem?_eq_none outside]
      rfl
    rw [← missing, Function.update_eq_self, release, place,
      Array.setIfInBounds_eq_of_size_le outside]

end Handles

section Run

variable {inputs outputs buffer : Option Bytes} {length : Nat}

theorem needed_eq_none_iff : needed buffer length = none ↔ buffer = none ∧ length ≠ 0 := by
  cases buffer with
  | none => simp [needed]
  | some bytes => simp [needed]

theorem eq_take_of_needed {bytes : Bytes} (found : needed buffer length = some bytes) :
    bytes = (buffer.getD []).take length := by
  cases buffer with
  | none =>
    rw [needed] at found
    split at found
    · rw [← Option.some.inj found]
      simp
    · cases found
  | some whole => exact (Option.some.inj found).symm

variable {host : Host} {handle : Nat} {circuit : Circuit .sixtyFour}

/-- What a host makes of a run on whole buffers. -/
def answering (host : Host) (handle : Nat) (outputs : Option Bytes)
    (filed : FileOutcome .sixtyFour) : HostAnswer × Host :=
  (⟨statusOf filed.outcome.result, outputs.map fun _ => filed.outcome.outputs⟩,
    { host.place handle (some filed.outcome.circuit) with
      generator := filed.outcome.generator
      tree := filed.tree })

/-- Where a run changes nothing, the host does not either. -/
theorem answering_unchanged (here : host.circuit? handle = some circuit)
    (outputs : Option Bytes) (failure : RunFailure) :
    host.answering handle outputs
        ⟨⟨.error failure, circuit, outputs.getD [], none, host.generator⟩, host.tree⟩ =
      (⟨failure.status, outputs⟩, host) := by
  rw [answering]
  simp only
  rw [place_self here, map_getD]
  rfl

theorem answering_refused (here : host.circuit? handle = some circuit)
    {count : Nat} (refuses : ¬circuit.Accepts (inputs.getD []) (outputs.getD []) count)
    (path : Option String) :
    host.answering handle outputs (circuit.runToFile (inputs.getD []) (outputs.getD []) path count
      host.generator host.tree) = (⟨refused, outputs⟩, host) := by
  obtain ⟨failure, status, ran⟩ :=
    Circuit.runToFile_of_not_accepts refuses path host.generator host.tree
  rw [ran, answering_unchanged here, status]

/-- On a circuit that is there, a host runs a batch as it runs directly, on whole buffers. A
negative batch counts as an empty one. -/
theorem run_eq (here : host.circuit? handle = some circuit) (batch : Int)
    (inputs outputs : Option Bytes) (path : Option String) :
    host.run handle inputs outputs path batch =
      host.answering handle outputs (circuit.runToFile (inputs.getD []) (outputs.getD []) path
        batch.toNat host.generator host.tree) := by
  unfold run
  rw [here]
  simp only
  by_cases unfit : batch ≤ 0 ∨ (Lanes.count .sixtyFour : Int) < batch
  · rw [if_pos unfit, answering_refused here]
    rintro ⟨nonempty, fits, -, -⟩
    omega
  rw [if_neg unfit]
  rcases reads : needed inputs (batch.toNat * circuit.header.inputBytes) with none | read
  · obtain ⟨rfl, some⟩ := needed_eq_none_iff.mp reads
    rw [answering_refused here]
    intro accepts
    exact some (Nat.le_zero.mp accepts.inputsHeld)
  rcases writes : needed outputs (batch.toNat * circuit.header.outputBytes) with none | written
  · obtain ⟨rfl, some⟩ := needed_eq_none_iff.mp writes
    rw [answering_refused here]
    intro accepts
    exact some (Nat.le_zero.mp accepts.outputsHeld)
  obtain rfl := eq_take_of_needed reads
  obtain rfl := eq_take_of_needed writes
  have whole := circuit.runToFile_take (inputs.getD []) (outputs.getD []) path batch.toNat
    host.generator host.tree
  rw [whole]
  -- The bytes behind the batch are put back either way.
  have behind : ∀ front, overwrite outputs front =
      outputs.map fun _ => front ++ (outputs.getD []).drop front.length := by
    intro front
    cases outputs <;> rfl
  simp only [behind]
  rfl

end Run

section Calls

variable {host : Host} {reservation : Reservation}

/-- A call on a host answers and does what the direct call does. -/
theorem perform_eq {call : HostCall} (within : call.Within host.circuits.size) :
    Prod.map id caller (host.perform reservation call) = host.caller.perform reservation call := by
  cases call with
  | setSeed seed => rfl
  | release handle =>
    refine Prod.ext rfl ?_
    have released := circuit?_release host handle
    exact congrArg (fun circuits => Caller.mk circuits host.generator host.tree) released
  | load handle path =>
    have loaded : host.load? reservation path = path.bind fun name =>
        (Circuit.load .sixtyFour reservation name (host.tree.openFile name)).toOption := by
      cases path <;> rfl
    rw [perform, load, loaded]
    refine Prod.ext rfl ?_
    have placed := circuit?_place within (path.bind fun name =>
      (Circuit.load .sixtyFour reservation name (host.tree.openFile name)).toOption)
    exact congrArg (fun circuits => Caller.mk circuits host.generator host.tree) placed
  | run handle inputs outputs path batch =>
    rcases here : host.circuit? handle with none | circuit
    · rw [perform, Caller.perform, caller_circuits, here, run, here]
      rfl
    · rw [perform, run_eq here, Caller.perform, caller_circuits, here]
      simp only
      by_cases negative : batch < 0
      · have refuses : ¬circuit.Accepts (inputs.getD []) (outputs.getD []) batch.toNat := by
          intro accepts
          have nonempty := accepts.nonempty
          omega
        rw [answering_refused here refuses, if_pos negative]
        rfl
      · rw [if_neg negative, caller_generator, caller_tree]
        generalize circuit.runToFile (inputs.getD []) (outputs.getD []) path batch.toNat
          host.generator host.tree = filed
        refine Prod.ext rfl ?_
        have placed := circuit?_place (inside_of_circuit? here) (some filed.outcome.circuit)
        exact congrArg (fun circuits => Caller.mk circuits filed.outcome.generator filed.tree)
          placed

@[simp] theorem size_place (host : Host) (handle : Nat) (placed : Option (Circuit .sixtyFour)) :
    (host.place handle placed).circuits.size = host.circuits.size :=
  Array.size_setIfInBounds

/-- There are as many handles after a call as before. -/
theorem size_perform (host : Host) (call : HostCall) :
    (host.perform reservation call).2.circuits.size = host.circuits.size := by
  cases call with
  | setSeed seed => rfl
  | release handle => exact host.size_place handle none
  | load handle path => exact host.size_place handle _
  | run handle inputs outputs path batch =>
    rw [perform]
    rcases here : host.circuit? handle with none | circuit
    · rw [run, here]
    · rw [run_eq here]
      exact host.size_place handle _

theorem size_inSequence (host : Host) (calls : List HostCall) :
    (HostCall.inSequence (perform reservation) host calls).2.circuits.size =
      host.circuits.size := by
  induction calls generalizing host with
  | nil => rfl
  | cons call calls ih => exact (ih _).trans (size_perform host call)

/-- Any sequence of calls. -/
theorem inSequence_eq {calls : List HostCall}
    (within : ∀ call ∈ calls, call.Within host.circuits.size) :
    Prod.map id caller (HostCall.inSequence (perform reservation) host calls) =
      HostCall.inSequence (Caller.perform reservation) host.caller calls := by
  induction calls generalizing host with
  | nil => rfl
  | cons call calls ih =>
    have step : Prod.map id caller (host.perform reservation call) = _ :=
      perform_eq (within call (.head _))
    have withinLater : ∀ later ∈ calls,
        later.Within (host.perform reservation call).2.circuits.size := by
      intro later member
      rw [size_perform]
      exact within later (.tail _ member)
    rw [HostCall.inSequence, HostCall.inSequence, ← step]
    simp only [Prod.map_fst, Prod.map_snd, id, ← ih withinLater]
    rfl

/-- A run that is reported as refused, or whose trace file cannot be created, changes nothing. -/
theorem run_of_unstarted {handle : Nat} {inputs outputs : Option Bytes} {path : Option String}
    {batch : Int}
    (unstarted : Unstarted (host.run handle inputs outputs path batch).1.status) :
    host.run handle inputs outputs path batch =
      (⟨(host.run handle inputs outputs path batch).1.status, outputs⟩, host) := by
  rcases here : host.circuit? handle with none | circuit
  · rw [run, here]
  · rw [run_eq here] at unstarted ⊢
    rcases ran : (circuit.runToFile (inputs.getD []) (outputs.getD []) path batch.toNat
      host.generator host.tree).outcome.result with failure | ⟨⟩
    · rw [answering, ran] at unstarted
      rw [Circuit.runToFile_of_unstarted ran unstarted, answering_unchanged here]
    · rw [answering, ran] at unstarted
      rcases unstarted with same | same
      · cases same
      · cases same

theorem load?_eq_none_iff {path : Option String} :
    host.load? reservation path = none ↔ ∀ name, path = some name → ∃ failure,
      Circuit.load .sixtyFour reservation name (host.tree.openFile name) = .error failure := by
  cases path with
  | none => simp [load?]
  | some name =>
    rw [load?]
    rcases loaded : Circuit.load .sixtyFour reservation name (host.tree.openFile name) with
      failure | circuit
    · simp [Except.toOption, loaded]
    · simp [Except.toOption, loaded]

/-- A host does what direct calls do that share one generator. From the first seed on, any
sequence of calls gets the answers that it gets from a caller who uses the circuits directly, and
leaves the same circuits, the same generator and the same files. A run with the status of refused
arguments or of a trace file that cannot be created leaves its output buffer and the host as they
were, and loading gives no circuit exactly if there is no name or the circuit does not load. -/
theorem hosting_is_calling_directly (reservation : Reservation) (host : Host) (seed : UInt64)
    {calls : List HostCall} (within : ∀ call ∈ calls, call.Within host.circuits.size) :
    let served := HostCall.inSequence (perform reservation) host (.setSeed seed :: calls)
    let direct := HostCall.inSequence (Caller.perform reservation)
      ⟨host.circuit?, .ofSeed seed, host.tree⟩ calls
    let later := served.2
    served.1 = .done :: direct.1 ∧ later.caller = direct.2 ∧
      (∀ handle inputs outputs path batch,
        let ran := later.run handle inputs outputs path batch
        Unstarted ran.1.status → ran.1.outputs = outputs ∧ ran.2 = later) ∧
      ∀ handle < host.circuits.size, ∀ path,
        let loaded := later.load reservation handle path
        (loaded.1 = false ↔ ∀ name, path = some name → ∃ failure,
          Circuit.load .sixtyFour reservation name (later.tree.openFile name) = .error failure) ∧
        (loaded.1 = false ↔ loaded.2.circuit? handle = none) := by
  intro served direct later
  have same : Prod.map id caller (HostCall.inSequence (perform reservation) (host.setSeed seed)
      calls) = direct := inSequence_eq within
  refine ⟨?_, congrArg Prod.snd same, ?_, ?_⟩
  · exact congrArg (fun replies => .done :: replies) (congrArg Prod.fst same)
  · intro handle inputs outputs path batch ran unstarted
    have unchanged : ran = _ := run_of_unstarted unstarted
    rw [unchanged]
    exact ⟨rfl, rfl⟩
  · intro handle inside path loaded
    have answered : loaded.1 = false ↔ later.load? reservation path = none := by
      rw [← Option.isNone_iff_eq_none, ← Option.not_isSome, Bool.not_eq_eq_eq_not, Bool.not_true]
      rfl
    have handles : later.circuits.size = host.circuits.size :=
      size_inSequence host (.setSeed seed :: calls)
    rw [← handles] at inside
    have placed : loaded.2.circuit? handle = later.load? reservation path := by
      refine (congrFun (circuit?_place inside _) handle).trans ?_
      exact Function.update_self ..
    rw [answered, placed]
    exact ⟨load?_eq_none_iff, Iff.rfl⟩

theorem run_inverter (generator : Generator) :
    (Circuit.inverterLoaded .sixtyFour).run [128] [9, 5]
        (none : Option (StoredTrace .sixtyFour FileWriter)) 1 generator =
      ⟨.ok (), { Circuit.inverterLoaded .sixtyFour with ram := #[1, ~~~1] }, [0, 5], none,
        generator⟩ := by
  have accepts : (Circuit.inverterLoaded .sixtyFour).Accepts [128] [9, 5] 1 :=
    ⟨by decide, by decide, by decide, by decide⟩
  have packed : (Circuit.inverterLoaded .sixtyFour).packed [128] 1 = #[1, 0] := by decide
  have read : Ram.laneBits (#[1, ~~~1] : Ram .sixtyFour) [1] 0 = [false] := by decide
  have row : Bits.row 1 [false] = [0] := by
    rw [Bits.row, Bits.toBytes, List.drop_nil, Bits.toBytes_nil]
    decide
  have written : Ram.unpack (#[1, ~~~1] : Ram .sixtyFour) [1] [9, 5] 1 1 = [0, 5] := by
    rw [Ram.unpack_of_room _ (by decide), Ram.outputRows, List.range_one, List.map_singleton, read,
      row]
    rfl
  rw [(Circuit.sound_inverterLoaded .sixtyFour).run_of_keep accepts (Recorder.keep_none _),
    Circuit.computation_inverter, packed]
  exact congrArg (fun outputs => Outcome.mk _ _ outputs _ _) written

/-- Where a file has room for half a record only, the trace of the inverter stops its run. -/
theorem stopped_inverter (generator : Generator) :
    let tree := Campaign.inverterMachine.tree.standingOn (.limited 4 (.system .noSpace))
    let filed := (Circuit.inverterLoaded .sixtyFour).runToFile [128] [9, 5] (some "t") 1 generator
      tree
    filed.outcome.result = .error (.trace (.system .noSpace)) ∧ filed.outcome.outputs = [9, 5] := by
  intro tree filed
  have accepts : (Circuit.inverterLoaded .sixtyFour).Accepts [128] [9, 5] 1 :=
    ⟨by decide, by decide, by decide, by decide⟩
  have sound := Circuit.sound_inverterLoaded .sixtyFour
  have named : "t" ≠ "" := by decide
  have emptied : Campaign.inverterMachine.tree.createFile "t" =
      .ok (Campaign.inverterMachine.tree.insert ["w", "t"] (.file [])) := by
    rw [FileTree.createFile, Campaign.locate_inverterMachine]
    simp only [Campaign.entry?_inverterMachine, if_pos, FileTree.namesDirectory_t]
    rfl
  have stopped : filed.outcome.result = .error (.trace (.system .noSpace)) :=
    sound.runToFile_standingOn_result accepts named emptied generator _
  obtain ⟨made, -⟩ := FileTree.createFile_standingOn emptied
  have ran : filed = _ := sound.runToFile_eq accepts named made generator
  rw [ran] at stopped ⊢
  exact ⟨stopped, Circuit.outputs_of_run_error stopped⟩

section Inverter

variable (circuits : Nat → Option (Circuit .sixtyFour)) (number : Nat) (generator : Generator)

theorem perform_load_inverter (device : Device) :
    let tree := Campaign.inverterMachine.tree.standingOn device
    Caller.perform Reservation.standard ⟨circuits, generator, tree⟩ (.load number (some "t")) =
      (.loaded true, ⟨Function.update circuits number (some (Circuit.inverterLoaded .sixtyFour)),
        generator, tree⟩) := by
  intro tree
  have loads : (Circuit.load .sixtyFour Reservation.standard "t" (tree.openFile "t")).toOption =
      some (Circuit.inverterLoaded .sixtyFour) := by
    have opened : tree.openFile "t" = _ := FileTree.openFile_standingOn
    rw [opened, Campaign.load_inverterMachine]
    rfl
  rw [Caller.perform, Option.bind_some, loads]
  rfl

variable {circuits number}
variable (present : circuits number = some (Circuit.inverterLoaded .sixtyFour))

include present

theorem perform_run_inverter (tree : FileTree) :
    Caller.perform Reservation.standard ⟨circuits, generator, tree⟩
        (.run number (some [128]) (some [9, 5]) none 1) =
      (.ran ⟨0, some [0, 5]⟩, ⟨Function.update circuits number
        (some { Circuit.inverterLoaded .sixtyFour with ram := #[1, ~~~1] }), generator, tree⟩) := by
  have filed : (Circuit.inverterLoaded .sixtyFour).runToFile [128] [9, 5] none 1 generator tree =
      ⟨⟨.ok (), { Circuit.inverterLoaded .sixtyFour with ram := #[1, ~~~1] }, [0, 5], none,
        generator⟩, tree⟩ :=
    congrArg (fun outcome => FileOutcome.mk outcome tree) (run_inverter generator)
  rw [Caller.perform]
  simp only [present, Option.getD_some, Int.toNat_one, filed]
  rfl

/-- The generator and the files that a stopped run leaves are left open. -/
theorem perform_stopped_inverter :
    let tree := Campaign.inverterMachine.tree.standingOn (.limited 4 (.system .noSpace))
    ∃ later : Caller,
      Caller.perform Reservation.standard ⟨circuits, generator, tree⟩
          (.run number (some [128]) (some [9, 5]) (some "t") 1) =
        (.ran ⟨-2, some [9, 5]⟩, later) ∧
      ∀ other, other ≠ number → later.circuits other = circuits other := by
  intro tree
  obtain ⟨failed, outputs⟩ := stopped_inverter generator
  rw [Caller.perform]
  simp only [present, Option.getD_some, Int.toNat_one]
  refine ⟨_, Prod.ext (congrArg HostReply.ran ?_) rfl, ?_⟩
  · exact congrArg₂ HostAnswer.mk (congrArg statusOf failed) (congrArg some outputs)
  · intro other apart
    exact Function.update_of_ne apart _ _

end Inverter

/-- Loads and runs of the inverter: three are refused, and one is stopped by its trace. -/
theorem inverter_hosted :
    let host := start 3 0
      (Campaign.inverterMachine.tree.standingOn (.limited 4 (.system .noSpace)))
    let calls : List HostCall :=
      [.load 0 (some "t"), .load 1 (some "t"), .run 0 (some [128]) (some [9, 5]) none 1,
        .run 1 (some [128]) (some [9, 5]) (some "t") 1, .run 0 none (some [9]) none 1,
        .run 2 none none none 1, .run 0 (some [0]) (some [9]) none (-3), .release 0, .load 1 none]
    (∀ call ∈ calls, call.Within host.circuits.size) ∧
      (HostCall.inSequence (perform Reservation.standard) host (.setSeed 7 :: calls)).1 =
        [.done, .loaded true, .loaded true, .ran ⟨0, some [0, 5]⟩, .ran ⟨-2, some [9, 5]⟩,
          .ran ⟨-4, some [9]⟩, .ran ⟨-4, none⟩, .ran ⟨-4, some [9]⟩, .done, .loaded false] := by
  intro host calls
  have within : ∀ call ∈ calls, call.Within host.circuits.size := by
    simp [calls, host, start, HostCall.Within]
  obtain ⟨replies, -⟩ := hosting_is_calling_directly Reservation.standard host 7 within
  refine ⟨within, replies.trans ?_⟩
  have unused : host.circuit? = fun _ => none := circuit?_start 3 0 _
  let circuit := Circuit.inverterLoaded .sixtyFour
  let once : Nat → Option (Circuit .sixtyFour) := Function.update (fun _ => none) 0 (some circuit)
  let held := Function.update once 1 (some circuit)
  let used := Function.update held 0 (some { circuit with ram := #[1, ~~~1] })
  have loadedFirst : Caller.perform Reservation.standard ⟨host.circuit?, .ofSeed 7, host.tree⟩
      (.load 0 (some "t")) = (.loaded true, ⟨once, .ofSeed 7, host.tree⟩) := by
    rw [unused]
    exact perform_load_inverter _ 0 (.ofSeed 7) _
  have loadedSecond : Caller.perform Reservation.standard ⟨once, .ofSeed 7, host.tree⟩
      (.load 1 (some "t")) = (.loaded true, ⟨held, .ofSeed 7, host.tree⟩) :=
    perform_load_inverter once 1 (.ofSeed 7) _
  have ran : Caller.perform Reservation.standard ⟨held, .ofSeed 7, host.tree⟩
      (.run 0 (some [128]) (some [9, 5]) none 1) =
        (.ran ⟨0, some [0, 5]⟩, ⟨used, .ofSeed 7, host.tree⟩) :=
    perform_run_inverter (.ofSeed 7) rfl host.tree
  obtain ⟨later, stopped, others⟩ : ∃ later : Caller,
      Caller.perform Reservation.standard ⟨used, .ofSeed 7, host.tree⟩
          (.run 1 (some [128]) (some [9, 5]) (some "t") 1) = (.ran ⟨-2, some [9, 5]⟩, later) ∧
        ∀ other, other ≠ 1 → later.circuits other = used other :=
    perform_stopped_inverter (.ofSeed 7) rfl
  have first : later.circuits 0 = some { circuit with ram := #[1, ~~~1] } := others 0 (by decide)
  have short : Caller.perform Reservation.standard later (.run 0 none (some [9]) none 1) =
      (.ran ⟨-4, some [9]⟩, later) := by
    refine Caller.perform_of_not_accepts Reservation.standard first ?_ none
    exact fun accepts => absurd accepts.inputsHeld (by decide)
  have unloaded : Caller.perform Reservation.standard later (.run 2 none none none 1) =
      (.ran ⟨-4, none⟩, later) := by
    rw [Caller.perform, (others 2 (by decide)).trans rfl]
    rfl
  have negative : Caller.perform Reservation.standard later
      (.run 0 (some [0]) (some [9]) none (-3)) = (.ran ⟨-4, some [9]⟩, later) := by
    refine Caller.perform_of_not_accepts Reservation.standard first ?_ none
    exact fun accepts => absurd accepts.nonempty (by decide)
  simp only [calls, HostCall.inSequence, loadedFirst, loadedSecond, ran, stopped, short, unloaded,
    negative]
  rfl

end Calls

end Host

end Bitslice
