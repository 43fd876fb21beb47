import Bitslice.Execution
import Bitslice.Proofs.Packing
import Bitslice.Proofs.Records

/-!
# What gates compute

Gates that stay inside the memory compute registers without any failure, and
`Gate.compute` lists these registers apart from the recorder that receives them.
`Circuit.applyGates_of_keep` puts the two together again. Each lane of a
computation is the evaluation of the same gates for a single instance.
-/

namespace Bitslice

variable {lanes : Lanes}

namespace Generator

/-- The register that a draw gives; the first draw has number zero. -/
def drawn (lanes : Lanes) (generator : Generator) (number : Nat) : Register lanes :=
  ((generator.drawMany lanes number).2.draw lanes).1

/-- The generator once some registers have been drawn. -/
def after (lanes : Lanes) (generator : Generator) (draws : Nat) : Generator :=
  (generator.drawMany lanes draws).2

/-- The draws that are still to come keep their order. -/
theorem drawn_after (lanes : Lanes) (generator : Generator) (draws number : Nat) :
    (generator.after lanes draws).drawn lanes number =
      generator.drawn lanes (draws + number) := by
  induction draws generalizing generator with
  | zero => rw [Nat.zero_add]; rfl
  | succ draws ih =>
    rw [Nat.succ_add]
    exact ih (generator.draw lanes).2

end Generator

namespace Recorder

variable {R : Type} [Recorder lanes R]

/-- Hands over registers in order, up to the first that is not taken. -/
def feed (recorder : R) : List (Register lanes) → Except IoFailure Unit × R
  | [] => (.ok (), recorder)
  | register :: later =>
    match record recorder register with
    | (.error cause, recorder) => (.error cause, recorder)
    | (.ok (), recorder) => feed recorder later

/-- Hands over a whole trace and tells the recorder that it is complete. -/
def keep (recorder : R) (trace : List (Register lanes)) : Except IoFailure Unit × R :=
  match feed recorder trace with
  | (.error cause, recorder) => (.error cause, recorder)
  | (.ok (), recorder) => finish recorder

theorem keep_nil (recorder : R) : keep recorder [] = finish recorder := rfl

theorem keep_cons_of_ok {recorder next : R} {register : Register lanes}
    (taken : record recorder register = (.ok (), next)) (later : List (Register lanes)) :
    keep recorder (register :: later) = keep next later := by
  rw [keep, feed, taken]
  rfl

theorem keep_cons_of_error {recorder next : R} {register : Register lanes} {cause : IoFailure}
    (refused : record recorder register = (.error cause, next)) (later : List (Register lanes)) :
    keep recorder (register :: later) = (.error cause, next) := by
  rw [keep, feed, refused]

/-- The recorder never fails, whatever it is given. -/
def Reliable (recorder : R) : Prop :=
  ∀ trace : List (Register lanes), (keep recorder trace).1 = .ok ()

theorem keep_none (trace : List (Register lanes)) :
    keep (none : Option R) trace = (.ok (), none) := by
  have fed : feed (none : Option R) trace = (.ok (), none) := by
    induction trace with
    | nil => rfl
    | cons register later ih => exact ih
  rw [keep, fed]
  rfl

/-- Whoever keeps nothing never fails. -/
theorem reliable_none : Reliable (none : Option R) := by
  intro trace
  rw [keep_none]

theorem feed_traceList (recorder : TraceList lanes) (trace : List (Register lanes)) :
    feed recorder trace = (.ok (), ⟨recorder.records ++ trace⟩) := by
  induction trace generalizing recorder with
  | nil => simp [feed]
  | cons register later ih =>
    have taken : record recorder register = (.ok (), ⟨recorder.records.push register⟩) := rfl
    rw [feed, taken]
    simp [ih]

/-- A trace that is kept in memory never fails. -/
theorem reliable_traceList (recorder : TraceList lanes) : Reliable recorder := by
  intro trace
  rw [keep, feed_traceList]
  rfl

end Recorder

/-- The registers that gates write, in order, and what is left behind. -/
structure Computation (lanes : Lanes) where
  /-- The registers written. -/
  trace : List (Register lanes)
  /-- The memory afterwards. -/
  ram : Ram lanes
  /-- The generator afterwards. -/
  generator : Generator

/-- One lane of a computation. -/
def Computation.lane (computation : Computation lanes) (index : Nat) : Evaluation :=
  ⟨computation.ram.laneCells index, computation.trace.map (·.lane index)⟩

namespace Gate

/-- The gate stays inside a memory of so many cells. -/
def Inside (gate : Gate) (cells : Nat) : Prop :=
  ∀ address ∈ gate.addresses, address.toNat < cells

/-- The register that a gate inside the memory writes, and the generator after it. -/
def value (gate : Gate) (ram : Ram lanes) (generator : Generator) : Register lanes × Generator :=
  match gate.operator with
  | .xor => (ram.cell gate.first ^^^ ram.cell gate.second, generator)
  | .and => (ram.cell gate.first &&& ram.cell gate.second, generator)
  | .or => (ram.cell gate.first ||| ram.cell gate.second, generator)
  | .not => (~~~ram.cell gate.first, generator)
  | .random => generator.draw lanes

/-- Runs gates in order, collecting the registers that they write. -/
def compute (ram : Ram lanes) (generator : Generator) : List Gate → Computation lanes
  | [] => ⟨[], ram, generator⟩
  | gate :: later =>
    let written := gate.value ram generator
    let rest := compute (ram.write gate.destination written.1) written.2 later
    ⟨written.1 :: rest.trace, rest.ram, rest.generator⟩

variable {ram : Ram lanes} {generator : Generator}

theorem load_eq_ok {address : UInt64} (inside : address.toNat < ram.size) :
    load ram address = .ok (ram.cell address) := by
  have found : ram[address.toNat]? = some (ram.cell address) := by
    rw [Ram.cell, Array.getElem?_eq_getElem inside]
    simp [inside]
  rw [load, found]

/-- A gate inside the memory never fails. -/
theorem evaluate_eq_ok {gate : Gate} (inside : gate.Inside ram.size) :
    gate.evaluate ram generator = .ok (gate.value ram generator) := by
  obtain ⟨operator, first, second, destination⟩ := gate
  have written : destination.toNat < ram.size := by
    apply inside
    simp [addresses]
  rw [evaluate, load_eq_ok written]
  cases operator with
  | random => rfl
  | not =>
    have read : first.toNat < ram.size := inside first (.head _)
    simp only [bind, Except.bind, load_eq_ok read]
    rfl
  | xor | and | or =>
    have readFirst : first.toNat < ram.size := inside first (.head _)
    have readSecond : second.toNat < ram.size := inside second (.tail _ (.head _))
    simp only [bind, Except.bind, load_eq_ok readFirst, load_eq_ok readSecond]
    rfl

/-- Operators act on each lane alone. -/
theorem lane_value (gate : Gate) (index : Nat) :
    (gate.value ram generator).1.lane index =
      gate.bit (ram.laneCells index) ((generator.drawn lanes 0).lane index) := by
  obtain ⟨operator, first, second, destination⟩ := gate
  cases operator with
  | xor => exact Register.lane_xor _ _ index
  | and => exact Register.lane_and _ _ index
  | or => exact Register.lane_or _ _ index
  | not => exact Register.lane_not _ index
  | random => rfl

/-- Only a random gate uses up a draw. -/
theorem drawn_value (gate : Gate) (number : Nat) :
    (gate.value ram generator).2.drawn lanes number =
      generator.drawn lanes (gate.drawnAfter number) := by
  obtain ⟨operator, first, second, destination⟩ := gate
  cases operator <;> rfl

@[simp] theorem size_compute (gates : List Gate) :
    (compute ram generator gates).ram.size = ram.size := by
  induction gates generalizing ram generator with
  | nil => rfl
  | cons gate gates ih =>
    rw [compute]
    simp only
    rw [ih, Ram.size_write]

@[simp] theorem length_compute (gates : List Gate) :
    (compute ram generator gates).trace.length = gates.length := by
  induction gates generalizing ram generator with
  | nil => rfl
  | cons gate gates ih =>
    rw [compute]
    simp only
    rw [List.length_cons, ih, List.length_cons]

/-- The number of registers that gates draw. -/
def draws (gates : List Gate) : Nat :=
  gates.countP fun gate => gate.operator = .random

theorem draws_cons (gate : Gate) (gates : List Gate) :
    draws (gate :: gates) = gate.drawnAfter (draws gates) := by
  rw [draws, List.countP_cons, drawnAfter, draws]
  by_cases random : gate.operator = .random
  · rw [if_pos random, if_pos (decide_eq_true random)]
  · rw [if_neg random, if_neg (by simpa using random)]
    rfl

/-- Gates leave the generator behind their draws. -/
theorem generator_compute (gates : List Gate) :
    (compute ram generator gates).generator = generator.after lanes (draws gates) := by
  induction gates generalizing ram generator with
  | nil => rfl
  | cons gate gates ih =>
    rw [compute]
    simp only
    rw [ih, draws_cons]
    obtain ⟨operator, first, second, destination⟩ := gate
    cases operator <;> rfl

theorem drawnAfter_add (gate : Gate) (drawn number : Nat) :
    gate.drawnAfter drawn + number = drawn + gate.drawnAfter number := by
  unfold drawnAfter
  split <;> omega

/-- One lane of a computation is the evaluation for that lane alone. The induction is on the gates;
the random bits still to come stay those of the draws still to come. -/
theorem lane_compute {gates : List Gate} (inside : ∀ gate ∈ gates, gate.Inside ram.size)
    (index : Nat) {fresh : Nat → Bool} {drawn : Nat}
    (agree : ∀ number, fresh (drawn + number) = (generator.drawn lanes number).lane index) :
    (compute ram generator gates).lane index =
      evaluateBits fresh drawn (ram.laneCells index) gates := by
  induction gates generalizing ram generator drawn with
  | nil => rfl
  | cons gate gates ih =>
    have written : gate.destination.toNat < ram.size := by
      apply inside gate (.head _)
      simp [addresses]
    have laterInside : ∀ later ∈ gates, later.Inside
        (ram.write gate.destination (gate.value ram generator).1).size := by
      intro later member
      rw [Ram.size_write]
      exact inside later (.tail _ member)
    have laterAgree : ∀ number, fresh (gate.drawnAfter drawn + number) =
        ((gate.value ram generator).2.drawn lanes number).lane index := by
      intro number
      rw [drawn_value, drawnAfter_add]
      exact agree _
    have bit : (gate.value ram generator).1.lane index =
        gate.bit (ram.laneCells index) (fresh drawn) := by
      rw [lane_value, ← agree 0]
      rfl
    have rest := ih laterInside laterAgree
    rw [Ram.laneCells_write written, bit] at rest
    rw [evaluateBits, ← rest, ← bit]
    rfl

end Gate

namespace Circuit

variable {R : Type} [Recorder lanes R] {ram : Ram lanes} {generator : Generator}

/-- With a recorder that takes the whole trace, applying gates is computing them. -/
theorem applyGates_of_keep {gates : List Gate} (inside : ∀ gate ∈ gates, gate.Inside ram.size)
    {recorder kept : R}
    (keeps : Recorder.keep recorder (Gate.compute ram generator gates).trace = (.ok (), kept)) :
    applyGates ram recorder generator (gates.map .ok) =
      (.ok (), ⟨(Gate.compute ram generator gates).ram, kept,
        (Gate.compute ram generator gates).generator⟩) := by
  induction gates generalizing ram generator recorder with
  | nil =>
    rw [Gate.compute, Recorder.keep_nil] at keeps
    rw [List.map_nil, applyGates, keeps]
    rfl
  | cons gate gates ih =>
    have evaluated : gate.evaluate ram generator = .ok (gate.value ram generator) :=
      Gate.evaluate_eq_ok (inside gate (.head _))
    rw [List.map_cons, applyGates, evaluated]
    rw [Gate.compute] at keeps
    simp only at keeps ⊢
    match taken : Recorder.record recorder (gate.value ram generator).1 with
    | (.error cause, next) =>
      rw [Recorder.keep_cons_of_error taken] at keeps
      cases (Prod.mk.inj keeps).1
    | (.ok (), next) =>
      rw [Recorder.keep_cons_of_ok taken] at keeps
      refine ih ?_ keeps
      intro later member
      rw [Ram.size_write]
      exact inside later (.tail _ member)

end Circuit

end Bitslice
