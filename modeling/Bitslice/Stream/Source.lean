import Bitslice.Field
import Bitslice.Stream.Failure

/-!
# Byte sources

A source answers each request for bytes with a piece of what it holds, with
nothing at its end, with a failure, or with an interruption that asks for
another try. How it cuts its bytes into pieces is its own affair:
`ByteSource.fill` asks until it has what it wants.
-/

namespace Bitslice

/-- One step of what a source will answer. -/
inductive Delivery where
  /-- At least one byte; a request may take fewer and leave the rest. -/
  | piece (first : UInt8) (rest : Bytes)
  /-- No bytes this time. -/
  | interruption

/-- A stream to read from. -/
structure ByteSource where
  /-- What the source still has to answer, in order. -/
  deliveries : List Delivery
  /-- What every request meets after the deliveries: a failure, or the end if there is none. -/
  failure : Option IoFailure

/-- The answer to one request. -/
inductive Answer where
  /-- Some bytes; none at the end of the source. -/
  | bytes (read : Bytes)
  /-- The request is to be made again. -/
  | interrupted
  /-- The source is broken. -/
  | failed (cause : IoFailure)

/-- What became of an attempt to read a given number of bytes. -/
inductive Filled where
  /-- All of them. -/
  | complete (read : Bytes)
  /-- Fewer, because the source ended. -/
  | short (read : Bytes)
  /-- The source broke on the way. -/
  | failed (cause : IoFailure)

namespace ByteSource

/-- A source that holds `bytes` in one piece and then ends. -/
def ofBytes : Bytes → ByteSource
  | [] => ⟨[], none⟩
  | first :: rest => ⟨[.piece first rest], none⟩

/-- What the source would deliver if it were read to its end. -/
def contents (source : ByteSource) : Bytes :=
  source.deliveries.flatMap fun delivery =>
    match delivery with
    | .piece first rest => first :: rest
    | .interruption => []

/-- The bytes of a delivery, and one more for making the request. -/
def weight : Delivery → Nat
  | .piece _ rest => rest.length + 2
  | .interruption => 1

/-- The weight of several deliveries. -/
def totalWeight : List Delivery → Nat
  | [] => 0
  | delivery :: later => weight delivery + totalWeight later

/-- Bounds the number of requests that bring anything. -/
def size (source : ByteSource) : Nat :=
  totalWeight source.deliveries

/-- What is left of a piece after a request, in front of the later deliveries. -/
def putBack (left : Bytes) (later : List Delivery) : List Delivery :=
  match left with
  | [] => later
  | first :: rest => .piece first rest :: later

/-- Asks once for at most `count` bytes. -/
def read (count : Nat) (source : ByteSource) : Answer × ByteSource :=
  match source.deliveries with
  | [] =>
    match source.failure with
    | none => (.bytes [], source)
    | some cause => (.failed cause, source)
  | .interruption :: later => (.interrupted, { source with deliveries := later })
  | .piece first rest :: later =>
    let piece := first :: rest
    (.bytes (piece.take count),
      { source with deliveries := putBack (piece.drop count) later })

/-- Putting bytes back makes no delivery heavier than it was. -/
theorem weight_putBack_le (first : UInt8) (rest : Bytes) (count : Nat) (later : List Delivery) :
    totalWeight (putBack ((first :: rest).drop count) later)
      ≤ weight (.piece first rest) + totalWeight later := by
  have shorter : ((first :: rest).drop count).length ≤ rest.length + 1 := by simp
  cases left : (first :: rest).drop count with
  | nil => simp [putBack]
  | cons next others =>
    rw [left] at shorter
    simp only [putBack, totalWeight, weight]
    simp only [List.length_cons] at shorter
    omega

/-- A request that takes a byte leaves a lighter piece. -/
theorem weight_putBack_lt (first : UInt8) (rest : Bytes) (count : Nat) (later : List Delivery) :
    totalWeight (putBack ((first :: rest).drop (count + 1)) later)
      < weight (.piece first rest) + totalWeight later := by
  have shorter : (rest.drop count).length ≤ rest.length := by simp
  rw [List.drop_succ_cons]
  cases left : rest.drop count with
  | nil => simp [putBack, weight]
  | cons next others =>
    rw [left] at shorter
    simp only [putBack, totalWeight, weight]
    simp only [List.length_cons] at shorter
    omega

/-- No request makes a source larger. -/
theorem size_of_read {count : Nat} {source later : ByteSource} {answer : Answer}
    (answered : source.read count = (answer, later)) : later.size ≤ source.size := by
  unfold read at answered
  split at answered
  · split at answered <;> (obtain rfl := (Prod.mk.inj answered).2; exact Nat.le_refl _)
  · next deliveries same =>
    obtain rfl := (Prod.mk.inj answered).2
    simp [size, same, totalWeight]
  · next first rest deliveries same =>
    obtain rfl := (Prod.mk.inj answered).2
    simpa [size, same, totalWeight] using weight_putBack_le first rest count deliveries

/-- An interruption uses up a delivery. -/
theorem size_of_read_interrupted {count : Nat} {source later : ByteSource}
    (answered : source.read count = (.interrupted, later)) : later.size < source.size := by
  unfold read at answered
  split at answered
  · split at answered <;> cases answered
  · next deliveries same =>
    obtain rfl := (Prod.mk.inj answered).2
    simp [size, same, totalWeight, weight]
  · cases answered

/-- A request that brings bytes leaves less to deliver. -/
theorem size_of_read_bytes {count : Nat} {source later : ByteSource} {bytes : Bytes}
    (answered : source.read (count + 1) = (.bytes bytes, later)) (nonempty : bytes ≠ []) :
    later.size < source.size := by
  unfold read at answered
  split at answered
  · split at answered
    · obtain ⟨rfl, _⟩ := Prod.mk.inj answered |>.imp Answer.bytes.inj id
      exact absurd rfl nonempty
    · cases answered
  · cases answered
  · next first rest deliveries same =>
    obtain rfl := (Prod.mk.inj answered).2
    simpa [size, same, totalWeight] using weight_putBack_lt first rest count deliveries

/-- Asks until `count` more bytes have been added to those collected. -/
def fillFrom (collected : Array UInt8) (count : Nat) (source : ByteSource) : Filled × ByteSource :=
  match count with
  | 0 => (.complete collected.toList, source)
  | count + 1 =>
    match answered : source.read (count + 1) with
    | (.interrupted, later) => fillFrom collected (count + 1) later
    | (.failed cause, later) => (.failed cause, later)
    | (.bytes bytes, later) =>
      if nonempty : bytes = [] then (.short collected.toList, later)
      else fillFrom (collected ++ bytes) (count + 1 - bytes.length) later
termination_by source.size
decreasing_by
  · exact size_of_read_interrupted answered
  · exact size_of_read_bytes answered nonempty

/-- Filling never makes a source larger. -/
theorem size_of_fillFrom {collected : Array UInt8} {count : Nat} {source later : ByteSource}
    {filled : Filled} (answered : source.fillFrom collected count = (filled, later)) :
    later.size ≤ source.size := by
  fun_induction fillFrom collected count source with
  | case1 =>
    obtain rfl := (Prod.mk.inj answered).2
    exact Nat.le_refl _
  | case2 collected source count next interrupted ih =>
    exact Nat.le_trans (ih answered) (Nat.le_of_lt (size_of_read_interrupted interrupted))
  | case3 collected source count cause next failed =>
    obtain rfl := (Prod.mk.inj answered).2
    exact size_of_read failed
  | case4 collected source count next ended =>
    obtain rfl := (Prod.mk.inj answered).2
    exact size_of_read ended
  | case5 collected source count bytes next read nonempty ih =>
    exact Nat.le_trans (ih answered) (Nat.le_of_lt (size_of_read_bytes read nonempty))

/-- Reads exactly `count` bytes, however many requests that takes. Nothing is requested for none. -/
def fill (count : Nat) (source : ByteSource) : Filled × ByteSource :=
  fillFrom #[] count source

/-- A source that has delivered all of some bytes has less left. -/
theorem size_of_fill_complete {count : Nat} {source later : ByteSource} {bytes : Bytes}
    (answered : source.fill (count + 1) = (.complete bytes, later)) :
    later.size < source.size := by
  unfold fill fillFrom at answered
  split at answered
  · next next interrupted =>
    exact Nat.lt_of_le_of_lt (size_of_fillFrom answered) (size_of_read_interrupted interrupted)
  · cases answered
  · next bytes next read =>
    split at answered
    · cases answered
    · next nonempty =>
      exact Nat.lt_of_le_of_lt (size_of_fillFrom answered) (size_of_read_bytes read nonempty)

end ByteSource

end Bitslice
