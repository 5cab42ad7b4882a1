import Fabricate.Csv.Printer
import Fabricate.Failure

/-!
# Writing into a sink

A sink takes the bytes it is offered piece by piece and may be too small for all of them. What it
takes is counted, and `writeAll` offers what is left until nothing is left or the sink takes no
more, so what a sink holds is always the beginning of what was to be written.

A table is not handed over at once: its bytes are collected, and every full buffer is a block that
is written as a whole before the next one.
-/

namespace Fabricate.Csv

/-- A sink that takes at most `chunk` bytes at once and, where it has a capacity, no more than that
in all. -/
structure Sink where
  chunk : Nat
  capacity : Option Nat
  held : Array UInt8

/-- Why a sink takes nothing. -/
inductive SinkError where
  /-- There is no room in it for another byte. -/
  | full
  deriving DecidableEq

/-- What is said of a sink that takes nothing. -/
def SinkError.message : SinkError → String
  | full => "writer is full"

/-- The number of bytes that a sink takes of those offered. -/
def Sink.accepts (s : Sink) (offered : Nat) : Nat :=
  match s.capacity with
  | none => min s.chunk offered
  | some capacity => min (min s.chunk offered) (capacity - s.held.size)

/-- A sink and the number of bytes that it took. -/
structure Counter where
  sink : Sink
  count : Nat

namespace Counter

/-- A sink of which nothing is counted yet. -/
def start (s : Sink) : Counter :=
  ⟨s, 0⟩

/-- The sink holds the bytes behind the others, and they are counted. -/
def took (c : Counter) (bytes : List UInt8) : Counter :=
  ⟨{ c.sink with held := c.sink.held ++ bytes }, c.count + bytes.length⟩

/-- Offers bytes until the sink has taken them all or takes no more. -/
def writeAll (c : Counter) (bytes : List UInt8) : Option SinkError × Counter :=
  if _done : bytes.length = 0 then (none, c)
  else if _full : c.sink.accepts bytes.length = 0 then (some .full, c)
  else
    let taken := c.sink.accepts bytes.length
    (c.took (bytes.take taken)).writeAll (bytes.drop taken)
termination_by bytes.length
decreasing_by simp only [List.length_drop]; omega

/-- Writes blocks one after the other, up to the first that does not fit. -/
def writeBlocks (c : Counter) : List (List UInt8) → Option SinkError × Counter
  | [] => (none, c)
  | block :: blocks =>
      match c.writeAll block with
      | (none, c) => c.writeBlocks blocks
      | (some e, c) => (some e, c)

end Counter

/-- The number of bytes that are collected before they are written. -/
def bufferSize : Nat := 8192

/-- The full buffers that bytes give one after the other, and what is left at the end. -/
def buffers (size : Nat) (bytes : List UInt8) : List (List UInt8) :=
  if _last : size = 0 ∨ bytes.length ≤ size then [bytes]
  else bytes.take size :: buffers size (bytes.drop size)
termination_by bytes.length
decreasing_by simp only [List.length_drop]; omega

/-- Writes blocks into a sink; the number of bytes that it took, and the sink. -/
def deliver (blocks : List (List UInt8)) (sink : Sink) : Except Failure Nat × Sink :=
  match (Counter.start sink).writeBlocks blocks with
  | (none, c) => (.ok c.count, c.sink)
  | (some e, c) => (.error (.csv e.message), c.sink)

/-- Writes the table of some documents into a sink; the number of bytes written, and the sink. -/
def write (documents : List Json.Value) (sink : Sink) : Except Failure Nat × Sink :=
  deliver (buffers bufferSize (ofDocuments documents).toUTF8.toList) sink

end Fabricate.Csv
