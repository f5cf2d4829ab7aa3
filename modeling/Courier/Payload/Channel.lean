import Courier.Bytes
import Courier.Poll

/-!
# Live streams

A live stream carries chunks from any number of writers to one reader. At most `capacity` chunks are
queued; further sends wait and are completed oldest first as the reader makes room. Every read
delivers bytes of one chunk, and the stream ends when all is read and no writer is left. An
unfinished send is a writer of its own. An empty chunk is never queued, so it cannot look like the
end of the stream, and sending it never waits.
-/

namespace Courier

/-- How a send ended. -/
inductive SendResult
  | sent
  /-- Nobody reads the stream any more. -/
  | closed
deriving DecidableEq, Repr

structure Channel where
  /-- Chunks that no read has begun, oldest first. -/
  queue : List Bytes := []
  /-- What is left of the chunk that a read has begun. -/
  current : Bytes := []
  /-- Whether the reader is still there. -/
  reading : Bool := true
  /-- For each writer ever made, whether it is still open. -/
  writers : List Bool := [true]
  /-- Unfinished sends with their numbers, oldest first. -/
  waiting : List (Nat × Bytes) := []
  /-- How many sends have been started: the number of the next one. -/
  started : Nat := 0
deriving DecidableEq, Repr

namespace Channel

/-- The most chunks that are queued. -/
def capacity : Nat := 8

def isOpen (ch : Channel) (writer : Nat) : Bool := ch.writers.getD writer false

/-- Whether nobody reads the stream any more. -/
def isClosed (ch : Channel) : Bool := !ch.reading

/-- Whether a chunk may still come. -/
def hasWriters (ch : Channel) : Bool := ch.writers.any id || !ch.waiting.isEmpty

/-- Starts a send on an open writer; it is completed by `settle`. -/
def send (ch : Channel) (chunk : Bytes) : Channel :=
  { ch with waiting := ch.waiting ++ [(ch.started, chunk)], started := ch.started + 1 }

/-- Moves waiting chunks into the queue, oldest first, while there is room. Returns the sends that
are completed, the queue, and the sends that go on waiting. -/
def enqueue (queue : List Bytes) :
    List (Nat × Bytes) → List Nat × List Bytes × List (Nat × Bytes)
  | [] => ([], queue, [])
  | (number, chunk) :: rest =>
    if chunk.isEmpty then
      let (done, queue, waiting) := enqueue queue rest
      (number :: done, queue, waiting)
    else if queue.length < capacity then
      let (done, queue, waiting) := enqueue (queue ++ [chunk]) rest
      (number :: done, queue, waiting)
    else
      let (done, queue, waiting) := enqueue queue rest
      (done, queue, (number, chunk) :: waiting)

/-- Completes the sends that can be completed: all of them once the reader is gone. -/
def settle (ch : Channel) : List (Nat × SendResult) × Channel :=
  if ch.reading then
    let (done, queue, waiting) := enqueue ch.queue ch.waiting
    (done.map (·, .sent), { ch with queue, waiting })
  else (ch.waiting.map (·.1, .closed), { ch with waiting := [] })

/-- Makes another writer, with the next index. -/
def addWriter (ch : Channel) : Channel := { ch with writers := ch.writers ++ [true] }

def closeWriter (ch : Channel) (writer : Nat) : Channel :=
  { ch with writers := ch.writers.set writer false }

/-- The reader goes away, and all that nobody has read with it. -/
def dropReader (ch : Channel) : Channel := { ch with reading := false, queue := [], current := [] }

/-- One read of at most `room` bytes. A read of no bytes at the end of the stream is ready. -/
def read (ch : Channel) (room : Nat) : Poll Bytes × Channel :=
  match ch.current, ch.queue with
  | [], [] => (if ch.hasWriters then .pending else .ready [], ch)
  | [], chunk :: queue =>
    (.ready (chunk.take room), { ch with queue, current := chunk.drop room })
  | current, _ => (.ready (current.take room), { ch with current := current.drop room })

/-- A stream as it is handed over, with whatever was sent before: it is read, and the first writer is the only one
that is left. -/
structure Offered (ch : Channel) : Prop where
  reading : ch.reading = true
  waiting : ch.waiting = []
  writers : ∃ others, ch.writers = true :: others ∧ others.any id = false
  queue : ∀ chunk ∈ ch.queue, chunk ≠ []

end Channel

end Courier
