import Courier.Sink

/-!
# A sink that records

The recorder keeps what is written to it together with the calls that were made. It is never slow,
and fails where it is told to. A call that fails leaves nothing behind but its count.
-/

namespace Courier

structure Recorder where
  /-- The most bytes that one write accepts. -/
  cap : Option Nat := none
  /-- The write that fails, counted from one, and its fault. -/
  failWrite : Option (Nat × Fault) := none
  /-- The flush that fails, counted from one, and its fault. -/
  failFlush : Option (Nat × Fault) := none
  failHead : Option Fault := none
  /-- What every failure is said to come from. -/
  diagnosis : Option Fault := none
  headers : Headers := []
  head : Option (Status × Framing) := none
  headCalls : Nat := 0
  /-- What the writes accepted, latest first. -/
  accepted : List Bytes := []
  /-- How many bytes were accepted. -/
  size : Nat := 0
  writeCalls : Nat := 0
  flushCalls : Nat := 0
  /-- The size at each flush that did not fail, latest first. -/
  flushes : List Nat := []
deriving DecidableEq, Repr

namespace Recorder

/-- The bytes of the body, in order. -/
def body (r : Recorder) : Bytes := r.accepted.reverse.flatten

/-- The sizes of the accepted pieces, in order. -/
def writes (r : Recorder) : List Nat := r.accepted.reverse.map List.length

def flushedAt (r : Recorder) : List Nat := r.flushes.reverse

/-- The fault of the call with this number, if it is the one that fails. -/
def failing (plan : Option (Nat × Fault)) (call : Nat) : Option Fault :=
  (plan.filter (·.1 = call)).map (·.2)

def writeHead (r : Recorder) (status : Status) (framing : Framing) : Except Fault Unit × Recorder :=
  let r := { r with headCalls := r.headCalls + 1 }
  match r.failHead with
  | some fault => (.error fault, r)
  | none => (.ok (), { r with head := some (status, framing) })

def write (r : Recorder) (bytes : Bytes) : Poll (Except Fault Nat) × Recorder :=
  let r := { r with writeCalls := r.writeCalls + 1 }
  match failing r.failWrite r.writeCalls with
  | some fault => (.ready (.error fault), r)
  | none =>
    let piece := match r.cap with
      | some cap => bytes.take cap
      | none => bytes
    (.ready (.ok piece.length),
      { r with accepted := piece :: r.accepted, size := r.size + piece.length })

def flush (r : Recorder) : Poll (Except Fault Unit) × Recorder :=
  let r := { r with flushCalls := r.flushCalls + 1 }
  match failing r.failFlush r.flushCalls with
  | some fault => (.ready (.error fault), r)
  | none => (.ready (.ok ()), { r with flushes := r.size :: r.flushes })

instance : ResponseSink Recorder where
  headers := Recorder.headers
  setHeaders r headers := { r with headers }
  writeHead := writeHead
  write := write
  flush := flush
  diagnose r fault := .ready (r.diagnosis.getD fault)
  close r := r

end Recorder

end Courier
