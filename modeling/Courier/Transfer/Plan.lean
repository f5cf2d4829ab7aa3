import Courier.Transfer.Schedule
import Courier.Transfer.Supply

/-!
# The plan of a copy

What a copier asks of its sink is settled by the units of its body and the cap of the sink, before any call is
made: the pieces of each unit, the flushes, and the fault with which the reads end, if they do. A recorder
follows such a plan up to the first act that it refuses.
-/

namespace Courier

/-- What a copier does, apart from reads and from what it has to do again. -/
inductive Act
  /-- Hands a piece to the sink. -/
  | write (piece : Bytes)
  /-- Counts a unit that was written out. -/
  | count (size : Nat)
  | flush
  /-- Gives up, because a read failed for good. -/
  | lose (fault : Fault)
deriving DecidableEq, Repr

namespace Act

/-- The bytes that the sink gets. -/
def bytes : Act → Bytes
  | write piece => piece
  | count _ | flush | lose _ => []

def counted : Act → Nat
  | count size => size
  | write _ | flush | lose _ => 0

/-- The bytes that are counted by all of them. -/
def total : List Act → Nat
  | [] => 0
  | act :: acts => act.counted + total acts

def isWrite : Act → Bool
  | write _ => true
  | count _ | flush | lose _ => false

/-- The sizes at which a sink of this size is flushed. -/
def flushes (size : Nat) : List Act → List Nat
  | [] => []
  | flush :: acts => size :: flushes size acts
  | act :: acts => flushes (size + act.bytes.length) acts

end Act

/-- The writes of a unit, on a sink that accepts so many bytes at a time. -/
def Bytes.writes (cap : Option Nat) (unit : Bytes) : List Act :=
  (unit.pieces (cap.getD unit.length)).map .write

namespace Discipline

/-- What follows the writes of a unit. -/
def behind (discipline : Discipline) (size : Nat) : List Act :=
  .count size :: if discipline = .chunked then [.flush] else []

/-- The acts of a copier whose reads yield these units and then fail or come to the end. -/
def plan (discipline : Discipline) (cap : Option Nat) (units : List Bytes) (fault? : Option Fault) : List Act :=
  units.flatMap (fun unit => unit.writes cap ++ discipline.behind unit.length) ++ [fault?.elim .flush .lose]

end Discipline

namespace Recorder

/-- The recorder after a write that did not fail. -/
def land (r : Recorder) (piece : Bytes) : Except Fault Unit × Recorder :=
  (if piece = [] then .error Copier.stuck else .ok (),
    { r with
      writeCalls := r.writeCalls + 1
      accepted := piece :: r.accepted
      size := r.size + piece.length })

/-- Writes a piece that fits, and once more if the first write is one that is made again. -/
def put (r : Recorder) (piece : Bytes) : Except Fault Unit × Recorder :=
  match failing r.failWrite (r.writeCalls + 1) with
  | none => r.land piece
  | some fault =>
    let r := { r with writeCalls := r.writeCalls + 1 }
    if Copier.rewrites fault then r.land piece else (.error fault, r)

def perform (r : Recorder) : Act → Except Fault Unit × Recorder
  | .write piece => r.put piece
  | .count _ => (.ok (), r)
  | .flush =>
    match failing r.failFlush (r.flushCalls + 1) with
    | none => (.ok (), { r with flushCalls := r.flushCalls + 1, flushes := r.size :: r.flushes })
    | some fault => (.error fault, { r with flushCalls := r.flushCalls + 1 })
  | .lose fault => (.error fault, r)

/-- Performs the acts in order until one fails. The result is that of a copy which had counted so many bytes
before. -/
def follow (r : Recorder) (written : Nat) : List Act → Except (Nat × Fault) Nat × Recorder
  | [] => (.ok written, r)
  | act :: acts =>
    match r.perform act with
    | (.error fault, r) => (.error (written, fault), r)
    | (.ok (), r) => r.follow (written + act.counted) acts

/-- The fault that ends a copy in this write, if the write fails and is not made again. -/
def ending? (plan : Option (Nat × Fault)) (call : Nat) : Option Fault :=
  (failing plan call).filter (!Copier.rewrites ·)

/-- The fault of an act behind those that were performed. A write that is made again has failed nothing. -/
def refusal? (r : Recorder) (performed : List Act) : Act → Option Fault
  | .write piece =>
    (ending? r.failWrite (r.writeCalls + performed.countP Act.isWrite + 1)).or
      (if piece = [] then some Copier.stuck else none)
  | .count _ => none
  | .flush => failing r.failFlush (r.flushCalls + performed.count .flush + 1)
  | .lose fault => some fault

end Recorder

/-- A step of a reader that a copy does not notice: it is not ready once, or interrupted once. -/
def ReadStep.isIdle : ReadStep → Bool
  | .notReady => true
  | .fail fault => fault.isInterrupted
  | .data _ | .stop => false

end Courier
