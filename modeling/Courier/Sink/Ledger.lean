import Courier.Sink

/-!
# A sink with a ledger

A ledger keeps the calls that a writer makes on a sink, with their arguments and answers, and leaves all else
to the sink. An attempt that has to be made again is not a call yet.
-/

namespace Courier

inductive SinkCall
  | head (status : Status) (framing : Framing) (answer : Except Fault Unit)
  | write (bytes : Bytes) (answer : Except Fault Nat)
  | flush (answer : Except Fault Unit)

/-- What the sink has accepted in a call. -/
def SinkCall.accepted : SinkCall → Bytes
  | write bytes (.ok n) => bytes.take n
  | _ => []

structure Ledger (σ : Type) where
  sink : σ
  /-- The calls, in order. -/
  calls : List SinkCall := []

namespace Ledger

variable {σ : Type}

/-- Keeps a call that has left the sink like this. -/
def enter (l : Ledger σ) (sink : σ) (call : SinkCall) : Ledger σ := { sink, calls := l.calls ++ [call] }

variable [ResponseSink σ]

def writeHead (l : Ledger σ) (status : Status) (framing : Framing) : Except Fault Unit × Ledger σ :=
  let (answer, sink) := ResponseSink.writeHead l.sink status framing
  (answer, l.enter sink (.head status framing answer))

def write (l : Ledger σ) (bytes : Bytes) : Poll (Except Fault Nat) × Ledger σ :=
  match ResponseSink.write l.sink bytes with
  | (.ready answer, sink) => (.ready answer, l.enter sink (.write bytes answer))
  | (.pending, sink) => (.pending, { l with sink })

def flush (l : Ledger σ) : Poll (Except Fault Unit) × Ledger σ :=
  match ResponseSink.flush l.sink with
  | (.ready answer, sink) => (.ready answer, l.enter sink (.flush answer))
  | (.pending, sink) => (.pending, { l with sink })

instance : ResponseSink (Ledger σ) where
  headers l := ResponseSink.headers l.sink
  setHeaders l headers := { l with sink := ResponseSink.setHeaders l.sink headers }
  writeHead := writeHead
  write := write
  flush := flush
  diagnose l := ResponseSink.diagnose l.sink
  close l := { l with sink := ResponseSink.close l.sink }

end Ledger

end Courier
