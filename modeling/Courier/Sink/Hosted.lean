import Courier.Sink.Traffic

/-!
# A relay beside its host

A relay with all that went through it is a sink too. The operations are those of the relay, and what they bring
about is kept.
-/

namespace Courier.Traffic

def writeHead (t : Traffic) (status : Status) (framing : Framing) : Except Fault Unit × Traffic :=
  let (answer, relay) := t.relay.writeHead status framing
  (answer, t.after relay (.writeHead status framing) (.of (fun _ => .done) (.ready answer)))

def write (t : Traffic) (bytes : Bytes) : Poll (Except Fault Nat) × Traffic :=
  let (answer, relay) := t.relay.write bytes
  (answer, t.after relay (.write bytes) (.of .accepted answer))

def flush (t : Traffic) : Poll (Except Fault Unit) × Traffic :=
  let (answer, relay) := t.relay.sendPending
  (answer, t.after relay .flush (.of (fun _ => .done) answer))

instance : ResponseSink Traffic where
  headers t := t.relay.headers
  setHeaders t headers := t.call (.setHeaders headers)
  writeHead := writeHead
  write := write
  flush := flush
  diagnose t := t.relay.diagnose
  close t := { t with relay := t.relay.detach, shut := true }

/-- The host takes what has come, and drops nothing. -/
inductive Takes (t : Traffic) : Traffic → Prop
  | head : Takes t { t with relay := t.relay.takeHead.2 }
  | frame : Takes t t.takeFrame

/-- A new relay whose head was written. -/
def opened (headers : Headers) (status : Status) (framing : Framing) : Traffic :=
  (({} : Traffic).call (.setHeaders headers)).call (.writeHead status framing)

/-- The frames that were made, in order. -/
def frames (t : Traffic) : List Bytes := t.received ++ t.relay.queue

end Courier.Traffic
