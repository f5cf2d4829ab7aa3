import Courier.Sink

/-!
# A sink that hands frames to a host

A relay joins a writer to the host that owns the connection. The head passes through a slot that is
filled once. Body bytes are gathered, and every flush sends them on as one frame over a queue of at
most `queueLimit` frames; the host takes frames off at its own pace, and may drop head or body at any
time. When a write fails because the body was dropped, the reason may become known only later, when
the connection has ended: until then the failure cannot be diagnosed.
-/

namespace Courier

structure Head where
  status : Status
  headers : Headers
  framing : Framing
deriving DecidableEq, Repr

/-- The slot of the head, seen from the host. -/
inductive Slot
  | empty
  | full (head : Head)
  /-- The host has taken the head, wants none, or knows that none comes. -/
  | given
deriving DecidableEq, Repr

/-- The body that the host has taken with the head. -/
inductive HostBody
  /-- A body without content. -/
  | blank
  /-- A body that arrives in frames. -/
  | frames
deriving DecidableEq, Repr

/-- What is known of the end of the connection. -/
structure Outcome where
  /-- The fault that the connection ended with. -/
  fault : Option Fault := none
  /-- Whether it may still be told. -/
  awaited : Bool := true
deriving DecidableEq, Repr

structure Relay where
  headers : Headers := []
  slot : Slot := .empty
  /-- Whether the writer may still fill the slot. -/
  headDue : Bool := true
  /-- Whether the writer has a queue to send frames on. -/
  sending : Bool := false
  /-- Whether the host, or the head on its way, holds the other end of the queue. -/
  receiving : Bool := false
  /-- Frames on their way, oldest first. -/
  queue : List Bytes := []
  /-- Accepted bytes that are in no frame yet. -/
  pending : Bytes := []
  /-- The body that the host holds. -/
  hosted : Option HostBody := none
  outcome : Outcome := {}
  /-- Whether the writer is there. -/
  attached : Bool := true
deriving DecidableEq, Repr

namespace Relay

/-- The most bytes that are gathered for a frame. -/
def frameLimit : Nat := 16384

/-- The most frames that are on their way. -/
def queueLimit : Nat := 2

/-! ### The writer -/

/-- Sends the gathered bytes as one frame. -/
def sendPending (r : Relay) : Poll (Except Fault Unit) × Relay :=
  if r.pending.isEmpty then (.ready (.ok ()), r)
  else if !r.sending then (.ready (.error (Fault.ofTransport .headNotSent)), r)
  else if !r.receiving then (.ready (.error (Fault.ofTransport .bodyDropped)), r)
  else if queueLimit ≤ r.queue.length then (.pending, r)
  else (.ready (.ok ()), { r with queue := r.queue ++ [r.pending], pending := [] })

/-- Gathers bytes up to the size of a frame. -/
def gather (r : Relay) (bytes : Bytes) : Nat × Relay :=
  let piece := bytes.take (frameLimit - r.pending.length)
  (piece.length, { r with pending := r.pending ++ piece })

/-- Gathers bytes; a full frame is sent before. -/
def write (r : Relay) (bytes : Bytes) : Poll (Except Fault Nat) × Relay :=
  if frameLimit ≤ r.pending.length then
    match r.sendPending with
    | (.ready (.ok ()), r) => let (n, r) := r.gather bytes; (.ready (.ok n), r)
    | (.ready (.error fault), r) => (.ready (.error fault), r)
    | (.pending, r) => (.pending, r)
  else
    let (n, r) := r.gather bytes
    (.ready (.ok n), r)

/-- Sends what is gathered and ends the body. -/
def shutdown (r : Relay) : Poll (Except Fault Unit) × Relay :=
  match r.sendPending with
  | (.ready (.ok ()), r) => (.ready (.ok ()), { r with sending := false })
  | failed => failed

/-- Fills the slot. A declared length is added to the header set. -/
def writeHead (r : Relay) (status : Status) (framing : Framing) : Except Fault Unit × Relay :=
  if !r.headDue then (.error (Fault.ofTransport .headAlreadySent), r)
  else
    let headers := match framing with
      | .length n => r.headers.insert .contentLength (Bytes.ofString (toString n))
      | _ => r.headers
    let framed := framing ≠ .empty
    let r := { r with headDue := false, headers := [], sending := framed }
    match r.slot with
    | .given => (.error (Fault.ofTransport .bodyDropped), r)
    | _ => (.ok (), { r with slot := .full ⟨status, headers, framing⟩, receiving := framed })

/-- The fault below a failure. Only a dropped body has one, and only once the connection has ended:
the fault that it ended with, if there is one. -/
def diagnose (r : Relay) (fault : Fault) : Poll Fault :=
  match fault with
  | .ioWith _ .bodyDropped =>
    match r.outcome.fault with
    | some cause => .ready (Fault.ofTransport (.connection cause))
    | none => if r.outcome.awaited then .pending else .ready fault
  | _ => .ready fault

/-- The writer goes away. The frames on their way stay; what was only gathered is lost. -/
def detach (r : Relay) : Relay := { r with headDue := false, sending := false, attached := false }

instance : ResponseSink Relay where
  headers := Relay.headers
  setHeaders r headers := { r with headers }
  writeHead := writeHead
  write := write
  flush := sendPending
  diagnose := diagnose
  close := detach

/-! ### The host -/

/-- What the host finds in the slot. -/
inductive Arrival (α : Type)
  | arrived (content : α)
  | pending
  /-- Nothing comes any more. -/
  | ended
  /-- There is nothing to look at. -/
  | gone
deriving DecidableEq, Repr

/-- Looks for the head, and takes it together with its body. That none comes any more is told once. -/
def takeHead (r : Relay) : Arrival Head × Relay :=
  match r.slot with
  | .given => (.gone, r)
  | .empty => if r.headDue then (.pending, r) else (.ended, { r with slot := .given })
  | .full head =>
    let hosted := if head.framing = .empty then HostBody.blank else .frames
    (.arrived head, { r with slot := .given, hosted := some hosted })

/-- Looks for the next frame. -/
def takeFrame (r : Relay) : Arrival Bytes × Relay :=
  match r.hosted with
  | none => (.gone, r)
  | some .blank => (.ended, r)
  | some .frames =>
    match r.queue with
    | frame :: queue => (.arrived frame, { r with queue })
    | [] => (if r.sending then .pending else .ended, r)

/-- Drops the head, with its body if it was not taken. -/
def dropHead (r : Relay) : Relay :=
  match r.slot with
  | .given => r
  | .empty => { r with slot := .given }
  | .full _ => { r with slot := .given, receiving := false, queue := [] }

/-- Drops the body that was taken. -/
def dropBody (r : Relay) : Relay :=
  match r.hosted with
  | none => r
  | some _ => { r with hosted := none, receiving := false, queue := [] }

/-- Tells the fault that the connection ended with. -/
def publish (r : Relay) (fault : Fault) : Relay :=
  if r.outcome.awaited then { r with outcome := { r.outcome with fault := some fault } } else r

/-- Nothing more is told of the connection. -/
def dropOutcome (r : Relay) : Relay := { r with outcome := { r.outcome with awaited := false } }

end Relay

end Courier
