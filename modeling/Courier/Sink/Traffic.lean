import Courier.Sink.Relay

/-!
# The traffic through a relay

What its writer and its host do to a relay, in any order, with what went in and what came out so far.
A writer that has left makes no more calls.
-/

namespace Courier

namespace Relay

/-- What a writer does. -/
inductive Call
  | setHeaders (headers : Headers)
  | writeHead (status : Status) (framing : Framing)
  | write (bytes : Bytes)
  | flush
  | shutdown

/-- How a call ends. -/
inductive Reply
  | done
  /-- So many bytes were accepted. -/
  | accepted (n : Nat)
  | failed (fault : Fault)
  /-- The call has to be made again. -/
  | waits
deriving DecidableEq, Repr

def Reply.of {α : Type} (f : α → Reply) : Poll (Except Fault α) → Reply
  | .ready (.ok a) => f a
  | .ready (.error fault) => failed fault
  | .pending => waits

def call (r : Relay) : Call → Reply × Relay
  | .setHeaders headers => (.done, { r with headers })
  | .writeHead status framing =>
    let (answer, r) := r.writeHead status framing
    (.of (fun _ => .done) (.ready answer), r)
  | .write bytes =>
    let (answer, r) := r.write bytes
    (.of .accepted answer, r)
  | .flush =>
    let (answer, r) := r.sendPending
    (.of (fun _ => .done) answer, r)
  | .shutdown =>
    let (answer, r) := r.shutdown
    (.of (fun _ => .done) answer, r)

/-- What may happen next to a relay. -/
inductive Move
  | call (call : Call)
  /-- The writer goes away. -/
  | leave
  | takeHead
  | takeFrame
  | dropHead
  | dropBody

end Relay

structure Traffic where
  relay : Relay := {}
  /-- What the writes accepted, in order. -/
  accepted : Bytes := []
  /-- The frames that the host has received, in order. -/
  received : List Bytes := []
  /-- The framing of the head that was written. -/
  framing : Option Framing := none
  /-- Whether the writer is done with the body: since the head was written it has completed a shutdown, or
  it has left. -/
  shut : Bool := false
  /-- Whether the host has dropped a body: the one that it had taken, or one on its way with the head. -/
  dropped : Bool := false

namespace Traffic

/-- Keeps what a call has brought about. -/
def after (t : Traffic) (relay : Relay) : Relay.Call → Relay.Reply → Traffic
  | .write bytes, .accepted n => { t with relay, accepted := t.accepted ++ bytes.take n }
  | .writeHead _ framing, .done => { t with relay, framing := some framing, shut := false }
  | .shutdown, .done => { t with relay, shut := true }
  | _, _ => { t with relay }

def call (t : Traffic) (call : Relay.Call) : Traffic :=
  let (reply, relay) := t.relay.call call
  t.after relay call reply

def takeFrame (t : Traffic) : Traffic :=
  match t.relay.takeFrame with
  | (.arrived frame, relay) => { t with relay, received := t.received ++ [frame] }
  | (_, relay) => { t with relay }

/-- The host drops the head, and with it the body if that was on its way. -/
def dropHead (t : Traffic) : Traffic :=
  { t with
    relay := t.relay.dropHead
    dropped := t.dropped || match t.relay.slot with
      | .full _ => true
      | .empty | .given => false }

def dropBody (t : Traffic) : Traffic :=
  { t with relay := t.relay.dropBody, dropped := t.dropped || t.relay.hosted.isSome }

/-- The traffic after a move, if the move is possible. -/
def step? (t : Traffic) : Relay.Move → Option Traffic
  | .call call => if t.relay.attached then some (t.call call) else none
  | .leave => if t.relay.attached then some { t with relay := t.relay.detach, shut := true } else none
  | .takeHead => some { t with relay := t.relay.takeHead.2 }
  | .takeFrame => some t.takeFrame
  | .dropHead => some t.dropHead
  | .dropBody => some t.dropBody

/-- The traffic after the moves, if each was possible in its turn. -/
def run? (t : Traffic) (moves : List Relay.Move) : Option Traffic := moves.foldlM step? t

end Traffic

end Courier
