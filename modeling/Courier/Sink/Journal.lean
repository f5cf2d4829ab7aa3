import Courier.Sink.Traffic

/-!
# The journal of a relay

What was done with a relay, by its writer and by its host, and what came of it, in order.
-/

namespace Courier

namespace Relay

/-- What came of a move. -/
inductive Entry
  | called (call : Call) (reply : Reply)
  | left
  | lookedForHead (found : Arrival Head)
  | lookedForFrame (found : Arrival Bytes)
  /-- The host has dropped the head, or its wish for one. -/
  | headDropped
  /-- The host has dropped the body that it had taken. -/
  | bodyDropped
  /-- There was nothing to drop. -/
  | nothingDropped

/-- The head that was handed to the host. -/
def Entry.head? : Entry → Option Head
  | lookedForHead (.arrived head) => some head
  | _ => none

def entry (r : Relay) : Move → Entry
  | .call call => .called call (r.call call).1
  | .leave => .left
  | .takeHead => .lookedForHead r.takeHead.1
  | .takeFrame => .lookedForFrame r.takeFrame.1
  | .dropHead => if r.slot = .given then .nothingDropped else .headDropped
  | .dropBody => if r.hosted.isSome then .bodyDropped else .nothingDropped

/-- Whether a call has to send what is gathered. -/
def Call.sends (r : Relay) : Call → Bool
  | flush | shutdown => !r.pending.isEmpty
  | write _ => frameLimit ≤ r.pending.length
  | setHeaders _ | writeHead .. => false

end Relay

structure Journal where
  traffic : Traffic := {}
  entries : List Relay.Entry := []

namespace Journal

def relay (j : Journal) : Relay := j.traffic.relay

/-- The heads that the host was handed. -/
def heads (j : Journal) : List Head := j.entries.filterMap Relay.Entry.head?

/-- Some attempt to write a head was made. -/
def HeadTried (j : Journal) : Prop := ∃ status framing reply, .called (.writeHead status framing) reply ∈ j.entries

def HeadWritten (j : Journal) : Prop := ∃ status framing, .called (.writeHead status framing) .done ∈ j.entries

/-- The host has dropped head or body. -/
def Dropped (j : Journal) : Prop := .headDropped ∈ j.entries ∨ .bodyDropped ∈ j.entries

/-- A head was written behind which no body byte can be sent any more: none was to follow, or a shutdown was
completed since. -/
def BodyOver (j : Journal) : Prop :=
  (∃ status, .called (.writeHead status .empty) .done ∈ j.entries) ∨
    ∃ status framing, [.called (.writeHead status framing) .done, .called .shutdown .done].Sublist j.entries

/-- Whether a fault says of the relay what has happened to it. -/
structure Bears (j : Journal) (fault : Fault) : Prop where
  tried : fault = .ofTransport .headAlreadySent → j.HeadTried
  unwritten : fault = .ofTransport .headNotSent → ¬ j.HeadWritten
  dropped : fault = .ofTransport .bodyDropped → j.Dropped

/-- Keeps what came of a move that has left the traffic like this. -/
def enter (j : Journal) (traffic : Traffic) (entry : Relay.Entry) : Journal :=
  { traffic, entries := j.entries ++ [entry] }

/-- The journal after a move, if the move is possible. -/
def step? (j : Journal) (move : Relay.Move) : Option Journal :=
  (j.traffic.step? move).map fun traffic => j.enter traffic (j.relay.entry move)

/-- The journal after the moves, if each was possible in its turn. -/
def run? (j : Journal) (moves : List Relay.Move) : Option Journal := moves.foldlM step? j

end Journal

end Courier
