import Courier.Payload.Channel

/-!
# Live streams and their history

What writers and reader do to a channel, in any order, with what was sent and what was delivered so far.
Behind every move the sends that can be completed are completed, oldest first.
-/

namespace Courier

/-- What may happen next to a channel. -/
inductive Channel.Move
  | send (writer : Nat) (chunk : Bytes)
  | clone (writer : Nat)
  | close (writer : Nat)
  /-- A writer asks whether the stream is still read. -/
  | ask (writer : Nat)
  | read (room : Nat)
  /-- The body goes away, and the reader with it. -/
  | dropBody

structure Channel.History where
  channel : Channel := {}
  /-- The sends that were started, with their numbers, oldest first. -/
  sends : List (Nat × Bytes) := []
  /-- The sends that have ended, and how. -/
  results : List (Nat × SendResult) := []
  /-- What the reads have delivered, in order. -/
  delivered : Bytes := []

namespace Channel.History

/-- The chunks that were sent, in the order in which their sends were started. -/
def sent (s : History) : List Bytes :=
  (s.sends.filter fun send => (send.1, SendResult.sent) ∈ s.results).map (·.2)

def settle (s : History) : History :=
  let (done, channel) := s.channel.settle
  { s with channel, results := s.results ++ done }

def start (s : History) (chunk : Bytes) : History :=
  { s with channel := s.channel.send chunk, sends := s.sends ++ [(s.channel.started, chunk)] }

def read (s : History) (room : Nat) : History :=
  match s.channel.read room with
  | (.ready bytes, channel) => { s with channel, delivered := s.delivered ++ bytes }
  | (.pending, channel) => { s with channel }

/-- What a move does by itself, if it is possible: writers that are closed and a reader that is gone do
nothing. -/
def move? (s : History) : Move → Option History
  | .send writer chunk => if s.channel.isOpen writer then some (s.start chunk) else none
  | .clone writer => if s.channel.isOpen writer then some { s with channel := s.channel.addWriter } else none
  | .close writer =>
    if s.channel.isOpen writer then some { s with channel := s.channel.closeWriter writer } else none
  | .ask writer => if s.channel.isOpen writer then some s else none
  | .read room => if s.channel.isClosed then none else some (s.read room)
  | .dropBody => if s.channel.isClosed then none else some { s with channel := s.channel.dropReader }

def step? (s : History) (move : Move) : Option History := (s.move? move).map settle

/-- The history after the moves, if each was possible in its turn. -/
def run? (s : History) (moves : List Move) : Option History := moves.foldlM step? s

end Channel.History

end Courier
