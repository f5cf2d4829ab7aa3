import Courier.Context

/-!
# Contexts and their history

The contexts made from one signal, beside those who wait until one of them is cancelled. Signal, clock and
contexts change in any order, and after every step each waiter looks once.
-/

namespace Courier

/-- A context with the deadlines that it was given. -/
structure Context.Made where
  context : Context := {}
  deadlines : List Nat := []

/-- What may happen next. Contexts are told apart by their index. -/
inductive Context.Move
  | set (value : Bool)
  | abandon
  | advance (span : Nat)
  | deadline (index time : Nat)
  | timeout (index span : Nat)
  | peer (index : Nat) (peer : SocketAddress)
  | clone (index : Nat)
  /-- Someone begins to wait on a copy of the context as it is. -/
  | wait (index : Nat)

/-- The value that a move gives the signal. -/
def Context.Move.value? : Move → Option Bool
  | .set value => some value
  | _ => none

structure Context.History where
  signal : Signal := {}
  now : Nat := 0
  contexts : List Context.Made := [{}]
  waiters : List Waiter := []

namespace Context.History

def start (signal : Signal) (now : Nat) : History := { signal, now }

/-- Replaces a context by one made from it. -/
def change? (s : History) (index : Nat) (f : Made → Made) : Option History :=
  s.contexts[index]?.map fun made => { s with contexts := s.contexts.set index (f made) }

/-- What a move does by itself, if it is possible: a signal that nobody sets any more is not set. -/
def move? (s : History) : Move → Option History
  | .set value => if s.signal.settable then some { s with signal := s.signal.set value } else none
  | .abandon => some { s with signal := s.signal.abandon }
  | .advance span => some { s with now := s.now + span }
  | .deadline index time => s.change? index fun made =>
      { context := made.context.withDeadline time, deadlines := made.deadlines ++ [time] }
  | .timeout index span => s.change? index fun made =>
      { context := made.context.withTimeout s.now span, deadlines := made.deadlines ++ [s.now + span] }
  | .peer index peer => s.change? index fun made => { made with context := made.context.withPeer peer }
  | .clone index => s.contexts[index]?.map fun made => { s with contexts := s.contexts ++ [made] }
  | .wait index => s.contexts[index]?.map fun made =>
      { s with waiters := s.waiters ++ [{ context := made.context }] }

/-- Every waiter looks. -/
def look (s : History) : History := { s with waiters := s.waiters.map (·.poll s.signal s.now) }

def step? (s : History) (move : Move) : Option History := (s.move? move).map look

/-- The history after the moves, if each was possible in its turn. -/
def run? (s : History) (moves : List Move) : Option History := moves.foldlM step? s

end Context.History

end Courier
