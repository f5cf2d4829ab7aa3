import Courier.Address

/-!
# Cancellation

A request is cancelled when its signal holds or its deadline has come. The signal belongs to whoever
serves the request and may go away without ever holding; the deadline comes by itself. Times are
milliseconds on a clock that begins at zero.
-/

namespace Courier

/-- A truth value that one party sets and any number of others look at. -/
structure Signal where
  value : Bool := false
  /-- Whether anyone is left to set it. -/
  settable : Bool := true
deriving DecidableEq, Repr

namespace Signal

def set (signal : Signal) (value : Bool) : Signal :=
  if signal.settable then { signal with value } else signal

/-- Nobody sets the signal any more; the value that it has stays. -/
def abandon (signal : Signal) : Signal := { signal with settable := false }

/-- Whether one who waits for the signal goes on: it holds, or nobody is left to set it. -/
def isOver (signal : Signal) : Bool := signal.value || !signal.settable

/-- The signal that nobody sets. -/
def never : Signal := { settable := false }

end Signal

structure Context where
  deadline : Option Nat := none
  peer : Option SocketAddress := none
deriving DecidableEq, Repr

namespace Context

/-- Adds a deadline. The earliest one counts. -/
def withDeadline (context : Context) (time : Nat) : Context :=
  { context with deadline := some ((context.deadline.map (min · time)).getD time) }

/-- Adds a deadline `span` from now. -/
def withTimeout (context : Context) (now span : Nat) : Context := context.withDeadline (now + span)

def withPeer (context : Context) (peer : SocketAddress) : Context :=
  { context with peer := some peer }

/-- Whether the deadline has come. -/
def isOver (context : Context) (now : Nat) : Bool := context.deadline.any (· ≤ now)

def isCancelled (context : Context) (signal : Signal) (now : Nat) : Bool :=
  signal.value || context.isOver now

/-- The first time, of those from `now` to `now + span`, at which the context is cancelled if nobody
sets the signal. -/
def cancelledWithin? (context : Context) (signal : Signal) (now span : Nat) : Option Nat :=
  if signal.value then some now
  else context.deadline.bind fun time => if time ≤ now + span then some (max now time) else none

end Context

/-- Someone who waits until a context is cancelled. -/
structure Waiter where
  context : Context
  /-- Whether the signal is still worth looking at: once it is found abandoned without holding, only
  the deadline can end the wait. -/
  watching : Bool := true
  finished : Bool := false
deriving DecidableEq, Repr

namespace Waiter

/-- One look at the signal and the clock. -/
def poll (waiter : Waiter) (signal : Signal) (now : Nat) : Waiter :=
  if waiter.finished then waiter
  else if waiter.watching && signal.value then { waiter with finished := true }
  else
    { waiter with
      watching := waiter.watching && signal.settable
      finished := waiter.context.isOver now }

end Waiter

end Courier
