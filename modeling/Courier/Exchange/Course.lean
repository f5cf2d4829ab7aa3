import Courier.Exchange.RequestTask

/-!
# The course of a request

A request task beside all that it meets: the connection, which ends at any moment, the other side of the sink,
and those who hold a context of the request and wait until it is cancelled. Contexts are copied freely and
outlive the task, so one may begin to wait at any time.
-/

namespace Courier

variable {σ : Type}

namespace Exchange

/-- The exchange for a request that has arrived. A producer will send the chunks, for the case that the body is
a live stream. -/
def arrive (request : Request) (sink : σ) (chunks : List Bytes) : Exchange σ where
  delivery := .start request sink
  producer := some { rest := chunks }

/-- What may happen next in an exchange that no task surrounds. -/
inductive Move (σ : Type)
  | answer (response : Response)
  | deliver
  | produce
  /-- The other side of the sink leaves it like this. -/
  | turn (sink : σ)

variable [ResponseSink σ]

/-- The exchange after a move, if the move is possible. -/
def move? (x : Exchange σ) : Move σ → Option (Exchange σ)
  | .answer response =>
    if x.delivery.state = .awaiting then some { x with delivery := x.delivery.answer response } else none
  | .deliver => x.deliver?
  | .produce => x.produce?
  | .turn sink => some { x with delivery.sink := sink }

/-- The exchange after the moves, if each was possible in its turn. -/
def run? (x : Exchange σ) (moves : List (Move σ)) : Option (Exchange σ) := moves.foldlM move? x

end Exchange

structure Course (σ : Type) where
  task : RequestTask σ
  /-- What the task is told of the end of its connection. -/
  closed : Signal := {}
  now : Nat := 0
  waiters : List Waiter := []

namespace Course

inductive Move (σ : Type)
  | request (move : RequestTask.Move)
  | turn (sink : σ)
  /-- The connection ends. -/
  | close
  /-- Nobody is left to tell the end of the connection. -/
  | abandon
  | advance (span : Nat)
  /-- Someone begins to wait on a context of the request. -/
  | wait (context : Context)
  /-- All who wait look. -/
  | look

/-- The move of the exchange by itself. -/
def Move.alone? : Move σ → Option (Exchange.Move σ)
  | .request (.answer response) => some (.answer response)
  | .request .deliver => some .deliver
  | .request .produce => some .produce
  | .turn sink => some (.turn sink)
  | _ => none

def start (request : Request) (closed : Signal) (sink : σ) (chunks : List Bytes) : Course σ where
  task.exchange := .arrive request sink chunks
  closed

def delivery (c : Course σ) : Delivery σ := c.task.exchange.delivery

variable [ResponseSink σ]

/-- The course after a move, if the move is possible. A delivery that finishes is found finished at once, so the
end of the connection is not heard any more. -/
def step? (c : Course σ) : Move σ → Option (Course σ)
  | .request move =>
    match move, c.delivery.isFinished with
    | .hear, true => none
    | move, _ => (c.task.step? c.closed move).map fun task => { c with task }
  | .turn sink => some { c with task.exchange.delivery.sink := sink }
  | .close => some { c with closed := c.closed.set true }
  | .abandon => some { c with closed := c.closed.abandon }
  | .advance span => some { c with now := c.now + span }
  | .wait context => some { c with waiters := c.waiters ++ [{ context }] }
  | .look => some { c with waiters := c.waiters.map (·.poll c.task.cancelled c.now) }

/-- The course after the moves, if each was possible in its turn. -/
def run? (c : Course σ) (moves : List (Move σ)) : Option (Course σ) := moves.foldlM step? c

end Course

end Courier
