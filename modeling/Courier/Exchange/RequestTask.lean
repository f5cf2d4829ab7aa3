import Courier.Exchange.Run

/-!
# Request tasks

A request is served by a task of its own, which makes the delivery and listens for the end of the
connection at the same time. Whichever comes first cancels the request, so that all who still work
for it can stop. A delivery that is overtaken by the end of the connection is not dropped: it goes
on, and reports what it could not send. A service that breaks down takes the task with it, and then
nobody is left to cancel the request.
-/

namespace Courier

/-- How far a task has come. -/
inductive Stage
  /-- The delivery is made, and the connection listened to. -/
  | racing
  /-- The connection has ended, and the delivery is still made. -/
  | finishing
  | returned
  /-- The service broke down. -/
  | broken
deriving DecidableEq, Repr

structure RequestTask (σ : Type) where
  exchange : Exchange σ
  /-- The signal that every context of the request looks at. -/
  cancelled : Signal := {}
  stage : Stage := .racing

namespace RequestTask

variable {σ : Type}

/-- What may happen next in a task. -/
inductive Move
  /-- The service answers. -/
  | answer (response : Response)
  /-- The service breaks down. -/
  | breakDown
  /-- The delivery goes on. -/
  | deliver
  /-- The producer of the body goes on. -/
  | produce
  /-- The end of the connection is heard of. -/
  | hear
  /-- The delivery is found finished. -/
  | finish

/-- The task of a request that has arrived. -/
def start (request : Request) (sink : σ) : RequestTask σ :=
  { exchange := { delivery := .start request sink } }

/-- Whether the task goes on. -/
def isRunning (task : RequestTask σ) : Bool := task.stage = .racing || task.stage = .finishing

/-- Whether code of the service is run: it has not answered, or its body is read. -/
def isInService (task : RequestTask σ) : Bool :=
  match task.exchange.delivery.state with
  | .awaiting => true
  | .copying copier => copier.state = .reading
  | _ => false

/-- The task cancels its request and is over. -/
def conclude (task : RequestTask σ) : RequestTask σ :=
  { task with cancelled := (task.cancelled.set true).abandon, stage := .returned }

variable [ResponseSink σ]

/-- The task is over, and all that it holds is let go. -/
def collapse (task : RequestTask σ) : RequestTask σ :=
  { exchange := { task.exchange with delivery := task.exchange.delivery.finish }
    cancelled := task.cancelled.abandon
    stage := .broken }

/-- The task after a move, if the move is possible. A producer is no part of the task and may
outlive it. -/
def step? (task : RequestTask σ) (closed : Signal) : Move → Option (RequestTask σ)
  | .answer response =>
    if task.isRunning && task.exchange.delivery.state = .awaiting then
      some { task with exchange.delivery := task.exchange.delivery.answer response }
    else none
  | .breakDown => if task.isRunning && task.isInService then some task.collapse else none
  | .deliver =>
    if task.isRunning then task.exchange.deliver?.map fun exchange => { task with exchange }
    else none
  | .produce => task.exchange.produce?.map fun exchange => { task with exchange }
  | .hear =>
    if task.stage = .racing && closed.isOver then
      some { task with cancelled := task.cancelled.set true, stage := .finishing }
    else none
  | .finish =>
    if task.isRunning && task.exchange.delivery.isFinished then some task.conclude else none

end RequestTask

end Courier
