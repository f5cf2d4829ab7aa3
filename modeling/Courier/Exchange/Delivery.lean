import Courier.Event
import Courier.Transfer.Copier

/-!
# Deliveries

A delivery serves one request: it waits for the response of the service, writes the head, copies the
body, and logs what could not be sent. A failure is diagnosed by the sink before it is logged, and
nothing is sent after it, as the head is out. When a delivery is finished, its body is released and
its sink closed, however it ended.
-/

namespace Courier

/-- What is to be sent before the body. -/
structure Opening where
  status : Status
  headers : Headers
  framing : Framing
  streaming : Bool
deriving DecidableEq, Repr

def Response.opening (response : Response) : Opening :=
  { status := response.status
    headers := response.headers
    framing := response.framing
    streaming := response.isStreaming }

/-- How far a delivery has come. -/
inductive Delivering
  /-- The service has not answered. -/
  | awaiting
  | opening (opening : Opening)
  | copying (copier : Copier)
  | diagnosing (lost : Lost) (fault : Fault)
  | finished
deriving DecidableEq, Repr

structure Delivery (σ : Type) where
  method : Method
  uri : Uri
  peer : Option SocketAddress
  sink : σ
  state : Delivering := .awaiting
  /-- The body of the response, which stays here when it is released. -/
  body : Option Body := none
  /-- What was logged, in order. -/
  events : List Event := []

namespace Delivery

variable {σ : Type}

/-- The delivery for a request that has arrived. -/
def start (request : Request) (sink : σ) : Delivery σ :=
  { method := request.method, uri := request.uri, peer := request.context.peer, sink }

/-- The service has answered. -/
def answer (d : Delivery σ) (response : Response) : Delivery σ :=
  { d with state := .opening response.opening, body := response.body }

/-- The delivery for a request that its service has answered at once. -/
def serve (service : Service) (request : Request) (sink : σ) : Delivery σ :=
  (start request sink).answer (service request)

def isFinished (d : Delivery σ) : Bool := d.state = .finished

variable [ResponseSink σ]

def finish (d : Delivery σ) : Delivery σ :=
  { d with
    state := .finished
    body := d.body.map Body.release
    sink := ResponseSink.close d.sink }

/-- The event that reports a loss. -/
def report (d : Delivery σ) (lost : Lost) (fault : Fault) : Event :=
  { severity := fault.severity, lost, method := d.method, uri := d.uri, peer := d.peer, fault }

/-- Writes the head. -/
def sendHead (d : Delivery σ) (opening : Opening) : Delivery σ :=
  let sink := ResponseSink.setHeaders d.sink
    ((ResponseSink.headers d.sink).copyFields opening.headers)
  match ResponseSink.writeHead sink opening.status opening.framing with
  | (.error fault, sink) => { d with sink, state := .diagnosing .head fault }
  | (.ok (), sink) =>
    let d := { d with sink }
    if d.body.isSome then
      let discipline := if opening.streaming then Discipline.chunked else .buffered
      { d with state := .copying { discipline } }
    else d.finish

/-- Goes on after the copy. -/
def endCopy (d : Delivery σ) (copier : Copier) : Except (Nat × Fault) Nat → Delivery σ
  | .ok _ => d.finish
  | .error (written, fault) =>
    { d with
      body := d.body.map Body.release
      state := .diagnosing (.body (copier.discipline = .chunked) written) fault }

/-- One attempt to go on. There is none when the delivery is finished, and when it has to wait: for
the service, for a writer of the stream, or for the other side of the sink. -/
def step? (d : Delivery σ) : Option (Delivery σ) :=
  match d.state with
  | .awaiting | .finished => none
  | .opening opening => some (d.sendHead opening)
  | .copying copier =>
    match copier.result? with
    | some result => some (d.endCopy copier result)
    | none => do
      let (copier, body, sink) ← copier.step? (← d.body) d.sink
      some { d with state := .copying copier, body := some body, sink }
  | .diagnosing lost fault =>
    match ResponseSink.diagnose d.sink fault with
    | .pending => none
    | .ready fault => some { d with events := d.events ++ [d.report lost fault] }.finish

end Delivery

end Courier
