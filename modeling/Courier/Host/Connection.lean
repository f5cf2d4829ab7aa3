import Courier.Exchange.RequestTask
import Courier.Host.Notice
import Courier.Sink.Relay

/-!
# Connections

A connection, as one request on it sees it. While it is open, the host takes the head and the frames
of the response, or drops them. When it ends, the host drops both at once; after that the end is told
in steps, of which each may find the task of the request anywhere: first the closed signal is set,
then the fault is published if there was one, and last nobody is left who would tell more.
-/

namespace Courier

/-- How a connection ended. -/
inductive Ending
  | clean
  | faulty (fault : Fault)
deriving DecidableEq, Repr

namespace Ending

def notice : Ending → Notice
  | clean => .connectionClosed
  | faulty fault => .connectionFailed fault

end Ending

/-- How much of the end of a connection is told. -/
inductive Phase
  | live
  /-- The connection has ended. -/
  | ended (ending : Ending)
  /-- The closed signal is set. -/
  | signalled (ending : Ending)
  /-- The fault is published, if there is one. -/
  | published (ending : Ending)
  /-- Nobody is left to tell more. -/
  | over (ending : Ending)
deriving DecidableEq, Repr

structure Connection where
  task : RequestTask Relay
  closed : Signal := {}
  phase : Phase := .live
  /-- The head that is sent. -/
  head : Option Head := none
  /-- The frames that are sent, in order. -/
  frames : List Bytes := []
  notices : List Notice := []

namespace Connection

/-- What may happen next on a connection. -/
inductive Move
  | request (move : RequestTask.Move)
  | takeHead
  | takeFrame
  | dropHead
  | dropBody
  | close (ending : Ending)
  /-- The next step in telling the end. -/
  | tell

/-- What is sent for a response that has no head. -/
def missingHead : Head := { status := .internalError, headers := [], framing := .empty }

def relay (c : Connection) : Relay := c.task.exchange.delivery.sink

def setRelay (c : Connection) (relay : Relay) : Connection :=
  { c with task.exchange.delivery.sink := relay }

/-- The host looks for the head. -/
def takeHead (c : Connection) : Connection :=
  match c.relay.takeHead with
  | (.arrived head, relay) => { c.setRelay relay with head := some head }
  | (.ended, relay) =>
    { c.setRelay relay.dropHead with
      head := some missingHead
      notices := c.notices ++ [.headMissing] }
  | (_, relay) => c.setRelay relay

/-- The host looks for a frame. -/
def takeFrame (c : Connection) : Connection :=
  match c.relay.takeFrame with
  | (.arrived frame, relay) => { c.setRelay relay with frames := c.frames ++ [frame] }
  | (_, relay) => c.setRelay relay

/-- The next step in telling the end of the connection. -/
def tell? (c : Connection) : Option Connection :=
  match c.phase with
  | .live | .over _ => none
  | .ended ending => some { c with closed := c.closed.set true, phase := .signalled ending }
  | .signalled ending =>
    let relay := match ending with
      | .clean => c.relay
      | .faulty fault => c.relay.publish fault
    some { c.setRelay relay with
      phase := .published ending
      notices := c.notices ++ [ending.notice] }
  | .published ending =>
    some { c.setRelay c.relay.dropOutcome with closed := c.closed.abandon, phase := .over ending }

/-- The connection after a move, if the move is possible. -/
def step? (c : Connection) : Move → Option Connection
  | .request move => (c.task.step? c.closed move).map fun task => { c with task }
  | .takeHead => if c.phase = .live then some c.takeHead else none
  | .takeFrame => if c.phase = .live then some c.takeFrame else none
  | .dropHead => if c.phase = .live then some (c.setRelay c.relay.dropHead) else none
  | .dropBody => if c.phase = .live then some (c.setRelay c.relay.dropBody) else none
  | .close ending =>
    if c.phase = .live then
      some { c.setRelay c.relay.dropHead.dropBody with phase := .ended ending }
    else none
  | .tell => c.tell?

end Connection

end Courier
