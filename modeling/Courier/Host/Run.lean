import Courier.Host.Connection

/-!
# Runs of a connection

A run is a list of moves, each possible in its turn. As the moves name who makes them, every
interleaving of service, producer, delivery and host is a run.
-/

namespace Courier.Connection

/-- The connection after the moves, if each was possible in its turn. -/
def run? (c : Connection) (moves : List Move) : Option Connection := moves.foldlM step? c

def delivery (c : Connection) : Delivery Relay := c.task.exchange.delivery

def producer (c : Connection) : Option Producer := c.task.exchange.producer

/-- The connection on which a request has arrived and been answered. A producer sends the chunks, for
the case that the body is a live stream. Nothing is delivered before the answer, so what producer and
host do by then they can as well do behind it. -/
def answered (request : Request) (response : Response) (chunks : List Bytes) : Connection where
  task.exchange := {
    delivery := (Delivery.start request {}).answer response
    producer := some { rest := chunks } }

/-- The connection on which a request has just arrived. A producer will send the chunks, for the case that the
service answers with a live stream. -/
def arrived (request : Request) (chunks : List Bytes) : Connection where
  task.exchange := {
    delivery := .start request {}
    producer := some { rest := chunks } }

/-- Whether the service has broken down in the midst of the request. -/
def isBroken (c : Connection) : Bool := c.task.stage = .broken

end Courier.Connection
