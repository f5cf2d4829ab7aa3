import Courier.Message.Response
import Courier.Transfer.Producer

/-!
# The demonstration service

A greeting on every path but two: one returns the content of the request, the other streams a line a
tick until it is done or the request is cancelled.
-/

namespace Courier.Daemon.Demo

def plainText : Bytes := Bytes.ofString "text/plain"

def greeting : Response :=
  let response : Response := { body := some (.buffered (Bytes.ofString "hello from ferryd\n")) }
  response.withHeader .contentType plainText

/-- Returns the content of the request, with its type if there is one. -/
def echo (request : Request) : Response :=
  match request.content with
  | .error _ => { status := .badRequest }
  | .ok content =>
    let response : Response := { body := some (.buffered content) }
    match request.headers.values .contentType with
    | [] => response
    | type :: _ => response.withHeader .contentType type

def tickCount : Nat := 10

/-- The milliseconds from one tick to the next. -/
def tickInterval : Nat := 500

def tick (n : Nat) : Bytes := Bytes.ofString s!"tick {n}\n"

/-- What the stream sends, with a pause after each. -/
def ticks : List Bytes := (List.range tickCount).map tick

def ticker : Response :=
  let response : Response := { body := some (.stream {}) }
  response.withHeader .contentType plainText

inductive Route
  | stream
  | echo
  | greeting
deriving DecidableEq, Repr

def Route.ofPath : String → Route
  | "/stream" => stream
  | "/echo" => echo
  | _ => greeting

def service : Service := fun request =>
  match Route.ofPath request.uri.path with
  | .stream => ticker
  | .echo => echo request
  | .greeting => greeting

end Courier.Daemon.Demo
