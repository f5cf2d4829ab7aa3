import Courier.Payload.Body

/-!
# Producers of live streams

A producer sends its chunks one after the other on the first writer of a stream, waiting for each to
be accepted, and then closes the writer. It stops early when a send fails. A producer that repeats
itself begins again instead of closing.
-/

namespace Courier

structure Producer where
  /-- The chunks still to be sent. -/
  rest : List Bytes
  /-- The chunks that follow, over and over. -/
  again : List Bytes := []
  /-- The number of the send that is not finished. -/
  sending : Option Nat := none
  stopped : Bool := false
deriving DecidableEq, Repr

namespace Producer

/-- One attempt to go on. There is none when the producer has stopped or has to wait. -/
def step? (p : Producer) (ch : Channel) : Option (Producer × Channel) :=
  if p.stopped then none
  else match p.sending, p.rest with
    | some number, _ =>
      let (done, ch) := ch.settle
      match done.lookup number with
      | some .sent => some ({ p with sending := none }, ch)
      | some .closed => some ({ p with sending := none, stopped := true }, ch.closeWriter 0)
      | none => none
    | none, chunk :: rest => some ({ p with rest, sending := some ch.started }, ch.send chunk)
    | none, [] =>
      if p.again.isEmpty then some ({ p with stopped := true }, ch.closeWriter 0)
      else some ({ p with rest := p.again }, ch)

/-- One attempt to go on with a body that is a live stream. -/
def feed? (p : Producer) (body : Body) : Option (Producer × Body) :=
  match body with
  | .stream channel => (p.step? channel).map fun (p, channel) => (p, .stream channel)
  | _ => none

end Producer

end Courier
