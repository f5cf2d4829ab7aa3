import Courier.Transfer.Run

/-!
# Schedules of a transfer

A schedule is a list of steps, each possible in its turn. Copier and producer take them in any order, and once
the copy is over its body may go away, so that the producer finds its stream closed.
-/

namespace Courier

/-- A reader that delivers these units, one with each read. -/
def Body.ofUnits (units : List Bytes) : Body := .reader (units.map .data) none

namespace Transfer

inductive Move
  | copy
  | produce
  /-- The copy is over, and nobody reads its body any more. -/
  | release
deriving DecidableEq, Repr

variable {σ : Type} [ResponseSink σ]

def isOver (t : Transfer σ) : Bool := t.copier.result?.isSome

/-- The transfer after a move, if the move is possible. -/
def move? (t : Transfer σ) : Move → Option (Transfer σ)
  | .copy => t.copy?
  | .produce => t.produce?
  | .release => if t.isOver then some { t with body := t.body.release } else none

/-- The transfer after the moves, if each was possible in its turn. -/
def run? (t : Transfer σ) (moves : List Move) : Option (Transfer σ) := moves.foldlM move? t

/-- The copy of a live stream on which a producer sends these chunks. -/
def ofChunks (discipline : Discipline) (chunks : List Bytes) (sink : σ) : Transfer σ :=
  { copier := { discipline }, body := .stream {}, sink, producer := some { rest := chunks } }

/-- The copy of a body that nobody else works on. -/
def alone (discipline : Discipline) (body : Body) (sink : σ) : Transfer σ := { copier := { discipline }, body, sink }

/-- The copy of these units. -/
def ofUnits (discipline : Discipline) (units : List Bytes) (sink : σ) : Transfer σ :=
  { copier := { discipline }, body := .ofUnits units, sink }

end Transfer

end Courier
