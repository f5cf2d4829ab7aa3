import Courier.Payload.Body
import Courier.Sink

/-!
# Copying a body into a sink

A copier takes one unit after another off a body, at most `unitLimit` bytes in one read, and writes
it out until the sink has accepted all of it. A streamed body is flushed after every unit, so that
what the producer has handed over is under way before the next read; every body is flushed once more
at its end. Each `step?` makes one attempt at one read, one write or one flush.

A read that was interrupted is made again, a flush is not. For a write that is an assumption (`rewrites`). The
count of written bytes advances by whole units.
-/

namespace Courier

/-- When a sink is flushed. -/
inductive Discipline
  /-- After each unit and at the end. -/
  | chunked
  /-- At the end. -/
  | buffered
deriving DecidableEq, Repr

/-- What a copier does next. -/
inductive Copying
  | reading
  /-- Writes what is left of a unit that had `size` bytes. -/
  | writing (size : Nat) (rest : Bytes)
  /-- Flushes a unit. -/
  | flushing
  /-- Flushes at the end of the body. -/
  | closing
  | done
  | failed (fault : Fault)
deriving DecidableEq, Repr

structure Copier where
  discipline : Discipline
  state : Copying := .reading
  /-- The bytes of the units that were written out. -/
  written : Nat := 0
deriving DecidableEq, Repr

namespace Copier

/-- The most bytes of a unit. -/
def unitLimit : Nat := 32768

/-- The fault of a sink that accepts none of the bytes it is given. -/
def stuck : Fault := .io .writeZero

/-- Goes on behind a unit that was written out. -/
def afterUnit (c : Copier) (size : Nat) : Copier :=
  { c with
    state := if c.discipline = .chunked then .flushing else .reading
    written := c.written + size }

def fail (c : Copier) (fault : Fault) : Copier := { c with state := .failed fault }

/-- What follows a read that was answered. -/
def afterRead (c : Copier) : Except Fault Bytes → Copier
  | .ok [] => { c with state := .closing }
  | .ok unit => { c with state := .writing unit.length unit }
  | .error fault => if fault.isInterrupted then c else c.fail fault

/-- Whether a write that failed is made again. What writes a unit out is a helper from outside this library, and
this is all that is assumed of its retries: it makes a write again just when the write was interrupted. -/
def rewrites (fault : Fault) : Bool := fault.isInterrupted

@[simp] theorem rewrites_eq (fault : Fault) : rewrites fault = fault.isInterrupted := rfl

/-- What follows a write that was answered. -/
def afterWrite (c : Copier) (size : Nat) (rest : Bytes) : Except Fault Nat → Copier
  | .ok 0 => c.fail stuck
  | .ok n =>
    let rest := rest.drop n
    if rest.isEmpty then c.afterUnit size else { c with state := .writing size rest }
  | .error fault => if rewrites fault then c else c.fail fault

/-- What follows a flush that was answered. -/
def afterFlush (c : Copier) (next : Copying) : Except Fault Unit → Copier
  | .ok () => { c with state := next }
  | .error fault => c.fail fault

/-- How a copy ended: with the number of bytes, or with a fault and the bytes counted before it. -/
def result? (c : Copier) : Option (Except (Nat × Fault) Nat) :=
  match c.state with
  | .done => some (.ok c.written)
  | .failed fault => some (.error (c.written, fault))
  | _ => none

/-- One attempt. There is none when the copy is over, and when it has to wait: for a writer of the
stream, or for the other side of the sink. -/
def step? {σ : Type} [ResponseSink σ] (c : Copier) (body : Body) (sink : σ) :
    Option (Copier × Body × σ) :=
  match c.state with
  | .reading =>
    match body.read unitLimit with
    | (.ready answer, body) => some (c.afterRead answer, body, sink)
    | (.pending, next) => if body.isStream then none else some (c, next, sink)
  | .writing size rest =>
    match ResponseSink.write sink rest with
    | (.ready answer, sink) => some (c.afterWrite size rest answer, body, sink)
    | (.pending, _) => none
  | .flushing =>
    match ResponseSink.flush sink with
    | (.ready answer, sink) => some (c.afterFlush .reading answer, body, sink)
    | (.pending, _) => none
  | .closing =>
    match ResponseSink.flush sink with
    | (.ready answer, sink) => some (c.afterFlush .done answer, body, sink)
    | (.pending, _) => none
  | .done | .failed _ => none

end Copier

end Courier
