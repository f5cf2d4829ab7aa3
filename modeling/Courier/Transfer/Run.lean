import Courier.Sink.Recorder
import Courier.Transfer.Copier
import Courier.Transfer.Producer

/-!
# Transfers

A transfer is a copier at work on a body and a sink, beside the producer of the body if there is one.
`settle` lets both go on until neither can; the order in which they take their steps does not show
in what the sink receives.
-/

namespace Courier

/-- How much there is to do with a list of chunks. -/
def chunkWork (chunks : List Bytes) : Nat :=
  chunks.foldr (fun chunk work => chunk.length + 1 + work) 0

/-- How much there is to do with one step of a reader. -/
def ReadStep.work : ReadStep → Nat
  | .data bytes => bytes.length + 1
  | _ => 1

/-- How much there is to read. -/
def Body.work : Body → Nat
  | .bytes data => data.length
  | .reader script _ => script.foldr (fun step work => step.work + work) 0
  | .stream channel =>
    chunkWork channel.queue + channel.current.length + chunkWork (channel.waiting.map (·.2))

/-- More steps than a copy can take before it waits or is done. A producer that repeats itself is
held up by the sink: after `patience` calls the sink fails, or it takes no more. -/
def stepLimit (body : Body) (producer : Option Producer) (patience : Nat) : Nat :=
  let rounds := (producer.map fun p => chunkWork p.again).getD 0 * (patience + 16)
  4 * (body.work + (producer.map fun p => chunkWork p.rest).getD 0 + rounds) + 64

/-- The number of calls by which the recorder has failed, if it fails. -/
def Recorder.patience (r : Recorder) : Nat :=
  (r.failWrite.map (·.1)).getD 0 + (r.failFlush.map (·.1)).getD 0

structure Transfer (σ : Type) where
  copier : Copier
  body : Body
  sink : σ
  producer : Option Producer := none

namespace Transfer

variable {σ : Type} [ResponseSink σ]

/-- A step of the copier. -/
def copy? (t : Transfer σ) : Option (Transfer σ) :=
  (t.copier.step? t.body t.sink).map fun (copier, body, sink) => { t with copier, body, sink }

/-- A step of the producer. -/
def produce? (t : Transfer σ) : Option (Transfer σ) := do
  let (producer, body) ← (← t.producer).feed? t.body
  some { t with producer := some producer, body }

/-- A step of either party, of the copier if it can go on. -/
def step? (t : Transfer σ) : Option (Transfer σ) := t.copy?.or t.produce?

/-- At most so many steps. -/
def steps : Nat → Transfer σ → Transfer σ
  | 0, t => t
  | n + 1, t =>
    match t.step? with
    | some t => steps n t
    | none => t

/-- Both parties go on until neither can. -/
def settle (t : Transfer σ) (patience : Nat := 0) : Transfer σ :=
  steps (stepLimit t.body t.producer patience) t

end Transfer

end Courier
