import Courier.Exchange.Run

/-!
# What a discipline does not show in

A copy that flushes after each unit and one that flushes at its end leave sinks behind that are told apart by
their flushes, responses that are framed differently, and failures that are worded differently. Here these are
left out.
-/

namespace Courier

/-- Only whether a body follows. -/
def Framing.plain : Framing → Framing
  | .empty => .empty
  | .length _ | .chunked => .chunked

theorem Framing.plain_of_ne {framing : Framing} (h : framing ≠ .empty) : framing.plain = .chunked := by
  cases framing with
  | empty => exact absurd rfl h
  | length | chunked => rfl

theorem Framing.plain_eq_empty_iff {framing : Framing} : framing.plain = .empty ↔ framing = .empty := by
  cases framing <;> simp [plain]

/-- The recorder without its flushes. -/
def Recorder.plain (r : Recorder) : Recorder :=
  { r with
    head := r.head.map fun (status, framing) => (status, framing.plain)
    flushCalls := 0
    flushes := [] }

/-- The loss without its wording. -/
def Lost.plain : Lost → Lost
  | .head => .head
  | .body _ written => .body false written

def Event.plain (event : Event) : Event := { event with lost := event.lost.plain }

/-- How many bytes a copy has counted, however it ended. -/
def counted : Except (Nat × Fault) Nat → Nat
  | .ok n => n
  | .error (written, _) => written

end Courier
