import Courier.Proofs.Framing
import Courier.Proofs.Losses
import Courier.Proofs.Progress

/-!
# A host that takes what comes

While the host takes every frame, a delivery is never held up by the relay: as long as its body is no live
stream it goes on until it is finished. `Attended.run_to_end` finds that run.
-/

namespace Courier

theorem Relay.patient (r : Relay) : Patient r := by
  intro bytes fault next _ hw
  rcases (Relay.write_error hw).1.cause with ⟨-, rfl⟩ | ⟨-, -, rfl⟩ <;> rfl

theorem Relay.diagnose_ready (r : Relay) {fault : Fault} (h : ∀ kind, fault ≠ .ioWith kind .bodyDropped) :
    r.diagnose fault = .ready fault := by
  unfold Relay.diagnose
  split
  · rename_i kind
    exact absurd rfl (h kind)
  · rfl

namespace Connection

variable {c c' : Connection}

@[simp] theorem run?_nil (c : Connection) : c.run? [] = some c := rfl

theorem run?_cons (c : Connection) (move : Move) (moves : List Move) :
    c.run? (move :: moves) = (c.step? move).bind fun c => c.run? moves := by
  simp [run?, List.foldlM_cons]

theorem run?_append (c : Connection) (first second : List Move) :
    c.run? (first ++ second) = (c.run? first).bind fun c => c.run? second := by
  simp [run?, List.foldlM_append]

/-- A move of the delivery. -/
theorem deliver_of_advance {d : Delivery Relay} (hr : c.task.isRunning = true)
    (ha : c.delivery.Advance d) :
    c.step? (.request .deliver) = some { c with task.exchange.delivery := d } := by
  have hs : c.task.exchange.delivery.step? = some d := Delivery.step?_of_advance ha
  simp [step?, RequestTask.step?, hr, Exchange.deliver?, hs]

theorem takeFrame_of_queue {frame : Bytes} {queue : List Bytes} (hl : c.phase = .live)
    (hh : c.relay.hosted = some .frames) (hq : c.relay.queue = frame :: queue) :
    c.step? .takeFrame =
      some { c.setRelay { c.relay with queue } with frames := c.frames ++ [frame] } := by
  simp [step?, hl, takeFrame, Relay.takeFrame, hh, hq]

/-! ### The head -/

/-- A relay whose head was taken, with nothing under way yet. -/
def idleRelay : Relay :=
  { headDue := false, sending := true, slot := .given, receiving := true, hosted := some .frames }

theorem idleRelay_write {frame : Bytes} (hl : frame.length ≤ Relay.frameLimit) :
    idleRelay.write frame = (.ready (.ok frame.length), { idleRelay with pending := frame }) := by
  have hroom : ¬ Relay.frameLimit ≤ 0 := by decide
  simp [Relay.write, idleRelay, Relay.gather, List.take_of_length_le hl, hroom]

theorem idleRelay_sendPending {frame : Bytes} (hne : frame ≠ []) :
    { idleRelay with pending := frame : Relay }.sendPending =
      (.ready (.ok ()), { idleRelay with queue := [frame] }) := by
  simp [Relay.sendPending, idleRelay, hne, Relay.queueLimit]

/-- The connection on which the head was taken as soon as it was there, with a body to follow. -/
def opened (request : Request) (response : Response) (chunks : List Bytes) : Connection where
  task.exchange := {
    delivery := { Delivery.start request idleRelay with
      state := .copying { discipline := .ofStreaming response.isStreaming }
      body := response.body }
    producer := some { rest := chunks } }
  head := some response.opening.head

theorem run?_opened (request : Request) {response : Response} (chunks : List Bytes)
    (hb : response.body.isSome = true) :
    (answered request response chunks).run? [.request .deliver, .takeHead] =
      some (opened request response chunks) := by
  have hf := response.framing_ne_empty hb
  have hw := Relay.writeHead_of_due (r := { headers := Headers.copyFields [] response.headers }) response.status
    response.framing rfl (by simp)
  have ha : (answered request response chunks).delivery.Advance _ := .headSent rfl hw hb
  rw [run?_cons, deliver_of_advance rfl ha, Option.bind_some, run?_cons, step?]
  simp [takeHead, Relay.takeHead, Relay.withHead, Relay.headOf, opened, idleRelay, setRelay, relay, delivery,
    hf, answered, Delivery.answer, Delivery.start, Response.opening, Opening.head]

/-! ### The body -/

/-- The host has taken the head and is there for the frames of a body that fails with `fault`. -/
structure Attended (o : Opening) (fault : Fault) (c : Connection) : Prop where
  coherent : c.relay.Coherent
  serving : c.Serving o
  excused : c.delivery.Excused (some fault)
  stage : c.task.stage = .racing
  live : c.phase = .live
  hosted : c.relay.hosted = some .frames

theorem attended_opened {body : Body} {fault : Fault} (request : Request) {response : Response}
    (chunks : List Bytes) (hb : response.body = some body) (hf : body.fault? = some fault) :
    (opened request response chunks).Attended response.opening fault := by
  have hsome : response.body.isSome = true := by simp [hb]
  have hr := run?_opened request chunks hsome
  obtain ⟨hc, hs⟩ := serving_run hr rfl
  have he := excused_run hr rfl
  rw [hb, Option.bind_some, hf] at he
  exact ⟨hc, hs, he, rfl, rfl, rfl⟩

namespace Attended

variable {o : Opening} {fault : Fault}

theorem isHeld (h : c.Attended o fault) : c.relay.isHeld = true := by simp [Relay.isHeld, h.hosted]

theorem isBroken (h : c.Attended o fault) : c.isBroken = false := by simp [Connection.isBroken, h.stage]

theorem isRunning (h : c.Attended o fault) : c.task.isRunning = true := by
  simp [RequestTask.isRunning, h.stage]

theorem effect (h : c.Attended o fault) (he : c.Effect c') (hs : c'.task.stage = .racing)
    (hl : c'.phase = .live) (hh : c'.relay.hosted = some .frames) : c'.Attended o fault :=
  ⟨he.coherent h.coherent, h.serving.step h.coherent he, he.excused h.coherent h.serving h.excused, hs, hl,
    hh⟩

theorem framing_ne_empty (h : c.Attended o fault) : o.framing ≠ .empty := by
  intro ho
  have := h.serving.delivery.hosted _ h.hosted
  rw [if_pos ho] at this
  cases this

theorem takeFrame {frame : Bytes} {queue : List Bytes} (h : c.Attended o fault)
    (hq : c.relay.queue = frame :: queue) :
    ∃ c', c.step? .takeFrame = some c' ∧ c'.Attended o fault ∧ c'.relay.queue = queue ∧
      c'.delivery.load = c.delivery.load := by
  have hs := takeFrame_of_queue h.live h.hosted hq
  have he := step?_effect h.coherent hs h.isBroken
  exact ⟨_, hs, h.effect he h.stage h.live h.hosted, rfl, rfl⟩

/-- The host takes all frames that are on their way. -/
theorem drain (h : c.Attended o fault) :
    ∃ moves c', c.run? moves = some c' ∧ c'.Attended o fault ∧ c'.relay.queue = [] ∧
      c'.delivery.load = c.delivery.load := by
  generalize hq : c.relay.queue = queue
  induction queue generalizing c with
  | nil => exact ⟨[], c, rfl, h, hq, rfl⟩
  | cons frame queue ih =>
    obtain ⟨c₁, hs, h₁, hq₁, hl₁⟩ := h.takeFrame hq
    obtain ⟨moves, c₂, hr, h₂, hq₂, hl₂⟩ := ih h₁ hq₁
    exact ⟨.takeFrame :: moves, c₂, by rw [run?_cons, hs]; exact hr, h₂, hq₂, hl₂.trans hl₁⟩

/-- Nothing holds the copier up while the queue of frames is empty. -/
theorem exists_attempt {copier : Copier} {body : Body} {r : Relay} (hq : r.queue = [])
    (hs : copier.state = .reading → body.isStream = false) (hr : copier.result? = none) :
    ∃ copier' body' r', copier.Attempt body r copier' body' r' := by
  have hroom : ¬ Relay.queueLimit ≤ r.queue.length := by simp [hq, Relay.queueLimit]
  have hflush : ∃ answer r', r.sendPending = (.ready answer, r') := by
    rcases hw : r.sendPending with ⟨a, r'⟩
    cases a with
    | ready answer => exact ⟨answer, r', rfl⟩
    | pending => exact absurd (Relay.sendPending_pending hw).1 hroom
  cases hc : copier.state with
  | reading =>
    rcases hread : body.read Copier.unitLimit with ⟨a, body'⟩
    cases a with
    | ready answer => exact ⟨_, _, _, Copier.attempt_afterRead hc hread⟩
    | pending => exact ⟨_, _, _, .notReady hc hread (hs hc)⟩
  | writing size rest =>
    rcases hw : r.write rest with ⟨a, r'⟩
    cases a with
    | ready answer => exact ⟨_, _, _, Copier.attempt_afterWrite hc hw⟩
    | pending => exact absurd (Relay.write_pending hw).1 hroom
  | flushing =>
    obtain ⟨answer, r', hw⟩ := hflush
    match answer with
    | .ok () => exact ⟨_, _, _, .flushed hc hw⟩
    | .error fault => exact ⟨_, _, _, .flushLost (.inl hc) hw⟩
  | closing =>
    obtain ⟨answer, r', hw⟩ := hflush
    match answer with
    | .ok () => exact ⟨_, _, _, .closed hc hw⟩
    | .error fault => exact ⟨_, _, _, .flushLost (.inr hc) hw⟩
  | done | failed => simp [Copier.result?, hc] at hr

/-- The delivery goes on, or is finished. -/
theorem exists_advance (h : c.Attended o fault) (hq : c.relay.queue = [])
    (hf : ∀ kind, fault ≠ .ioWith kind .bodyDropped) (hd : c.delivery.state ≠ .finished) :
    ∃ d, c.delivery.Advance d := by
  have hfits := h.serving.delivery.fits
  have hexc := h.excused
  unfold Delivery.Excused at hexc
  cases hs : c.delivery.state with
  | awaiting => rw [hs] at hfits; exact hfits.elim
  | opening o' =>
    rw [hs] at hfits
    have := (h.coherent.due hfits.2.1).2.1
    rw [h.hosted] at this
    cases this
  | copying copier =>
    rw [hs] at hfits hexc
    have hb : c.delivery.body.isSome = true := by
      rw [h.serving.delivery.body]
      simpa using h.framing_ne_empty
    obtain ⟨body, hb⟩ := Option.isSome_iff_exists.1 hb
    cases hr : copier.result? with
    | none =>
      have hstream (hc : copier.state = .reading) : body.isStream = false := by
        rw [hb] at hexc
        dsimp only at hexc
        rw [hc] at hexc
        match body, hexc with
        | .bytes _, _ | .reader _ _, _ => rfl
        | .stream _, hexc => cases hexc
      obtain ⟨copier', body', r', ha⟩ := exists_attempt hq hstream hr
      exact ⟨_, .copy hs hb ha⟩
    | some result =>
      unfold Copier.result? at hr
      split at hr
      · rename_i hc
        exact ⟨_, .copied hs hc⟩
      · rename_i hc
        exact ⟨_, .copyLost hs hc⟩
      · cases hr
  | diagnosing lost fault' =>
    rw [hs] at hfits hexc
    match lost with
    | .head =>
      have hn : c.relay.isHeld = false := hfits
      rw [h.isHeld] at hn
      cases hn
    | .body _ _ =>
      rcases hexc with hexc | hn
      · cases hexc
        exact ⟨_, .report hs (c.relay.diagnose_ready hf)⟩
      · have hn : c.relay.isHeld = false := hn
        rw [h.isHeld] at hn
        cases hn
  | finished => exact absurd hs hd

theorem deliver (h : c.Attended o fault) (hq : c.relay.queue = [])
    (hf : ∀ kind, fault ≠ .ioWith kind .bodyDropped) (hd : c.delivery.state ≠ .finished) :
    ∃ c', c.step? (.request .deliver) = some c' ∧ c'.Attended o fault ∧
      c'.delivery.load < c.delivery.load := by
  obtain ⟨d, ha⟩ := h.exists_advance hq hf hd
  have hs := deliver_of_advance h.isRunning ha
  have hhosted := (h.serving.delivery.advance_held h.coherent ha).2.1
  have he := step?_effect h.coherent hs h.isBroken
  refine ⟨_, hs, h.effect he h.stage h.live (hhosted.trans h.hosted), ?_⟩
  refine ha.load_lt (fun copier hc => ?_) (Relay.patient _)
  have hfits := h.serving.delivery.fits
  rw [hc] at hfits
  exact hfits.2.2

/-- The run to the end of a body that fails. -/
theorem run_to_end (h : c.Attended o fault) (hf : ∀ kind, fault ≠ .ioWith kind .bodyDropped) :
    ∃ moves c', c.run? moves = some c' ∧ c'.Attended o fault ∧ c'.delivery.state = .finished ∧
      c'.relay.queue = [] := by
  generalize hl : c.delivery.load = load
  induction load using Nat.strongRecOn generalizing c with
  | _ load ih =>
    obtain ⟨moves₁, c₁, hr₁, h₁, hq₁, hl₁⟩ := h.drain
    by_cases hd : c₁.delivery.state = .finished
    · exact ⟨moves₁, c₁, hr₁, h₁, hd, hq₁⟩
    · obtain ⟨c₂, hs, h₂, hlt⟩ := h₁.deliver hq₁ hf hd
      obtain ⟨moves₃, c₃, hr₃, h₃, hend⟩ := ih _ (by omega) h₂ rfl
      refine ⟨moves₁ ++ .request .deliver :: moves₃, c₃, ?_, h₃, hend⟩
      rw [run?_append, hr₁, Option.bind_some, run?_cons, hs]
      exact hr₃

end Attended

end Connection

end Courier
