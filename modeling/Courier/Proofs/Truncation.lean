import Courier.Proofs.Attended

/-!
# Truncated bodies

The writer that gives up on a body lets go of its relay as the one that is done with it does, so the host
finds the same end behind the last frame in both cases. A body that fails is therefore taken for a whole
one: for whatever frames it leaves behind there is a response that sends just these (`twin`) and succeeds.
Only a fault that is diagnosed from the end of the connection keeps the delivery, and with it the end of
the body, back.
-/

namespace Courier

namespace Response

/-- What a host can come to see of a response in chunks whose body it takes and does not drop: these
frames, and behind them the end of the body. `failed` tells whether a failure was reported by then. -/
def Shows (response : Response) (frames : List Bytes) (failed : Bool) : Prop :=
  response.framing = .chunked ∧
    ∃ request chunks moves c, (Connection.answered request response chunks).run? moves = some c ∧
      c.isBroken = false ∧ c.relay.hosted = some .frames ∧ c.relay.takeFrame.1 = .ended ∧
      c.frames = frames ∧ c.delivery.events.isEmpty = !failed

/-- What the host sees of a response that failed it never sees of one that succeeds. -/
def TruncationVisible (response : Response) : Prop :=
  ∀ frames, response.Shows frames true → ∀ other : Response, ¬ other.Shows frames false

/-- A response that sends these frames. -/
def twin (frames : List Bytes) : Response where
  codings := [chunked]
  body := some (.reader (frames.map .data) none)

theorem framing_twin (frames : List Bytes) : (twin frames).framing = .chunked := by
  simp [framing, twin, isStreaming]

theorem isStreaming_twin (frames : List Bytes) : (twin frames).isStreaming = true := by
  simp [twin, isStreaming]

end Response

namespace Connection

/-- The copier is about to read the body, with nothing under way, and has sent these frames. -/
structure Between (script : List ReadStep) (frames : List Bytes) (c : Connection) : Prop where
  stage : c.task.stage = .racing
  live : c.phase = .live
  relay : c.relay = idleRelay
  state : ∃ written, c.delivery.state = .copying { discipline := .chunked, written }
  body : c.delivery.body = some (.reader script none)
  frames : c.frames = frames
  silent : c.delivery.events = []

theorem between_twin (frames : List Bytes) :
    (opened {} (Response.twin frames) []).Between (frames.map .data) [] := by
  refine ⟨rfl, rfl, rfl, ⟨0, ?_⟩, rfl, rfl, rfl⟩
  show Delivering.copying { discipline := .ofStreaming _ } = _
  rw [Response.isStreaming_twin]
  rfl

namespace Between

variable {script : List ReadStep} {frame : Bytes} {frames : List Bytes} {c : Connection}

theorem isRunning (h : c.Between script frames) : c.task.isRunning = true := by
  simp [RequestTask.isRunning, h.stage]

/-- A unit that fits into a frame is read, written, flushed, and taken by the host. -/
theorem step (h : c.Between (.data frame :: script) frames) (hne : frame ≠ [])
    (hl : frame.length ≤ Relay.frameLimit) :
    ∃ c', c.run? [.request .deliver, .request .deliver, .request .deliver, .takeFrame] = some c' ∧
      c'.Between script (frames ++ [frame]) := by
  obtain ⟨written, hstate⟩ := h.state
  have hrelay : c.delivery.sink = idleRelay := h.relay
  have hread : (Body.reader (.data frame :: script) none).read Copier.unitLimit =
      (.ready (.ok frame), .reader script none) := by
    have hu : frame.length ≤ Copier.unitLimit := Nat.le_trans hl (by decide)
    simp [Body.read, Body.readScript, List.take_of_length_le hu, List.drop_of_length_le hu]
  -- the delivery with the unit in hand, with the unit gathered, and with the unit under way
  let d (copier : Copier) (sink : Relay) : Delivery Relay :=
    { c.delivery with state := .copying copier, body := some (.reader script none), sink }
  let c₁ (copier : Copier) (sink : Relay) : Connection := { c with task.exchange.delivery := d copier sink }
  have hs₁ : c.step? (.request .deliver) =
      some (c₁ ⟨.chunked, .writing frame.length frame, written⟩ idleRelay) := by
    rw [← hrelay]
    exact deliver_of_advance h.isRunning (.copy hstate h.body (.unit rfl hread hne))
  have hs₂ : (c₁ ⟨.chunked, .writing frame.length frame, written⟩ idleRelay).step? (.request .deliver) =
      some (c₁ ⟨.chunked, .flushing, written + frame.length⟩ { idleRelay with pending := frame }) :=
    deliver_of_advance h.isRunning
      (.copy rfl rfl (.unitDone rfl (idleRelay_write hl) (List.length_pos_iff.2 hne) List.drop_length))
  have hs₃ : (c₁ ⟨.chunked, .flushing, written + frame.length⟩ { idleRelay with pending := frame }).step?
      (.request .deliver) =
      some (c₁ ⟨.chunked, .reading, written + frame.length⟩ { idleRelay with queue := [frame] }) :=
    deliver_of_advance h.isRunning (.copy rfl rfl (.flushed rfl (idleRelay_sendPending hne)))
  have hs₄ : (c₁ ⟨.chunked, .reading, written + frame.length⟩ { idleRelay with queue := [frame] }).step?
      .takeFrame =
      some { c₁ ⟨.chunked, .reading, written + frame.length⟩ idleRelay with frames := c.frames ++ [frame] } :=
    takeFrame_of_queue h.live rfl rfl
  refine ⟨{ c₁ ⟨.chunked, .reading, written + frame.length⟩ idleRelay with frames := c.frames ++ [frame] },
    ?_, h.stage, h.live, rfl, ⟨_, rfl⟩, rfl, congrArg (· ++ [frame]) h.frames, h.silent⟩
  rw [run?_cons, hs₁, Option.bind_some, run?_cons, hs₂, Option.bind_some, run?_cons, hs₃, Option.bind_some,
    run?_cons, hs₄]
  rfl

/-- The end of the body is read, flushed and found. -/
theorem finish (h : c.Between [] frames) :
    ∃ c', c.run? [.request .deliver, .request .deliver, .request .deliver] = some c' ∧
      c'.isBroken = false ∧ c'.relay.hosted = some .frames ∧ c'.relay.takeFrame.1 = .ended ∧
      c'.frames = frames ∧ c'.delivery.events = [] := by
  obtain ⟨written, hstate⟩ := h.state
  have hrelay : c.delivery.sink = idleRelay := h.relay
  have hflush : idleRelay.sendPending = (.ready (.ok ()), idleRelay) := rfl
  let d (copier : Copier) : Delivery Relay :=
    { c.delivery with state := .copying copier, body := some (.reader [] none), sink := idleRelay }
  let c₁ (copier : Copier) : Connection := { c with task.exchange.delivery := d copier }
  have hs₁ : c.step? (.request .deliver) = some (c₁ ⟨.chunked, .closing, written⟩) := by
    have ha := deliver_of_advance h.isRunning (.copy hstate h.body (.ended rfl rfl))
    rwa [hrelay] at ha
  have hs₂ : (c₁ ⟨.chunked, .closing, written⟩).step? (.request .deliver) =
      some (c₁ ⟨.chunked, .done, written⟩) :=
    deliver_of_advance h.isRunning (.copy rfl rfl (.closed rfl hflush))
  have hs₃ : (c₁ ⟨.chunked, .done, written⟩).step? (.request .deliver) =
      some { c with task.exchange.delivery := (d ⟨.chunked, .done, written⟩).finish } :=
    deliver_of_advance h.isRunning (.copied rfl rfl)
  refine ⟨{ c with task.exchange.delivery := (d ⟨.chunked, .done, written⟩).finish }, ?_,
    by simp [isBroken, h.stage], rfl, rfl, h.frames, h.silent⟩
  rw [run?_cons, hs₁, Option.bind_some, run?_cons, hs₂, Option.bind_some, run?_cons, hs₃]
  rfl

theorem run_to_end (left : List Bytes) (h : c.Between (left.map .data) frames)
    (hl : ∀ frame ∈ left, frame ≠ [] ∧ frame.length ≤ Relay.frameLimit) :
    ∃ moves c', c.run? moves = some c' ∧ c'.isBroken = false ∧ c'.relay.hosted = some .frames ∧
      c'.relay.takeFrame.1 = .ended ∧ c'.frames = frames ++ left ∧ c'.delivery.events = [] := by
  induction left generalizing c frames with
  | nil =>
    obtain ⟨c', hr, hend⟩ := h.finish
    exact ⟨_, c', hr, by rwa [List.append_nil]⟩
  | cons frame left ih =>
    obtain ⟨c₁, hr₁, h₁⟩ := h.step (hl frame (by simp)).1 (hl frame (by simp)).2
    obtain ⟨moves, c', hr, hend⟩ := ih h₁ fun f hf => hl f (by simp [hf])
    refine ⟨_ ++ moves, c', by rw [run?_append, hr₁]; exact hr, ?_⟩
    rwa [List.append_assoc] at hend

end Between

end Connection

namespace Response

/-- The twin of frames that a relay can have sent succeeds with them. -/
theorem shows_twin {frames : List Bytes}
    (hl : ∀ frame ∈ frames, frame ≠ [] ∧ frame.length ≤ Relay.frameLimit) :
    (twin frames).Shows frames false := by
  obtain ⟨moves, c, hr, hb, hh, ht, hf, he⟩ := (Connection.between_twin frames).run_to_end frames hl
  refine ⟨framing_twin frames, {}, [], [.request .deliver, .takeHead] ++ moves, c, ?_, hb, hh, ht,
    by simpa using hf, by simp [he]⟩
  rw [Connection.run?_append, Connection.run?_opened _ _ rfl]
  exact hr

/-- A body that fails can be taken to its end, unless its fault is diagnosed from the connection's. -/
theorem shows_of_fault {response : Response} {body : Body} {fault : Fault}
    (hc : response.framing = .chunked) (hb : response.body = some body) (hf : body.fault? = some fault)
    (hk : ∀ kind, fault ≠ .ioWith kind .bodyDropped) :
    ∃ frames, response.Shows frames true ∧
      ∀ frame ∈ frames, frame ≠ [] ∧ frame.length ≤ Relay.frameLimit := by
  have h := Connection.attended_opened {} [] hb hf
  obtain ⟨moves, c, hr, h, hd, hq⟩ := h.run_to_end hk
  have hend := (h.serving.ended_iff h.coherent h.framing_ne_empty (by simp [h.hosted])).2
    ⟨Delivery.Serving.isFinished_iff.2 hd, hq⟩
  have hevents : c.delivery.events ≠ [] := by
    intro he
    have hexc := h.excused
    unfold Delivery.Excused at hexc
    rw [hd] at hexc
    cases hexc.1 he
  refine ⟨c.frames, ⟨hc, {}, [], [.request .deliver, .takeHead] ++ moves, c, ?_, h.isBroken, h.hosted, hend,
    rfl, by simp [hevents]⟩, h.serving.frames⟩
  rw [Connection.run?_append, Connection.run?_opened _ _ (by simp [hb])]
  exact hr

/-- A failure that is reported while the host holds the body is the body's own. -/
theorem Shows.fault {response : Response} {frames : List Bytes} (h : response.Shows frames true) :
    ∃ fault, response.body.bind Body.fault? = some fault ∧ ∀ kind, fault ≠ .ioWith kind .bodyDropped := by
  obtain ⟨-, request, chunks, moves, c, hr, hb, hh, ht, -, he⟩ := h
  obtain ⟨hc, hs⟩ := Connection.serving_run hr hb
  have hexc := Connection.excused_run hr hb
  have hbody : response.framing ≠ .empty := by
    intro ho
    have := hs.delivery.hosted _ hh
    rw [if_pos (show response.opening.framing = .empty from ho)] at this
    cases this
  have hd := ((hs.ended_iff hc hbody (by simp [hh])).1 ht).1
  unfold Delivery.Excused at hexc
  rw [Delivery.Serving.isFinished_iff.1 hd] at hexc
  rcases hexc.2 (by simpa using he) with hn | hfault
  · have hn : c.relay.isHeld = false := hn
    simp [Relay.isHeld, hh] at hn
  · exact hfault

/-- Truncation shows just where nothing is truncated: when the body does not fail, or fails with a fault
that keeps the delivery from ending before the connection does. -/
theorem truncationVisible_iff {response : Response} (hf : response.framing = .chunked) :
    response.TruncationVisible ↔
      ∀ fault, response.body.bind Body.fault? = some fault → ∃ kind, fault = .ioWith kind .bodyDropped := by
  constructor
  · intro hv fault hfault
    by_cases hk : ∃ kind, fault = .ioWith kind .bodyDropped
    · exact hk
    · obtain ⟨body, hb, hbf⟩ := Option.bind_eq_some_iff.1 hfault
      obtain ⟨frames, hs, hl⟩ := shows_of_fault hf hb hbf fun kind he => hk ⟨kind, he⟩
      exact absurd (shows_twin hl) (hv frames hs _)
  · intro hc frames hs
    obtain ⟨fault, hfault, hk⟩ := hs.fault
    obtain ⟨kind, he⟩ := hc fault hfault
    exact absurd he (hk kind)

/-- A response whose body fails behind its first bytes. -/
def broken : Response where
  codings := [chunked]
  body := some (.reader [.data [97, 98, 99], .fail (.io .invalidData)] none)

theorem framing_broken : broken.framing = .chunked := by
  simp [framing, broken, isStreaming]

theorem truncationVisible_iff_broken : broken.framing = .chunked ∧ ¬ broken.TruncationVisible := by
  refine ⟨framing_broken, fun h => ?_⟩
  obtain ⟨kind, hk⟩ := (truncationVisible_iff framing_broken).1 h (.io .invalidData) rfl
  cases hk

/-- What a run to the end of a body shows. -/
theorem shows_of_run {response : Response} {frames : List Bytes} {failed : Bool} (moves : List Connection.Move)
    (hf : response.framing = .chunked)
    (hr : ((Connection.answered {} response []).run? moves).any (fun c => decide (c.isBroken = false ∧
      c.relay.hosted = some .frames ∧ c.relay.takeFrame.1 = .ended ∧ c.frames = frames ∧
      c.delivery.events.isEmpty = !failed)) = true) : response.Shows frames failed := by
  obtain ⟨c, hc, hfacts⟩ := (Option.any_eq_true _ _).1 hr
  exact ⟨hf, {}, [], moves, c, hc, of_decide_eq_true hfacts⟩

/-- A response that fails and one that succeeds show a host the same. -/
theorem truncation_not_visible :
    ¬ ∀ (one other : Response) (frames : List Bytes) (failed failed' : Bool),
      one.Shows frames failed → other.Shows frames failed' → failed = failed' := by
  intro h
  have hbroken : broken.Shows [[97, 98, 99]] true :=
    shows_of_run [.request .deliver, .takeHead, .request .deliver, .request .deliver, .request .deliver,
      .takeFrame, .request .deliver, .request .deliver, .request .deliver] framing_broken (by decide +kernel)
  have hwhole : (twin [[97, 98, 99]]).Shows [[97, 98, 99]] false :=
    shows_of_run [.request .deliver, .takeHead, .request .deliver, .request .deliver, .request .deliver,
      .takeFrame, .request .deliver, .request .deliver, .request .deliver] (framing_twin _) (by decide +kernel)
  cases h _ _ _ _ _ hbroken hwhole

end Response

end Courier
