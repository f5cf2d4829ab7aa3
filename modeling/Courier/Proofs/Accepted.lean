import Courier.Proofs.Calls
import Courier.Proofs.History
import Courier.Proofs.Supply

/-!
# What the sink accepts of a body

Whatever fails, the bytes that the sink has accepted are the first of those that the body supplies
(`Delivery.Within`). Until the copy is over, what is accepted, what is left of the unit in hand and what is
still to be read are all of them.
-/

namespace Courier

/-! ### The producer -/

namespace Channel

/-- The chunks that wait are queued as they came, the empty ones left out. -/
theorem content_settle {ch ch' : Channel} {done : List (Nat × SendResult)} (rest : List Bytes)
    (hr : ch.reading = true) (hs : ch.settle = (done, ch')) :
    (Body.stream ch').content rest = (Body.stream ch).content rest := by
  obtain ⟨hcurrent, hqueue⟩ := queue_settle hr hs
  have hflat := congrArg List.flatten hqueue
  simp only [List.flatten_append, flatten_solid] at hflat
  simp only [Body.content, List.flatten_append, hcurrent, hflat]

theorem reading_settle (ch : Channel) : ch.settle.2.reading = ch.reading := by
  cases hr : ch.reading <;> simp [settle, hr]

end Channel

namespace Producer

variable {p p' : Producer} {ch ch' : Channel}

theorem reading_step (hs : p.step? ch = some (p', ch')) : ch'.reading = ch.reading := by
  have hsettle := ch.reading_settle
  unfold step? at hs
  split at hs
  · cases hs
  split at hs
  · rcases he : ch.settle with ⟨done, ch₁⟩
    rw [he] at hs hsettle
    dsimp only at hs
    split at hs <;> cases hs
    · exact hsettle
    · exact hsettle
  · cases hs
    rfl
  · split at hs <;> cases hs <;> rfl

/-- What a producer has still to send and what waits in the stream are the same bytes after a step. -/
theorem content_step (hs : p.step? ch = some (p', ch')) (ha : p.again = []) (hr : ch.reading = true) :
    (Body.stream ch').content p'.rest = (Body.stream ch).content p.rest := by
  unfold step? at hs
  split at hs
  · cases hs
  split at hs
  · rename_i number _ hsend
    rcases he : ch.settle with ⟨done, ch₁⟩
    have hcontent := Channel.content_settle p.rest hr he
    rw [he] at hs
    dsimp only at hs
    split at hs <;> cases hs
    · exact hcontent
    · exact hcontent
  · rename_i chunk rest hsend hrest
    cases hs
    simp [Body.content, Channel.send, hrest]
  · rename_i hsend hrest
    rw [ha] at hs
    cases hs
    rfl

theorem feed?_eq_some {body body' : Body} (hs : p.feed? body = some (p', body')) :
    ∃ ch ch', body = .stream ch ∧ body' = .stream ch' ∧ p.step? ch = some (p', ch') := by
  unfold feed? at hs
  split at hs
  · rename_i ch
    obtain ⟨⟨q, ch'⟩, hstep, hs⟩ := Option.map_eq_some_iff.1 hs
    cases hs
    exact ⟨ch, ch', rfl, rfl, hstep⟩
  · cases hs

end Producer

/-! ### The copier -/

section

variable {σ : Type} [ResponseSink σ]

/-- Where a copier is in the bytes of its body, when `later` is still to be read of them. -/
def Copying.Within (source accepted later : Bytes) : Copying → Prop
  | .reading | .flushing => accepted ++ later = source
  | .writing _ rest => accepted ++ rest ++ later = source
  | .closing | .done | .failed _ => accepted <+: source

theorem Copying.Within.initial {source accepted later : Bytes} {state : Copying}
    (h : state.Within source accepted later) : accepted <+: source := by
  match state with
  | .reading | .flushing => exact ⟨later, h⟩
  | .writing _ rest => exact ⟨rest ++ later, by rw [← List.append_assoc]; exact h⟩
  | .closing | .done | .failed _ => exact h

theorem Copier.Attempt.within {c c' : Copier} {body body' : Body} {sink sink' : σ} {source accepted : Bytes}
    {rest : List Bytes} (ha : c.Attempt body sink c' body' sink')
    (h : c.state.Within source accepted (body.content rest)) :
    c'.state.Within source (accepted ++ (c.call? body sink).toList.flatMap Delivery.Call.accepted)
      (body'.content rest) := by
  -- reads and flushes have nothing accepted
  have hsame (hnone : (c.call? body sink).toList.flatMap Delivery.Call.accepted = []) :
      accepted ++ (c.call? body sink).toList.flatMap Delivery.Call.accepted = accepted := by
    rw [hnone, List.append_nil]
  cases ha with
  | unit hc hr hu =>
    rw [hsame (by simp [call?, hc, hr, Delivery.Call.accepted])]
    rw [hc] at h
    show accepted ++ _ ++ body'.content rest = source
    rw [List.append_assoc, ← Body.content_read rest hr hu]
    exact h
  | ended hc hr | readLost hc hr =>
    rw [hsame (by simp [call?, hc, hr, Delivery.Call.accepted])]
    exact h.initial
  | readAgain hc hr hf =>
    rw [hsame (by simp [call?, hc, hr, Delivery.Call.accepted]), Body.content_read_again rest hr hf]
    exact h
  | notReady hc hr hs =>
    rw [hsame (by simp [call?, hc, hr]), Body.content_read_pending rest hr hs]
    exact h
  | @written size n left _ hc hw hn hl =>
    rw [hc] at h
    have hcall : (c.call? body sink).toList.flatMap Delivery.Call.accepted = left.take n := by
      simp [call?, hc, hw, Delivery.Call.accepted, SinkCall.accepted]
    rw [hcall]
    show accepted ++ left.take n ++ left.drop n ++ body.content rest = source
    rw [List.append_assoc accepted, List.take_append_drop]
    exact h
  | @unitDone size n left _ hc hw hn hl =>
    rw [hc] at h
    have hcall : (c.call? body sink).toList.flatMap Delivery.Call.accepted = left := by
      rw [← List.take_append_drop n left, hl]
      simp [call?, hc, hw, Delivery.Call.accepted, SinkCall.accepted]
    rw [hcall]
    unfold afterUnit
    dsimp only
    split <;> exact h
  | stuck hc hw | writeLost hc hw | closed hc hw =>
    rw [hsame (by simp [call?, hc, hw, Delivery.Call.accepted, SinkCall.accepted])]
    exact h.initial
  | writeAgain hc hw hf =>
    rw [hsame (by simp [call?, hc, hw, Delivery.Call.accepted, SinkCall.accepted])]
    exact h
  | flushed hc hw =>
    rw [hsame (by simp [call?, hc, hw, Delivery.Call.accepted, SinkCall.accepted])]
    rw [hc] at h
    exact h
  | flushLost hc hw =>
    rw [hsame (by rcases hc with hc | hc <;> simp [call?, hc, hw, Delivery.Call.accepted, SinkCall.accepted])]
    exact h.initial

theorem Copier.Attempt.reading {c c' : Copier} {body body' : Body} {sink sink' : σ}
    (ha : c.Attempt body sink c' body' sink') (h : ∀ ch, body = .stream ch → ch.reading = true) :
    ∀ ch, body' = .stream ch → ch.reading = true := by
  have hread {answer : Poll (Except Fault Bytes)} {next : Body} (hr : body.read unitLimit = (answer, next)) :
      ∀ ch, next = .stream ch → ch.reading = true := by
    intro ch' hb
    subst hb
    cases body with
    | bytes | reader => cases hr
    | stream ch =>
      cases hr
      have hreading : (ch.read unitLimit).2.reading = ch.reading := by
        unfold Channel.read
        split <;> rfl
      exact hreading.trans (h ch rfl)
  cases ha with
  | unit _ hr | ended _ hr | readAgain _ hr | readLost _ hr | notReady _ hr => exact hread hr
  | written | unitDone | stuck | writeAgain | writeLost | flushed | closed | flushLost => exact h

namespace Delivery

/-- What is left of the body, when `rest` is still to be sent on a live stream. -/
def left (rest : List Bytes) (d : Delivery σ) : Bytes := (d.body.map (Body.content rest)).getD []

/-- Where a delivery is in the bytes of its body. The body is not released before the copy is over. -/
def Within (source accepted : Bytes) (rest : List Bytes) (d : Delivery σ) : Prop :=
  match d.state with
  | .awaiting | .diagnosing .. | .finished => accepted <+: source
  | .opening _ => accepted ++ d.left rest = source ∧ ∀ ch, d.body = some (.stream ch) → ch.reading = true
  | .copying c => c.state.Within source accepted (d.left rest) ∧
      ∀ ch, d.body = some (.stream ch) → ch.reading = true

namespace Within

variable {source accepted : Bytes} {rest : List Bytes} {d d' : Delivery σ}

theorem initial {τ : Type} {d : Delivery τ} (h : d.Within source accepted rest) : accepted <+: source := by
  unfold Within at h
  split at h
  · exact h
  · exact h
  · exact h
  · exact ⟨_, h.1⟩
  · exact h.1.initial

theorem advance (h : d.Within source accepted rest) (ha : d.Advance d') :
    d'.Within source (accepted ++ d.call?.toList.flatMap Call.accepted) rest := by
  have hprefix := h.initial
  have hhead {o : Opening} {answer : Except Fault Unit} {sink : σ} (hd : d.state = .opening o)
      (hw : ResponseSink.writeHead (d.dressed o) o.status o.framing = (answer, sink)) :
      accepted ++ d.call?.toList.flatMap Call.accepted = accepted := by
    simp [call?_of_opening hd hw, Call.accepted, SinkCall.accepted]
  unfold Within at h
  cases ha with
  | headLost hd hw | headOnly hd hw =>
    rw [hhead hd hw]
    exact hprefix
  | headSent hd hw hb =>
    rw [hhead hd hw]
    rw [hd] at h
    exact h
  | @copy c c' body body' sink' hd hb ha =>
    rw [hd] at h
    obtain ⟨hwithin, hopen⟩ := h
    unfold left at hwithin
    rw [hb] at hwithin
    rw [call?_of_copying hd hb]
    refine ⟨ha.within hwithin, fun ch hch => ?_⟩
    exact ha.reading (fun ch hc => hopen ch (by rw [hb, hc])) ch (Option.some.inj hch)
  | copied hd hc | copyLost hd hc =>
    rw [call?_of_result hd (by simp [Copier.result?, hc]), Option.toList_none, List.flatMap_nil, List.append_nil]
    exact hprefix
  | report hd hf =>
    rw [call?_of_diagnosing hd hf, Option.toList_some, List.flatMap_singleton]
    show accepted ++ [] <+: source
    rw [List.append_nil]
    exact hprefix

theorem feed {τ : Type} {d : Delivery τ} {p p' : Producer} {body body' : Body}
    (h : d.Within source accepted p.rest) (ha : p.again = []) (hb : d.body = some body)
    (hs : p.feed? body = some (p', body')) : Within source accepted p'.rest { d with body := some body' } := by
  obtain ⟨ch, ch', rfl, rfl, hstep⟩ := Producer.feed?_eq_some hs
  have hstay (hopen : ∀ ch, d.body = some (.stream ch) → ch.reading = true) :
      left p'.rest { d with body := some (.stream ch') } = d.left p.rest ∧
        ∀ c, some (Body.stream ch') = some (.stream c) → c.reading = true := by
    have hr := hopen ch hb
    refine ⟨?_, fun c hc => ?_⟩
    · unfold left
      rw [hb]
      exact Producer.content_step hstep ha hr
    · cases hc
      rw [Producer.reading_step hstep]
      exact hr
  unfold Within at h ⊢
  dsimp only
  split at h
  · exact h
  · exact h
  · exact h
  · obtain ⟨hleft, hopen⟩ := hstay h.2
    exact ⟨hleft.symm ▸ h.1, hopen⟩
  · obtain ⟨hleft, hopen⟩ := hstay h.2
    exact ⟨hleft.symm ▸ h.1, hopen⟩

end Within

end Delivery

end

end Courier
