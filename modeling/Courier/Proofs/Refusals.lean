import Courier.Proofs.Accepted
import Courier.Proofs.Losses
import Courier.Proofs.Progress

/-!
# Which drops are noticed

A relay gathers what is written to it, and asks for its other end only when it has to send: behind a unit of a
streamed body, at the end of a body that does not fail, and when more bytes come than one frame holds. A copy
whose body gives no occasion for this does not come to know that the host has dropped it
(`Connection.accounted_run`).
-/

namespace Courier

/-- Whether a copy of the body has bytes to send at some time, so that it can come to know of a drop. -/
def Body.NoticesDrop (chunks : List Bytes) (streaming : Bool) (body : Body) : Prop :=
  body.content chunks ≠ [] ∧
    (body.fault? = none ∨ streaming = true ∨ Relay.frameLimit < (body.content chunks).length)

namespace Relay

variable {r r' : Relay} {bytes : Bytes}

/-- A write fails only when a frame is full. -/
theorem write_error_full {fault : Fault} (h : r.write bytes = (.ready (.error fault), r')) :
    frameLimit ≤ r.pending.length := by
  unfold write at h
  split at h
  · assumption
  · cases h

/-- At most what was accepted is waiting to be sent. -/
theorem attempt_pending_le {c c' : Copier} {body body' : Body} {accepted : Bytes}
    (ha : c.Attempt body r c' body' r') (h : r.pending.length ≤ accepted.length) :
    r'.pending.length ≤ (accepted ++ (c.call? body r).toList.flatMap Delivery.Call.accepted).length := by
  have hsame (hp : r'.pending.length ≤ r.pending.length) :
      r'.pending.length ≤ (accepted ++ (c.call? body r).toList.flatMap Delivery.Call.accepted).length := by
    rw [List.length_append]
    omega
  have hwrite {size n : Nat} {rest : Bytes} (hc : c.state = .writing size rest)
      (hw : r.write rest = (.ready (.ok n), r')) :
      r'.pending.length ≤ (accepted ++ (c.call? body r).toList.flatMap Delivery.Call.accepted).length := by
    obtain ⟨sent, hs, -⟩ := write_ok hw
    have hcall : (c.call? body r).toList.flatMap Delivery.Call.accepted = rest.take n := by
      simp [Copier.call?, hc, show ResponseSink.write r rest = (.ready (.ok n), r') from hw, Delivery.Call.accepted,
        SinkCall.accepted]
    have hlength := congrArg List.length hs.bytes
    simp only [List.length_append] at hlength
    rw [hcall, List.length_append]
    omega
  cases ha with
  | unit | ended | readAgain | readLost | notReady => exact hsame (Nat.le_refl _)
  | written hc hw | unitDone hc hw | stuck hc hw => exact hwrite hc hw
  | writeAgain _ hw | writeLost _ hw => exact hsame (Nat.le_of_eq (by rw [(write_error hw).2]))
  | flushed _ hw | closed _ hw =>
    obtain ⟨-, -, hp⟩ := sendPending_ok hw
    exact hsame (by simp [hp])
  | flushLost _ hw => exact hsame (Nat.le_of_eq (by rw [(sendPending_error hw).2]))

end Relay

/-! ### The copier -/

/-- What a copy fails for: a fault of the body, or a drop that it can notice. -/
def Copier.Explained (chunks : List Bytes) (source : Body) (streaming : Bool) (c : Copier) : Prop :=
  c.discipline = .ofStreaming streaming ∧ (c.state = .flushing → streaming = true) ∧
    ∀ fault, c.state = .failed fault → source.fault? = some fault ∨ source.NoticesDrop chunks streaming

theorem Copier.Attempt.explained {chunks rest : List Bytes} {source : Body} {streaming held : Bool} {c c' : Copier}
    {body body' : Body} {r r' : Relay} {accepted : Bytes} (ha : c.Attempt body r c' body' r') (hrest : c.HasRest)
    (hw : c.state.Within (source.content chunks) accepted (body.content rest))
    (hp : r.pending.length ≤ accepted.length) (he : c.state.Excused source.fault? body.fault? held)
    (h : c.Explained chunks source streaming) : c'.Explained chunks source streaming := by
  obtain ⟨hd, hflushing, hfailed⟩ := h
  -- what waits to be sent is of the content
  have hcontent (hne : r.pending ≠ []) : source.content chunks ≠ [] := by
    have hle := hw.initial.length_le
    have hpos := List.length_pos_iff.2 hne
    exact List.ne_nil_of_length_pos (by omega)
  cases ha with
  | unit | ended | written | flushed | closed => exact ⟨hd, nofun, nofun⟩
  | readAgain | notReady | writeAgain => exact ⟨hd, hflushing, hfailed⟩
  | readLost hc hr hf =>
    refine ⟨hd, nofun, fun fault hfault => .inl ?_⟩
    cases hfault
    rw [hc] at he
    exact he.symm.trans (by rw [Body.fault?_read hr]; simp [Body.faultBehind, hf])
  | unitDone =>
    refine ⟨hd, fun hstate => ?_, fun fault hstate => ?_⟩
    · cases streaming with
      | true => rfl
      | false => simp [afterUnit, hd, Discipline.ofStreaming] at hstate
    · unfold afterUnit at hstate
      dsimp only at hstate
      split at hstate <;> cases hstate
  | stuck hc hwrite =>
    obtain ⟨-, -, -, hpos⟩ := Relay.write_ok hwrite
    exact absurd (hpos (hrest _ _ hc)) (Nat.lt_irrefl 0)
  | writeLost hc hwrite =>
    refine ⟨hd, nofun, fun _ _ => .inr ⟨hcontent (Relay.write_error hwrite).1.pending, .inr (.inr ?_)⟩⟩
    have hfull := Relay.write_error_full hwrite
    have hpos := List.length_pos_iff.2 (hrest _ _ hc)
    rw [hc] at hw
    have hlength := congrArg List.length (show accepted ++ _ ++ _ = source.content chunks from hw)
    simp only [List.length_append] at hlength
    omega
  | flushLost hc hwrite =>
    refine ⟨hd, nofun, fun _ _ => .inr ⟨hcontent (Relay.sendPending_error hwrite).1.pending, ?_⟩⟩
    rcases hc with hc | hc
    · exact .inr (.inl (hflushing hc))
    · rw [hc] at he
      exact .inl he

/-! ### The delivery -/

theorem Relay.pending_writeHead (r : Relay) (status : Status) (framing : Framing) :
    (r.writeHead status framing).2.pending = r.pending := by
  unfold writeHead
  split
  · rfl
  · dsimp only
    split <;> rfl

theorem Relay.advance_pending_le {d d' : Delivery Relay} {accepted : Bytes} (ha : d.Advance d')
    (h : d.sink.pending.length ≤ accepted.length) :
    d'.sink.pending.length ≤ (accepted ++ d.call?.toList.flatMap Delivery.Call.accepted).length := by
  have hsame (hp : d'.sink.pending = d.sink.pending) :
      d'.sink.pending.length ≤ (accepted ++ d.call?.toList.flatMap Delivery.Call.accepted).length := by
    rw [hp, List.length_append]
    omega
  have hhead {o : Opening} {answer : Except Fault Unit} {sink : Relay}
      (hw : ResponseSink.writeHead (d.dressed o) o.status o.framing = (answer, sink)) :
      sink.pending = d.sink.pending := by
    have := (d.dressed o).pending_writeHead o.status o.framing
    rwa [show (d.dressed o).writeHead o.status o.framing = (answer, sink) from hw] at this
  cases ha with
  | headLost _ hw | headSent _ hw => exact hsame (hhead hw)
  | headOnly _ hw =>
    have hp := hhead hw
    exact hsame hp
  | copy hd hb ha =>
    rw [Delivery.call?_of_copying hd hb]
    exact attempt_pending_le ha h
  | copied | copyLost | report => exact hsame rfl

def Delivery.Explained (chunks : List Bytes) (source : Body) (streaming : Bool) (d : Delivery Relay) : Prop :=
  match d.state with
  | .copying c => c.Explained chunks source streaming
  | .diagnosing (.body ..) fault => source.fault? = some fault ∨ source.NoticesDrop chunks streaming
  | .awaiting | .opening _ | .diagnosing .head _ | .finished => True

theorem Delivery.Advance.explained {chunks rest : List Bytes} {source : Body} {o : Opening} {d d' : Delivery Relay}
    {accepted : Bytes} (ha : d.Advance d') (hs : d.Serving o)
    (hw : d.Within (source.content chunks) accepted rest) (hp : d.sink.pending.length ≤ accepted.length)
    (he : d.Excused source.fault?) (h : d.Explained chunks source o.streaming) :
    d'.Explained chunks source o.streaming := by
  have hfits := hs.fits
  unfold Explained at h
  unfold Excused at he
  unfold Within left at hw
  cases ha with
  | headLost | headOnly | copied | report => trivial
  | headSent hd =>
    obtain ⟨rfl, -⟩ := hs.of_opening hd
    exact ⟨rfl, nofun, nofun⟩
  | copy hd hb ha =>
    rw [hd] at hfits h
    rw [hd, hb] at he hw
    exact ha.explained hfits.2.2 hw.1 hp he h
  | copyLost hd hc =>
    rw [hd] at h
    exact h.2.2 _ hc

/-! ### The connection -/

namespace Connection

structure Accounted (chunks : List Bytes) (source : Body) (streaming : Bool) (c : Connection) : Prop where
  explained : c.delivery.Explained chunks source streaming
  gathered : ∃ p accepted, c.producer = some p ∧ p.again = [] ∧
    c.delivery.Within (source.content chunks) accepted p.rest ∧ c.relay.pending.length ≤ accepted.length

variable {chunks : List Bytes} {source : Body} {c c' : Connection} {o : Opening}

theorem Effect.accounted (hf : c.Effect c') (hs : c.Serving o) (he : c.delivery.Excused source.fault?)
    (h : c.Accounted chunks source o.streaming) : c'.Accounted chunks source o.streaming := by
  obtain ⟨hexplained, p, accepted, hp, hagain, hwithin, hpending⟩ := h
  cases hf with
  | answer ha => exact absurd ha hs.delivery.not_awaiting
  | deliver ha hp' =>
    exact ⟨ha.explained hs.delivery hwithin hpending he hexplained,
      p, _, hp'.trans hp, hagain, hwithin.advance ha, Relay.advance_pending_le ha hpending⟩
  | produce hq hb hstep hp' hd =>
    rw [hp] at hq
    cases hq
    refine ⟨?_, _, accepted, hp', (Producer.load_lt hstep hagain).1, ?_, ?_⟩
    · rw [hd]
      exact hexplained
    · rw [hd]
      exact hwithin.feed hagain hb (by simp [Producer.feed?, hstep])
    · rw [show c'.relay = c.relay from (congrArg Delivery.sink hd :)]
      exact hpending
  | host hhost hd hp' =>
    refine ⟨?_, p, accepted, hp'.trans hp, hagain, ?_, ?_⟩
    · rw [hd]
      exact hexplained
    · rw [hd]
      exact hwithin
    · rw [hhost.frame]
      exact hpending
  | quiet hd hp' =>
    refine ⟨hd ▸ hexplained, p, accepted, hp'.trans hp, hagain, hd ▸ hwithin, ?_⟩
    rw [show c'.relay = c.relay from (congrArg Delivery.sink hd :)]
    exact hpending

theorem accounted_run {request : Request} {response : Response} {moves : List Move}
    (hn : ∀ ch, response.body = some (.stream ch) → ch.reading = true)
    (hr : (answered request response chunks).run? moves = some c) (hu : c.isBroken = false) :
    c.Accounted chunks (response.body.getD (.bytes [])) response.isStreaming := by
  have hstart : (answered request response chunks).Accounted chunks (response.body.getD (.bytes []))
      response.isStreaming := by
    refine ⟨trivial, { rest := chunks }, [], rfl, rfl, ⟨?_, hn⟩, Nat.le_refl _⟩
    show (response.body.map (Body.content chunks)).getD [] = _
    cases response.body <;> rfl
  have hexcused : (answered request response chunks).delivery.Excused (response.body.getD (.bytes [])).fault? := by
    show response.body.bind Body.fault? = _
    cases response.body <;> rfl
  refine (run?_induction (P := fun c => c.Serving response.opening ∧
    c.delivery.Excused (response.body.getD (.bytes [])).fault? ∧
    c.Accounted chunks (response.body.getD (.bytes [])) response.isStreaming) (fun _ _ hc h he => ?_) moves
    (coherent_answered ..) ⟨serving_answered request response chunks, hexcused, hstart⟩ hr hu).2.2.2
  exact ⟨h.1.step hc he, he.excused hc h.1 h.2.1, he.accounted h.1 h.2.1 h.2.2⟩

end Connection

end Courier
