import Courier.Proofs.Losses
import Courier.Proofs.Stream

/-!
# A live stream on its way to the host

A chunk that the producer has got rid of goes through the queue of the stream, the unit in hand, the bytes
gathered by the relay and its queue of frames before the host has it. `Flow` says that the bytes in these
places, put together in this order, are the bytes accepted: no step of producer, copier, relay or host loses
one, doubles one or moves one past another. `Connection.Intact` carries it through a whole run, with the
frames handed over to the host as a ghost: they outlive a host that drops the body.
-/

namespace Courier

/-- What is left of the unit in hand. -/
def Copier.inHand (c : Copier) : Bytes :=
  match c.state with
  | .writing _ rest => rest
  | _ => []

def Delivery.inHand {σ : Type} (d : Delivery σ) : Bytes :=
  match d.state with
  | .copying c => c.inHand
  | _ => []

/-- All bytes accepted so far are on their way, in order. -/
structure Flow (chunks handed : List Bytes) (p : Producer) (ch : Channel) (pending inHand : Bytes) : Prop where
  fed : ch.Fed p chunks (p.accepted chunks)
  bytes : handed.flatten ++ pending ++ inHand ++ ch.current ++ ch.queue.flatten = (p.accepted chunks).flatten

/-- The producer has stopped, and nothing is left to read. -/
structure Drained (p : Producer) (ch : Channel) : Prop where
  stopped : p.stopped = true
  current : ch.current = []
  queue : ch.queue = []

theorem Drained.step? {p : Producer} {ch : Channel} (h : Drained p ch) : p.step? ch = none := by
  rw [Producer.step?, if_pos h.stopped]

namespace Flow

variable {chunks handed : List Bytes} {p p' : Producer} {ch ch' : Channel} {pending inHand : Bytes}

theorem new (chunks : List Bytes) : Flow chunks [] { rest := chunks } {} [] [] := by
  have hf := Channel.offered_new.fed chunks
  have ha := hf.accepted_eq
  exact ⟨by rw [ha]; exact hf, by rw [ha]; rfl⟩

/-- What the host was handed are the first bytes of the chunks. -/
theorem handed_initial (h : Flow chunks handed p ch pending inHand) : handed.flatten <+: chunks.flatten := by
  have hs := congrArg List.flatten h.fed.split
  rw [List.flatten_append, List.flatten_append, ← h.bytes] at hs
  rw [← hs]
  simp only [List.append_assoc]
  exact List.prefix_append ..

theorem produce (h : Flow chunks handed p ch pending inHand) (hs : p.step? ch = some (p', ch')) :
    Flow chunks handed p' ch' pending inHand := by
  obtain ⟨new, hf, hq, hc⟩ := h.fed.step hs
  have ha := hf.accepted_eq
  refine ⟨by rw [ha]; exact hf, ?_⟩
  rw [hq, hc, List.flatten_append, Channel.flatten_solid, ha, List.flatten_append, ← h.bytes]
  simp only [List.append_assoc]

theorem read {unit : Bytes} (h : Flow chunks handed p ch pending [])
    (hr : ch.read Copier.unitLimit = (.ready unit, ch')) : Flow chunks handed p ch' pending unit := by
  obtain ⟨hf, hb, -⟩ := h.fed.read (by simp [Copier.unitLimit]) hr
  refine ⟨hf, ?_⟩
  rw [← h.bytes, List.append_nil, List.append_assoc _ ch.current, ← hb]
  simp only [List.append_assoc]

theorem read_end (h : Flow chunks handed p ch pending [])
    (hr : ch.read Copier.unitLimit = (.ready [], ch')) :
    Flow chunks handed p ch' pending [] ∧ Drained p ch' := by
  obtain ⟨rfl, hc, hq, hw⟩ := Channel.read_end h.fed.queue (by simp [Copier.unitLimit]) hr
  exact ⟨h, h.fed.hasWriters hw, hc, hq⟩

theorem sent {r r' : Relay} {taken rest : Bytes} {sent : List Bytes}
    (h : Flow chunks handed p ch r.pending (taken ++ rest)) (hs : r.Sent taken sent r') :
    Flow chunks (handed ++ sent) p ch r'.pending rest := by
  refine ⟨h.fed, ?_⟩
  rw [← h.bytes, List.flatten_append, List.append_assoc handed.flatten, hs.bytes]
  simp only [List.append_assoc]

theorem flushed {r r' : Relay} {rest : Bytes} {sent : List Bytes} (h : Flow chunks handed p ch r.pending rest)
    (hs : r.Sent [] sent r') : Flow chunks (handed ++ sent) p ch r'.pending rest :=
  Flow.sent (show Flow chunks handed p ch r.pending ([] ++ rest) from h) hs

/-- When nothing is left anywhere else, the host was handed everything. -/
theorem handed_all (h : Flow chunks handed p ch [] []) (hd : Drained p ch) :
    p.accepted chunks = chunks ∧ handed.flatten = chunks.flatten := by
  have ha := h.fed.accepted_of_stopped hd.stopped
  have hb := h.bytes
  rw [hd.current, hd.queue, ha] at hb
  exact ⟨ha, by simpa using hb⟩

end Flow

/-! ### The copier -/

/-- How far a copier has carried the stream. -/
def Copying.Carries (chunks handed : List Bytes) (p : Producer) (ch : Channel) (pending : Bytes) :
    Copying → Prop
  | .reading | .flushing => Flow chunks handed p ch pending []
  | .writing _ rest => Flow chunks handed p ch pending rest
  | .closing => Flow chunks handed p ch pending [] ∧ Drained p ch
  | .done => Flow chunks handed p ch [] [] ∧ Drained p ch ∧ pending = []
  | .failed _ => handed.flatten <+: chunks.flatten

namespace Copying.Carries

variable {chunks handed : List Bytes} {p p' : Producer} {ch ch' : Channel} {pending : Bytes} {state : Copying}

theorem handed_initial (h : state.Carries chunks handed p ch pending) : handed.flatten <+: chunks.flatten := by
  match state with
  | .reading | .flushing | .writing .. => exact Flow.handed_initial h
  | .closing | .done => exact h.1.handed_initial
  | .failed _ => exact h

theorem produce (h : state.Carries chunks handed p ch pending) (hs : p.step? ch = some (p', ch')) :
    state.Carries chunks handed p' ch' pending := by
  match state with
  | .reading | .flushing | .writing .. => exact Flow.produce h hs
  | .closing => rw [h.2.step?] at hs; cases hs
  | .done => rw [h.2.1.step?] at hs; cases hs
  | .failed _ => exact h

end Copying.Carries

/-- An attempt hands over the frames `sent`, if any. -/
theorem Copier.Attempt.carries {chunks handed : List Bytes} {p : Producer} {c c' : Copier} {ch : Channel}
    {body' : Body} {r r' : Relay} (ha : c.Attempt (.stream ch) r c' body' r')
    (h : c.state.Carries chunks handed p ch r.pending) :
    ∃ sent ch', body' = .stream ch' ∧ r'.queue = r.queue ++ sent ∧ (sent ≠ [] → r.receiving = true) ∧
      c'.state.Carries chunks (handed ++ sent) p ch' r'.pending := by
  have quiet {ch' : Channel} (state : Copying) (hc : state.Carries chunks handed p ch' r.pending) :
      ∃ sent ch₁, Body.stream ch' = .stream ch₁ ∧ r.queue = r.queue ++ sent ∧
        (sent ≠ [] → r.receiving = true) ∧ state.Carries chunks (handed ++ sent) p ch₁ r.pending :=
    ⟨[], ch', rfl, by simp, by simp, by simpa using hc⟩
  have lost (fault : Fault) : (Copying.failed fault).Carries chunks handed p ch r.pending := h.handed_initial
  cases ha with
  | unit hc hr =>
    obtain ⟨_, ch', he, hs, rfl⟩ := Body.read_stream hr
    cases he
    rw [hc] at h
    exact quiet (.writing _ _) (Flow.read h hs)
  | ended hc hr =>
    obtain ⟨_, ch', he, hs, rfl⟩ := Body.read_stream hr
    cases he
    rw [hc] at h
    exact quiet (.closing) (Flow.read_end h hs)
  | readAgain hc hr | readLost hc hr =>
    cases Body.isStream_of_read_error hr
  | notReady _ _ hs => cases hs
  | @written size n rest next hc hw =>
    obtain ⟨sent, hs, -⟩ := Relay.write_ok hw
    rw [hc] at h
    have hflow : Flow chunks handed p ch r.pending (rest.take n ++ rest.drop n) := by
      rw [List.take_append_drop]
      exact h
    exact ⟨sent, ch, rfl, by rw [hs.frame], hs.receiving, hflow.sent hs⟩
  | @unitDone size n rest next hc hw hn hl =>
    obtain ⟨sent, hs, -⟩ := Relay.write_ok hw
    rw [hc] at h
    have hflow : Flow chunks handed p ch r.pending (rest.take n ++ []) := by
      rw [← hl, List.take_append_drop]
      exact h
    refine ⟨sent, ch, rfl, by rw [hs.frame], hs.receiving, ?_⟩
    unfold afterUnit
    dsimp only
    split <;> exact hflow.sent hs
  | stuck hc hw =>
    obtain ⟨sent, hs, -⟩ := Relay.write_ok hw
    rw [hc] at h
    exact ⟨sent, ch, rfl, by rw [hs.frame], hs.receiving, (Flow.flushed h hs).handed_initial⟩
  | writeAgain hc hw =>
    rw [(Relay.write_error hw).2]
    exact quiet _ h
  | writeLost hc hw =>
    rw [(Relay.write_error hw).2]
    exact quiet (.failed _) h.handed_initial
  | flushed hc hw =>
    obtain ⟨sent, hs, -⟩ := Relay.sendPending_ok hw
    rw [hc] at h
    exact ⟨sent, ch, rfl, by rw [hs.frame], hs.receiving, Flow.flushed h hs⟩
  | closed hc hw =>
    obtain ⟨sent, hs, hp⟩ := Relay.sendPending_ok hw
    rw [hc] at h
    have hflow := h.1.flushed hs
    rw [hp] at hflow
    exact ⟨sent, ch, rfl, by rw [hs.frame], hs.receiving, hflow, h.2, hp⟩
  | flushLost hc hw =>
    rw [(Relay.sendPending_error hw).2]
    exact quiet (.failed _) h.handed_initial

/-! ### The connection -/

/-- How far a delivery has carried the stream. A body that is released forgets what is in it. -/
def Delivery.Carries (chunks handed : List Bytes) (p : Producer) (ch : Channel) (d : Delivery Relay) : Prop :=
  match d.state with
  | .awaiting | .opening _ => Flow chunks handed p ch d.sink.pending []
  | .copying c => c.state.Carries chunks handed p ch d.sink.pending
  | .diagnosing _ _ => handed.flatten <+: chunks.flatten
  | .finished => handed.flatten <+: chunks.flatten ∧ (d.events = [] →
      Drained p ch ∧ d.sink.pending = [] ∧ p.accepted chunks = chunks ∧ handed.flatten = chunks.flatten)

namespace Delivery.Carries

variable {chunks handed : List Bytes} {p p' : Producer} {ch ch' : Channel} {d d' : Delivery Relay}

theorem handed_initial (h : d.Carries chunks handed p ch) : handed.flatten <+: chunks.flatten := by
  unfold Carries at h
  split at h
  · exact h.handed_initial
  · exact h.handed_initial
  · exact h.handed_initial
  · exact h
  · exact h.1

theorem produce (h : d.Carries chunks handed p ch) (hs : p.step? ch = some (p', ch')) :
    d.Carries chunks handed p' ch' := by
  unfold Carries at h ⊢
  split at h
  · exact h.produce hs
  · exact h.produce hs
  · exact h.produce hs
  · exact h
  · refine ⟨h.1, fun he => ?_⟩
    rw [(h.2 he).1.step?] at hs
    cases hs

theorem advance {o : Opening} (h : d.Carries chunks handed p ch) (hs : d.Serving o) (hc : d.sink.Coherent)
    (hb : d.body = some (.stream ch)) (ha : d.Advance d') :
    ∃ sent ch', d'.body = some (.stream ch') ∧ d'.sink.queue = d.sink.queue ++ sent ∧
      (sent ≠ [] → d.sink.receiving = true) ∧ d'.Carries chunks (handed ++ sent) p ch' := by
  have quiet {d' : Delivery Relay} (ch' : Channel) (hb : d'.body = some (.stream ch'))
      (hq : d'.sink.queue = d.sink.queue) (hc : d'.Carries chunks handed p ch') :
      ∃ sent ch₁, d'.body = some (.stream ch₁) ∧ d'.sink.queue = d.sink.queue ++ sent ∧
        (sent ≠ [] → d.sink.receiving = true) ∧ d'.Carries chunks (handed ++ sent) p ch₁ :=
    ⟨[], ch', hb, by simpa using hq, by simp, by simpa using hc⟩
  have hp := h.handed_initial
  cases ha with
  | headLost hd hw =>
    obtain ⟨-, rfl⟩ := hs.head_lost hc hd hw
    exact quiet ch hb rfl hp
  | headSent hd hw =>
    obtain ⟨-, rfl⟩ := hs.head_sent hd hw
    unfold Carries at h
    rw [hd] at h
    exact quiet ch hb rfl h
  | headOnly hd hw hn => rw [hb] at hn; cases hn
  | copy hd hb' ha =>
    rw [hb] at hb'
    cases hb'
    unfold Carries at h
    rw [hd] at h
    obtain ⟨sent, ch', rfl, hq, hr, hcarry⟩ := ha.carries h
    exact ⟨sent, ch', rfl, hq, hr, hcarry⟩
  | copied hd hcs =>
    unfold Carries at h
    rw [hd] at h
    dsimp only at h
    rw [hcs] at h
    obtain ⟨hflow, hdrain, hpend⟩ := h
    refine quiet ch.dropReader (by simp [finish, hb, Body.release]) rfl ⟨hp, fun _ => ?_⟩
    exact ⟨⟨hdrain.stopped, rfl, rfl⟩, hpend, hflow.handed_all hdrain⟩
  | copyLost hd hcs => exact quiet ch.dropReader (by simp [hb, Body.release]) rfl hp
  | report hd hf =>
    refine quiet ch.dropReader (by simp [finish, hb, Body.release]) rfl ⟨hp, fun he => ?_⟩
    simp [finish] at he

end Delivery.Carries

namespace Connection

/-- A stream is carried to the host, which has been handed the frames `handed` and shows them while it
holds the body. -/
structure Carrying (chunks handed : List Bytes) (p : Producer) (ch : Channel) (c : Connection) : Prop where
  producer : c.producer = some p
  body : c.delivery.body = some (.stream ch)
  carries : c.delivery.Carries chunks handed p ch
  shown : c.frames ++ c.relay.queue <+: handed
  held : c.relay.isHeld = true → c.frames ++ c.relay.queue = handed

def Intact (chunks : List Bytes) (c : Connection) : Prop := ∃ handed p ch, c.Carrying chunks handed p ch

theorem intact_answered (request : Request) (response : Response) (chunks : List Bytes) :
    (answered request (response.withBody (.stream {})) chunks).Intact chunks :=
  ⟨[], _, _, rfl, rfl, Flow.new chunks, List.nil_prefix, fun _ => rfl⟩

theorem Effect.intact {o : Opening} {chunks : List Bytes} {c c' : Connection} (he : c.Effect c')
    (hc : c.relay.Coherent) (hs : c.Serving o) (h : c.Intact chunks) : c'.Intact chunks := by
  obtain ⟨handed, p, ch, h⟩ := h
  cases he with
  | answer ha => exact absurd ha hs.delivery.not_awaiting
  | deliver ha hp hf =>
    obtain ⟨sent, ch', hb, hq, hr, hcarry⟩ := h.carries.advance hs.delivery hc h.body ha
    have hq : c'.relay.queue = c.relay.queue ++ sent := hq
    refine ⟨handed ++ sent, p, ch', hp.trans h.producer, hb, hcarry, ?_, fun hh => ?_⟩
    · rw [hf, hq, ← List.append_assoc]
      by_cases hsent : sent = []
      · rw [hsent, List.append_nil, List.append_nil]
        exact h.shown
      · have hall := h.held (hc.isHeld_of_receiving (hr hsent))
        exact ⟨[], by rw [List.append_nil, hall]⟩
    · rw [hf, hq, ← List.append_assoc, h.held ((hs.delivery.advance_held hc ha).2.2 hh)]
  | produce hp hb hstep hp' hd hf =>
    rw [h.producer] at hp
    cases hp
    rw [h.body] at hb
    cases hb
    have hr : c'.relay = c.relay := (congrArg Delivery.sink hd :)
    have hcarry := h.carries.produce hstep
    refine ⟨handed, _, _, hp', by rw [hd], ?_, ?_, ?_⟩
    · rw [hd]; exact hcarry
    · rw [hf, hr]; exact h.shown
    · rw [hf, hr]; exact h.held
  | @host got hh hd hp hf =>
    have hfr := hh.frame
    have hpend : c'.relay.pending = c.relay.pending := by rw [hfr]
    refine ⟨handed, p, ch, hp.trans h.producer, by rw [hd]; exact h.body, ?_, ?_, fun hheld => ?_⟩
    · have hcarry := h.carries
      rw [hd]
      unfold Delivery.Carries at hcarry ⊢
      dsimp only
      rw [hpend]
      exact hcarry
    · rw [hf, List.append_assoc]
      exact ((List.prefix_append_right_inj c.frames).2 hh.queue).trans h.shown
    · obtain ⟨hheld, hq⟩ := hh.held hheld
      rw [hf, List.append_assoc, hq, h.held hheld]
  | quiet hd hp hf =>
    have hr : c'.relay = c.relay := (congrArg Delivery.sink hd :)
    refine ⟨handed, p, ch, hp.trans h.producer, by rw [hd]; exact h.body, by rw [hd]; exact h.carries, ?_, ?_⟩
    · rw [hf, hr]; exact h.shown
    · rw [hf, hr]; exact h.held

namespace Carrying

variable {o : Opening} {chunks handed : List Bytes} {p : Producer} {ch : Channel} {c : Connection}

theorem bytes_of_held (h : c.Carrying chunks handed p ch) (hs : c.Serving o) (he : c.delivery.Excused none)
    (hh : c.relay.isHeld = true) :
    c.frames.flatten ++ c.relay.queue.flatten ++ c.relay.pending ++ c.delivery.inHand ++ ch.current ++
      ch.queue.flatten = (p.accepted chunks).flatten := by
  have hflow {pending inHand : Bytes} (hf : Flow chunks handed p ch pending inHand) :
      c.frames.flatten ++ c.relay.queue.flatten ++ pending ++ inHand ++ ch.current ++ ch.queue.flatten =
        (p.accepted chunks).flatten := by
    rw [← List.flatten_append, h.held hh]
    exact hf.bytes
  have lost (fault : Fault) (hl : none = some fault ∨ c.relay.isHeld = false) : False := by
    rcases hl with hl | hl
    · cases hl
    · rw [hh] at hl; cases hl
  have hcarry := h.carries
  have hfits := hs.delivery.fits
  have hexc := he
  unfold Delivery.Carries at hcarry
  unfold Delivery.Excused at hexc
  unfold Delivery.inHand
  split at hcarry
  · rename_i hd
    rw [hd]
    exact hflow hcarry
  · rename_i hd
    rw [hd]
    exact hflow hcarry
  · rename_i copier hd
    rw [hd] at hexc ⊢
    dsimp only at hexc ⊢
    unfold Copier.inHand
    cases hcs : copier.state with
    | reading | flushing | writing =>
      rw [hcs] at hcarry
      exact hflow hcarry
    | closing =>
      rw [hcs] at hcarry
      exact hflow hcarry.1
    | done =>
      rw [hcs] at hcarry
      have hpend : c.relay.pending = [] := hcarry.2.2
      rw [hpend]
      exact hflow hcarry.1
    | failed fault =>
      rw [hcs] at hexc
      exact (lost _ hexc).elim
  · rename_i lostPart fault hd
    rw [hd] at hexc hfits
    match lostPart with
    | .head => exact (lost fault (.inr hfits)).elim
    | .body _ _ => exact (lost _ hexc).elim
  · rename_i hd
    obtain ⟨hdrain, hpend, hacc, hall⟩ := hcarry.2 (he.events_eq_nil hd hh)
    have hpend : c.relay.pending = [] := hpend
    rw [hd, hpend, hdrain.current, hdrain.queue, hacc, ← List.flatten_append, h.held hh, hall]
    simp

end Carrying

/-- The run of a live stream. While the host holds the body, the bytes that it has got and those on their
way are the bytes of the chunks accepted, in order. When the delivery is finished and has logged nothing,
the host was handed all chunks; some are missing only if it has dropped them. And the host finds the end
of the body behind the last of them. -/
theorem stream_run {request : Request} {response : Response} {chunks : List Bytes} {moves : List Move}
    {c : Connection} (hr : (answered request (response.withBody (.stream {})) chunks).run? moves = some c)
    (hb : c.isBroken = false) :
    ∃ p ch, c.producer = some p ∧ c.delivery.body = some (.stream ch) ∧
      (c.relay.isHeld = true →
        c.frames.flatten ++ c.relay.queue.flatten ++ c.relay.pending ++ c.delivery.inHand ++ ch.current ++
          ch.queue.flatten = (p.accepted chunks).flatten) ∧
      (c.delivery.isFinished = true → c.delivery.events = [] →
        p.accepted chunks = chunks ∧ ∃ dropped, (c.relay.isHeld = true → dropped = []) ∧
          c.frames.flatten ++ c.relay.queue.flatten ++ dropped = chunks.flatten) ∧
      (c.relay.hosted.isSome = true →
        (c.relay.takeFrame.1 = .ended ↔ c.delivery.isFinished = true ∧ c.relay.queue = []) ∧
        (c.relay.takeFrame.1 = .ended → c.frames.flatten = chunks.flatten)) := by
  have he := excused_run hr hb
  obtain ⟨hc, hs, handed, p, ch, h⟩ :=
    run?_induction (P := fun c => c.Serving _ ∧ c.Intact chunks)
      (fun _ _ hc h he => ⟨h.1.step hc he, he.intact hc h.1 h.2⟩) moves (coherent_answered ..)
      ⟨serving_answered .., intact_answered request response chunks⟩ hr hb
  have hall (hf : c.delivery.isFinished = true) (hev : c.delivery.events = []) :
      p.accepted chunks = chunks ∧ handed.flatten = chunks.flatten := by
    have hcarry := h.carries
    unfold Delivery.Carries at hcarry
    rw [Delivery.Serving.isFinished_iff.1 hf] at hcarry
    exact (hcarry.2 hev).2.2
  refine ⟨p, ch, h.producer, h.body, h.bytes_of_held hs he, fun hf hev => ?_, fun hhost => ?_⟩
  · obtain ⟨hacc, hhand⟩ := hall hf hev
    obtain ⟨dropped, hshown⟩ := h.shown
    refine ⟨hacc, dropped.flatten, fun hh => ?_, ?_⟩
    · have := h.held hh
      rw [← hshown] at this
      rw [List.append_right_eq_self.1 this.symm]
      rfl
    · rw [← hhand, ← hshown]
      simp only [List.flatten_append]
  · have hiff := hs.ended_iff hc (by simp [Response.opening, Response.framing, Response.isStreaming,
      Response.withBody, Body.isStream]) hhost
    refine ⟨hiff, fun hend => ?_⟩
    obtain ⟨hf, hq⟩ := hiff.1 hend
    have hh : c.relay.isHeld = true := by simp [Relay.isHeld, hhost]
    have hev := he.events_eq_nil (Delivery.Serving.isFinished_iff.1 hf) hh
    have := h.held hh
    rw [hq, List.append_nil] at this
    rw [this]
    exact (hall hf hev).2

/-- A run in which the host gets a first chunk while a second one waits to be written. -/
def twoChunks : List Move :=
  [.request .deliver, .takeHead, .request .produce, .request .produce, .request .deliver, .request .produce,
    .request .produce, .request .deliver, .request .deliver, .request .deliver, .takeFrame,
    .request .deliver, .request .deliver, .request .produce, .request .deliver, .takeFrame,
    .request .deliver, .request .deliver]

theorem stream_run_twoChunks :
    ∃ c, (answered {} (Response.withBody {} (.stream {})) [[97], [98, 99]]).run? twoChunks = some c ∧
      c.isBroken = false ∧ c.relay.takeFrame.1 = .ended ∧ c.frames.flatten = [97, 98, 99] := by
  have hrun : ((answered {} (Response.withBody {} (.stream {})) [[97], [98, 99]]).run? twoChunks).map
      (fun c => (c.isBroken, c.relay.hosted.isSome, c.relay.takeFrame.1)) = some (false, true, .ended) := by
    decide +kernel
  obtain ⟨c, hc, hfacts⟩ := Option.map_eq_some_iff.1 hrun
  simp only [Prod.mk.injEq] at hfacts
  obtain ⟨hb, hh, he⟩ := hfacts
  obtain ⟨_, _, -, -, -, -, hend⟩ := stream_run hc hb
  exact ⟨c, hc, hb, he, (hend hh).2 he⟩

end Connection

end Courier
