import Courier.Proofs.Moves

/-!
# A response on its connection

`Connection.Serving` holds from the moment the service has answered: head and body that the host sees
are those of the response, what the delivery does next and what the relay is ready for fit together, and
nothing is logged before the delivery is finished. Every effect keeps it (`Serving.step`), so it holds
after every run (`serving_run`).
-/

namespace Courier

/-- The head that is sent for an opening. -/
def Opening.head (o : Opening) : Head :=
  Relay.headOf { headers := Headers.copyFields [] o.headers } o.status o.framing

namespace Relay

/-- What a relay is ready for when the delivery has come so far. -/
def Fits (o : Opening) (r : Relay) : Delivering → Prop
  | .awaiting => False
  | .opening o' => o' = o ∧ r.headDue = true ∧ r.headers = [] ∧ r.pending = []
  | .copying c => r.slot ≠ .empty ∧ r.sending = true ∧ c.HasRest
  | .diagnosing .head _ => r.isHeld = false
  | .diagnosing (.body _ _) _ => r.slot ≠ .empty ∧ r.sending = true
  | .finished => r.sending = false

variable {o : Opening} {r r' : Relay}

theorem HostStep.slot_ne {got : List Bytes} (h : r.HostStep got r') (hs : r.slot ≠ .empty) :
    r'.slot ≠ .empty := by
  rcases h.slot with h' | h' <;> rw [h']
  · exact hs
  · simp

theorem HostStep.not_held {got : List Bytes} (h : r.HostStep got r') (hs : r.isHeld = false) :
    r'.isHeld = false := by
  cases hh : r'.isHeld with
  | false => rfl
  | true => rw [(h.held hh).1] at hs; cases hs

theorem HostStep.fits {got : List Bytes} {state : Delivering} (h : r.HostStep got r')
    (hf : r.Fits o state) : r'.Fits o state := by
  have hfr := h.frame
  match state with
  | .awaiting => exact hf
  | .opening o' => rw [hfr]; exact hf
  | .copying c => exact ⟨h.slot_ne hf.1, by rw [hfr]; exact hf.2.1, hf.2.2⟩
  | .diagnosing .head _ => exact h.not_held hf
  | .diagnosing (.body _ _) _ => exact ⟨h.slot_ne hf.1, by rw [hfr]; exact hf.2⟩
  | .finished => rw [hfr]; exact hf

/-- The copier touches the bytes under way and nothing else. -/
theorem attempt_frame {c c' : Copier} {body body' : Body} (ha : c.Attempt body r c' body' r') :
    r' = { r with queue := r'.queue, pending := r'.pending } := by
  have hw {bytes : Bytes} {answer : Except Fault Nat} (h : r.write bytes = (.ready answer, r')) :
      r' = { r with queue := r'.queue, pending := r'.pending } := by
    match answer with
    | .ok n =>
      obtain ⟨sent, hs, -⟩ := write_ok h
      rw [hs.frame]
    | .error fault => rw [(write_error h).2]
  have hf {answer : Except Fault Unit} (h : r.sendPending = (.ready answer, r')) :
      r' = { r with queue := r'.queue, pending := r'.pending } := by
    match answer with
    | .ok () =>
      obtain ⟨sent, hs, -⟩ := sendPending_ok h
      rw [hs.frame]
    | .error fault => rw [(sendPending_error h).2]
  cases ha with
  | unit | ended | readAgain | readLost | notReady => rfl
  | written _ h | unitDone _ h | stuck _ h | writeAgain _ h | writeLost _ h => exact hw h
  | flushed _ h | closed _ h | flushLost _ h => exact hf h

/-- A head that is lost is lost because the host does not want it. -/
theorem writeHead_error {status : Status} {framing : Framing} {fault : Fault} (hc : r.Coherent)
    (hd : r.headDue = true) (h : r.writeHead status framing = (.error fault, r')) :
    r.isHeld = false ∧ r' = r.headLost framing := by
  by_cases hs : r.slot = .given
  · rw [writeHead_of_given status framing hd hs] at h
    cases h
    exact ⟨by simp [isHeld, hs, (hc.due hd).2.1], rfl⟩
  · rw [writeHead_of_due status framing hd hs] at h
    cases h

theorem writeHead_ok {status : Status} {framing : Framing} (hd : r.headDue = true)
    (h : r.writeHead status framing = (.ok (), r')) :
    r.slot ≠ .given ∧ r' = r.withHead (r.headOf status framing) := by
  by_cases hs : r.slot = .given
  · rw [writeHead_of_given status framing hd hs] at h
    cases h
  · rw [writeHead_of_due status framing hd hs] at h
    cases h
    exact ⟨hs, rfl⟩

end Relay

/-! ### The delivery -/

namespace Delivery

/-- A delivery over a relay, and what the relay shows of it. -/
structure Serving (o : Opening) (d : Delivery Relay) : Prop where
  fits : d.sink.Fits o d.state
  slot : ∀ head, d.sink.slot = .full head → head = o.head
  hosted : ∀ b, d.sink.hosted = some b → b = if o.framing = .empty then .blank else .frames
  body : d.body.isSome = decide (o.framing ≠ .empty)
  silent : d.isFinished = false → d.events = []

namespace Serving

variable {o : Opening} {d d' : Delivery Relay}

theorem isFinished_iff : d.isFinished = true ↔ d.state = .finished := by
  simp [isFinished]

theorem silent_of (h : d.Serving o) (hs : d.state ≠ .finished) : d.events = [] :=
  h.silent (by simpa [isFinished] using hs)

theorem not_awaiting (h : d.Serving o) : d.state ≠ .awaiting := by
  intro hd
  have hf := h.fits
  rw [hd] at hf
  exact hf

/-- The head goes out, or the host does not want it. -/
theorem of_opening {o' : Opening} (h : d.Serving o) (hd : d.state = .opening o') :
    o' = o ∧ (d.dressed o').headDue = true ∧ d.sink.pending = [] ∧
      (d.dressed o').headOf o'.status o'.framing = o.head := by
  have hf := h.fits
  rw [hd] at hf
  obtain ⟨rfl, hdue, hh, hp⟩ := hf
  refine ⟨rfl, hdue, hp, ?_⟩
  show Relay.headOf { d.sink with headers := d.sink.headers.copyFields o'.headers } _ _ = _
  rw [hh]
  rfl

theorem head_lost {o' : Opening} {fault : Fault} {sink : Relay} (h : d.Serving o) (hc : d.sink.Coherent)
    (hd : d.state = .opening o')
    (hw : ResponseSink.writeHead (d.dressed o') o'.status o'.framing = (.error fault, sink)) :
    d.sink.isHeld = false ∧ sink = (d.dressed o').headLost o'.framing := by
  have hcd : (d.dressed o').Coherent := hc.setHeaders _
  have hl := Relay.writeHead_error hcd (h.of_opening hd).2.1 hw
  exact hl

theorem head_sent {o' : Opening} {sink : Relay} (h : d.Serving o) (hd : d.state = .opening o')
    (hw : ResponseSink.writeHead (d.dressed o') o'.status o'.framing = (.ok (), sink)) :
    d.sink.slot ≠ .given ∧ sink = (d.dressed o').withHead o.head := by
  obtain ⟨-, hdue, -, ho⟩ := h.of_opening hd
  rw [← ho]
  exact Relay.writeHead_ok hdue hw

/-- A body that is still held can still be received. -/
theorem receiving (h : d.Serving o) (hc : d.sink.Coherent) (hb : d.body.isSome = true)
    (hs : d.sink.slot ≠ .empty) (hh : d.sink.isHeld = true) : d.sink.receiving = true := by
  have hf : o.framing ≠ .empty := by
    have := h.body
    rw [hb] at this
    simpa using this.symm
  cases hslot : d.sink.slot with
  | empty => exact absurd hslot hs
  | full head =>
    have hr := hc.receiving_of_full head hslot
    rw [h.slot head hslot] at hr
    simpa [Opening.head, Relay.headOf, hf] using hr
  | given =>
    have hheld : d.sink.hosted.isSome = true := by simpa [Relay.isHeld, hslot] using hh
    obtain ⟨b, hb⟩ := Option.isSome_iff_exists.1 hheld
    have := h.hosted b hb
    rw [if_neg hf] at this
    exact hc.receiving_of_frames (this ▸ hb)

theorem advance (h : d.Serving o) (hc : d.sink.Coherent) (ha : d.Advance d') : d'.Serving o := by
  cases ha with
  | headLost hd hw =>
    obtain ⟨rfl, -, -, -⟩ := h.of_opening hd
    obtain ⟨hh, rfl⟩ := h.head_lost hc hd hw
    exact ⟨hh, h.slot, h.hosted, h.body, fun _ => h.silent_of (by simp [hd])⟩
  | headSent hd hw hb =>
    obtain ⟨rfl, -, -, -⟩ := h.of_opening hd
    obtain ⟨-, rfl⟩ := h.head_sent hd hw
    have hframed := h.body
    rw [hb] at hframed
    refine ⟨⟨by simp [Relay.withHead], hframed.symm, fun size rest h => by cases h⟩, fun head hs => ?_,
      h.hosted, h.body, fun _ => h.silent_of (by simp [hd])⟩
    simpa [Relay.withHead] using hs.symm
  | headOnly hd hw hb =>
    obtain ⟨rfl, -, -, -⟩ := h.of_opening hd
    obtain ⟨-, rfl⟩ := h.head_sent hd hw
    refine ⟨rfl, fun head hs => ?_, h.hosted, ?_, fun hf => by cases hf⟩
    · have hs : Slot.full _ = .full head := hs
      simpa using hs.symm
    · rw [← h.body]; simp [finish]
  | copy hd hb ha =>
    have hf := h.fits
    rw [hd] at hf
    have hfr := Relay.attempt_frame ha
    refine ⟨⟨?_, ?_, ha.hasRest hf.2.2⟩, ?_, ?_, ?_, fun _ => h.silent_of (by simp [hd])⟩
    · rw [hfr]; exact hf.1
    · rw [hfr]; exact hf.2.1
    · rw [hfr]; exact h.slot
    · rw [hfr]; exact h.hosted
    · rw [← h.body, hb]; rfl
  | copied hd hcs =>
    exact ⟨rfl, h.slot, h.hosted, by rw [← h.body]; simp [finish], fun hf => by cases hf⟩
  | copyLost hd hcs =>
    have hf := h.fits
    rw [hd] at hf
    exact ⟨⟨hf.1, hf.2.1⟩, h.slot, h.hosted, by rw [← h.body]; simp, fun _ => h.silent_of (by simp [hd])⟩
  | report hd hf =>
    exact ⟨rfl, h.slot, h.hosted, by rw [← h.body]; simp [finish], fun hf => by cases hf⟩

/-- The delivery gives the host nothing back that it has dropped. -/
theorem advance_held (h : d.Serving o) (hc : d.sink.Coherent) (ha : d.Advance d') :
    d'.sink.outcome = d.sink.outcome ∧ d'.sink.hosted = d.sink.hosted ∧
      (d'.sink.isHeld = true → d.sink.isHeld = true) := by
  cases ha with
  | headLost hd hw =>
    obtain ⟨-, rfl⟩ := h.head_lost hc hd hw
    exact ⟨rfl, rfl, id⟩
  | headSent hd hw | headOnly hd hw =>
    obtain ⟨hs, rfl⟩ := h.head_sent hd hw
    exact ⟨rfl, rfl, fun _ => by simp [Relay.isHeld, hs]⟩
  | copy hd hb ha =>
    have hfr := Relay.attempt_frame ha
    exact ⟨by rw [hfr], by rw [hfr], fun hh => by rw [hfr] at hh; exact hh⟩
  | copied | copyLost | report => exact ⟨rfl, rfl, id⟩

end Serving

end Delivery

/-! ### The connection -/

namespace Connection

structure Serving (o : Opening) (c : Connection) : Prop where
  delivery : c.delivery.Serving o
  told : ∀ head, c.head = some head → head = o.head ∨ head = missingHead
  live : c.relay.isHeld = true → c.phase = .live ∧ c.relay.outcome = {}
  frames : ∀ frame ∈ c.frames, frame ≠ [] ∧ frame.length ≤ Relay.frameLimit

theorem serving_answered (request : Request) (response : Response) (chunks : List Bytes) :
    (answered request response chunks).Serving response.opening := by
  refine ⟨⟨⟨rfl, rfl, rfl, rfl⟩, ?_, ?_, ?_, fun _ => rfl⟩, ?_, fun _ => ⟨rfl, rfl⟩, ?_⟩
  · intro head h; cases h
  · intro b h; cases h
  · show response.body.isSome = decide (response.framing ≠ .empty)
    unfold Response.framing
    split
    · rename_i hb
      simp [hb]
    · rename_i body hb
      split
      · simp [hb]
      · split <;> simp [hb]
  · intro head h; cases h
  · intro frame h; cases h

theorem Serving.step {o : Opening} {c c' : Connection} (h : c.Serving o) (hc : c.relay.Coherent)
    (he : c.Effect c') : c'.Serving o := by
  cases he with
  | answer ha => exact absurd ha h.delivery.not_awaiting
  | deliver ha hp hf hh hl =>
    obtain ⟨ho, -, hheld⟩ := h.delivery.advance_held hc ha
    refine ⟨h.delivery.advance hc ha, ?_, fun hr => ?_, ?_⟩
    · rw [hh]; exact h.told
    · obtain ⟨hphase, hout⟩ := h.live (hheld hr)
      exact ⟨hl.trans hphase, ho.trans hout⟩
    · rw [hf]; exact h.frames
  | produce hp hb hs hp' hd hf hh hl =>
    have hr : c'.relay = c.relay := (congrArg Delivery.sink hd :)
    have hd' := h.delivery
    refine ⟨?_, ?_, ?_, ?_⟩
    · rw [hd]
      exact ⟨hd'.fits, hd'.slot, hd'.hosted, by rw [← hd'.body, hb]; rfl, hd'.silent⟩
    · rw [hh]; exact h.told
    · rw [hr, hl]; exact h.live
    · rw [hf]; exact h.frames
  | @host got hs hd hp hf hh hl he =>
    have hd' := h.delivery
    refine ⟨?_, ?_, fun hr => ?_, ?_⟩
    · rw [hd]
      refine ⟨hs.fits hd'.fits, fun head hsl => ?_, fun b hb => ?_, hd'.body, hd'.silent⟩
      · rcases hs.slot with hs' | hs'
        · exact hd'.slot head (hs' ▸ hsl)
        · rw [hs'] at hsl; cases hsl
      · rcases hs.hosted with hs' | hs' | ⟨head, hsl, hs'⟩
        · exact hd'.hosted b (hs' ▸ hb)
        · rw [hs'] at hb; cases hb
        · rw [hs'] at hb
          cases hb
          rw [hd'.slot head hsl]
          rfl
    · intro head hhead
      rcases hh with hh | ⟨head', hsl, hh⟩ | hh
      · exact h.told head (hh ▸ hhead)
      · rw [hh] at hhead
        cases hhead
        exact .inl (hd'.slot _ hsl)
      · rw [hh] at hhead
        cases hhead
        exact .inr rfl
    · obtain ⟨hphase, hout⟩ := h.live (hs.held hr).1
      obtain ⟨hphase', hout'⟩ := hl hphase hr
      exact ⟨hphase', hout'.trans hout⟩
    · intro frame hm
      rw [hf] at hm
      rcases List.mem_append.1 hm with hm | hm
      · exact h.frames frame hm
      · exact hc.frames frame (hs.queue.subset (List.mem_append_left _ hm))
  | quiet hd hp hf hh hl =>
    have hr : c'.relay = c.relay := (congrArg Delivery.sink hd :)
    refine ⟨?_, ?_, ?_, ?_⟩
    · rw [hd]; exact h.delivery
    · rw [hh]; exact h.told
    · rw [hr, hl]; exact h.live
    · rw [hf]; exact h.frames

theorem coherent_answered (request : Request) (response : Response) (chunks : List Bytes) :
    (answered request response chunks).relay.Coherent := Relay.coherent_new

theorem serving_run {request : Request} {response : Response} {chunks : List Bytes} {moves : List Move}
    {c : Connection} (hr : (answered request response chunks).run? moves = some c)
    (hb : c.isBroken = false) : c.relay.Coherent ∧ c.Serving response.opening :=
  run?_induction (fun _ _ hc h he => Serving.step h hc he) moves (coherent_answered ..)
    (serving_answered request response chunks) hr hb

/-- The host finds the end of a body that it has taken once the delivery is finished. -/
theorem Serving.ended_iff {o : Opening} {c : Connection} (hs : c.Serving o) (hc : c.relay.Coherent)
    (ho : o.framing ≠ .empty) (hb : c.relay.hosted.isSome = true) :
    c.relay.takeFrame.1 = .ended ↔ c.delivery.isFinished = true ∧ c.relay.queue = [] := by
  have hframes : c.relay.hosted = some .frames := by
    obtain ⟨b, hb⟩ := Option.isSome_iff_exists.1 hb
    have := hs.delivery.hosted b hb
    rw [if_neg ho] at this
    exact this ▸ hb
  have hsend : c.relay.sending = false ↔ c.delivery.state = .finished := by
    have hfits := hs.delivery.fits
    cases hd : c.delivery.state with
    | awaiting => rw [hd] at hfits; exact hfits.elim
    | opening o' =>
      rw [hd] at hfits
      rw [(hc.due hfits.2.1).2.1] at hb
      cases hb
    | copying copier =>
      rw [hd] at hfits
      have : c.relay.sending = true := hfits.2.1
      simp [this]
    | diagnosing lost fault =>
      rw [hd] at hfits
      match lost with
      | .head =>
        have : c.relay.isHeld = false := hfits
        simp [Relay.isHeld, hb] at this
      | .body _ _ =>
        have : c.relay.sending = true := hfits.2
        simp [this]
    | finished =>
      rw [hd] at hfits
      have : c.relay.sending = false := hfits
      simp [this]
  rw [Delivery.Serving.isFinished_iff, ← hsend, Relay.takeFrame, hframes]
  dsimp only
  cases hq : c.relay.queue with
  | nil => cases c.relay.sending <;> simp
  | cons frame queue => simp

end Connection

end Courier
