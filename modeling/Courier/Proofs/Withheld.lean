import Courier.Proofs.Attended
import Courier.Proofs.Course
import Courier.Proofs.Diagnosis
import Courier.Proofs.Refusals

/-!
# Requests that a finished response holds open

Nothing can be said about a drop before the connection ends, so a delivery that has lost its body to one waits for
that, and the request is not cancelled meanwhile (`Connection.withheld_iff`). On a connection that goes on, all
that makes a body be dropped is that the host does not send it; whether the delivery comes to know depends on what
the body has to send behind the drop (`Response.withholds_iff`).
-/

namespace Courier

/-- Whether the copy of the body is over. -/
def Delivery.isCopied {σ : Type} (d : Delivery σ) : Bool :=
  match d.state with
  | .copying c => c.result?.isSome
  | .diagnosing (.body ..) _ | .finished => true
  | .awaiting | .opening _ | .diagnosing .head _ => false

/-- The loss of the body to a drop is diagnosed. -/
def Delivery.DiagnosesDrop {σ : Type} (d : Delivery σ) : Prop :=
  ∃ streaming written fault, d.state = .diagnosing (.body streaming written) fault ∧ fault.isDrop = true

/-- Whether a copy of the body can end with a drop: with one that it notices, or with a fault that looks like one. -/
def Body.EndsInDrop (chunks : List Bytes) (streaming : Bool) (body : Body) : Prop :=
  (∃ fault, body.fault? = some fault ∧ fault.isDrop = true) ∨ body.NoticesDrop chunks streaming

namespace Connection

/-- Whether the host, on the way, drops a body that it holds. -/
def DropsBody (c : Connection) (moves : List Move) : Prop :=
  ∃ before after mid, moves = before ++ .dropBody :: after ∧ c.run? before = some mid ∧
    mid.relay.hosted.isSome = true

/-- The copy is over, the delivery and its task cannot take another step while the connection is open, and those
who work for the request are not told to stop. -/
structure Withheld (c : Connection) : Prop where
  unbroken : c.isBroken = false
  copied : c.delivery.isCopied = true
  idle : ∀ later c', c.run? later = some c' → c'.phase = .live →
    c'.step? (.request .deliver) = none ∧ c'.step? (.request .finish) = none
  uncancelled : c.task.cancelled.value = false

variable {c c' : Connection}

/-! ### While the connection is open -/

/-- The signal of a request is what its stage says, and its task hears of no end that has not come. -/
structure Sound (c : Connection) : Prop where
  task : c.task.Sound c.closed
  closed : c.phase = .live → c.closed.isOver = false

theorem Sound.turn (h : c.Sound) (ht : c.Turn c') : c'.Sound := by
  cases ht with
  | request ht => exact ⟨h.task.turn ht, h.closed⟩
  | host => exact ⟨h.task.exchange id, h.closed⟩
  | close ending => exact ⟨h.task.exchange id, nofun⟩
  | signal hp =>
    refine ⟨h.task.later fun ho => ?_, nofun⟩
    unfold Signal.set
    split
    · rfl
    · exact ho
  | publish hp => exact ⟨h.task.exchange id, nofun⟩
  | leave hp =>
    refine ⟨(h.task.exchange id).later fun _ => ?_, nofun⟩
    simp [Signal.abandon, Signal.isOver]

/-- Both of what a step of an open connection keeps. -/
theorem sound_run {request : Request} {response : Response} {chunks : List Bytes} {moves : List Move}
    (hr : (answered request response chunks).run? moves = some c) : c.Sound ∧ c.Standing := by
  have hanswer : (arrived request chunks).run? (.request (.answer response) :: moves) = some c := by
    rw [run?_cons]
    exact hr
  have hstart : (arrived request chunks).Sound := ⟨rfl, fun _ => rfl⟩
  exact run?_invariant (P := fun c => c.Sound ∧ c.Standing) (fun _ _ h ht => ⟨h.1.turn ht, h.2.turn ht⟩)
    ⟨hstart, standing_arrived request chunks⟩ hanswer

theorem Standing.diagnose_pending {fault : Fault} (h : c.Standing) (hl : c.phase = .live)
    (hf : fault.isDrop = true) : c.relay.diagnose fault = .pending := by
  rcases Relay.diagnose_of_drop hf h.outcome with ⟨hp, -⟩ | ⟨ending, ht, -⟩
  · exact hp
  · rw [hl] at ht
    cases ht

/-- A drop is diagnosed for as long as the connection is open. -/
theorem diagnosing_turn {lost : Lost} {fault : Fault} (hs : c.Standing) (hf : fault.isDrop = true)
    (h : c.phase = .live → c.delivery.state = .diagnosing lost fault) (ht : c.Turn c') :
    c'.phase = .live → c'.delivery.state = .diagnosing lost fault := by
  intro hl
  cases ht with
  | request ht =>
    have hd : c.task.exchange.delivery.state = .diagnosing lost fault := h hl
    cases ht with
    | answer _ hd' =>
      rw [hd] at hd'
      cases hd'
    | breakDown _ hservice => simp [RequestTask.isInService, hd] at hservice
    | deliver _ ha =>
      have hpending := hs.diagnose_pending hl hf
      have hstep := Delivery.step?_of_advance ha
      unfold Delivery.step? at hstep
      rw [hd] at hstep
      simp [show ResponseSink.diagnose c.task.exchange.delivery.sink fault = .pending from hpending] at hstep
    | produce | hear | finish => exact hd
  | host hl' => exact h hl'
  | close | signal | publish | leave => cases hl

theorem step?_deliver_eq_none (hr : c.task.isRunning = true) :
    c.step? (.request .deliver) = none ↔ c.delivery.step? = none := by
  simp [step?, RequestTask.step?, hr, Exchange.deliver?, delivery]

theorem step?_finish_ne_none (hr : c.task.isRunning = true) (hf : c.delivery.isFinished = true) :
    c.step? (.request .finish) ≠ none := by
  have hf : c.task.exchange.delivery.isFinished = true := hf
  simp [step?, RequestTask.step?, hr, hf]

/-- Only the loss to a drop can wait to be diagnosed. -/
theorem isDrop_of_step?_eq_none {lost : Lost} {fault : Fault} (hd : c.delivery.state = .diagnosing lost fault)
    (hs : c.delivery.step? = none) : fault.isDrop = true := by
  cases hdrop : fault.isDrop with
  | true => rfl
  | false =>
    have hready : ResponseSink.diagnose c.delivery.sink fault = .ready fault := Relay.diagnose_of_not_drop hdrop
    simp [Delivery.step?, hd, hready] at hs

theorem Withheld.diagnosesDrop (h : c.Withheld) (hsound : c.Sound) (hs : c.Standing) (hl : c.phase = .live) :
    c.delivery.DiagnosesDrop := by
  obtain ⟨hdeliver, hfinish⟩ := h.idle [] c rfl hl
  have hidle (hd : c.delivery.isFinished = false) : c.delivery.step? = none :=
    (step?_deliver_eq_none (hs.running hd)).1 hdeliver
  have hcopied := h.copied
  unfold Delivery.isCopied at hcopied
  cases hstate : c.delivery.state with
  | awaiting | opening =>
    rw [hstate] at hcopied
    cases hcopied
  | copying copier =>
    rw [hstate] at hcopied
    have hstep := hidle (by simp [Delivery.isFinished, hstate])
    obtain ⟨result, hresult⟩ := Option.isSome_iff_exists.1 hcopied
    simp [Delivery.step?, hstate, hresult] at hstep
  | diagnosing lost fault =>
    rw [hstate] at hcopied
    cases lost with
    | head => cases hcopied
    | body streaming written =>
      exact ⟨streaming, written, fault, hstate,
        isDrop_of_step?_eq_none hstate (hidle (by simp [Delivery.isFinished, hstate]))⟩
  | finished =>
    have hfin : c.delivery.isFinished = true := by simp [Delivery.isFinished, hstate]
    -- a task that still runs could finish
    cases hstage : c.task.stage with
    | racing | finishing => exact absurd hfinish (step?_finish_ne_none (by simp [RequestTask.isRunning, hstage]) hfin)
    | returned =>
      have hcancelled := (hsound.task.of_returned hstage).1
      rw [h.uncancelled] at hcancelled
      cases hcancelled
    | broken =>
      have hunbroken := h.unbroken
      simp [isBroken, hstage] at hunbroken

theorem withheld_of_diagnosesDrop (h : c.delivery.DiagnosesDrop) (hsound : c.Sound) (hs : c.Standing)
    (hl : c.phase = .live) : c.Withheld := by
  obtain ⟨streaming, written, fault, hd, hf⟩ := h
  have hunfinished : c.delivery.isFinished = false := by simp [Delivery.isFinished, hd]
  refine ⟨?_, by simp [Delivery.isCopied, hd], fun later c' hlater hl' => ?_, ?_⟩
  · rcases RequestTask.isRunning_iff.1 (hs.running hunfinished) with hstage | hstage <;> simp [isBroken, hstage]
  · obtain ⟨hs', hd'⟩ := run?_invariant
      (P := fun c => c.Standing ∧
        (c.phase = .live → c.delivery.state = .diagnosing (.body streaming written) fault))
      (fun _ _ h ht => ⟨h.1.turn ht, diagnosing_turn h.1 hf h.2 ht⟩) ⟨hs, fun _ => hd⟩ hlater
    have hd' : c'.task.exchange.delivery.state = .diagnosing (.body streaming written) fault := hd' hl'
    have hpending : ResponseSink.diagnose c'.task.exchange.delivery.sink fault = .pending :=
      hs'.diagnose_pending hl' hf
    constructor
    · simp [step?, RequestTask.step?, Exchange.deliver?, Delivery.step?, hd', hpending]
    · simp [step?, RequestTask.step?, Delivery.isFinished, hd']
  · cases hv : c.task.cancelled.value with
    | false => rfl
    | true =>
      have hover := hsound.task.isOver_of_cancelled hv hunfinished
      rw [hsound.closed hl] at hover
      cases hover

/-- On an open connection, a request is withheld while the loss of its body to a drop is diagnosed, and at no other
time. -/
theorem withheld_iff (hsound : c.Sound) (hs : c.Standing) (hl : c.phase = .live) :
    c.Withheld ↔ c.delivery.DiagnosesDrop :=
  ⟨fun h => h.diagnosesDrop hsound hs hl, fun h => withheld_of_diagnosesDrop h hsound hs hl⟩

end Connection

/-! ### Behind the drop -/

namespace Body

/-- Beside its producer, a live stream supplies what is still to be sent on it. -/
def Steady (chunks : List Bytes) (p : Producer) (body : Body) : Prop := body.isStream = true → body.Feeds chunks p

variable {chunks : List Bytes} {p p' : Producer} {body body' : Body}

theorem isStream_read {answer : Poll (Except Fault Bytes)} (hr : body.read Copier.unitLimit = (answer, body')) :
    body'.isStream = body.isStream := by
  cases body <;> cases hr <;> rfl

theorem Steady.read {unit : Bytes} (h : body.Steady chunks p)
    (hr : body.read Copier.unitLimit = (.ready (.ok unit), body')) : body'.Steady chunks p := by
  intro hs
  refine (h (isStream_read hr ▸ hs)).read hr ?_
  match body', hs with
  | .stream ch, _ => cases unit <;> rfl

theorem Steady.content_end (h : body.Steady chunks p) (hr : body.read Copier.unitLimit = (.ready (.ok []), body')) :
    body.content p.rest = [] := by
  rw [← flatten_units]
  cases hs : body.isStream with
  | true =>
    rw [(h hs).read_end hr]
    rfl
  | false =>
    rw [units_read p.rest hs hr]
    rfl

theorem content_of_failed {fault : Fault} (rest : List Bytes)
    (hr : body.read Copier.unitLimit = (.ready (.error fault), body')) (hf : fault.isInterrupted = false) :
    body.content rest = [] := by
  rw [← flatten_units, units_read rest (isStream_of_read_error hr) hr]
  simp [unitsBehind, hf]

theorem steady_of_not_stream (h : body.isStream = false) : body.Steady chunks p := by
  intro hs
  rw [h] at hs
  cases hs

end Body

/-- Where a copy is whose relay sends nothing any more: what it has taken of the body is gathered or in hand. When
it ends without having noticed, nothing was there to be noticed by. -/
def Copying.Piles (chunks : List Bytes) (source : Body) (streaming : Bool) (pending left : Bytes)
    (later : Option Fault) : Copying → Prop
  | .reading =>
    pending ++ left = source.content chunks ∧ later = source.fault? ∧ (streaming = true → pending = [])
  | .writing _ rest => pending ++ rest ++ left = source.content chunks ∧ later = source.fault?
  | .flushing => pending ++ left = source.content chunks ∧ later = source.fault?
  | .closing => pending = source.content chunks ∧ source.fault? = none
  | .done => ¬ source.NoticesDrop chunks streaming ∧ source.fault? = none
  | .failed fault => fault.isDrop = true ∨ source.fault? = some fault ∧ ¬ source.NoticesDrop chunks streaming

theorem Relay.Refused.isDrop {r : Relay} {fault : Fault} (h : r.Refused fault) (hs : r.sending = true) :
    fault.isDrop = true := by
  rcases h.cause with ⟨hn, -⟩ | ⟨-, -, rfl⟩
  · rw [hs] at hn
    cases hn
  · rfl

/-- What is gathered behind a drop stays. -/
theorem Relay.Sent.pending_of_dropped {r r' : Relay} {taken : Bytes} {sent : List Bytes} (h : r.Sent taken sent r')
    (hd : r.receiving = false) : r'.pending = r.pending ++ taken := by
  have hnone : sent = [] := by
    by_contra hne
    rw [h.receiving hne] at hd
    cases hd
  have hbytes := h.bytes
  rwa [hnone] at hbytes

theorem Copier.Attempt.piles {chunks : List Bytes} {source : Body} {streaming : Bool} {p : Producer} {c c' : Copier}
    {body body' : Body} {r r' : Relay} (ha : c.Attempt body r c' body' r') (hr : r.receiving = false)
    (hs : r.sending = true) (hlimit : r.pending.length ≤ Relay.frameLimit) (hrest : c.HasRest)
    (hd : c.discipline = .ofStreaming streaming) (hsteady : body.Steady chunks p)
    (h : c.state.Piles chunks source streaming r.pending (body.content p.rest) body.fault?) :
    c'.state.Piles chunks source streaming r'.pending (body'.content p.rest) body'.fault? ∧
      body'.Steady chunks p := by
  have hflush {next : Relay} (hw : r.sendPending = (.ready (.ok ()), next)) :
      r.pending = [] ∧ next.pending = [] := by
    obtain ⟨sent, hsent, hnone⟩ := Relay.sendPending_ok hw
    have hp := hsent.pending_of_dropped hr
    rw [hnone, List.append_nil] at hp
    exact ⟨hp.symm, hnone⟩
  cases ha with
  | unit hc hread hu =>
    rw [hc] at h
    obtain ⟨hbytes, hfault, -⟩ := h
    rw [Body.content_read p.rest hread hu] at hbytes
    rw [Body.fault?_read hread, Body.faultBehind_ok _ hu] at hfault
    exact ⟨⟨by rw [List.append_assoc]; exact hbytes, hfault⟩, hsteady.read hread⟩
  | ended hc hread =>
    rw [hc] at h
    obtain ⟨hbytes, hfault, -⟩ := h
    rw [hsteady.content_end hread, List.append_nil] at hbytes
    rw [Body.fault?_read hread] at hfault
    exact ⟨⟨hbytes, hfault.symm⟩, hsteady.read hread⟩
  | readAgain hc hread hf =>
    rw [hc] at h ⊢
    obtain ⟨hbytes, hfault, hnone⟩ := h
    rw [← Body.content_read_again p.rest hread hf] at hbytes
    rw [Body.fault?_read hread, Body.faultBehind, if_pos hf] at hfault
    have hstream := (Body.isStream_read hread).trans (Body.isStream_of_read_error hread)
    exact ⟨⟨hbytes, hfault, hnone⟩, Body.steady_of_not_stream hstream⟩
  | notReady hc hread hstream =>
    rw [hc] at h ⊢
    obtain ⟨hbytes, hfault, hnone⟩ := h
    rw [← Body.content_read_pending p.rest hread hstream] at hbytes
    rw [Body.fault?_read hread] at hfault
    exact ⟨⟨hbytes, hfault, hnone⟩, Body.steady_of_not_stream ((Body.isStream_read hread).trans hstream)⟩
  | readLost hc hread hf =>
    rw [hc] at h
    obtain ⟨hbytes, hfault, hnone⟩ := h
    rw [Body.content_of_failed p.rest hread hf, List.append_nil] at hbytes
    rw [Body.fault?_read hread, Body.faultBehind, if_neg (by simp [hf])] at hfault
    have hstream := (Body.isStream_read hread).trans (Body.isStream_of_read_error hread)
    refine ⟨.inr ⟨hfault.symm, ?_⟩, Body.steady_of_not_stream hstream⟩
    rintro ⟨hne, hn | hn | hn⟩
    · rw [hn] at hfault
      cases hfault
    · exact hne (hbytes.symm.trans (hnone hn))
    · rw [← hbytes] at hn
      omega
  | written hc hw =>
    rw [hc] at h
    obtain ⟨hbytes, hfault⟩ := h
    obtain ⟨sent, hsent, -⟩ := Relay.write_ok hw
    refine ⟨⟨?_, hfault⟩, hsteady⟩
    rw [hsent.pending_of_dropped hr, List.append_assoc r.pending, List.take_append_drop]
    exact hbytes
  | @unitDone size n rest _ hc hw _ hl =>
    rw [hc] at h
    obtain ⟨hbytes, hfault⟩ := h
    obtain ⟨sent, hsent, -⟩ := Relay.write_ok hw
    have hrest : rest.take n = rest := by
      rw [← List.append_nil (rest.take n), ← hl, List.take_append_drop]
    have hbytes : r'.pending ++ body.content p.rest = source.content chunks := by
      rw [hsent.pending_of_dropped hr, hrest]
      exact hbytes
    refine ⟨?_, hsteady⟩
    unfold afterUnit
    dsimp only
    split
    · exact ⟨hbytes, hfault⟩
    · rename_i hbuffered
      refine ⟨hbytes, hfault, fun hstreaming => ?_⟩
      rw [hd, hstreaming] at hbuffered
      exact absurd rfl hbuffered
  | stuck hc hw =>
    obtain ⟨-, -, -, hpos⟩ := Relay.write_ok hw
    exact absurd (hpos (hrest _ _ hc)) (Nat.lt_irrefl 0)
  | writeAgain hc hw hf =>
    have := ((Relay.write_error hw).1.of_sending hs).2
    rw [hf] at this
    cases this
  | writeLost hc hw => exact ⟨.inl ((Relay.write_error hw).1.isDrop hs), hsteady⟩
  | flushed hc hw =>
    rw [hc] at h
    obtain ⟨hbytes, hfault⟩ := h
    obtain ⟨hbefore, hafter⟩ := hflush hw
    rw [hbefore] at hbytes
    exact ⟨⟨by rw [hafter]; exact hbytes, hfault, fun _ => hafter⟩, hsteady⟩
  | closed hc hw =>
    rw [hc] at h
    obtain ⟨hbytes, hfault⟩ := h
    exact ⟨⟨fun hn => hn.1 (hbytes.symm.trans (hflush hw).1), hfault⟩, hsteady⟩
  | flushLost hc hw => exact ⟨.inl ((Relay.sendPending_error hw).1.isDrop hs), hsteady⟩

def Delivery.Piles (chunks : List Bytes) (source : Body) (streaming : Bool) (p : Producer) (d : Delivery Relay) :
    Prop :=
  match d.state with
  | .copying c => c.discipline = .ofStreaming streaming ∧ ∃ body, d.body = some body ∧ body.Steady chunks p ∧
      c.state.Piles chunks source streaming d.sink.pending (body.content p.rest) body.fault?
  | .diagnosing (.body ..) fault =>
      fault.isDrop = true ∨ source.fault? = some fault ∧ ¬ source.NoticesDrop chunks streaming
  | .finished => ¬ source.EndsInDrop chunks streaming
  | .awaiting | .opening _ | .diagnosing .head _ => False

theorem Delivery.Advance.piles {chunks : List Bytes} {source : Body} {streaming : Bool} {p : Producer} {o : Opening}
    {d d' : Delivery Relay} (ha : d.Advance d') (hs : d.Serving o) (hc : d.sink.Coherent)
    (hr : d.sink.receiving = false)
    (hpending : ∀ fault : Fault, fault.isDrop = true → d.sink.diagnose fault = .pending)
    (h : d.Piles chunks source streaming p) : d'.Piles chunks source streaming p ∧ d'.sink.receiving = false := by
  have hfits := hs.fits
  unfold Piles at h
  cases ha with
  | headLost hd | headSent hd | headOnly hd =>
    rw [hd] at h
    exact h.elim
  | copy hd hb ha =>
    rw [hd] at h hfits
    obtain ⟨hdiscipline, body, hbody, hsteady, hpiles⟩ := h
    rw [hb] at hbody
    cases hbody
    obtain ⟨hpiles', hsteady'⟩ := ha.piles hr hfits.2.1 hc.pending hfits.2.2 hdiscipline hsteady hpiles
    refine ⟨⟨ha.discipline_eq.trans hdiscipline, _, rfl, hsteady', hpiles'⟩, ?_⟩
    rw [Relay.attempt_frame ha]
    exact hr
  | copied hd hstate =>
    rw [hd] at h
    obtain ⟨-, body, -, -, hpiles⟩ := h
    rw [hstate] at hpiles
    obtain ⟨hspared, hnone⟩ := hpiles
    refine ⟨?_, hr⟩
    rintro (⟨fault, hf, -⟩ | hnotice)
    · rw [hnone] at hf
      cases hf
    · exact hspared hnotice
  | copyLost hd hstate =>
    rw [hd] at h
    obtain ⟨-, body, -, -, hpiles⟩ := h
    rw [hstate] at hpiles
    exact ⟨hpiles, hr⟩
  | @report lost fault cause hd hf =>
    rw [hd] at h
    have hother : fault.isDrop ≠ true := fun hdrop => by
      have hf : d.sink.diagnose fault = .ready cause := hf
      rw [hpending fault hdrop] at hf
      cases hf
    cases lost with
    | head => exact h.elim
    | body streaming written =>
      obtain ⟨hfault, hspared⟩ := h.resolve_left hother
      refine ⟨?_, hr⟩
      rintro (⟨f, hf, hdrop⟩ | hnotice)
      · rw [hfault] at hf
        cases hf
        exact hother hdrop
      · exact hspared hnotice

theorem Delivery.Piles.feed {chunks : List Bytes} {source : Body} {streaming : Bool} {p p' : Producer}
    {body body' : Body} {d : Delivery Relay} (h : d.Piles chunks source streaming p) (hb : d.body = some body)
    (hs : p.feed? body = some (p', body')) : Piles chunks source streaming p' { d with body := some body' } := by
  unfold Piles at h ⊢
  dsimp only
  split at h
  · rename_i c hd
    obtain ⟨hdiscipline, body₁, hbody, hsteady, hpiles⟩ := h
    rw [hb] at hbody
    cases hbody
    obtain ⟨ch, ch', rfl, rfl, -⟩ := Producer.feed?_eq_some hs
    obtain ⟨hfeeds, hunits⟩ := (hsteady rfl).feed hs
    refine ⟨hdiscipline, _, rfl, fun _ => hfeeds, ?_⟩
    rw [← Body.flatten_units, hunits, Body.flatten_units]
    exact hpiles
  all_goals exact h

/-- A relay that sends nothing is never slow. -/
theorem Relay.not_awaitsSink {d : Delivery Relay} (hr : d.sink.receiving = false) : ¬ d.AwaitsSink := by
  rintro ⟨copier, -, hwait⟩
  have hflush : (ResponseSink.flush d.sink).1 ≠ .pending := fun hw => by
    rw [(sendPending_pending (Prod.ext hw rfl)).2] at hr
    cases hr
  split at hwait
  · rw [(write_pending (Prod.ext hwait rfl)).2] at hr
    cases hr
  · exact hflush hwait
  · exact hflush hwait
  all_goals exact hwait

namespace Connection

/-- The host has dropped the body on an open connection, and the copy goes on. -/
structure Piling (chunks : List Bytes) (source : Body) (streaming : Bool) (p : Producer) (c : Connection) : Prop where
  live : c.phase = .live
  stage : c.task.stage = .racing
  dropped : c.relay.receiving = false
  producer : c.producer = some p
  again : p.again = []
  piles : c.delivery.Piles chunks source streaming p

namespace Piling

variable {chunks : List Bytes} {source : Body} {streaming : Bool} {p : Producer} {c : Connection} {o : Opening}

theorem isRunning (h : c.Piling chunks source streaming p) : c.task.isRunning = true := by
  simp [RequestTask.isRunning, h.stage]

theorem isBroken (h : c.Piling chunks source streaming p) : c.isBroken = false := by
  simp [Connection.isBroken, h.stage]

theorem deliver {d : Delivery Relay} (h : c.Piling chunks source streaming p) (hs : c.Serving o) (hc : c.relay.Coherent)
    (hstanding : c.Standing) (hd : c.delivery.step? = some d) :
    ∃ c', c.step? (.request .deliver) = some c' ∧ c'.Piling chunks source streaming p ∧
      c'.task.exchange.load < c.task.exchange.load := by
  have ha := Delivery.advance_of_step? hd
  obtain ⟨hpiles, hdropped⟩ := ha.piles hs.delivery hc h.dropped
    (fun fault hf => hstanding.diagnose_pending h.live hf) h.piles
  refine ⟨_, deliver_of_advance h.isRunning ha, ⟨h.live, h.stage, hdropped, h.producer, h.again, hpiles⟩, ?_⟩
  have hlt := ha.load_lt (fun copier hcopy => ?_) (Relay.patient _)
  · exact Nat.add_lt_add_right hlt _
  · have hfits := hs.delivery.fits
    rw [hcopy] at hfits
    exact hfits.2.2

theorem produce {x : Exchange Relay} (h : c.Piling chunks source streaming p)
    (hx : c.task.exchange.produce? = some x) :
    ∃ c' p', c.step? (.request .produce) = some c' ∧ c'.Piling chunks source streaming p' ∧
      c'.task.exchange.load < c.task.exchange.load := by
  obtain ⟨p', hp', hagain, hlt⟩ := Exchange.load_produce h.producer h.again hx
  have hstep : c.step? (.request .produce) = some { c with task.exchange := x } := by
    simp [step?, RequestTask.step?, hx]
  obtain ⟨q, body, q', body', hq, hb, hf, rfl⟩ := Exchange.produce?_eq_some hx
  have hq : c.producer = some q := hq
  rw [h.producer] at hq
  cases hq
  cases hp'
  exact ⟨_, _, hstep, ⟨h.live, h.stage, h.dropped, rfl, hagain, h.piles.feed hb hf⟩, hlt⟩

/-- Where the copy waits for nobody, it has lost the body to the drop, or had nothing to notice it by. -/
theorem diagnosing (h : c.Piling chunks source streaming p) (hs : c.Serving o) (hd : c.delivery.step? = none)
    (hx : c.task.exchange.produce? = none)
    (hends : source.EndsInDrop chunks streaming) : c.delivery.DiagnosesDrop := by
  have hpiles := h.piles
  unfold Delivery.Piles at hpiles
  have hbody : ∀ copier, c.delivery.state = .copying copier → c.delivery.body.isSome = true := by
    intro copier hcopy
    rw [hcopy] at hpiles
    obtain ⟨-, body, hb, -⟩ := hpiles
    rw [hb]
    rfl
  rcases Delivery.awaits_of_step?_eq_none hd hs.delivery.not_awaiting hbody with
    hfin | hsink | ⟨copier, ch, hcopy, -, hb, hread⟩ | ⟨lost, fault, hstate, -⟩
  · rw [of_decide_eq_true hfin] at hpiles
    exact absurd hends hpiles
  · exact absurd hsink (Relay.not_awaitsSink h.dropped)
  · rw [hcopy] at hpiles
    obtain ⟨-, body, hb', hsteady, -⟩ := hpiles
    rw [hb] at hb'
    cases hb'
    have hread : (Body.stream ch).read Copier.unitLimit = (.pending, .stream (ch.read Copier.unitLimit).2) := by
      simp only [Body.read, hread, Poll.map]
    obtain ⟨p', body', hf⟩ := (hsteady rfl).feed_of_pending hread rfl
    have hproducer : c.task.exchange.producer = some p := h.producer
    have hb : c.task.exchange.delivery.body = some (.stream ch) := hb
    simp [Exchange.produce?, hproducer, hb, hf] at hx
  · rw [hstate] at hpiles
    cases lost with
    | head => exact hpiles.elim
    | body streaming written => exact ⟨streaming, written, fault, hstate, isDrop_of_step?_eq_none hstate hd⟩

end Piling

/-- A copy that can notice the drop goes on until it has. -/
theorem Piling.withheld {request : Request} {response : Response} {chunks : List Bytes} {source : Body} {p : Producer}
    {moves : List Move} (hr : (answered request response chunks).run? moves = some c)
    (h : c.Piling chunks source response.isStreaming p) (hends : source.EndsInDrop chunks response.isStreaming) :
    ∃ later c', c.run? later = some c' ∧ c'.phase = .live ∧ c'.Withheld := by
  generalize hl : c.task.exchange.load = load
  induction load using Nat.strongRecOn generalizing c p moves with
  | _ load ih =>
    obtain ⟨hc, hs⟩ := serving_run hr h.isBroken
    obtain ⟨hsound, hstanding⟩ := sound_run hr
    have hnext {move : Move} {c₁ : Connection} {p₁ : Producer} (hstep : c.step? move = some c₁)
        (h₁ : c₁.Piling chunks source response.isStreaming p₁)
        (hlt : c₁.task.exchange.load < c.task.exchange.load) :
        ∃ later c', c.run? later = some c' ∧ c'.phase = .live ∧ c'.Withheld := by
      have hr₁ : (answered request response chunks).run? (moves ++ [move]) = some c₁ := by
        rw [run?_append, hr, Option.bind_some, run?_cons, hstep, Option.bind_some, run?_nil]
      obtain ⟨later, c', hlater, hend⟩ := ih _ (hl ▸ hlt) hr₁ h₁ rfl
      exact ⟨move :: later, c', by rw [run?_cons, hstep]; exact hlater, hend⟩
    cases hd : c.delivery.step? with
    | some d =>
      obtain ⟨c₁, hstep, h₁, hlt⟩ := h.deliver hs hc hstanding hd
      exact hnext hstep h₁ hlt
    | none =>
      cases hx : c.task.exchange.produce? with
      | some x =>
        obtain ⟨c₁, p₁, hstep, h₁, hlt⟩ := h.produce hx
        exact hnext hstep h₁ hlt
      | none => exact ⟨[], c, rfl, h.live, (withheld_iff hsound hstanding h.live).2 (h.diagnosing hs hd hx hends)⟩

end Connection

theorem Fault.isDrop_iff {fault : Fault} : fault.isDrop = true ↔ ∃ kind, fault = .ioWith kind .bodyDropped := by
  constructor
  · intro h
    unfold isDrop at h
    split at h
    · exact ⟨_, rfl⟩
    · cases h
  · rintro ⟨kind, rfl⟩
    rfl

namespace Response

/-- A host that takes the head of the response and then drops its body, on a connection that stays open, can come
to hold the request by it. -/
def Withholds (response : Response) (chunks : List Bytes) : Prop :=
  ∃ request moves c, (Connection.answered request response chunks).run? moves = some c ∧
    (Connection.answered request response chunks).DropsBody moves ∧ c.phase = .live ∧ c.Withheld

variable {response : Response} {chunks : List Bytes}

/-- The host drops the body before a byte of it was written. -/
theorem withholds_of {body : Body} (hb : response.body = some body) (hn : ∀ ch, body = .stream ch → ch.Offered)
    (hends : body.EndsInDrop chunks response.isStreaming) : response.Withholds chunks := by
  have hsome : response.body.isSome = true := by simp [hb]
  have hopen := Connection.run?_opened {} chunks hsome
  have hdrop : (Connection.opened {} response chunks).step? .dropBody = some
      ((Connection.opened {} response chunks).setRelay Connection.idleRelay.dropBody) := rfl
  have hr : (Connection.answered {} response chunks).run? ([.request .deliver, .takeHead] ++ [.dropBody]) = some
      ((Connection.opened {} response chunks).setRelay Connection.idleRelay.dropBody) := by
    rw [Connection.run?_append, hopen, Option.bind_some, Connection.run?_cons, hdrop, Option.bind_some,
      Connection.run?_nil]
  have hsteady : body.Steady chunks { rest := chunks } := by
    intro hs
    match body, hs with
    | .stream ch, _ => exact .new rfl hn
  have hpiling : ((Connection.opened {} response chunks).setRelay Connection.idleRelay.dropBody).Piling chunks body
      response.isStreaming { rest := chunks } :=
    ⟨rfl, rfl, rfl, rfl, rfl, rfl, body, hb, hsteady, rfl, rfl, fun _ => rfl⟩
  obtain ⟨later, c, hlater, hlive, hwithheld⟩ := hpiling.withheld hr hends
  refine ⟨{}, [.request .deliver, .takeHead] ++ .dropBody :: later, c, ?_, ?_, hlive, hwithheld⟩
  · rw [Connection.run?_append, hopen, Option.bind_some, Connection.run?_cons, hdrop]
    exact hlater
  · exact ⟨_, later, _, rfl, hopen, rfl⟩

theorem Withholds.notices (h : response.Withholds chunks)
    (hn : ∀ ch, response.body = some (.stream ch) → ch.reading = true) :
    ∃ body, response.body = some body ∧ body.EndsInDrop chunks response.isStreaming := by
  obtain ⟨request, moves, c, hr, -, hlive, hwithheld⟩ := h
  obtain ⟨hsound, hstanding⟩ := Connection.sound_run hr
  obtain ⟨streaming, written, fault, hstate, hdrop⟩ := (Connection.withheld_iff hsound hstanding hlive).1 hwithheld
  have hexplained := (Connection.accounted_run hn hr hwithheld.unbroken).explained
  unfold Delivery.Explained at hexplained
  rw [hstate] at hexplained
  cases hb : response.body with
  | none =>
    rw [hb] at hexplained
    rcases hexplained with hfault | hnotice
    · cases hfault
    · exact absurd rfl hnotice.1
  | some body =>
    rw [hb] at hexplained
    exact ⟨body, rfl, hexplained.imp_left fun hfault => ⟨fault, hfault, hdrop⟩⟩

/-- Which responses can hold their request open: those whose body fails as if it was dropped, and those that have
bytes to send behind the drop, at the end of a body that does not fail, behind a unit of a streamed body, or when a
frame is full. -/
theorem withholds_iff (hn : ∀ ch, response.body = some (.stream ch) → ch.Offered) :
    response.Withholds chunks ↔ ∃ body, response.body = some body ∧
      ((∃ kind, body.fault? = some (.ioWith kind .bodyDropped)) ∨
        body.content chunks ≠ [] ∧ (body.fault? = none ∨ response.isStreaming = true ∨
          Relay.frameLimit < (body.content chunks).length)) := by
  constructor
  · intro h
    obtain ⟨body, hb, ⟨fault, hfault, hdrop⟩ | hnotice⟩ := h.notices fun ch hch => (hn ch hch).reading
    · obtain ⟨kind, rfl⟩ := Fault.isDrop_iff.1 hdrop
      exact ⟨body, hb, .inl ⟨kind, hfault⟩⟩
    · exact ⟨body, hb, .inr hnotice⟩
  · rintro ⟨body, hb, hcause⟩
    refine withholds_of hb (fun ch hch => hn ch (by rw [hb, hch])) (hcause.imp_left ?_)
    rintro ⟨kind, hfault⟩
    exact ⟨_, hfault, rfl⟩

/-- One byte is enough. -/
theorem withholds_iff_byte :
    Withholds { body := some (.bytes [97]) } [] ∧ ¬ Withholds { body := some (.bytes []) } [] := by
  constructor
  · exact (withholds_iff fun ch hch => by cases hch).2 ⟨_, rfl, .inr ⟨List.cons_ne_nil 97 [], .inl rfl⟩⟩
  · intro h
    obtain ⟨body, hb, hcause⟩ := (withholds_iff fun ch hch => by cases hch).1 h
    cases hb
    rcases hcause with ⟨kind, hfault⟩ | ⟨hne, -⟩
    · cases hfault
    · exact hne rfl

/-- The host drops a body of one byte before it is written: the copy fails when it flushes the byte, and waits for
the connection to end. -/
theorem not_forall_released : ¬ ∀ (response : Response) (chunks : List Bytes), ¬ response.Withholds chunks := by
  intro h
  have hr : (Connection.answered {} { body := some (.bytes [97]) } []).run? ([.request .deliver, .takeHead] ++
      .dropBody :: List.replicate 5 (.request .deliver)) = some _ := rfl
  obtain ⟨hsound, hstanding⟩ := Connection.sound_run hr
  exact h { body := some (.bytes [97]) } [] ⟨{}, _, _, hr, ⟨_, _, _, rfl, rfl, rfl⟩, rfl,
    (Connection.withheld_iff hsound hstanding rfl).2 ⟨_, _, _, rfl, rfl⟩⟩

end Response

end Courier
