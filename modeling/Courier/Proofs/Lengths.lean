import Courier.Proofs.Failure
import Courier.Proofs.Framing
import Courier.Proofs.Schedule

/-!
# Declared lengths

The length in the head is the one that the body declares, while the copy goes on to the first read without
bytes. A delivery that ends in silence has copied all that the body supplies (`Delivery.Settles`), so the
declared length is kept if it is the true one; and if it is not, there is a sink that takes all of the body and
nobody hears of it (`Response.keepsLength_iff`).
-/

namespace Courier

/-- Whatever sink the response goes to: if its head was accepted with a length, and the delivery ends with
nothing to report, that many bytes were accepted. -/
def Response.KeepsLength (response : Response) : Prop :=
  ∀ (σ : Type) [ResponseSink σ] (turn : σ → σ → Prop) (service : Service) (request : Request) (sink : σ)
    (chunks : List Bytes) (n : Nat) (calls : List Delivery.Call) (x : Exchange σ) (status : Status) (length : Nat),
    service request = response → (Exchange.start service request sink chunks).Trail turn n calls x →
    .sink (.head status (.length length) (.ok ())) ∈ calls → x.delivery.isFinished = true →
    x.delivery.events = [] → (calls.flatMap Delivery.Call.accepted).length = length

/-! ### What a silent delivery has sent -/

/-- How a copy stands to a body that supplies `source` and fails with `fault?`, when what is still to be read of
it fails with `left`. -/
def Copying.Settles (source : Bytes) (fault? : Option Fault) (accepted : Bytes) (left : Option Fault) : Copying → Prop
  | .reading | .writing .. | .flushing => left = fault?
  | .closing | .done => accepted = source ∧ fault? = none
  | .failed _ => True

theorem Body.content_of_not_stream {body : Body} (chunks rest : List Bytes) (h : body.isStream = false) :
    body.content chunks = body.content rest := by
  cases body with
  | bytes | reader => rfl
  | stream => cases h

variable {σ : Type} [ResponseSink σ]

theorem Copier.Attempt.settles {c c' : Copier} {body body' : Body} {sink sink' : σ} {source accepted : Bytes}
    {fault? : Option Fault} {rest : List Bytes} (ha : c.Attempt body sink c' body' sink')
    (hs : body.isStream = false) (hw : c.state.Within source accepted (body.content rest))
    (h : c.state.Settles source fault? accepted body.fault?) :
    c'.state.Settles source fault? (accepted ++ (c.call? body sink).toList.flatMap Delivery.Call.accepted)
      body'.fault? := by
  cases ha with
  | unit hc hr hu =>
    rw [hc] at h
    exact (Body.faultBehind_ok _ hu).symm.trans ((Body.fault?_read hr).symm.trans h)
  | ended hc hr =>
    rw [hc] at h hw
    have hcontent : body.content rest = [] := by
      rw [← Body.flatten_units, Body.units_read rest hs hr]
      rfl
    have hw : accepted ++ body.content rest = source := hw
    refine ⟨?_, h.symm.trans (Body.fault?_read hr)⟩
    simpa [call?, hc, hr, Delivery.Call.accepted, hcontent] using hw
  | readAgain hc hr hf =>
    rw [hc] at h ⊢
    refine Eq.trans ?_ h
    rw [Body.fault?_read hr, Body.faultBehind, if_pos hf]
  | notReady hc hr _ =>
    rw [hc] at h ⊢
    exact (Body.fault?_read hr).symm.trans h
  | readLost | stuck | writeLost | flushLost => trivial
  | written hc =>
    rw [hc] at h
    exact h
  | unitDone hc =>
    rw [hc] at h
    unfold afterUnit
    dsimp only
    split <;> exact h
  | writeAgain hc =>
    rw [hc] at h ⊢
    exact h
  | flushed hc =>
    rw [hc] at h
    exact h
  | closed hc hw =>
    rw [hc] at h
    simpa [call?, hc, hw, Delivery.Call.accepted, SinkCall.accepted, Copying.Settles] using h

namespace Delivery

/-- A delivery that is finished with nothing to report has sent all of a body that does not fail. -/
def Settles (source : Bytes) (fault? : Option Fault) (accepted : Bytes) (d : Delivery σ) : Prop :=
  match d.state with
  | .opening _ => d.body.bind Body.fault? = fault?
  | .copying c => c.state.Settles source fault? accepted (d.body.bind Body.fault?)
  | .finished => d.events = [] → accepted = source ∧ fault? = none
  | .awaiting | .diagnosing .. => True

theorem Advance.settles {d d' : Delivery σ} {source accepted : Bytes} {fault? : Option Fault} {rest : List Bytes}
    (ha : d.Advance d') (hs : d.body.map Body.isStream = some false) (hw : d.Within source accepted rest)
    (h : d.Settles source fault? accepted) :
    d'.Settles source fault? (accepted ++ d.call?.toList.flatMap Call.accepted) := by
  unfold Settles at h
  cases ha with
  | headLost => trivial
  | headSent hd _ hb =>
    rw [hd] at h
    exact h
  | headOnly _ _ hb =>
    rw [hb] at hs
    cases hs
  | copy hd hb ha =>
    rw [hb] at hs
    unfold Within left at hw
    rw [hd, hb] at hw
    rw [hd, hb] at h
    rw [call?_of_copying hd hb]
    exact ha.settles (Option.some.inj hs) hw.1 h
  | copied hd hc =>
    rw [hd] at h
    dsimp only at h
    rw [hc] at h
    rw [call?_of_result hd (by simp [Copier.result?, hc]), Option.toList_none, List.flatMap_nil, List.append_nil]
    exact fun _ => h
  | copyLost => trivial
  | report => exact fun he => by simp [finish] at he

end Delivery

theorem Delivery.Follows.head_mem {τ : Type} {request : Request} {response : Response} {calls : List Call}
    {d : Delivery τ} (h : d.Follows request response calls) (hf : d.isFinished = true) (he : d.events = []) :
    .sink (.head response.status response.framing (.ok ())) ∈ calls := by
  have htold := h.told
  unfold Told at htold
  rw [of_decide_eq_true hf] at htold
  obtain ⟨hne, ⟨hclean, -⟩ | ⟨_, _, _, _, _, -, -, hevents⟩⟩ := htold
  · obtain ⟨answer, rest, rfl, -⟩ := h.heads.resolve_left hne
    cases answer with
    | ok => exact List.mem_cons_self
    | error fault => cases hclean _ List.mem_cons_self
  · rw [he] at hevents
    cases hevents

namespace Exchange

variable {service : Service} {request : Request} {chunks : List Bytes} {sink : σ} {calls : List Delivery.Call}
  {x : Exchange σ} {n : Nat} {turn : σ → σ → Prop} {body : Body}

theorem delivery_follows (hr : (start service request sink chunks).Trail turn n calls x) :
    x.delivery.Follows request (service request) calls := by
  induction hr with
  | refl => exact ⟨⟨rfl, rfl, rfl⟩, .inl rfl, ⟨rfl, rfl⟩, fun _ => rfl, nofun, rfl, nofun⟩
  | deliver _ hs ih =>
    obtain ⟨d, hd, rfl⟩ := Option.map_eq_some_iff.1 hs
    exact ih.advance (Delivery.advance_of_step? hd)
  | produce _ hs ih =>
    obtain ⟨p, body, p', body', -, hb, hf, rfl⟩ := produce?_eq_some hs
    exact ih.feed hb hf
  | turn _ _ ih => exact ih.turn _

/-- A body that is not a live stream has no producer, so what is left of it is what the copy has not read. -/
theorem settles_trail (hb : (service request).body = some body) (hs : body.isStream = false)
    (hr : (start service request sink chunks).Trail turn n calls x) :
    x.delivery.Settles (body.content chunks) body.fault? (calls.flatMap Delivery.Call.accepted) := by
  have hkind {m : Nat} {calls : List Delivery.Call} {y : Exchange σ}
      (hr : (start service request sink chunks).Trail turn m calls y) :
      y.delivery.body.map Body.isStream = some false := by
    rw [(delivery_follows hr).kind, hb, Option.map_some, hs]
  induction hr with
  | refl =>
    show (service request).body.bind Body.fault? = body.fault?
    rw [hb, Option.bind_some]
  | deliver hr hstep ih =>
    obtain ⟨d, hd, rfl⟩ := Option.map_eq_some_iff.1 hstep
    obtain ⟨p, hfollows, -⟩ := follows_trail hb hs hr
    have hwithin := hfollows.bytes
    rw [hb] at hwithin
    rw [List.flatMap_append]
    exact (Delivery.advance_of_step? hd).settles (hkind hr) hwithin ih
  | produce hr hstep ih =>
    obtain ⟨p, body', p', body'', -, hbody, hf, rfl⟩ := produce?_eq_some hstep
    obtain ⟨ch, ch', rfl, -⟩ := Producer.feed?_eq_some hf
    have := hkind hr
    rw [hbody] at this
    cases this
  | turn _ _ ih => exact ih

theorem accepted_of_silent (hb : (service request).body = some body) (hs : body.isStream = false)
    (hr : (start service request sink chunks).Trail turn n calls x) (hf : x.delivery.isFinished = true)
    (he : x.delivery.events = []) :
    calls.flatMap Delivery.Call.accepted = body.content chunks ∧ body.fault? = none := by
  have hsettles := settles_trail hb hs hr
  unfold Delivery.Settles at hsettles
  rw [of_decide_eq_true hf] at hsettles
  exact hsettles he

end Exchange

/-! ### A sink that takes everything -/

namespace Ledger

theorem write_answer (l : Ledger σ) (bytes : Bytes) :
    (ResponseSink.write l bytes).1 = (ResponseSink.write l.sink bytes).1 := by
  show (l.write bytes).1 = _
  unfold write
  split <;> simp [*]

theorem flush_answer (l : Ledger σ) : (ResponseSink.flush l).1 = (ResponseSink.flush l.sink).1 := by
  show l.flush.1 = _
  unfold flush
  split <;> simp [*]

end Ledger

theorem Delivery.not_awaitsSink (d : Delivery (Ledger Recorder)) : ¬ d.AwaitsSink := by
  rintro ⟨c, -, hc⟩
  split at hc
  · exact Recorder.write_ne_pending _ _ (Ledger.write_answer d.sink _ ▸ hc)
  · exact Recorder.flush_ne_pending _ (Ledger.flush_answer d.sink ▸ hc)
  · exact Recorder.flush_ne_pending _ (Ledger.flush_answer d.sink ▸ hc)
  all_goals exact hc

/-- On a recorder that is told no failure, a delivery of a body that does not fail comes to its end. -/
theorem Exchange.Tracks.finishing {good : Recorder → Prop} {response : Response} {chunks : List Bytes} {p : Producer}
    {turn : Ledger Recorder → Ledger Recorder → Prop} {x y : Exchange (Ledger Recorder)} {n : Nat}
    {calls : List Delivery.Call} (hg : Willing good) (h : y.Tracks good response chunks p)
    (hr : x.Trail turn n calls y) :
    ∃ m later z, x.Trail turn m later z ∧ z.delivery.isFinished = true ∧ z.delivery.events = [] := by
  -- every step leaves less to do
  induction hl : y.load using Nat.strongRecOn generalizing y p n calls with
  | ind load ih =>
    subst hl
    cases hd : y.deliver? with
    | some z =>
      obtain ⟨hz, hlt⟩ := h.deliver hg hd
      exact ih _ hlt hz (hr.deliver hd) rfl
    | none =>
      cases hp : y.produce? with
      | some z =>
        obtain ⟨p', hz, hlt⟩ := h.produce hp
        exact ih _ hlt hz (hr.produce hp) rfl
      | none =>
        have hfin := (h.finished_or_awaitsSink hd hp).resolve_right y.delivery.not_awaitsSink
        exact ⟨n, calls, y, hr, hfin, h.silent⟩

namespace Response

variable {response : Response} {body : Body} {declared : Nat}

theorem isStream_of_framing (hb : response.body = some body) (hf : response.framing = .length declared) :
    body.isStream = false := by
  obtain ⟨body', hb', hl, -⟩ := (response.framing_eq_length_iff declared).1 hf
  rw [hb] at hb'
  cases hb'
  cases body with
  | bytes | reader => rfl
  | stream => cases hl

theorem keepsLength_of
    (h : ∀ body declared, response.body = some body → response.framing = .length declared → body.fault? = none →
      (body.content []).length = declared) : response.KeepsLength := by
  intro σ _ turn service request sink chunks n calls x status length hs hr hhead hfin hsilent
  subst hs
  have hframing : (service request).framing = .length length := by
    rcases (Exchange.delivery_follows hr).heads with rfl | ⟨answer, rest, rfl, hrest⟩
    · cases hhead
    · rcases List.mem_cons.1 hhead with he | hmem
      · simp only [Delivery.Call.sink.injEq, SinkCall.head.injEq] at he
        exact he.2.1.symm
      · cases hrest _ hmem
  obtain ⟨body, hb, -⟩ := ((service request).framing_eq_length_iff length).1 hframing
  have hstream := isStream_of_framing hb hframing
  obtain ⟨haccepted, hfault⟩ := Exchange.accepted_of_silent hb hstream hr hfin hsilent
  rw [haccepted, Body.content_of_not_stream chunks [] hstream]
  exact h body length hb hframing hfault

/-- A body that does not fail is all sent to a recorder, after a head that says what was declared. -/
theorem KeepsLength.content (h : response.KeepsLength) (hb : response.body = some body)
    (hf : response.framing = .length declared) (hfault : body.fault? = none) :
    (body.content []).length = declared := by
  have hstream := isStream_of_framing hb hf
  have hstart : (Exchange.watched (fun _ => response) {} ({} : Recorder) []).Tracks
      (fun r => r.cap ≠ some 0 ∧ r.failHead = none ∧ r.failWrite = none ∧ r.failFlush = none) response []
      { rest := [] } := by
    refine @Exchange.tracks_watched (fun _ => response) {} [] _ _ _ ⟨by decide, rfl, rfl, rfl⟩ (fun ch hch => ?_) ?_
    · have hch : response.body = some (.stream ch) := hch
      rw [hb] at hch
      cases hch
      cases hstream
    · show response.body.bind Body.fault? = none
      rw [hb]
      exact hfault
  obtain ⟨n, calls, x, hr, hfin, hsilent⟩ := hstart.finishing Recorder.willing (.refl : Exchange.Trail Eq _ 0 [] _)
  have hr : (Exchange.start (fun _ => response) {} ({ sink := {} } : Ledger Recorder) []).Trail Eq n calls x := hr
  have hhead := (Exchange.delivery_follows hr).head_mem hfin hsilent
  rw [hf] at hhead
  rw [← h _ _ _ _ _ _ _ _ _ _ _ rfl hr hhead hfin hsilent, (Exchange.accepted_of_silent hb hstream hr hfin hsilent).1]

/-- A response keeps the length in its head exactly if the length that its body declares is that of what the body
supplies, or the body fails for good. -/
theorem keepsLength_iff (response : Response) :
    response.KeepsLength ↔ ∀ body declared, response.body = some body → response.framing = .length declared →
      body.fault? = none → (body.content []).length = declared :=
  ⟨fun h _ _ hb hf hfault => h.content hb hf hfault, keepsLength_of⟩

/-- A reader that declares five bytes and supplies three: the head says five, three are sent, and nothing is
reported. -/
theorem not_forall_keepsLength : ¬ ∀ response : Response, response.KeepsLength := by
  intro h
  obtain ⟨n, hr⟩ := Exchange.Trail.steps (.refl : (Exchange.start
    (fun _ => { body := some (.reader [.data [97, 98, 99]] (some 5)) }) {} ({} : Recorder) []).Trail Eq 0 [] _) 16
  have haccepted : (((Exchange.start (fun _ => { body := some (.reader [.data [97, 98, 99]] (some 5)) }) {}
      ({} : Recorder) []).calls 16).flatMap Delivery.Call.accepted).length = 3 := by decide +kernel
  have hlength := h _ _ _ _ _ _ _ _ _ _ _ _ rfl hr
    (List.mem_cons_self : Delivery.Call.sink (.head .ok (.length 5) (.ok ())) ∈ _) (by decide +kernel)
    (by decide +kernel)
  rw [List.nil_append, haccepted] at hlength
  cases hlength

end Response

end Courier
