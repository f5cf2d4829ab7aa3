import Courier.Exchange.Shared
import Courier.Proofs.History
import Courier.Proofs.Success

/-!
# Serving a stream that has any number of writers

`serve_shared` says of every run of a delivery among the writers of its stream what `serve_run` says beside one
producer. While the stream is read, a step of the writers adds the units of what it sends behind those ahead
(`WriterStep.units`). A read that meets the end leaves nobody who could take such a step (`WriterStep.deserted`),
so nothing comes behind it.
-/

namespace Courier

namespace Channel

/-- The stream is read, and no chunk in its queue is empty. -/
structure Held (ch : Channel) : Prop where
  reading : ch.reading = true
  queue : ∀ chunk ∈ ch.queue, chunk ≠ []

variable {ch ch' : Channel} {new : List Bytes}

theorem Held.read {answer : Poll Bytes} {room : Nat} (h : ch.Held) (hs : ch.read room = (answer, ch')) :
    ch'.Held := by
  unfold Channel.read at hs
  split at hs
  · cases hs
    exact h
  · rename_i chunk queue hc hq
    cases hs
    exact ⟨h.reading, fun c hm => h.queue c (by rw [hq]; exact List.mem_cons_of_mem _ hm)⟩
  · cases hs
    exact ⟨h.reading, h.queue⟩

theorem WriterStep.held (hs : ch.WriterStep new ch') (h : ch.Held) : ch'.Held := by
  cases hs with
  | send | clone | close => exact ⟨h.reading, h.queue⟩
  | settle =>
    obtain ⟨numbers, he, -⟩ := settle_of_reading h.reading
    rw [he]
    refine ⟨h.reading, fun chunk hm => ?_⟩
    rcases List.mem_append.1 hm with hm | hm
    · exact h.queue chunk hm
    · obtain ⟨send, hsend, rfl⟩ := List.mem_map.1 hm
      exact ne_nil_of_mem_heavy (List.mem_of_mem_take hsend)

/-- A step of the writers adds the units of what it sends. -/
theorem WriterStep.units (hs : ch.WriterStep new ch') (h : ch.Held) :
    (Body.stream ch').units [] = (Body.stream ch).units [] ++ new.flatMap Bytes.units := by
  cases hs with
  | send ho chunk => simp [Body.units, Channel.send]
  | clone | close => exact (List.append_nil _).symm
  | settle =>
    obtain ⟨hcurrent, hqueue⟩ := queue_settle h.reading (Prod.eta ch.settle).symm
    have hunits := congrArg (List.flatMap Bytes.units) hqueue
    simp only [List.flatMap_append, flatMap_units_solid] at hunits
    simp only [Body.units, List.append_nil, List.flatMap_append, List.flatMap_nil, hcurrent, hunits]

/-- Where nobody is left to send, nothing is sent. -/
theorem WriterStep.deserted (hs : ch.WriterStep new ch') (h : ch.hasWriters = false) :
    new = [] ∧ ch'.hasWriters = false := by
  cases hs with
  | send ho | clone ho | close ho =>
    rw [isOpen_of_hasWriters h] at ho
    cases ho
  | settle =>
    rw [settle_of_none_waiting (waiting_of_hasWriters h)]
    exact ⟨rfl, h⟩

theorem WriterStep.work (hs : ch.WriterStep new ch') :
    (Body.stream ch').work ≤ (Body.stream ch).work + chunkWork new := by
  cases hs with
  | send ho chunk =>
    simp only [Body.work, Channel.send, List.map_append, List.map_cons, List.map_nil, chunkWork_append,
      chunkWork_cons, chunkWork_nil]
    omega
  | clone | close => exact Nat.le_refl _
  | settle => exact work_settle (Prod.eta ch.settle).symm

end Channel

namespace Body

/-- A stream that is held, with the units of what was sent on it so far. -/
def Holding (body : Body) (units : List Bytes) : Prop :=
  ∃ ch, body = .stream ch ∧ ch.Held ∧ body.units [] = units

/-- Nobody is left to send. -/
def Deserted (body : Body) : Prop := ∀ ch, body = .stream ch → ch.hasWriters = false

theorem supplier_holding : Supplier Holding Deserted where
  unit h hr hu := by
    obtain ⟨ch, rfl, hheld, rfl⟩ := h
    obtain ⟨_, ch', he, hread, rfl⟩ := read_stream hr
    cases he
    exact ⟨_, Channel.units_read hheld.queue [] hu hread, ch', rfl, hheld.read hread, rfl⟩
  ended h hr := by
    obtain ⟨ch, rfl, hheld, rfl⟩ := h
    obtain ⟨_, ch', he, hread, rfl⟩ := read_stream hr
    cases he
    obtain ⟨rfl, hcurrent, hqueue, hleft⟩ := Channel.read_end hheld.queue (by simp [Copier.unitLimit]) hread
    refine ⟨?_, fun last he => by cases he; exact hleft⟩
    simp [units, hcurrent, hqueue, Channel.waiting_of_hasWriters hleft, Bytes.units_nil]
  error h hr := by
    obtain ⟨ch, rfl, -⟩ := h
    cases isStream_of_read_error hr
  notReady h hr hs := by
    obtain ⟨ch, rfl, -⟩ := h
    cases hs
  release {body} h ch he := by
    cases body with
    | bytes | reader => cases he
    | stream ch' =>
      cases he
      exact h ch' rfl

/-- What is still read of a stream when a read has to wait is what its writers are still sending. -/
theorem Holding.of_pending {ch : Channel} {units : List Bytes} (h : (stream ch).Holding units)
    (hp : (ch.read Copier.unitLimit).1 = .pending) : units = (ch.waiting.map (·.2)).flatMap Bytes.units := by
  obtain ⟨_, he, -, rfl⟩ := h
  obtain ⟨hcurrent, hqueue, -⟩ := (Channel.read_pending_iff ch _).1 hp
  simp [Body.units, hcurrent, hqueue, Bytes.units_nil]

end Body

namespace Delivery

theorem load_of_work {σ : Type} {d : Delivery σ} {body body' : Body} {more : Nat} (hb : d.body = some body)
    (hw : body'.work ≤ body.work + more) : load { d with body := some body' } ≤ d.load + 3 * more := by
  unfold load
  rw [hb]
  dsimp only [Option.map_some, Option.getD_some]
  cases d.state with
  | awaiting | finished | diagnosing | opening => dsimp only; omega
  | copying c =>
    dsimp only
    cases c.state <;> dsimp only [Copying.load] <;> omega

section

variable {σ : Type} {good : σ → Prop} {response : Response} {sent new : List Bytes} {start : Channel}
  {d d' : Delivery (Ledger σ)} {n : Nat}

/-- A delivery that serves a stream, with what is known of its sink. -/
structure Sharing (good : σ → Prop) (response : Response) (sent : List Bytes) (d : Delivery (Ledger σ)) : Prop where
  willing : d.isFinished = false → good d.sink.sink
  silent : d.events = []
  tracked : d.Tracked Body.Holding Body.Deserted response sent

theorem Sharing.write {ch ch' : Channel} (h : d.Sharing good response sent)
    (hr : response.body = some (.stream start)) (hb : d.body = some (.stream ch)) (hs : ch.WriterStep new ch') :
    Sharing good response (sent ++ new) { d with body := some (.stream ch') } := by
  refine ⟨h.willing, h.silent, h.tracked.supply (new.flatMap Bytes.units) hb (fun units hh => ?_) (fun ho => ?_) ?_⟩
  · obtain ⟨_, he, hheld, rfl⟩ := hh
    cases he
    exact ⟨ch', rfl, hs.held hheld, hs.units hheld⟩
  · obtain ⟨rfl, hleft⟩ := hs.deserted (ho ch rfl)
    exact ⟨rfl, fun last he => by cases he; exact hleft⟩
  · intro source hsource
    rw [hr] at hsource
    cases hsource
    simp [Body.units]

variable [ResponseSink σ]

theorem Sharing.deliver (h : d.Sharing good response sent) (hg : Willing good) (hs : d.step? = some d') :
    d'.Sharing good response sent ∧ d'.load < d.load := by
  have ha := advance_of_step? hs
  have hl := h.willing ha.not_finished
  obtain ⟨htracked, hevents, hgood⟩ := h.tracked.advance Body.supplier_holding hg hl ha
  exact ⟨⟨hgood, hevents.trans h.silent, htracked⟩,
    ha.load_lt (fun c hc => h.tracked.hasRest hc) (hg.patient hl)⟩

/-- What holds at the start of a run holds in all of it. Every step of the delivery leaves less to do, up to what
was sent meanwhile. -/
theorem Sharing.shares {d₀ : Delivery (Ledger σ)} (h : d₀.Sharing good response [])
    (hr : response.body = some (.stream start)) (hg : Willing good) (hs : d₀.Shares good n sent d) :
    d.Sharing good response sent ∧ n + d.load ≤ d₀.load + 3 * chunkWork sent := by
  -- a step of the delivery pays for itself, one of the writers adds at most three times what it sends
  induction hs with
  | refl => exact ⟨h, by omega⟩
  | deliver _ hs ih =>
    obtain ⟨hd, hle⟩ := ih
    obtain ⟨hd', hlt⟩ := hd.deliver hg hs
    exact ⟨hd', by omega⟩
  | write _ hb hs ih =>
    obtain ⟨hd, hle⟩ := ih
    have hload := load_of_work hb hs.work
    refine ⟨hd.write hr hb hs, ?_⟩
    rw [chunkWork_append]
    omega
  | turn _ hs ih =>
    obtain ⟨hd, hle⟩ := ih
    exact ⟨⟨fun _ => hs, hd.silent, hd.tracked⟩, hle⟩

/-- Serving a stream that is read, on a sink that never fails and accepts at least a byte of every write, whatever
its writers do. The steps of the delivery are bounded by what was sent, and it waits for nothing but the sink and
the writers. Where it waits for the writers, all that they sent is written and flushed but what they are still
sending; where it is finished, all that they sent is, none of them is left, and nothing was logged. -/
theorem serve_shared {service : Service} {request : Request} {sink : σ} (hg : Willing good) (hs : good sink)
    (hb : (service request).body = some (.stream start)) (hr : start.reading = true)
    (hq : ∀ chunk ∈ start.queue, chunk ≠ [])
    (hd : (serve service request ({ sink } : Ledger σ)).Shares good n sent d) :
    d.events = [] ∧
    n + d.load ≤ (serve service request ({ sink } : Ledger σ)).load + 3 * chunkWork sent ∧
    (d.step? = none → d.isFinished = true ∨ d.AwaitsSink ∨ d.AwaitsWriters) ∧
    (∀ ch, d.AwaitsWriters → d.body = some (.stream ch) → ∃ done copy,
      d.sink.calls = (service request).headCall :: copy ∧ Transcript true done copy ∧
      done ++ (ch.waiting.map (·.2)).flatMap Bytes.units = (Body.stream start).units sent) ∧
    (d.isFinished = true → (service request).Served sent d.sink.calls ∧
      d.sink.calls.flatMap SinkCall.accepted = (Body.stream start).content sent ∧
      ∀ ch, d.body = some (.stream ch) → ch.hasWriters = false) := by
  have hstart : (serve service request ({ sink } : Ledger σ)).Sharing good (service request) [] := by
    refine ⟨fun _ => hs, rfl, rfl, rfl, rfl, fun source body hsource hbody => ?_⟩
    have hbody : (service request).body = some body := hbody
    rw [hsource] at hbody hb
    cases hb
    cases hbody
    exact ⟨start, rfl, ⟨hr, hq⟩, rfl⟩
  obtain ⟨h, hle⟩ := hstart.shares hb hg hd
  have hstreaming : (service request).isStreaming = true :=
    (Response.isStreaming_iff _).2 (.inl ⟨start, hb⟩)
  refine ⟨h.silent, hle, h.tracked.awaits, fun ch hawaits hbody => ?_, fun hfin => ?_⟩
  · obtain ⟨c, ch', hstate, hc, hbody', hread⟩ := hawaits
    rw [hbody] at hbody'
    cases hbody'
    obtain ⟨source, done, ahead, copy, hsource, hholding, hcalls, ht, he⟩ :=
      h.tracked.supplies_of_reading hstate hc hbody
    rw [hb] at hsource
    cases hsource
    rw [hholding.of_pending hread] at he
    exact ⟨done, copy, hcalls, hstreaming ▸ ht, he⟩
  · have ht := h.tracked
    have hstate : d.state = .finished := by simpa [isFinished] using hfin
    unfold Tracked at ht
    rw [hstate] at ht
    obtain ⟨hserved, hdeserted⟩ := ht
    exact ⟨hserved, hserved.accepted hb, fun ch hbody => hdeserted _ hbody ch rfl⟩

end

/-- A second writer is made, and each of the two sends a byte and closes, the second one first. -/
example : ∃ d, (serve (fun _ => { body := some (.stream {}) }) {} ({ sink := {} } : Ledger Recorder)).Shares
    (fun _ => False) 10 [[98], [97]] d ∧ d.isFinished = true ∧ d.sink.calls.flatMap SinkCall.accepted = [98, 97] := by
  have hopened := (Shares.refl : Shares (fun _ => False)
    (serve (fun _ => { body := some (.stream {}) }) {} ({ sink := {} } : Ledger Recorder)) 0 [] _).deliver rfl
  have hcloned := hopened.write rfl (@Channel.WriterStep.clone _ 0 rfl)
  have hsent := (hcloned.write rfl (@Channel.WriterStep.send _ 1 rfl [98])).write rfl .settle
  have hclosed := hsent.write rfl (@Channel.WriterStep.close _ 1 rfl)
  have hcopied := ((hclosed.deliver rfl).deliver rfl).deliver rfl
  have hsent := (hcopied.write rfl (@Channel.WriterStep.send _ 0 rfl [97])).write rfl .settle
  have hclosed := hsent.write rfl (@Channel.WriterStep.close _ 0 rfl)
  exact ⟨_, (((((hclosed.deliver rfl).deliver rfl).deliver rfl).deliver rfl).deliver rfl).deliver rfl, rfl, rfl⟩

end Delivery

end Courier
