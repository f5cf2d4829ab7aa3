import Courier.Proofs.Traffic
import Courier.Sink.Journal

/-!
# What the faults of a relay say

A relay fails with one of three faults, and each of them says something of what was done with the relay before.
`Relay.Change` lists what any move can change, by what comes of it; from that alone, `Journal.Shows` ties the state
of a relay to its journal. The fault of a head that was already sent, and that of a dropped body, always say the
truth. That of a head that was not sent also comes when no body can be sent behind the head
(`Journal.replies_run`).
-/

namespace Courier

namespace Relay

variable {r r' : Relay} {entry : Entry}

/-! ### Faults -/

theorem sendPending_refused (hp : r.pending ≠ []) (hs : r.sending = false) :
    r.sendPending = (.ready (.error (.ofTransport .headNotSent)), r) := by
  simp [sendPending, hp, hs]

theorem ne_nil_of_full (h : frameLimit ≤ r.pending.length) : r.pending ≠ [] := by
  intro hp
  rw [hp] at h
  exact absurd h (by decide)

/-- Why a call fails. -/
theorem call_failed {call : Call} {fault : Fault} (h : (r.call call).1 = .failed fault) :
    (r.headDue = false ∧ fault = .ofTransport .headAlreadySent) ∨
    (r.headDue = true ∧ r.slot = .given ∧ fault = .ofTransport .bodyDropped) ∨
    (call.sends r = true ∧ r.Refused fault) := by
  have hrefused {answer : Poll (Except Fault Unit)} (hs : r.sendPending.1 = answer)
      (hf : Reply.of (fun _ => .done) answer = .failed fault) : r.pending.isEmpty = false ∧ r.Refused fault := by
    match answer with
    | .ready (.error f) =>
      cases hf
      have hr := (sendPending_error (Prod.ext hs rfl)).1
      exact ⟨by simpa using hr.pending, hr⟩
    | .ready (.ok ()) | .pending => cases hf
  cases call with
  | setHeaders headers => cases h
  | writeHead status framing =>
    rcases hd : r.headDue with _ | _
    · simp only [Relay.call, writeHead_of_not_due status framing hd] at h
      cases h
      exact .inl ⟨rfl, rfl⟩
    · by_cases hs : r.slot = .given
      · simp only [Relay.call, writeHead_of_given status framing hd hs] at h
        cases h
        exact .inr (.inl ⟨rfl, hs, rfl⟩)
      · simp only [Relay.call, writeHead_of_due status framing hd hs] at h
        cases h
  | write bytes =>
    by_cases hfull : frameLimit ≤ r.pending.length
    · rcases hs : r.sendPending with ⟨(f | ⟨⟩) | _, r₁⟩ <;>
        simp only [Relay.call, write, if_pos hfull, hs] at h <;> cases h
      exact .inr (.inr ⟨by simpa [Call.sends] using hfull, (sendPending_error hs).1⟩)
    · simp only [Relay.call, write, if_neg hfull] at h
      cases h
  | flush =>
    obtain ⟨hp, hr⟩ := hrefused rfl h
    exact .inr (.inr ⟨by simp [Call.sends, hp], hr⟩)
  | shutdown =>
    rcases hs : r.sendPending with ⟨(f | ⟨⟩) | _, r₁⟩ <;> simp only [Relay.call, shutdown, hs] at h <;> cases h
    have hr := (sendPending_error hs).1
    exact .inr (.inr ⟨by simpa [Call.sends] using hr.pending, hr⟩)

theorem call_of_not_sending {call : Call} (hc : call.sends r = true) (hs : r.sending = false) :
    (r.call call).1 = .failed (.ofTransport .headNotSent) := by
  cases call with
  | setHeaders | writeHead => cases hc
  | write bytes =>
    have hfull : frameLimit ≤ r.pending.length := by simpa [Call.sends] using hc
    simp only [Relay.call, write, if_pos hfull, sendPending_refused (ne_nil_of_full hfull) hs]
    rfl
  | flush =>
    have hp : r.pending ≠ [] := by simpa [Call.sends] using hc
    simp only [Relay.call, sendPending_refused hp hs]
    rfl
  | shutdown =>
    have hp : r.pending ≠ [] := by simpa [Call.sends] using hc
    simp only [Relay.call, shutdown, sendPending_refused hp hs]
    rfl

/-! ### Moves -/

/-- Neither a head nor the end of a body. -/
def Entry.isQuiet : Entry → Bool
  | called (.writeHead ..) .done => false
  | called .shutdown .done => false
  | lookedForHead (.arrived _) => false
  | _ => true

/-- What a move changes, by what comes of it. -/
inductive Change (r : Relay) : Entry → Relay → Prop
  /-- Fields and bytes go on their way at most. -/
  | still {entry : Entry} {headers : Headers} {queue : List Bytes} {pending : Bytes} (hq : entry.isQuiet = true) :
      Change r entry { r with headers, queue, pending }
  | headSent {status : Status} {framing : Framing} (hd : r.headDue = true) (hs : r.slot = .empty) :
      Change r (.called (.writeHead status framing) .done) (r.withHead (r.headOf status framing))
  | headLost {status : Status} {framing : Framing} {reply : Reply} (hd : r.headDue = true) (hs : r.slot = .given)
      (hr : reply ≠ .done) : Change r (.called (.writeHead status framing) reply) (r.headLost framing)
  | ended {queue : List Bytes} {pending : Bytes} :
      Change r (.called .shutdown .done) { r with queue, pending, sending := false }
  | left : Change r .left r.detach
  | headTaken {head : Head} {hosted : Option HostBody} (hs : r.slot = .full head) :
      Change r (.lookedForHead (.arrived head)) { r with slot := .given, hosted }
  | headMissed (hd : r.headDue = false) : Change r (.lookedForHead .ended) { r with slot := .given }
  | headDropped {receiving : Bool} {queue : List Bytes} :
      Change r .headDropped { r with slot := .given, receiving, queue }
  | bodyDropped {receiving : Bool} {queue : List Bytes} {hosted : Option HostBody} :
      Change r .bodyDropped { r with hosted, receiving, queue }

theorem Change.idle (hq : entry.isQuiet = true) : r.Change entry r := .still hq

theorem change_call (hc : r.Coherent) (call : Call) :
    r.Change (.called call (r.call call).1) (r.call call).2 := by
  cases call with
  | setHeaders headers => exact .still rfl
  | writeHead status framing =>
    rcases hd : r.headDue with _ | _
    · simp only [Relay.call, writeHead_of_not_due status framing hd]
      exact .idle rfl
    · rcases hs : r.slot with _ | head | _
      · simp only [Relay.call, writeHead_of_due status framing hd (by simp [hs])]
        exact .headSent hd hs
      · exact absurd hs ((hc.due hd).2.2 head)
      · simp only [Relay.call, writeHead_of_given status framing hd hs]
        exact .headLost hd hs (by simp [Reply.of])
  | write bytes =>
    rcases hw : r.write bytes with ⟨(f | n) | _, r₁⟩ <;> simp only [Relay.call, hw]
    · rw [write_idle hw (by simp)]
      exact .idle rfl
    · obtain ⟨sent, hs, -⟩ := write_ok hw
      rw [hs.frame]
      exact .still rfl
    · rw [write_idle hw (by simp)]
      exact .idle rfl
  | flush =>
    rcases hw : r.sendPending with ⟨(f | ⟨⟩) | _, r₁⟩ <;> simp only [Relay.call, hw]
    · rw [sendPending_idle hw (by simp)]
      exact .idle rfl
    · obtain ⟨sent, hs, -⟩ := sendPending_ok hw
      rw [hs.frame]
      exact .still rfl
    · rw [sendPending_idle hw (by simp)]
      exact .idle rfl
  | shutdown =>
    rcases hw : r.shutdown with ⟨(f | ⟨⟩) | _, r₁⟩ <;> simp only [Relay.call, hw]
    · rw [shutdown_idle hw (by simp)]
      exact .idle rfl
    · obtain ⟨r₂, hs, rfl⟩ := shutdown_ok hw
      obtain ⟨sent, hs, -⟩ := sendPending_ok hs
      rw [hs.frame]
      exact .ended
    · rw [shutdown_idle hw (by simp)]
      exact .idle rfl

end Relay

theorem Traffic.relay_after (t : Traffic) (relay : Relay) (call : Relay.Call) (reply : Relay.Reply) :
    (t.after relay call reply).relay = relay := by
  unfold after
  split <;> rfl

theorem Traffic.change_of_step? {t t' : Traffic} {move : Relay.Move} (hc : t.relay.Coherent)
    (hs : t.step? move = some t') : t.relay.Change (t.relay.entry move) t'.relay := by
  cases move with
  | call call =>
    obtain ⟨-, hs⟩ := Option.ite_none_right_eq_some.1 hs
    cases hs
    unfold Traffic.call
    rw [relay_after]
    exact Relay.change_call hc call
  | leave =>
    obtain ⟨-, hs⟩ := Option.ite_none_right_eq_some.1 hs
    cases hs
    exact .left
  | takeHead =>
    cases hs
    show t.relay.Change (.lookedForHead t.relay.takeHead.1) t.relay.takeHead.2
    unfold Relay.takeHead
    split
    · exact .idle rfl
    · split
      · exact .idle rfl
      · rename_i hd
        exact .headMissed (by simpa using hd)
    · rename_i head hslot
      exact .headTaken hslot
  | takeFrame =>
    cases hs
    show t.relay.Change (.lookedForFrame t.relay.takeFrame.1) t.takeFrame.relay
    rcases ht : t.relay.takeFrame with ⟨answer, relay⟩
    have hrelay : t.takeFrame.relay = relay := by
      unfold Traffic.takeFrame
      rw [ht]
      cases answer <;> rfl
    rw [hrelay]
    by_cases ha : ∃ frame, answer = .arrived frame
    · obtain ⟨frame, rfl⟩ := ha
      unfold Relay.takeFrame at ht
      split at ht
      · cases ht
      · cases ht
      · split at ht
        · cases ht
          exact .still rfl
        · split at ht <;> cases ht
    · rw [Relay.takeFrame_idle ht fun frame hf => ha ⟨frame, hf⟩]
      exact .idle rfl
  | dropHead =>
    cases hs
    show t.relay.Change (if t.relay.slot = .given then .nothingDropped else .headDropped) t.relay.dropHead
    unfold Relay.dropHead
    rcases hslot : t.relay.slot with _ | head | _
    · exact .headDropped
    · exact .headDropped
    · exact .idle rfl
  | dropBody =>
    cases hs
    show t.relay.Change (if t.relay.hosted.isSome then .bodyDropped else .nothingDropped) t.relay.dropBody
    unfold Relay.dropBody
    rcases hb : t.relay.hosted with _ | b
    · exact .idle rfl
    · exact .bodyDropped

/-! ### The journal -/

namespace Journal

open Relay (Entry)

variable {j j' : Journal} {t : Traffic} {entry : Entry}

theorem pair_sublist_concat {a b c : Entry} {entries : List Entry} :
    [a, b].Sublist (entries ++ [c]) ↔ [a, b].Sublist entries ∨ a ∈ entries ∧ b = c := by
  constructor
  · intro h
    obtain ⟨front, back, he, hf, hb⟩ := List.sublist_append_iff.1 h
    rcases back with _ | ⟨d, back⟩
    · rw [List.append_nil] at he
      exact .inl (he ▸ hf)
    · have hback : back = [] := by
        have := hb.length_le
        simpa using this
      subst hback
      obtain rfl : d = c := by simpa using hb.subset (List.mem_singleton_self d)
      obtain ⟨rfl, hd⟩ := List.append_inj' (show [a] ++ [b] = front ++ [d] from he) rfl
      cases hd
      exact .inr ⟨List.singleton_sublist.1 hf, rfl⟩
  · rintro (h | ⟨ha, rfl⟩)
    · exact h.trans (List.sublist_append_left ..)
    · exact (List.singleton_sublist.2 ha).append (.refl [b])

theorem mem_enter : entry ∈ (j.enter t entry).entries :=
  List.mem_append_right _ (List.mem_singleton_self _)

theorem heads_enter : (j.enter t entry).heads = j.heads ++ entry.head?.toList := by
  simp only [heads, enter, List.filterMap_append]
  cases h : entry.head? <;> simp [h]

theorem HeadTried.enter (h : j.HeadTried) : (j.enter t entry).HeadTried := by
  obtain ⟨status, framing, reply, hmem⟩ := h
  exact ⟨status, framing, reply, List.mem_append_left _ hmem⟩

theorem Dropped.enter (h : j.Dropped) : (j.enter t entry).Dropped :=
  h.imp (List.mem_append_left _) (List.mem_append_left _)

theorem headWritten_enter : (j.enter t entry).HeadWritten ↔
    j.HeadWritten ∨ ∃ status framing, entry = .called (.writeHead status framing) .done := by
  constructor
  · rintro ⟨status, framing, h⟩
    rcases List.mem_append.1 h with h | h
    · exact .inl ⟨status, framing, h⟩
    · exact .inr ⟨status, framing, (List.mem_singleton.1 h).symm⟩
  · rintro (⟨status, framing, h⟩ | ⟨status, framing, rfl⟩)
    · exact ⟨status, framing, List.mem_append_left _ h⟩
    · exact ⟨status, framing, mem_enter⟩

theorem bodyOver_enter : (j.enter t entry).BodyOver ↔ j.BodyOver ∨
    (∃ status, entry = .called (.writeHead status .empty) .done) ∨
      j.HeadWritten ∧ entry = .called .shutdown .done := by
  constructor
  · rintro (⟨status, h⟩ | ⟨status, framing, h⟩)
    · rcases List.mem_append.1 h with h | h
      · exact .inl (.inl ⟨status, h⟩)
      · exact .inr (.inl ⟨status, (List.mem_singleton.1 h).symm⟩)
    · rcases pair_sublist_concat.1 h with h | ⟨h, he⟩
      · exact .inl (.inr ⟨status, framing, h⟩)
      · exact .inr (.inr ⟨⟨status, framing, h⟩, he.symm⟩)
  · rintro ((⟨status, h⟩ | ⟨status, framing, h⟩) | ⟨status, rfl⟩ | ⟨⟨status, framing, h⟩, rfl⟩)
    · exact .inl ⟨status, List.mem_append_left _ h⟩
    · exact .inr ⟨status, framing, pair_sublist_concat.2 (.inl h)⟩
    · exact .inl ⟨status, mem_enter⟩
    · exact .inr ⟨status, framing, pair_sublist_concat.2 (.inr ⟨h, rfl⟩)⟩

theorem BodyOver.headWritten (h : j.BodyOver) : j.HeadWritten := by
  rcases h with ⟨status, h⟩ | ⟨status, framing, h⟩
  · exact ⟨status, .empty, h⟩
  · exact ⟨status, framing, h.subset (by simp)⟩

theorem heads_quiet (hq : entry.isQuiet = true) : (j.enter t entry).heads = j.heads := by
  have hhead : entry.head? = none := by
    unfold Entry.head?
    split
    · cases hq
    · rfl
  rw [heads_enter, hhead]
  exact List.append_nil _

theorem headWritten_quiet (hq : entry.isQuiet = true) : (j.enter t entry).HeadWritten ↔ j.HeadWritten := by
  rw [headWritten_enter, or_iff_left]
  rintro ⟨status, framing, rfl⟩
  cases hq

theorem bodyOver_quiet (hq : entry.isQuiet = true) : (j.enter t entry).BodyOver ↔ j.BodyOver := by
  rw [bodyOver_enter, or_iff_left]
  rintro (⟨status, rfl⟩ | ⟨-, rfl⟩) <;> cases hq

/-- What a journal shows of the state that its relay has come to. -/
structure Shows (j : Journal) (r : Relay) : Prop where
  heads : j.heads.length ≤ 1
  /-- From a slot that the host still looks at, nothing was handed over. -/
  unhanded : r.slot ≠ .given → j.heads = []
  tried : r.attached = true → r.headDue = false → j.HeadTried
  unwritten : r.headDue = true → ¬ j.HeadWritten
  unwanted : r.headDue = true → r.slot = .given → j.Dropped
  cut : r.sending = true → r.receiving = false → j.Dropped
  bodyOver : r.attached = true → j.HeadWritten → (r.sending = false ↔ j.BodyOver)

theorem shows_new : ({} : Journal).Shows {} := by
  refine ⟨Nat.zero_le 1, fun _ => rfl, ?_, ?_, ?_, ?_, ?_⟩
  · intro _ h; cases h
  · rintro - ⟨status, framing, h⟩; cases h
  · intro _ h; cases h
  · intro h; cases h
  · rintro - ⟨status, framing, h⟩; cases h

namespace Shows

variable {r r' : Relay}

/-- Behind a quiet entry the journal shows the same, and what the relay has lost is for the entry to show. -/
theorem quiet (h : j.Shows r) (hq : entry.isQuiet = true) (hslot : r'.slot ≠ .given → r.slot ≠ .given)
    (hattached : r'.attached = true → r.attached = true)
    (htried : r'.attached = true → r'.headDue = false → (j.enter t entry).HeadTried)
    (hdue : r'.headDue = true → r.headDue = true)
    (hunwanted : r'.headDue = true → r'.slot = .given → (j.enter t entry).Dropped)
    (hcut : r'.sending = true → r'.receiving = false → (j.enter t entry).Dropped)
    (hsending : r'.attached = true → j.HeadWritten → r'.sending = r.sending) : (j.enter t entry).Shows r' := by
  refine ⟨?_, fun hs => ?_, htried, fun hd hw => ?_, hunwanted, hcut, fun ha hw => ?_⟩
  · rw [heads_quiet hq]; exact h.heads
  · rw [heads_quiet hq]; exact h.unhanded (hslot hs)
  · exact h.unwritten (hdue hd) ((headWritten_quiet hq).1 hw)
  · have hw := (headWritten_quiet hq).1 hw
    rw [bodyOver_quiet hq, hsending ha hw]
    exact h.bodyOver (hattached ha) hw

theorem headSent {status : Status} {framing : Framing} (h : j.Shows r) (hd : r.headDue = true) (hs : r.slot = .empty) :
    (j.enter t (.called (.writeHead status framing) .done)).Shows (r.withHead (r.headOf status framing)) := by
  have hheads : (j.enter t (.called (.writeHead status framing) .done)).heads = [] := by
    rw [heads_enter, h.unhanded (by simp [hs])]
    rfl
  refine ⟨by rw [hheads]; exact Nat.zero_le 1, fun _ => hheads, fun _ _ => ⟨_, _, _, mem_enter⟩, ?_, ?_, ?_, ?_⟩
  · intro hd; cases hd
  · intro hd; cases hd
  · intro hsending hr
    rw [show (r.withHead _).receiving = (r.withHead _).sending from rfl, hsending] at hr
    cases hr
  · intro _ _
    rw [bodyOver_enter]
    constructor
    · intro hsending
      have hempty : framing = .empty := by simpa [Relay.withHead, Relay.headOf] using hsending
      subst hempty
      exact .inr (.inl ⟨status, rfl⟩)
    · rintro (hover | ⟨status, he⟩ | ⟨-, he⟩)
      · exact absurd hover.headWritten (h.unwritten hd)
      · cases he
        rfl
      · cases he

theorem ended {queue : List Bytes} {pending : Bytes} (h : j.Shows r) :
    (j.enter t (.called .shutdown .done)).Shows { r with queue, pending, sending := false } := by
  have hwritten (hw : (j.enter t (.called .shutdown .done)).HeadWritten) : j.HeadWritten := by
    rcases headWritten_enter.1 hw with hw | ⟨_, _, he⟩
    · exact hw
    · cases he
  refine ⟨?_, fun hs => ?_, fun ha hd => (h.tried ha hd).enter, fun hd hw => h.unwritten hd (hwritten hw),
    fun hd hs => (h.unwanted hd hs).enter, ?_, fun _ hw => ?_⟩
  · rw [heads_enter]
    simpa [Entry.head?] using h.heads
  · rw [heads_enter, h.unhanded hs]
    rfl
  · intro hs; cases hs
  · exact iff_of_true rfl (bodyOver_enter.2 (.inr (.inr ⟨hwritten hw, rfl⟩)))

/-- With the head its writer is done, so the host is not handed another one. -/
theorem headTaken {head : Head} {hosted : Option HostBody} (hco : r.Coherent) (h : j.Shows r)
    (hs : r.slot = .full head) :
    (j.enter t (.lookedForHead (.arrived head))).Shows { r with slot := .given, hosted } := by
  have hdue : r.headDue = false := by
    rcases hd : r.headDue with _ | _
    · rfl
    · exact absurd hs ((hco.due hd).2.2 head)
  refine ⟨?_, fun hn => absurd rfl hn, fun ha hd => (h.tried ha hd).enter, fun hd => ?_, fun hd => ?_,
    fun hs hr => (h.cut hs hr).enter, fun ha hw => ?_⟩
  · rw [heads_enter, h.unhanded (by simp [hs])]
    exact Nat.le_refl 1
  · rw [show r.headDue = true from hd] at hdue; cases hdue
  · rw [show r.headDue = true from hd] at hdue; cases hdue
  · rcases headWritten_enter.1 hw with hw | ⟨_, _, he⟩
    · rw [bodyOver_enter, or_iff_left]
      · exact h.bodyOver ha hw
      · rintro (⟨_, he⟩ | ⟨-, he⟩) <;> cases he
    · cases he

theorem enter (hco : r.Coherent) (h : j.Shows r) (hc : r.Change entry r') : (j.enter t entry).Shows r' := by
  have htried (ha : r.attached = true) (hd : r.headDue = false) : (j.enter t entry).HeadTried :=
    (h.tried ha hd).enter
  have hunwanted (hd : r.headDue = true) (hs : r.slot = .given) : (j.enter t entry).Dropped :=
    (h.unwanted hd hs).enter
  have hcut (hs : r.sending = true) (hr : r.receiving = false) : (j.enter t entry).Dropped := (h.cut hs hr).enter
  cases hc with
  | still hq => exact h.quiet hq id id htried id hunwanted hcut fun _ _ => rfl
  | headSent hd hs => exact h.headSent hd hs
  | ended => exact h.ended
  | headTaken hs => exact h.headTaken hco hs
  | @headLost status framing reply hd hs hr =>
    have hquiet : (Entry.called (.writeHead status framing) reply).isQuiet = true := by
      cases reply <;> first | rfl | exact absurd rfl hr
    refine h.quiet hquiet id id (fun _ _ => ⟨_, _, _, mem_enter⟩) ?_ ?_ (fun _ _ => hunwanted hd hs) ?_
    · intro hd; cases hd
    · intro hd; cases hd
    · exact fun _ hw => absurd hw (h.unwritten hd)
  | left => refine h.quiet rfl id ?_ ?_ ?_ ?_ ?_ ?_ <;> exact nofun
  | headMissed hd =>
    refine h.quiet rfl (fun hn => absurd rfl hn) id htried id ?_ hcut fun _ _ => rfl
    intro hd'
    rw [show r.headDue = true from hd'] at hd
    cases hd
  | headDropped =>
    exact h.quiet rfl (fun hn => absurd rfl hn) id htried id (fun _ _ => .inl mem_enter)
      (fun _ _ => .inl mem_enter) fun _ _ => rfl
  | bodyDropped => exact h.quiet rfl id id htried id hunwanted (fun _ _ => .inr mem_enter) fun _ _ => rfl

end Shows

theorem run?_cons (j : Journal) (move : Relay.Move) (moves : List Relay.Move) :
    j.run? (move :: moves) = (j.step? move).bind fun j => j.run? moves := by
  simp [run?, List.foldlM_cons]

theorem shows_run {moves : List Relay.Move} (hb : j.traffic.Balanced) (h : j.Shows j.relay)
    (hr : j.run? moves = some j') : j'.traffic.Balanced ∧ j'.Shows j'.relay := by
  induction moves generalizing j with
  | nil =>
    cases hr
    exact ⟨hb, h⟩
  | cons move moves ih =>
    rw [run?_cons] at hr
    obtain ⟨j₁, hs, hr⟩ := Option.bind_eq_some_iff.1 hr
    obtain ⟨t, ht, rfl⟩ := Option.map_eq_some_iff.1 hs
    exact ih (hb.step ht) (h.enter hb.coherent (Traffic.change_of_step? hb.coherent ht)) hr

/-- What a journal that shows the state of its relay says of the fault of the next call. -/
theorem Shows.fault {call : Relay.Call} {fault : Fault} (h : j.Shows j.relay) (ha : j.relay.attached = true)
    (hf : (j.relay.call call).1 = .failed fault) :
    (fault = .ofTransport .headAlreadySent ∧ j.HeadTried) ∨ (fault = .ofTransport .bodyDropped ∧ j.Dropped) ∨
      (fault = .ofTransport .headNotSent ∧ call.sends j.relay = true ∧ j.relay.sending = false) := by
  rcases Relay.call_failed hf with ⟨hd, rfl⟩ | ⟨hd, hs, rfl⟩ | ⟨hc, hr⟩
  · exact .inl ⟨rfl, h.tried ha hd⟩
  · exact .inr (.inl ⟨rfl, h.unwanted hd hs⟩)
  · rcases hr.cause with ⟨hs, rfl⟩ | ⟨hs, hv, rfl⟩
    · exact .inr (.inr ⟨rfl, hc, hs⟩)
    · exact .inr (.inl ⟨rfl, h.cut hs hv⟩)

/-- Whatever is done with a relay, the host is handed one head at most. A call fails with one of three faults. That
a head was already sent is said only behind an attempt to write one, that the body was dropped only when the host has
dropped head or body. That no head was sent is said only behind no head, but for one case: the call has to send
gathered bytes, and behind the head that was written no body byte can be sent. -/
theorem replies_run {moves : List Relay.Move} (hr : ({} : Journal).run? moves = some j) :
    j.heads.length ≤ 1 ∧ (j.relay.attached = true → ∀ call : Relay.Call,
      (∀ fault, (j.relay.call call).1 = .failed fault →
        (fault = .ofTransport .headAlreadySent ∧ j.HeadTried) ∨ (fault = .ofTransport .bodyDropped ∧ j.Dropped) ∨
          fault = .ofTransport .headNotSent) ∧
      ((∀ fault, (j.relay.call call).1 = .failed fault → j.Bears fault) ↔
        ¬ (call.sends j.relay = true ∧ j.BodyOver))) := by
  have h := (shows_run Traffic.balanced_new shows_new hr).2
  refine ⟨h.heads, fun ha call => ⟨fun fault hf => ?_, ?_, fun hover fault hf => ?_⟩⟩
  · rcases h.fault ha hf with hx | hx | ⟨rfl, -⟩
    · exact .inl hx
    · exact .inr (.inl hx)
    · exact .inr (.inr rfl)
  · rintro hbears ⟨hc, hover⟩
    have hs := (h.bodyOver ha hover.headWritten).2 hover
    exact (hbears _ (Relay.call_of_not_sending hc hs)).unwritten rfl hover.headWritten
  · rcases h.fault ha hf with ⟨rfl, htried⟩ | ⟨rfl, hdropped⟩ | ⟨rfl, hc, hs⟩
    · exact ⟨fun _ => htried, nofun, nofun⟩
    · exact ⟨nofun, nofun, fun _ => hdropped⟩
    · refine ⟨nofun, fun _ hw => ?_, nofun⟩
      exact hover ⟨hc, (h.bodyOver ha hw).1 hs⟩

/-- A byte written behind a completed shutdown waits for a flush that does not tell the truth. -/
theorem replies_run_shut :
    ∃ j, ({} : Journal).run? [.call (.writeHead .ok .chunked), .takeHead, .call (.write [97]), .call .shutdown,
        .call (.write [98])] = some j ∧
      j.heads.length ≤ 1 ∧ ¬ ∀ fault, (j.relay.call .flush).1 = .failed fault → j.Bears fault := by
  refine ⟨_, rfl, ?_⟩
  have hr : ({} : Journal).run? [.call (.writeHead .ok .chunked), .takeHead, .call (.write [97]), .call .shutdown,
    .call (.write [98])] = some _ := rfl
  obtain ⟨hheads, hcalls⟩ := replies_run hr
  refine ⟨hheads, fun hbears => ((hcalls rfl .flush).2.1 hbears) ⟨rfl, .inr ⟨.ok, .chunked, ?_⟩⟩⟩
  exact .cons_cons _ (.cons _ (.cons _ (.cons_cons _ (List.nil_sublist _))))

/-- That no head was sent is also said behind one that no body was to follow. -/
theorem not_forall_unwritten :
    ¬ ∀ (moves : List Relay.Move) (j : Journal) (call : Relay.Call), ({} : Journal).run? moves = some j →
      j.relay.attached = true → (j.relay.call call).1 = .failed (.ofTransport .headNotSent) → ¬ j.HeadWritten := by
  intro h
  exact h [.call (.writeHead .ok .empty), .call (.write [120])] _ .flush rfl rfl rfl
    ⟨.ok, .empty, List.mem_cons_self⟩

end Journal

end Courier
