import Courier.Exchange.Trail
import Courier.Proofs.Steps

/-!
# The calls of a delivery

Of each step of a delivery, the call that it makes and whether that call fails. A trail is `Clean` as long as
no call has failed, and `Breaks` with the first that does.
-/

namespace Courier

/-- The fault that a copier has failed with. -/
def Copying.fault? : Copying → Option Fault
  | .failed fault => some fault
  | .reading | .writing .. | .flushing | .closing | .done => none

theorem Copying.fault?_eq_some {state : Copying} {fault : Fault} :
    state.fault? = some fault ↔ state = .failed fault := by
  cases state <;> simp [fault?]

namespace Delivery

/-- What is lost when a call fails. -/
def Call.lost (streaming : Bool) (written : Nat) : Call → Lost
  | sink (.head ..) => .head
  | _ => .body streaming written

def Clean (calls : List Call) : Prop := ∀ call ∈ calls, call.fault? = none

/-- The last of the calls has failed, and none before it. -/
def Breaks (calls : List Call) (bad : Call) (fault : Fault) : Prop :=
  bad.fault? = some fault ∧ ∃ before, calls = before ++ [bad] ∧ Clean before

/-- The first call writes the head, and no other does. -/
def HeadFirst (response : Response) (calls : List Call) : Prop :=
  calls = [] ∨ ∃ answer rest, calls = .sink (.head response.status response.framing answer) :: rest ∧
    ∀ call ∈ rest, call.isHead = false

theorem clean_nil : Clean [] := by
  intro call hc
  cases hc

theorem Clean.snoc {calls : List Call} {call : Call} (h : Clean calls) (hc : call.fault? = none) :
    Clean (calls ++ [call]) := by
  intro c hm
  rcases List.mem_append.1 hm with hm | hm
  · exact h c hm
  · rw [List.mem_singleton.1 hm]
    exact hc

theorem Clean.breaks {calls : List Call} {call : Call} {fault : Fault} (h : Clean calls)
    (hc : call.fault? = some fault) : Breaks (calls ++ [call]) call fault :=
  ⟨hc, calls, rfl, h⟩

theorem HeadFirst.snoc {response : Response} {calls : List Call} {call : Call} (h : HeadFirst response calls)
    (hne : calls ≠ []) (hc : call.isHead = false) : HeadFirst response (calls ++ [call]) := by
  rcases h with rfl | ⟨answer, rest, rfl, hrest⟩
  · exact absurd rfl hne
  · refine .inr ⟨answer, rest ++ [call], rfl, fun c hm => ?_⟩
    rcases List.mem_append.1 hm with hm | hm
    · exact hrest c hm
    · rw [List.mem_singleton.1 hm]
      exact hc

/-- Nothing follows the first call that fails. -/
theorem Breaks.split {calls before after : List Call} {bad bad' : Call} {fault fault' : Fault}
    (h : Breaks calls bad fault) (he : calls = before ++ bad' :: after) (hf : bad'.fault? = some fault') :
    Clean before ∧ bad' = bad ∧ fault' = fault ∧ after = [] := by
  obtain ⟨hbad, clean, rfl, hclean⟩ := h
  rcases List.eq_nil_or_concat after with rfl | ⟨after, last, rfl⟩
  · obtain ⟨rfl, hlast⟩ := List.append_inj' he rfl
    cases hlast
    rw [hbad] at hf
    cases hf
    exact ⟨hclean, rfl, rfl, rfl⟩
  · rw [List.concat_eq_append, ← List.cons_append, ← List.append_assoc] at he
    obtain ⟨rfl, -⟩ := List.append_inj' he rfl
    rw [hclean bad' (by simp)] at hf
    cases hf

theorem Call.message_lost (call : Call) (streaming : Bool) (written : Nat) :
    (call.lost streaming written).message = if call.isHead then "couldn't send response head"
      else if streaming then "couldn't send streaming response body" else "couldn't send response body" := by
  match call with
  | .sink (.head ..) => rfl
  | .sink (.write ..) | .sink (.flush _) | .read _ | .diagnosis .. => cases streaming <;> rfl

theorem Call.lost_of_not_head {call : Call} (streaming : Bool) (written : Nat) (h : call.isHead = false) :
    call.lost streaming written = .body streaming written := by
  match call with
  | .sink (.head ..) => cases h
  | .sink (.write ..) | .sink (.flush _) | .read _ | .diagnosis .. => rfl

end Delivery

section

variable {σ : Type} [ResponseSink σ]

namespace Copier.Attempt

variable {c c' : Copier} {body body' : Body} {sink sink' : σ}

/-- A copier fails with the fault of its call, and goes on after a call that has none. -/
theorem fault?_eq (ha : c.Attempt body sink c' body' sink') :
    c'.state.fault? = (c.call? body sink).bind Delivery.Call.fault? := by
  cases ha with
  | unit hc hr | ended hc hr => simp [call?, hc, hr, Delivery.Call.fault?, Copying.fault?]
  | readAgain hc hr hf | readLost hc hr hf =>
    simp [call?, hc, hr, hf, Delivery.Call.fault?, Copying.fault?, fail]
  | notReady hc hr hs => simp [call?, hc, hr, Copying.fault?]
  | written hc hw hn =>
    obtain ⟨n, rfl⟩ := Nat.exists_eq_succ_of_ne_zero (Nat.ne_of_gt hn)
    simp [call?, hc, hw, Delivery.Call.fault?, Copying.fault?]
  | unitDone hc hw hn =>
    obtain ⟨n, rfl⟩ := Nat.exists_eq_succ_of_ne_zero (Nat.ne_of_gt hn)
    simp only [call?, hc, hw, Option.bind_some, Delivery.Call.fault?, afterUnit]
    split <;> rfl
  | stuck hc hw => simp [call?, hc, hw, Delivery.Call.fault?, Copying.fault?, fail]
  | writeAgain hc hw hf | writeLost hc hw hf =>
    simp [call?, hc, hw, hf, Delivery.Call.fault?, Copying.fault?, fail]
  | flushed hc hw | closed hc hw => simp [call?, hc, hw, Delivery.Call.fault?, Copying.fault?]
  | flushLost hc hw => rcases hc with hc | hc <;> simp [call?, hc, hw, Delivery.Call.fault?, Copying.fault?, fail]

theorem discipline_eq (ha : c.Attempt body sink c' body' sink') : c'.discipline = c.discipline := by
  cases ha <;> rfl

theorem isStream_eq (ha : c.Attempt body sink c' body' sink') : body'.isStream = body.isStream := by
  have hread {answer : Poll (Except Fault Bytes)} {next : Body}
      (hr : body.read unitLimit = (answer, next)) : next.isStream = body.isStream := by
    cases body <;> cases hr <;> rfl
  cases ha with
  | unit _ hr | ended _ hr | readAgain _ hr | readLost _ hr | notReady _ hr => exact hread hr
  | written | unitDone | stuck | writeAgain | writeLost | flushed | closed | flushLost => rfl

end Copier.Attempt

/-- A copier writes no head. -/
theorem Copier.isHead_call? {c : Copier} {body : Body} {sink : σ} {call : Delivery.Call}
    (h : c.call? body sink = some call) : call.isHead = false := by
  unfold call? at h
  split at h
  · split at h <;> cases h
    rfl
  · split at h <;> cases h
    rfl
  · split at h <;> cases h
    rfl
  · split at h <;> cases h
    rfl
  · cases h
  · cases h

namespace Delivery

variable {d : Delivery σ}

theorem call?_of_opening {o : Opening} {answer : Except Fault Unit} {sink : σ} (hd : d.state = .opening o)
    (hw : ResponseSink.writeHead (d.dressed o) o.status o.framing = (answer, sink)) :
    d.call? = some (.sink (.head o.status o.framing answer)) := by
  unfold dressed at hw
  simp only [call?, hd, hw]

theorem call?_of_copying {c : Copier} {body : Body} (hd : d.state = .copying c) (hb : d.body = some body) :
    d.call? = c.call? body d.sink := by
  simp only [call?, hd, hb, Option.bind_some]

theorem call?_of_result {c : Copier} (hd : d.state = .copying c) (hc : c.result? ≠ none) : d.call? = none := by
  unfold call?
  rw [hd]
  refine Option.bind_eq_none_iff.2 fun body _ => ?_
  unfold Copier.result? at hc
  unfold Copier.call?
  cases hs : c.state with
  | done | failed => rfl
  | reading | writing | flushing | closing => simp [hs] at hc

theorem call?_of_diagnosing {lost : Lost} {fault cause : Fault} (hd : d.state = .diagnosing lost fault)
    (hf : ResponseSink.diagnose d.sink fault = .ready cause) : d.call? = some (.diagnosis fault cause) := by
  simp only [call?, hd, hf]

/-- Nothing is logged before a delivery is finished. -/
theorem Advance.events_eq {d' : Delivery σ} (ha : d.Advance d') (hf : d'.isFinished = false) :
    d'.events = d.events := by
  cases ha with
  | headLost | headSent | copy | copyLost => rfl
  | headOnly | copied | report => cases hf

/-- A step whose call fails leaves the fault behind. -/
theorem Advance.failed {d' : Delivery σ} {call : Call} {fault : Fault} (ha : d.Advance d')
    (hc : d.call? = some call) (hf : call.fault? = some fault) :
    (∃ lost, d'.state = .diagnosing lost fault) ∨
      ∃ c, d'.state = .copying c ∧ c.state = .failed fault := by
  cases ha with
  | headLost hd hw =>
    rw [call?_of_opening hd hw] at hc
    cases hc
    cases hf
    exact .inl ⟨.head, rfl⟩
  | headSent hd hw | headOnly hd hw =>
    rw [call?_of_opening hd hw] at hc
    cases hc
    cases hf
  | copy hd hb ha =>
    rw [call?_of_copying hd hb] at hc
    refine .inr ⟨_, rfl, Copying.fault?_eq_some.1 ?_⟩
    rw [ha.fault?_eq, hc]
    exact hf
  | copied hd hs | copyLost hd hs =>
    rw [call?_of_result hd (by simp [Copier.result?, hs])] at hc
    cases hc
  | report hd hr =>
    rw [call?_of_diagnosing hd hr] at hc
    cases hc
    cases hf

end Delivery

end

end Courier
