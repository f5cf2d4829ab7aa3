import Courier.Proofs.Plan
import Courier.Proofs.Traffic
import Courier.Sink.Hosted

/-!
# How a body is cut into frames

Between two flushes a relay makes a frame only of what is full, and a flush makes one of the rest, so the frames
of what is written in between are its consecutive pieces (`Traffic.Cut`). A copier that flushes after each unit
cuts each unit by itself, any other copier cuts all of them together; `Framed` says so state by state. What the
host takes, and when, only moves frames from the queue to what it has received.
-/

namespace Courier

/-! ### Relays -/

namespace Relay

variable {r r' : Relay} {bytes : Bytes} {n : Nat}

theorem queue_sendPending (h : r.sendPending = (.ready (.ok ()), r')) :
    r'.queue = r.queue ++ if r.pending = [] then [] else [r.pending] := by
  unfold sendPending at h
  by_cases hp : r.pending = []
  · rw [if_pos (List.isEmpty_iff.2 hp)] at h
    cases h
    rw [if_pos hp, List.append_nil]
  · rw [if_neg (by simpa using hp)] at h
    rw [if_neg hp]
    repeat' split at h
    all_goals cases h
    rfl

/-- A write makes a frame of what is gathered if that is full. -/
theorem queue_write (h : r.write bytes = (.ready (.ok n), r')) :
    r'.queue = r.queue ++ if frameLimit ≤ r.pending.length then [r.pending] else [] := by
  unfold write at h
  split at h
  · rename_i hfull
    split at h
    · rename_i r₁ hs
      cases h
      have hne : r.pending ≠ [] := List.length_pos_iff.1 (by unfold frameLimit at hfull; omega)
      have hqueue := queue_sendPending hs
      rw [if_neg hne] at hqueue
      rw [if_pos hfull]
      exact hqueue
    all_goals cases h
  · rename_i hroom
    cases h
    rw [if_neg hroom, List.append_nil]

end Relay

namespace Traffic

variable {t t' : Traffic} {bytes : Bytes} {n : Nat}

/-- The host can get frames, and the writer can send them. -/
structure Open (t : Traffic) : Prop where
  coherent : t.relay.Coherent
  sending : t.relay.sending = true
  receiving : t.relay.receiving = true

/-- Behind the frames `closed`, these bytes are in full frames but for what is gathered. -/
def Cut (t : Traffic) (closed : List Bytes) (bytes : Bytes) : Prop :=
  ∃ full, t.frames = closed ++ full ∧ (∀ frame ∈ full, frame.length = Relay.frameLimit) ∧
    full.flatten ++ t.relay.pending = bytes ∧ t.relay.pending.length ≤ Relay.frameLimit

theorem write_ready {answer : Except Fault Nat} (h : ResponseSink.write t bytes = (.ready answer, t')) :
    t.relay.write bytes = (.ready answer, t'.relay) ∧ t'.received = t.received := by
  have h : t.write bytes = (.ready answer, t') := h
  rcases hw : t.relay.write bytes with ⟨answer', relay⟩
  simp only [write, hw] at h
  cases h
  cases answer <;> exact ⟨rfl, rfl⟩

theorem flush_ready {answer : Except Fault Unit} (h : ResponseSink.flush t = (.ready answer, t')) :
    t.relay.sendPending = (.ready answer, t'.relay) ∧ t'.received = t.received := by
  have h : t.flush = (.ready answer, t') := h
  rcases hw : t.relay.sendPending with ⟨answer', relay⟩
  simp only [flush, hw] at h
  cases h
  cases answer <;> exact ⟨rfl, rfl⟩

namespace Open

/-- A relay that is open refuses nothing. -/
theorem not_refused {fault : Fault} (h : t.Open) (hr : t.relay.Refused fault) : False := by
  rcases hr.cause with ⟨hs, -⟩ | ⟨-, hs, -⟩
  · rw [h.sending] at hs
    cases hs
  · rw [h.receiving] at hs
    cases hs

theorem write_accepts {answer : Except Fault Nat} (h : t.Open) (hb : bytes ≠ [])
    (hw : ResponseSink.write t bytes = (.ready answer, t')) : t'.Open ∧ ∃ n, answer = .ok n ∧ 0 < n := by
  obtain ⟨hw, -⟩ := write_ready hw
  match answer with
  | .error fault => exact absurd (Relay.write_error hw).1 h.not_refused
  | .ok n =>
    obtain ⟨sent, hs, -, hpos⟩ := Relay.write_ok hw
    have hf := hs.frame
    exact ⟨⟨hs.coherent h.coherent, by rw [hf]; exact h.sending, by rw [hf]; exact h.receiving⟩, n, rfl, hpos hb⟩

theorem flush_ok {answer : Except Fault Unit} (h : t.Open)
    (hw : ResponseSink.flush t = (.ready answer, t')) : t'.Open ∧ answer = .ok () := by
  obtain ⟨hw, -⟩ := flush_ready hw
  match answer with
  | .error fault => exact absurd (Relay.sendPending_error hw).1 h.not_refused
  | .ok () =>
    obtain ⟨sent, hs, -⟩ := Relay.sendPending_ok hw
    have hf := hs.frame
    exact ⟨⟨hs.coherent h.coherent, by rw [hf]; exact h.sending, by rw [hf]; exact h.receiving⟩, rfl⟩

end Open

/-- What the host takes was on its way before. -/
theorem Takes.kept (ht : t.Takes t') : t'.frames = t.frames ∧ t'.relay.pending = t.relay.pending := by
  cases ht with
  | head =>
    have hqueue : t.relay.takeHead.2.queue = t.relay.queue ∧ t.relay.takeHead.2.pending = t.relay.pending := by
      unfold Relay.takeHead
      repeat' split
      all_goals exact ⟨rfl, rfl⟩
    exact ⟨congrArg (t.received ++ ·) hqueue.1, hqueue.2⟩
  | frame =>
    unfold takeFrame
    split
    · rename_i frame relay ha
      unfold Relay.takeFrame at ha
      split at ha
      · cases ha
      · cases ha
      · split at ha
        · rename_i hq
          cases ha
          exact ⟨by simp [frames, hq], rfl⟩
        · split at ha <;> cases ha
    · rename_i answer relay hno ha
      rw [Relay.takeFrame_idle ha hno]
      exact ⟨rfl, rfl⟩

theorem Open.takes (h : t.Open) (ht : t.Takes t') : t'.Open := by
  have hc := h.coherent
  cases ht with
  | head =>
    rcases htake : t.relay.takeHead with ⟨answer, relay⟩
    show Open { t with relay }
    cases answer with
    | arrived head =>
      obtain ⟨hslot, hstep⟩ := hc.hostStep_takeHead htake
      have hf := hstep.frame
      have hreceiving : relay.receiving = t.relay.receiving := by
        unfold Relay.takeHead at htake
        rw [hslot] at htake
        cases htake
        rfl
      exact ⟨hstep.coherent, by rw [hf]; exact h.sending, hreceiving.trans h.receiving⟩
    | ended =>
      -- the slot would be empty, and the queue not connected
      have hslot : t.relay.slot = .empty := by
        unfold Relay.takeHead at htake
        split at htake
        · cases htake
        · rename_i hslot
          exact hslot
        · cases htake
      have hclosed := hc.receiving_of_empty hslot
      rw [h.receiving] at hclosed
      cases hclosed
    | pending | gone =>
      rw [Relay.takeHead_idle htake (by simp) (by simp)]
      exact h
  | frame =>
    unfold takeFrame
    split
    · rename_i frame relay htake
      have hstep := hc.hostStep_takeFrame htake
      have hf := hstep.frame
      refine ⟨hstep.coherent, by rw [hf]; exact h.sending, ?_⟩
      unfold Relay.takeFrame at htake
      split at htake
      · cases htake
      · cases htake
      · split at htake
        · cases htake
          exact h.receiving
        · split at htake <;> cases htake
    · rename_i relay hno htake
      rw [Relay.takeFrame_idle htake hno]
      exact h

namespace Cut

variable {closed : List Bytes} {before : Bytes}

theorem write (h : t.Cut closed before) (hw : ResponseSink.write t bytes = (.ready (.ok n), t')) :
    t'.Cut closed (before ++ bytes.take n) := by
  obtain ⟨full, hframes, hfull, hbytes, hroom⟩ := h
  obtain ⟨hw, hreceived⟩ := write_ready hw
  obtain ⟨hn, hpending⟩ := Relay.write_accepts hw
  have hqueue := Relay.queue_write hw
  have hkept := t.relay.length_kept_lt
  have hlength : t'.relay.pending.length ≤ Relay.frameLimit := by
    rw [hpending, List.length_append, List.length_take]
    omega
  by_cases hlimit : Relay.frameLimit ≤ t.relay.pending.length
  · rw [if_pos hlimit] at hqueue
    rw [Relay.kept, if_pos hlimit, List.nil_append] at hpending
    refine ⟨full ++ [t.relay.pending], ?_, fun frame hm => ?_, ?_, hlength⟩
    · rw [frames, hreceived, hqueue, ← List.append_assoc, ← List.append_assoc, ← hframes, frames]
    · rcases List.mem_append.1 hm with hm | hm
      · exact hfull frame hm
      · rw [List.mem_singleton.1 hm]
        omega
    · rw [List.flatten_append, List.flatten_singleton, hbytes, hpending]
  · rw [if_neg hlimit, List.append_nil] at hqueue
    rw [Relay.kept, if_neg hlimit] at hpending
    refine ⟨full, ?_, hfull, ?_, hlength⟩
    · rw [frames, hreceived, hqueue, ← hframes, frames]
    · rw [hpending, ← List.append_assoc, hbytes]

theorem pieces_eq {full : List Bytes} (hfull : ∀ frame ∈ full, frame.length = Relay.frameLimit)
    (hroom : t.relay.pending.length ≤ Relay.frameLimit) :
    Bytes.pieces Relay.frameLimit (full.flatten ++ t.relay.pending) =
      full ++ if t.relay.pending = [] then [] else [t.relay.pending] := by
  rw [Bytes.pieces_append (by decide) hfull, Bytes.pieces_of_le (by decide) hroom]

/-- A flush closes the frames of what was written since the last one. -/
theorem flush (h : t.Cut closed before) (hw : ResponseSink.flush t = (.ready (.ok ()), t')) :
    t'.Cut (closed ++ before.pieces Relay.frameLimit) [] := by
  obtain ⟨full, hframes, hfull, rfl, hroom⟩ := h
  obtain ⟨hw, hreceived⟩ := flush_ready hw
  obtain ⟨-, -, hpending⟩ := Relay.sendPending_ok hw
  refine ⟨[], ?_, by simp, by simp [hpending], by simp [hpending]⟩
  rw [pieces_eq hfull hroom, frames, hreceived, Relay.queue_sendPending hw, ← List.append_assoc, ← List.append_assoc,
    ← hframes, frames, List.append_nil]

theorem frames_of_nil (h : t.Cut closed []) : t.frames = closed ∧ t.relay.pending = [] := by
  obtain ⟨full, hframes, hfull, hbytes, -⟩ := h
  obtain ⟨hflat, hpending⟩ := List.append_eq_nil_iff.1 hbytes
  have hnil : full = [] := by
    refine List.eq_nil_iff_forall_not_mem.2 fun frame hm => ?_
    have hempty := List.flatten_eq_nil_iff.1 hflat frame hm
    have hlength := hfull frame hm
    rw [hempty] at hlength
    cases hlength
  rw [hnil, List.append_nil] at hframes
  exact ⟨hframes, hpending⟩

theorem frames_prefix (h : t.Cut closed before) (rest : Bytes) :
    t.frames <+: closed ++ (before ++ rest).pieces Relay.frameLimit := by
  obtain ⟨full, hframes, hfull, rfl, -⟩ := h
  rw [List.append_assoc, Bytes.pieces_append (by decide) hfull, ← List.append_assoc, hframes]
  exact List.prefix_append ..

theorem takes (h : t.Cut closed before) (ht : t.Takes t') : t'.Cut closed before := by
  obtain ⟨hframes, hpending⟩ := ht.kept
  unfold Cut
  rw [hframes, hpending]
  exact h

end Cut

end Traffic

/-! ### Copiers -/

/-- The pieces of units that are cut one by one. -/
def Bytes.framed (units : List Bytes) : List Bytes := units.flatMap (Bytes.pieces Relay.frameLimit)

/-- Where the frames of a copier stand that has read these units. -/
inductive Framed (units : List Bytes) (t : Traffic) : Discipline → Copying → Prop
  /-- Every unit is sent on. -/
  | even {state : Copying} (hs : ∀ size rest, state ≠ .writing size rest) (hf : state ≠ .flushing)
      (h : t.Cut (Bytes.framed units) []) : Framed units t .chunked state
  | writing {earlier : List Bytes} (sent : Bytes) {rest : Bytes} {size : Nat}
      (hu : units = earlier ++ [sent ++ rest]) (h : t.Cut (Bytes.framed earlier) sent) :
      Framed units t .chunked (.writing size rest)
  | flushing {earlier : List Bytes} {unit : Bytes} (hu : units = earlier ++ [unit])
      (h : t.Cut (Bytes.framed earlier) unit) : Framed units t .chunked .flushing
  /-- Nothing is flushed yet. -/
  | gathered {state : Copying} (hs : ∀ size rest, state ≠ .writing size rest) (hf : state ≠ .flushing)
      (hd : state ≠ .done) (h : t.Cut [] units.flatten) : Framed units t .buffered state
  | gathering (sent : Bytes) {rest : Bytes} {size : Nat} (hu : units.flatten = sent ++ rest) (h : t.Cut [] sent) :
      Framed units t .buffered (.writing size rest)
  | ended (h : t.Cut (Bytes.pieces Relay.frameLimit units.flatten) []) : Framed units t .buffered .done

theorem Bytes.framed_append (units : List Bytes) (unit : Bytes) :
    framed (units ++ [unit]) = framed units ++ unit.pieces Relay.frameLimit := by
  simp [framed]

namespace Framed

variable {units : List Bytes} {t t' : Traffic} {discipline : Discipline} {state : Copying} {size n : Nat}
  {unit rest : Bytes}

theorem takes (h : Framed units t discipline state) (ht : t.Takes t') : Framed units t' discipline state := by
  cases h with
  | even hs hf h => exact .even hs hf (h.takes ht)
  | writing sent hu h => exact .writing sent hu (h.takes ht)
  | flushing hu h => exact .flushing hu (h.takes ht)
  | gathered hs hf hd h => exact .gathered hs hf hd (h.takes ht)
  | gathering sent hu h => exact .gathering sent hu (h.takes ht)
  | ended h => exact .ended (h.takes ht)

theorem read (h : Framed units t discipline .reading) :
    Framed (units ++ [unit]) t discipline (.writing size unit) := by
  cases h with
  | even _ _ h => exact .writing [] rfl h
  | gathered _ _ _ h => exact .gathering units.flatten (by simp) h

theorem idle {next : Copying} (h : Framed units t discipline .reading)
    (hn : next = .closing ∨ ∃ fault, next = .failed fault) : Framed units t discipline next := by
  have hs (size : Nat) (rest : Bytes) : next ≠ .writing size rest := by rcases hn with rfl | ⟨fault, rfl⟩ <;> simp
  have hf : next ≠ .flushing := by rcases hn with rfl | ⟨fault, rfl⟩ <;> simp
  have hd : next ≠ .done := by rcases hn with rfl | ⟨fault, rfl⟩ <;> simp
  cases h with
  | even _ _ h => exact .even hs hf h
  | gathered _ _ _ h => exact .gathered hs hf hd h

theorem write (h : Framed units t discipline (.writing size rest))
    (hw : ResponseSink.write t rest = (.ready (.ok n), t')) :
    Framed units t' discipline (.writing size (rest.drop n)) := by
  cases h with
  | even hs => exact absurd rfl (hs _ _)
  | gathered hs => exact absurd rfl (hs _ _)
  | writing sent hu h =>
    refine .writing (sent ++ rest.take n) ?_ (h.write hw)
    rw [List.append_assoc, List.take_append_drop, hu]
  | gathering sent hu h =>
    refine .gathering (sent ++ rest.take n) ?_ (h.write hw)
    rw [List.append_assoc, List.take_append_drop, hu]

theorem afterUnit {c : Copier} (h : Framed units t c.discipline (.writing size [])) :
    Framed units t c.discipline (c.afterUnit size).state := by
  unfold Copier.afterUnit
  cases hd : c.discipline with
  | chunked =>
    rw [hd] at h
    cases h with
    | even hs => exact absurd rfl (hs _ _)
    | writing sent hu h =>
      rw [List.append_nil] at hu
      exact .flushing hu h
  | buffered =>
    rw [hd] at h
    cases h with
    | gathered hs => exact absurd rfl (hs _ _)
    | gathering sent hu h =>
      rw [List.append_nil] at hu
      exact .gathered (by simp) (by simp) (by simp) (hu ▸ h)

theorem flushed (h : Framed units t discipline .flushing)
    (hw : ResponseSink.flush t = (.ready (.ok ()), t')) : Framed units t' discipline .reading := by
  cases h with
  | even _ hf => exact absurd rfl hf
  | gathered _ hf => exact absurd rfl hf
  | flushing hu h =>
    refine .even (by simp) (by simp) ?_
    rw [hu, Bytes.framed_append]
    exact h.flush hw

theorem closed (h : Framed units t discipline .closing)
    (hw : ResponseSink.flush t = (.ready (.ok ()), t')) : Framed units t' discipline .done := by
  cases h with
  | even _ _ h =>
    refine .even (by simp) (by simp) ?_
    have hcut := h.flush hw
    rwa [Bytes.pieces_nil, List.append_nil] at hcut
  | gathered _ _ _ h => exact .ended (h.flush hw)

theorem framed_buffered (units : List Bytes) :
    Bytes.framed (Discipline.buffered.groups units) = Bytes.pieces Relay.frameLimit units.flatten := by
  simp [Bytes.framed, Discipline.groups]

/-- The frames are the first of those that the units come to. -/
theorem frames_prefix (h : Framed units t discipline state) :
    t.frames <+: Bytes.framed (discipline.groups units) := by
  cases h with
  | even _ _ h => exact h.frames_of_nil.1 ▸ List.prefix_rfl
  | @writing earlier sent rest _ hu h =>
    have hstarts := h.frames_prefix rest
    rwa [← Bytes.framed_append, ← hu] at hstarts
  | flushing hu h =>
    have hstarts := h.frames_prefix []
    rwa [List.append_nil, ← Bytes.framed_append, ← hu] at hstarts
  | gathered _ _ _ h =>
    have hstarts := h.frames_prefix []
    rwa [List.append_nil, List.nil_append, ← framed_buffered] at hstarts
  | @gathering sent rest _ hu h =>
    have hstarts := h.frames_prefix rest
    rwa [List.nil_append, ← hu, ← framed_buffered] at hstarts
  | ended h =>
    have hall := h.frames_of_nil.1.trans (framed_buffered units).symm
    exact hall ▸ List.prefix_rfl

/-- The frames are complete once nothing is left to be sent. -/
theorem frames_eq (h : Framed units t discipline state)
    (hs : state = .done ∨ discipline = .chunked ∧ state = .reading) :
    t.frames = Bytes.framed (discipline.groups units) ∧ t.relay.pending = [] := by
  cases h with
  | even _ _ h => exact h.frames_of_nil
  | writing | flushing | gathering => rcases hs with hs | ⟨-, hs⟩ <;> cases hs
  | gathered _ _ hd => rcases hs with hs | ⟨hs, -⟩ <;> first | exact absurd hs hd | cases hs
  | ended h =>
    rw [framed_buffered]
    exact h.frames_of_nil

end Framed

/-- A copier on an open relay, behind these calls. -/
structure Cutting (calls : List Delivery.Call) (c : Copier) (t : Traffic) : Prop where
  sink : t.Open
  rest : c.HasRest
  units : ∀ unit ∈ calls.filterMap Delivery.Call.unit?, 1 ≤ unit.length ∧ unit.length ≤ Copier.unitLimit
  framed : Framed (calls.filterMap Delivery.Call.unit?) t c.discipline c.state
  failed : ∀ fault, c.state = .failed fault → .read (.error fault) ∈ calls ∧ fault.isInterrupted = false

namespace Cutting

variable {calls : List Delivery.Call} {c c' : Copier} {body body' : Body} {t t' : Traffic}

theorem units_snoc {call : Option Delivery.Call} (h : call.bind Delivery.Call.unit? = none) :
    (calls ++ call.toList).filterMap Delivery.Call.unit? = calls.filterMap Delivery.Call.unit? := by
  rw [List.filterMap_append]
  cases call with
  | none => simp
  | some call =>
    have hunit : call.unit? = none := h
    simp [hunit]

/-- A step that reads no unit and does not end the copy. -/
theorem snoc {call : Option Delivery.Call} (h : Cutting calls c t)
    (hcall : call.bind Delivery.Call.unit? = none) (hsink : t'.Open) (hrest : c'.HasRest)
    (hgoes : ∀ fault, c'.state ≠ .failed fault)
    (hframed : Framed (calls.filterMap Delivery.Call.unit?) t' c'.discipline c'.state) :
    Cutting (calls ++ call.toList) c' t' :=
  ⟨hsink, hrest, (units_snoc hcall).symm ▸ h.units, (units_snoc hcall).symm ▸ hframed,
    fun fault hf => absurd hf (hgoes fault)⟩

theorem attempt (h : Cutting calls c t) (ha : c.Attempt body t c' body' t') :
    Cutting (calls ++ (c.call? body t).toList) c' t' := by
  have hframed := h.framed
  have hrest := ha.hasRest h.rest
  cases ha with
  | @unit unit next hc hr hu =>
    obtain ⟨b, unit, rfl⟩ := List.exists_cons_of_ne_nil hu
    rw [hc] at hframed
    have hcall : c.call? body t = some (.read (.ok (b :: unit))) := by simp [Copier.call?, hc, hr]
    have hunits : (calls ++ (c.call? body t).toList).filterMap Delivery.Call.unit? =
        calls.filterMap Delivery.Call.unit? ++ [b :: unit] := by
      rw [hcall, List.filterMap_append]
      rfl
    refine ⟨h.sink, hrest, fun other hm => ?_, hunits ▸ hframed.read, by simp⟩
    rw [hunits] at hm
    rcases List.mem_append.1 hm with hm | hm
    · exact h.units other hm
    · rw [List.mem_singleton.1 hm]
      exact ⟨Nat.succ_le_of_lt (by simp), Body.length_read hr⟩
  | ended hc hr =>
    rw [hc] at hframed
    exact h.snoc (by simp [Copier.call?, hc, hr, Delivery.Call.unit?]) h.sink hrest (by simp)
      (hframed.idle (.inl rfl))
  | readAgain hc hr | notReady hc hr =>
    exact h.snoc (by simp [Copier.call?, hc, hr, Delivery.Call.unit?]) h.sink hrest (by simp [hc]) hframed
  | @readLost fault next hc hr hi =>
    rw [hc] at hframed
    have hcall : c.call? body t = some (.read (.error fault)) := by simp [Copier.call?, hc, hr]
    rw [hcall]
    refine ⟨h.sink, hrest, ?_, ?_, fun other hf => ?_⟩
    · rw [units_snoc rfl]
      exact h.units
    · rw [units_snoc rfl]
      exact hframed.idle (.inr ⟨fault, rfl⟩)
    · cases hf
      exact ⟨by simp, hi⟩
  | @written size n rest next hc hw hn hl =>
    rw [hc] at hframed
    obtain ⟨hopen, -⟩ := h.sink.write_accepts (h.rest _ _ hc) hw
    exact h.snoc (by simp [Copier.call?, hc, hw, Delivery.Call.unit?]) hopen hrest (by simp) (hframed.write hw)
  | @unitDone size n rest next hc hw hn hl =>
    rw [hc] at hframed
    obtain ⟨hopen, -⟩ := h.sink.write_accepts (h.rest _ _ hc) hw
    refine h.snoc (by simp [Copier.call?, hc, hw, Delivery.Call.unit?]) hopen hrest ?_ ?_
    · intro fault
      simp only [Copier.afterUnit]
      split <;> simp
    · have hend := hframed.write hw
      rw [hl] at hend
      exact hend.afterUnit
  | stuck hc hw =>
    obtain ⟨-, n, he, hpos⟩ := h.sink.write_accepts (h.rest _ _ hc) hw
    cases he
    cases hpos
  | writeAgain hc hw | writeLost hc hw =>
    obtain ⟨-, n, he, -⟩ := h.sink.write_accepts (h.rest _ _ hc) hw
    cases he
  | flushed hc hw =>
    rw [hc] at hframed
    exact h.snoc (by simp [Copier.call?, hc, hw, Delivery.Call.unit?]) (h.sink.flush_ok hw).1 hrest (by simp)
      (hframed.flushed hw)
  | closed hc hw =>
    rw [hc] at hframed
    exact h.snoc (by simp [Copier.call?, hc, hw, Delivery.Call.unit?]) (h.sink.flush_ok hw).1 hrest (by simp)
      (hframed.closed hw)
  | flushLost hc hw =>
    obtain ⟨-, he⟩ := h.sink.flush_ok hw
    cases he

theorem takes (h : Cutting calls c t) (ht : t.Takes t') : Cutting calls c t' :=
  ⟨h.sink.takes ht, h.rest, h.units, h.framed.takes ht, h.failed⟩

/-- An attempt on an open relay leaves less to do. -/
theorem load_lt (h : Cutting calls c t) (ha : c.Attempt body t c' body' t') :
    c'.state.load body'.work < c.state.load body.work := by
  rcases ha.load_lt_or_again h.rest with hlt | ⟨-, -, size, rest, fault, hc, hw, -⟩
  · exact hlt
  · obtain ⟨-, n, he, -⟩ := h.sink.write_accepts (h.rest _ _ hc) hw
    cases he

end Cutting

/-- The units that a copier has still to read, of a body that is no live stream. -/
def Copier.ahead (c : Copier) (body : Body) : List Bytes := if c.state.readsOn then body.units [] else []

/-- What is read comes off what is ahead. -/
theorem Cutting.ahead_attempt {calls : List Delivery.Call} {c c' : Copier} {body body' : Body} {t t' : Traffic}
    (h : Cutting calls c t) (ha : c.Attempt body t c' body' t') (hs : body.isStream = false) :
    (calls ++ (c.call? body t).toList).filterMap Delivery.Call.unit? ++ c'.ahead body' =
      calls.filterMap Delivery.Call.unit? ++ c.ahead body := by
  have hread {answer : Poll (Except Fault Bytes)} {next : Body} (hr : body.read Copier.unitLimit = (answer, next)) :=
    Body.units_read [] hs hr
  cases ha with
  | @unit unit next hc hr hu =>
    obtain ⟨b, unit, rfl⟩ := List.exists_cons_of_ne_nil hu
    have hcall : c.call? body t = some (.read (.ok (b :: unit))) := by simp [Copier.call?, hc, hr]
    simp [hcall, Copier.ahead, Copying.readsOn, hc, hread hr, Body.unitsBehind, Delivery.Call.unit?]
  | ended hc hr =>
    rw [Cutting.units_snoc (by simp [Copier.call?, hc, hr, Delivery.Call.unit?])]
    simp [Copier.ahead, Copying.readsOn, hc, hread hr, Body.unitsBehind]
  | readAgain hc hr hi | readLost hc hr hi =>
    rw [Cutting.units_snoc (by simp [Copier.call?, hc, hr, Delivery.Call.unit?])]
    simp [Copier.ahead, Copying.readsOn, hc, hread hr, Body.unitsBehind, hi, Copier.fail]
  | notReady hc hr =>
    rw [Cutting.units_snoc (by simp [Copier.call?, hc, hr])]
    simp [Copier.ahead, Copying.readsOn, hc, hread hr, Body.unitsBehind]
  | written hc hw =>
    rw [Cutting.units_snoc (by simp [Copier.call?, hc, hw, Delivery.Call.unit?])]
    simp [Copier.ahead, Copying.readsOn, hc]
  | unitDone hc hw =>
    rw [Cutting.units_snoc (by simp [Copier.call?, hc, hw, Delivery.Call.unit?])]
    unfold Copier.ahead Copier.afterUnit
    rw [hc]
    by_cases hd : c.discipline = .chunked <;> simp [hd, Copying.readsOn]
  | flushed hc hw | closed hc hw =>
    rw [Cutting.units_snoc (by simp [Copier.call?, hc, hw, Delivery.Call.unit?])]
    simp [Copier.ahead, Copying.readsOn, hc]
  | stuck hc hw =>
    obtain ⟨-, n, he, hpos⟩ := h.sink.write_accepts (h.rest _ _ hc) hw
    cases he
    cases hpos
  | writeAgain hc hw | writeLost hc hw =>
    obtain ⟨-, n, he, -⟩ := h.sink.write_accepts (h.rest _ _ hc) hw
    cases he
  | flushLost hc hw =>
    obtain ⟨-, he⟩ := h.sink.flush_ok hw
    cases he

namespace Traffic

theorem open_opened {framing : Courier.Framing} (headers : Headers) (status : Status) (hf : framing ≠ .empty) :
    (opened headers status framing).Open ∧ (opened headers status framing).Cut [] [] := by
  have hcoherent := ((balanced_new.call (.setHeaders headers)).call (.writeHead status framing)).coherent
  cases framing with
  | empty => exact absurd rfl hf
  | length n => exact ⟨⟨hcoherent, rfl, rfl⟩, [], rfl, by simp, rfl, Nat.zero_le _⟩
  | chunked => exact ⟨⟨hcoherent, rfl, rfl⟩, [], rfl, by simp, rfl, Nat.zero_le _⟩

/-- While frames are on their way there is something for the host to take. -/
theorem Open.host_takes {t : Traffic} (h : t.Open) (hq : t.relay.queue ≠ []) :
    (∃ head relay, t.relay.takeHead = (.arrived head, relay)) ∨
      ∃ frame relay, t.relay.takeFrame = (.arrived frame, relay) := by
  rcases h.coherent.held h.receiving with ⟨head, hslot⟩ | hhosted
  · exact .inl ⟨head, _, by rw [Relay.takeHead, hslot]⟩
  · obtain ⟨frame, queue, hqueue⟩ := List.exists_cons_of_ne_nil hq
    exact .inr ⟨frame, _, by simp only [Relay.takeFrame, hhosted, hqueue]; rfl⟩

end Traffic

/-- A copier waits for the relay only when the queue is full. -/
theorem Copier.AwaitsSink.queue_full {c : Copier} {t : Traffic} (h : c.AwaitsSink t) :
    Relay.queueLimit ≤ t.relay.queue.length := by
  have hflush (hp : t.relay.sendPending.1 = .pending) : Relay.queueLimit ≤ t.relay.queue.length := by
    have hpending : t.relay.sendPending = (.pending, t.relay.sendPending.2) := Prod.ext hp rfl
    exact (Relay.sendPending_pending hpending).1
  unfold AwaitsSink at h
  split at h
  · rename_i rest _
    have hpending : t.relay.write rest = (.pending, (t.relay.write rest).2) := Prod.ext h rfl
    exact (Relay.write_pending hpending).1
  · exact hflush h
  · exact hflush h
  all_goals cases h

namespace Transfer

variable {discipline : Discipline} {body : Body} {headers : Headers} {status : Status} {framing : Framing}
  {feed : Body → Body → Prop} {n : Nat} {calls : List Delivery.Call} {t : Transfer Traffic}

theorem Trail.cutting
    (h : (alone discipline body (Traffic.opened headers status framing)).Trail feed Traffic.Takes n calls t)
    (hf : framing ≠ .empty) : t.copier.discipline = discipline ∧ Cutting calls t.copier t.sink := by
  induction h with
  | refl =>
    obtain ⟨hopen, hcut⟩ := Traffic.open_opened headers status hf
    refine ⟨rfl, hopen, fun _ _ => nofun, fun _ => nofun, ?_, fun _ => nofun⟩
    cases discipline with
    | chunked => exact .even (fun _ _ => nofun) nofun hcut
    | buffered => exact .gathered (fun _ _ => nofun) nofun nofun hcut
  | copy _ hs ih =>
    obtain ⟨ha, -⟩ := copy?_eq_some hs
    exact ⟨ha.discipline_eq.trans ih.1, ih.2.attempt ha⟩
  | feed _ _ ih => exact ih
  | turn _ ht ih => exact ⟨ih.1, ih.2.takes ht⟩

/-- On a source that nobody else works on, every step leaves less to do, and what is read is what there is. -/
theorem Trail.drained
    (h : (alone discipline body (Traffic.opened headers status framing)).Trail feed Traffic.Takes n calls t)
    (hf : framing ≠ .empty) (hfeed : ∀ body body', ¬ feed body body') (hs : body.isStream = false) :
    t.body.isStream = false ∧ n + t.copier.state.load t.body.work ≤ 3 * body.work + 4 ∧
      calls.filterMap Delivery.Call.unit? ++ t.copier.ahead t.body = body.units [] := by
  induction h with
  | refl => exact ⟨hs, by simp [alone, Copying.load], rfl⟩
  | copy h hstep ih =>
    obtain ⟨hstream, hload, hunits⟩ := ih
    obtain ⟨ha, -⟩ := copy?_eq_some hstep
    obtain ⟨-, hcutting⟩ := h.cutting hf
    have hlt := hcutting.load_lt ha
    exact ⟨ha.isStream_eq.trans hstream, by omega, (hcutting.ahead_attempt ha hstream).trans hunits⟩
  | feed _ hb => exact absurd hb (hfeed _ _)
  | turn _ _ ih => exact ih

/-- A copy that cannot go on waits for a writer of its stream, or there is something for the host to take. -/
theorem goes_on (h : Cutting calls t.copier t.sink) (ho : t.isOver = false) :
    t.copy?.isSome = true ∨
    (t.copier.state = .reading ∧ ∃ ch, t.body = .stream ch ∧ (ch.read Copier.unitLimit).1 = .pending) ∨
    (∃ head relay, t.sink.relay.takeHead = (.arrived head, relay)) ∨
      ∃ frame relay, t.sink.relay.takeFrame = (.arrived frame, relay) := by
  cases hcopy : t.copy? with
  | some next => exact .inl rfl
  | none =>
    have hstep : t.copier.step? t.body t.sink = none := by simpa [copy?] using hcopy
    rcases Copier.awaits_of_step?_eq_none hstep with hover | hsink | hread
    · have ho : t.copier.result?.isSome = false := ho
      rw [hover] at ho
      cases ho
    · refine .inr (.inr (h.sink.host_takes ?_))
      have hfull := hsink.queue_full
      intro hnil
      rw [hnil] at hfull
      cases hfull
    · exact .inr (.inl hread)

/-- Copying to a relay whose head was written with a body to follow, while its host takes what comes and the
source does what it does. The units are what the reads yield. A copier that flushes after each unit makes frames
of the consecutive pieces of each unit by itself, and holds nothing back when it reads; any other copier makes
them of all the units together. Before the end the frames are the first of these. Only a read that fails for
good ends a copy early, and a copy that cannot go on waits for the writers of its stream or for the host, which
has something to take. On a source that nobody else works on, the steps come to an end. -/
theorem frames_run (hf : framing ≠ .empty)
    (h : (alone discipline body (Traffic.opened headers status framing)).Trail feed Traffic.Takes n calls t) :
    let units := calls.filterMap Delivery.Call.unit?
    (∀ unit ∈ units, 1 ≤ unit.length ∧ unit.length ≤ 32768) ∧
    t.sink.frames <+: (discipline.groups units).flatMap (Bytes.pieces 16384) ∧
    (t.copier.state = .done → t.sink.frames = (discipline.groups units).flatMap (Bytes.pieces 16384) ∧
      t.sink.relay.pending = []) ∧
    (discipline = .chunked → t.copier.state = .reading →
      t.sink.frames = units.flatMap (Bytes.pieces 16384) ∧ t.sink.relay.pending = []) ∧
    (∀ frame ∈ t.sink.frames, 1 ≤ frame.length ∧ frame.length ≤ 16384) ∧
    (discipline = .buffered → ∀ frame ∈ t.sink.frames.dropLast, frame.length = 16384) ∧
    (∀ written fault, t.copier.result? = some (.error (written, fault)) →
      .read (.error fault) ∈ calls ∧ fault.isInterrupted = false) ∧
    (t.isOver = false → t.copy?.isSome = true ∨
      (t.copier.state = .reading ∧ ∃ ch, t.body = .stream ch ∧ (ch.read Copier.unitLimit).1 = .pending) ∨
      (∃ head relay, t.sink.relay.takeHead = (.arrived head, relay)) ∨
        ∃ frame relay, t.sink.relay.takeFrame = (.arrived frame, relay)) ∧
    ((∀ body body', ¬ feed body body') → body.isStream = false →
      n ≤ 3 * body.work + 4 ∧ (t.isOver = true → units = body.units [])) := by
  intro units
  obtain ⟨rfl, hcutting⟩ := h.cutting hf
  have hframed := hcutting.framed
  have hstarts := hframed.frames_prefix
  refine ⟨hcutting.units, hstarts, fun hdone => hframed.frames_eq (.inl hdone),
    fun hchunked hreading => ?_, fun frame hm => ?_, fun hbuffered frame hm => ?_, fun written fault hr => ?_,
    goes_on hcutting, fun hfeed hs => ?_⟩
  · have heq := hframed.frames_eq (.inr ⟨hchunked, hreading⟩)
    rwa [hchunked] at heq
  · obtain ⟨group, -, hpiece⟩ := List.mem_flatMap.1 (hstarts.subset hm)
    obtain ⟨hne, hle⟩ := Bytes.mem_pieces (by decide) hpiece
    exact ⟨List.length_pos_iff.2 hne, hle⟩
  · rw [hbuffered, Framed.framed_buffered] at hstarts
    exact Bytes.length_of_mem_dropLast_pieces (by decide) (Bytes.mem_dropLast_of_prefix hstarts hm)
  · refine hcutting.failed fault ?_
    unfold Copier.result? at hr
    split at hr <;> cases hr
    assumption
  · obtain ⟨-, hload, hunits⟩ := h.drained hf hfeed hs
    refine ⟨by omega, fun ho => ?_⟩
    rwa [Copier.ahead, Copier.readsOn_of_result? ho, if_neg (by simp), List.append_nil] at hunits

/-- Two units, with a read in between that is not ready. -/
theorem frames_run_twoUnits :
    ∃ n calls t, (alone .chunked (.reader [.data [97, 98], .notReady, .data [99]] none)
        (Traffic.opened [] .ok .chunked)).Trail (fun _ _ => False) Traffic.Takes n calls t ∧ n ≤ 22 ∧
      t.copier.state = .done ∧ t.sink.frames = [[97, 98], [99]] ∧
      (calls.filterMap Delivery.Call.unit?).flatMap (Bytes.pieces 16384) = t.sink.frames ∧
      t.sink.relay.pending = [] := by
  obtain ⟨n, calls, h⟩ := trail_settle (fun _ _ => False) Traffic.Takes .chunked
    (.reader [.data [97, 98], .notReady, .data [99]] none) (Traffic.opened [] .ok .chunked)
  obtain ⟨-, -, hdone, -, -, -, -, -, hfixed⟩ := frames_run (by decide) h
  obtain ⟨hframes, hpending⟩ := hdone (by decide +kernel)
  obtain ⟨hn, -⟩ := hfixed (fun _ _ => id) rfl
  exact ⟨n, calls, _, h, hn, by decide +kernel, by decide +kernel, hframes.symm, hpending⟩

end Transfer

end Courier
