import Courier.Exchange.Plain
import Courier.Proofs.Alone
import Courier.Proofs.Framing

/-!
# Streamed and buffered alike

The plans of the two disciplines differ by the flushes behind the units. Two recorders that differ in nothing
but flushes stay so along both plans (`Beside.follow`): they perform or refuse the same writes, and the one that
is flushed more often is so by one flush for each unit that was written out. A delivery does nothing else with
its discipline than to word a failure.
-/

namespace Courier

/-! ### Units -/

/-- The units that were written out, and what was accepted of the next one, if there is one. -/
inductive WrittenOut : List Bytes → List Bytes → Bytes → Prop
  | nil : WrittenOut [] [] []
  | part {unit rest : Bytes} (units : List Bytes) (h : rest <+: unit) (hne : rest ≠ unit) :
    WrittenOut (unit :: units) [] rest
  | cons {units whole : List Bytes} {rest : Bytes} (unit : Bytes) (h : WrittenOut units whole rest) :
    WrittenOut (unit :: units) (unit :: whole) rest

/-! ### Recorders -/

namespace Recorder

/-- A write neither sees nor changes what is left out. -/
theorem write_plain (r : Recorder) (piece : Bytes) :
    r.plain.perform (.write piece) = ((r.perform (.write piece)).1, (r.perform (.write piece)).2.plain) := by
  have hfailing : failing r.plain.failWrite (r.plain.writeCalls + 1) = failing r.failWrite (r.writeCalls + 1) := rfl
  simp only [perform, put, hfailing]
  split
  · rfl
  · split <;> rfl

theorem write_kept (r : Recorder) (piece : Bytes) :
    (r.perform (.write piece)).2.failFlush = r.failFlush ∧
      (r.perform (.write piece)).2.flushCalls = r.flushCalls := by
  simp only [perform, put]
  split
  · exact ⟨rfl, rfl⟩
  · split <;> exact ⟨rfl, rfl⟩

theorem flush_sure {r : Recorder} (h : r.failFlush = none) :
    r.perform .flush = (.ok (), { r with flushCalls := r.flushCalls + 1, flushes := r.size :: r.flushes }) := by
  simp [perform, failing, h]

/-- The recorders differ in their flushes, which are so many more on the left. None of them fails. -/
structure Beside (r s : Recorder) (extra : Nat) : Prop where
  plain : r.plain = s.plain
  sure : r.failFlush = none
  flushCalls : r.flushCalls = s.flushCalls + extra

namespace Beside

variable {r s : Recorder} {extra : Nat}

theorem sure_right (h : r.Beside s extra) : s.failFlush = none := by
  have hfail : r.plain.failFlush = s.plain.failFlush := by rw [h.plain]
  exact hfail.symm.trans h.sure

theorem write (h : r.Beside s extra) (piece : Bytes) :
    (r.perform (.write piece)).1 = (s.perform (.write piece)).1 ∧
      (r.perform (.write piece)).2.Beside (s.perform (.write piece)).2 extra := by
  have hsame := r.write_plain piece
  rw [h.plain, s.write_plain piece] at hsame
  obtain ⟨hanswer, hplain⟩ := Prod.mk.inj hsame
  obtain ⟨hsure, hcalls⟩ := r.write_kept piece
  obtain ⟨-, hcalls'⟩ := s.write_kept piece
  exact ⟨hanswer.symm, hplain.symm, hsure.trans h.sure, by rw [hcalls, hcalls', h.flushCalls]⟩

theorem flush_left (h : r.Beside s extra) : ∃ r', r.perform .flush = (.ok (), r') ∧ r'.Beside s (extra + 1) := by
  refine ⟨_, flush_sure h.sure, h.plain, h.sure, ?_⟩
  show r.flushCalls + 1 = _
  rw [h.flushCalls, Nat.add_assoc]

theorem flush (h : r.Beside s extra) :
    ∃ r' s', r.perform .flush = (.ok (), r') ∧ s.perform .flush = (.ok (), s') ∧ r'.Beside s' extra := by
  refine ⟨_, _, flush_sure h.sure, flush_sure h.sure_right, h.plain, h.sure, ?_⟩
  show r.flushCalls + 1 = s.flushCalls + 1 + extra
  rw [h.flushCalls]
  omega

/-- The pieces are written on both sides, or one of them is refused on both. -/
theorem writes (h : r.Beside s extra) (written : Nat) (pieces : List Bytes) :
    (∃ (front back : List Bytes) (fault : Fault) (r' s' : Recorder), pieces = front ++ back ∧ back ≠ [] ∧
      r'.body = r.body ++ front.flatten ∧ r'.Beside s' extra ∧ ∀ acts acts',
        r.follow written (pieces.map .write ++ acts) = (.error (written, fault), r') ∧
        s.follow written (pieces.map .write ++ acts') = (.error (written, fault), s')) ∨
    ∃ r' s' : Recorder, [] ∉ pieces ∧ r'.body = r.body ++ pieces.flatten ∧ r'.Beside s' extra ∧ ∀ acts acts',
      r.follow written (pieces.map .write ++ acts) = r'.follow written acts ∧
      s.follow written (pieces.map .write ++ acts') = s'.follow written acts' := by
  induction pieces generalizing r s with
  | nil => exact .inr ⟨r, s, List.not_mem_nil, (List.append_nil _).symm, h, fun acts acts' => ⟨rfl, rfl⟩⟩
  | cons piece pieces ih =>
    obtain ⟨hanswer, hnext⟩ := h.write piece
    rcases hr : r.perform (.write piece) with ⟨answer, r₁⟩
    rcases hs : s.perform (.write piece) with ⟨answer', s₁⟩
    rw [hr, hs] at hanswer hnext
    obtain rfl : answer = answer' := hanswer
    cases answer with
    | error fault =>
      obtain ⟨-, hbody, -⟩ := refused_of_error hr
      exact .inl ⟨[], piece :: pieces, fault, r₁, s₁, rfl, List.cons_ne_nil _ _, by simpa using hbody, hnext,
        fun acts acts' => ⟨follow_cons_error hr .., follow_cons_error hs ..⟩⟩
    | ok =>
      have hperformed := performed_of_ok hr
      -- an empty piece would be refused
      have hne : piece ≠ [] := by
        rintro rfl
        have hallowed := hperformed.allowed
        simp [refusal?] at hallowed
      rcases ih hnext with ⟨front, back, fault, r₂, s₂, rfl, hback, hbody, hend, hsame⟩ |
        ⟨r₂, s₂, hmem, hbody, hend, hsame⟩
      · refine .inl ⟨piece :: front, back, fault, r₂, s₂, rfl, hback, ?_, hend, fun acts acts' => ?_⟩
        · rw [hbody, hperformed.body, List.flatten_cons, List.append_assoc]
          rfl
        · rw [List.map_cons, List.cons_append, List.cons_append, follow_cons_ok hr, follow_cons_ok hs]
          exact hsame acts acts'
      · refine .inr ⟨r₂, s₂, ?_, ?_, hend, fun acts acts' => ?_⟩
        · rw [List.mem_cons, not_or]
          exact ⟨hne.symm, hmem⟩
        · rw [hbody, hperformed.body, List.flatten_cons, List.append_assoc]
          rfl
        · rw [List.map_cons, List.cons_append, List.cons_append, follow_cons_ok hr, follow_cons_ok hs]
          exact hsame acts acts'

/-- Along the two plans the recorders stay beside each other, with one more flush for each unit that is written
out. -/
theorem follow (h : r.Beside s extra) (written : Nat) (cap : Option Nat) {units : List Bytes}
    (hunits : ∀ unit ∈ units, unit ≠ []) (fault? : Option Fault) :
    ∃ (result : Except (Nat × Fault) Nat) (r' s' : Recorder) (whole : List Bytes) (rest : Bytes),
      r.follow written (Discipline.chunked.plan cap units fault?) = (result, r') ∧
      s.follow written (Discipline.buffered.plan cap units fault?) = (result, s') ∧ WrittenOut units whole rest ∧
      counted result = written + whole.flatten.length ∧ r'.body = r.body ++ (whole.flatten ++ rest) ∧
      r'.Beside s' (extra + whole.length) := by
  induction units generalizing r s extra written with
  | nil =>
    cases fault? with
    | none =>
      obtain ⟨r', s', hr, hs, hend⟩ := h.flush
      have hbody := (performed_of_ok hr).body
      exact ⟨_, r', s', [], [], follow_cons_ok hr .., follow_cons_ok hs .., .nil, rfl, hbody, hend⟩
    | some fault => exact ⟨_, r, s, [], [], rfl, rfl, .nil, rfl, (List.append_nil _).symm, h⟩
  | cons unit units ih =>
    have hunit := hunits unit List.mem_cons_self
    rw [Discipline.plan_cons, Discipline.plan_cons, Bytes.writes]
    rcases h.writes written (unit.pieces (cap.getD unit.length)) with
      ⟨front, back, fault, r', s', hpieces, hback, hbody, hend, hsame⟩ | ⟨r', s', hmem, hbody, hnext, hsame⟩
    · obtain ⟨hstarts, hne⟩ := Bytes.flatten_front hunit hpieces hback
      exact ⟨_, r', s', [], front.flatten, (hsame _ []).1, (hsame [] _).2, .part units hstarts hne, rfl, hbody, hend⟩
    · -- only the left recorder is flushed behind the unit
      obtain ⟨r'', hflush, hbeside⟩ := hnext.flush_left
      obtain ⟨result, rEnd, sEnd, whole, rest, hr, hs, hwhole, hcounted, hbodyEnd, hend⟩ :=
        ih hbeside (written + unit.length) fun other ho => hunits other (List.mem_cons_of_mem _ ho)
      have hcount : r'.perform (.count unit.length) = (.ok (), r') := rfl
      refine ⟨result, rEnd, sEnd, unit :: whole, rest, ?_, (hsame [] _).2.trans hs, hwhole.cons unit, ?_, ?_, ?_⟩
      · refine ((hsame _ []).1.trans ?_).trans hr
        show r'.follow written (.count unit.length :: .flush :: Discipline.chunked.plan cap units fault?) = _
        rw [follow_cons_ok hcount, follow_cons_ok hflush]
        rfl
      · rw [hcounted, List.flatten_cons, List.length_append, Nat.add_assoc]
      · have hflushed : r''.body = r'.body ++ [] := (performed_of_ok hflush).body
        rw [hbodyEnd, hflushed, hbody, Bytes.flatten_landed hmem, List.append_nil, List.flatten_cons,
          List.append_assoc, List.append_assoc]
      · rwa [List.length_cons, Nat.add_comm whole.length, ← Nat.add_assoc]

end Beside

/-- Two heads that say the same of a body are written alike. -/
theorem writeHead_alike (r : Recorder) (status : Status) {framing other : Framing}
    (h : framing.plain = other.plain) (hsure : r.failFlush = none) :
    (∃ fault r', ResponseSink.writeHead r status framing = (.error fault, r') ∧
      ResponseSink.writeHead r status other = (.error fault, r')) ∨
    ∃ r' s' : Recorder, ResponseSink.writeHead r status framing = (.ok (), r') ∧
      ResponseSink.writeHead r status other = (.ok (), s') ∧ r'.Beside s' 0 := by
  cases hfail : r.failHead with
  | some fault =>
    have hlost (framing : Framing) :
        ResponseSink.writeHead r status framing = (.error fault, { r with headCalls := r.headCalls + 1 }) := by
      show r.writeHead status framing = _
      simp only [writeHead, hfail]
    exact .inl ⟨fault, _, hlost framing, hlost other⟩
  | none =>
    have hsent (framing : Framing) : ResponseSink.writeHead r status framing =
        (.ok (), { r with headCalls := r.headCalls + 1, head := some (status, framing) }) := by
      show r.writeHead status framing = _
      simp only [writeHead, hfail]
    exact .inr ⟨_, _, hsent framing, hsent other, by simp [plain, h], hsure, rfl⟩

theorem diagnosis_of_plain {r s : Recorder} (h : r.plain = s.plain) : r.diagnosis = s.diagnosis := by
  have hplain : r.plain.diagnosis = s.plain.diagnosis := by rw [h]
  exact hplain

end Recorder

/-! ### Responses -/

namespace Response

theorem isStreaming_withCoding (response : Response) : (response.withCoding chunked).isStreaming = true := by
  simp [isStreaming, withCoding]

/-- With the coding a body follows if it does without, and only then. -/
theorem framing_withCoding (response : Response) :
    (response.withCoding chunked).framing.plain = response.framing.plain := by
  cases hb : response.body with
  | none =>
    have hb' : (response.withCoding chunked).body = none := hb
    rw [(framing_eq_empty_iff _).2 hb, (framing_eq_empty_iff _).2 hb']
  | some body =>
    have hb' : (response.withCoding chunked).body = some body := hb
    rw [Framing.plain_of_ne (framing_ne_empty (by rw [hb']; rfl)),
      Framing.plain_of_ne (framing_ne_empty (by rw [hb]; rfl))]

/-- A response that is streamed already is sent as before. -/
theorem opening_withCoding {response : Response} (h : response.isStreaming = true) :
    (response.withCoding chunked).opening = response.opening := by
  have hframing : (response.withCoding chunked).framing = response.framing := by
    unfold framing
    rw [isStreaming_withCoding, h]
    rfl
  unfold opening
  rw [hframing, isStreaming_withCoding, h]
  rfl

end Response

namespace Delivery

variable {sink r s : Recorder} {response : Response} {request : Request} {d e : Delivery Recorder}

/-- What is left behind when one copy ends like the other. -/
theorem conclude_agree (hd : d.events.map Event.plain = e.events.map Event.plain) (hm : d.method = e.method)
    (hu : d.uri = e.uri) (hp : d.peer = e.peer) (result : Except (Nat × Fault) Nat) (h : r.plain = s.plain) :
    (d.conclude true (result, r)).1.plain = (e.conclude false (result, s)).1.plain ∧
      (d.conclude true (result, r)).2.map Event.plain = (e.conclude false (result, s)).2.map Event.plain := by
  match result with
  | .ok n => exact ⟨h, hd⟩
  | .error (written, fault) =>
    refine ⟨h, ?_⟩
    simp only [conclude, List.map_append, hd, Recorder.diagnosis_of_plain h, List.map_cons, List.map_nil]
    simp only [report, Event.plain, Lost.plain, hm, hu, hp]

/-- A response that need not be streamed leaves the same behind when it is. -/
theorem outcome_withCoding (hflush : sink.failFlush = none) (hs : response.isStreaming = false) :
    (serve (fun _ => response.withCoding Response.chunked) request sink).outcome.1.plain =
      (serve (fun _ => response) request sink).outcome.1.plain ∧
    (serve (fun _ => response.withCoding Response.chunked) request sink).outcome.2.map Event.plain =
      (serve (fun _ => response) request sink).outcome.2.map Event.plain := by
  let d := serve (fun _ => response) request sink
  let e := serve (fun _ => response.withCoding Response.chunked) request sink
  have hstreaming : response.opening.streaming = false := hs
  have hstreaming' : (response.withCoding Response.chunked).opening.streaming = true :=
    response.isStreaming_withCoding
  have hstate : d.state = .opening response.opening := rfl
  have hstate' : e.state = .opening (response.withCoding Response.chunked).opening := rfl
  have hdressed : e.dressed (response.withCoding Response.chunked).opening = d.dressed response.opening := rfl
  show e.outcome.1.plain = d.outcome.1.plain ∧ e.outcome.2.map Event.plain = d.outcome.2.map Event.plain
  rcases (d.dressed response.opening).writeHead_alike response.status response.framing_withCoding hflush with
    ⟨fault, r', hw', hw⟩ | ⟨r', s', hw', hw, hbeside⟩
  · rw [outcome_of_headLost hstate hw, outcome_of_headLost hstate' hw']
    exact ⟨rfl, rfl⟩
  · cases hb : response.body with
    | none =>
      rw [outcome_of_headOnly hstate hw hb, outcome_of_headOnly hstate' hw' hb]
      exact ⟨hbeside.plain, rfl⟩
    | some body =>
      rw [outcome_of_headSent hstate hw hb, outcome_of_headSent hstate' hw' hb, hstreaming, hstreaming']
      have hcap : r'.cap = s'.cap := by
        have hplain : r'.plain.cap = s'.plain.cap := by rw [hbeside.plain]
        exact hplain
      obtain ⟨result, r, s, whole, rest, hleft, hright, -, -, -, hend⟩ :=
        hbeside.follow 0 s'.cap (fun unit hu => (Body.mem_units hu).1) body.fault?
      have hleft' : r'.follow 0 ((Discipline.ofStreaming true).plan s'.cap (body.units []) body.fault?) =
          (result, r) := hleft
      have hright' : s'.follow 0 ((Discipline.ofStreaming false).plan s'.cap (body.units []) body.fault?) =
          (result, s) := hright
      rw [hcap, hleft', hright']
      exact conclude_agree rfl rfl rfl rfl result hend.plain

end Delivery

/-- A copy that flushes after each unit ends like one that flushes at its end. -/
theorem Transfer.copies_agree {sink : Recorder} (hflush : sink.failFlush = none) (script : List ReadStep)
    (length : Option Nat) :
    ∃ (result : Except (Nat × Fault) Nat) (whole : List Bytes) (rest : Bytes),
      WrittenOut (Body.scriptUnits script) whole rest ∧
      (alone .chunked (.reader script length) sink).settle.copier.result? = some result ∧
      (alone .buffered (.reader script length) sink).settle.copier.result? = some result ∧
      counted result = whole.flatten.length ∧
      (alone .chunked (.reader script length) sink).settle.sink.body = sink.body ++ (whole.flatten ++ rest) ∧
      (alone .chunked (.reader script length) sink).settle.sink.Beside
        (alone .buffered (.reader script length) sink).settle.sink whole.length := by
  obtain ⟨left, hleft, hfollow⟩ := settle_follow .chunked (.reader script length) sink rfl
  obtain ⟨right, hright, hfollow'⟩ := settle_follow .buffered (.reader script length) sink rfl
  have hbeside : sink.Beside sink 0 := ⟨rfl, hflush, rfl⟩
  obtain ⟨result, r, s, whole, rest, hr, hs, hwhole, hcounted, hbody, hend⟩ :=
    hbeside.follow 0 sink.cap (fun unit hu => (Body.mem_scriptUnits hu).1) (Body.scriptFault? script)
  obtain ⟨rfl, hsink⟩ := Prod.mk.inj (hfollow.trans hr)
  obtain ⟨rfl, hsink'⟩ := Prod.mk.inj (hfollow'.trans hs)
  rw [Nat.zero_add] at hcounted hend
  exact ⟨_, whole, rest, hwhole, hleft, hright, hcounted, by rwa [hsink], by rwa [hsink, hsink']⟩

/-- The two disciplines agree on every reader and on every recorder whose flushes do not fail, whatever its cap
and its other failures: a copy that flushes after each unit ends like one that flushes at its end, with the same
count and the same calls but for one more flush for each unit that was written out. And serving a response and
serving it with the coding that streams it agree. If it was streamed anyway the two are the same from the start;
if not, both come to their end, and but for the framing of a body, the flushes and the wording of a failure they
leave the same sink and the same log. -/
theorem Exchange.disciplines_agree (sink : Recorder) (hflush : sink.failFlush = none) :
    (∀ (script : List ReadStep) (length : Option Nat),
      let streamed := (Transfer.alone .chunked (.reader script length) sink).settle
      let buffered := (Transfer.alone .buffered (.reader script length) sink).settle
      streamed.isOver = true ∧ buffered.isOver = true ∧ streamed.copier.result? = buffered.copier.result? ∧
      streamed.sink.body = buffered.sink.body ∧ streamed.sink.writes = buffered.sink.writes ∧
      streamed.sink.plain = buffered.sink.plain ∧
      ∃ whole rest, WrittenOut (Body.scriptUnits script) whole rest ∧
        streamed.copier.result?.map counted = some whole.flatten.length ∧
        streamed.sink.body = sink.body ++ (whole.flatten ++ rest) ∧
        streamed.sink.flushCalls = buffered.sink.flushCalls + whole.length) ∧
    ∀ (request : Request) (response : Response) (chunks : List Bytes),
      let streamed := start (fun _ => response.withCoding Response.chunked) request sink chunks
      let simply := start (fun _ => response) request sink chunks
      (response.isStreaming = true → streamed = simply) ∧
      (response.isStreaming = false →
        streamed.settle.delivery.isFinished = true ∧ simply.settle.delivery.isFinished = true ∧
        streamed.settle.delivery.sink.headers = simply.settle.delivery.sink.headers ∧
        streamed.settle.delivery.sink.body = simply.settle.delivery.sink.body ∧
        streamed.settle.delivery.sink.plain = simply.settle.delivery.sink.plain ∧
        streamed.settle.delivery.events.map Event.plain = simply.settle.delivery.events.map Event.plain) := by
  refine ⟨fun script length => ?_, fun request response chunks => ⟨fun hs => ?_, fun hs => ?_⟩⟩
  · obtain ⟨result, whole, rest, hwhole, hleft, hright, hcounted, hbody, hend⟩ :=
      Transfer.copies_agree hflush script length
    have haccepted := congrArg Recorder.accepted hend.plain
    refine ⟨?_, ?_, hleft.trans hright.symm, ?_, ?_, hend.plain, whole, rest, hwhole, ?_, hbody,
      hend.flushCalls⟩
    · rw [Transfer.isOver, hleft]
      rfl
    · rw [Transfer.isOver, hright]
      rfl
    · exact congrArg (fun accepted => accepted.reverse.flatten) haccepted
    · exact congrArg (fun accepted => accepted.reverse.map List.length) haccepted
    · rw [hleft, Option.map_some, hcounted]
  · show (⟨_, _⟩ : Exchange Recorder) = ⟨_, _⟩
    simp only [Delivery.serve, Delivery.answer, Response.opening_withCoding hs]
    rfl
  · have hbody : ∀ body, response.body = some body → body.isStream = false := by
      intro body hb
      rw [Response.isStreaming, hb] at hs
      simp only [Option.any_some, Bool.or_eq_false_iff] at hs
      exact hs.1.1
    let streamed := start (fun _ => response.withCoding Response.chunked) request sink chunks
    let simply := start (fun _ => response) request sink chunks
    obtain ⟨hfinished, hleft⟩ : streamed.settle.delivery.isFinished = true ∧
        (streamed.settle.delivery.sink, streamed.settle.delivery.events) = _ := settle_alone chunks hbody
    obtain ⟨hfinished', hright⟩ : simply.settle.delivery.isFinished = true ∧
        (simply.settle.delivery.sink, simply.settle.delivery.events) = _ := settle_alone chunks hbody
    obtain ⟨hplain, hevents⟩ := Delivery.outcome_withCoding hflush hs
    rw [← hleft, ← hright] at hplain hevents
    have hsink : streamed.settle.delivery.sink.plain = simply.settle.delivery.sink.plain := hplain
    have hheaders := congrArg Recorder.headers hsink
    have haccepted := congrArg Recorder.accepted hsink
    exact ⟨hfinished, hfinished', hheaders, congrArg (fun accepted => accepted.reverse.flatten) haccepted, hsink,
      hevents⟩

/-- Two units through single-byte writes: both copies count three bytes, the one flushes three times and the
other once. And a response of three bytes: served in chunks or with its length, the sink gets the same. -/
theorem Exchange.disciplines_agree_twoUnits :
    let sink : Recorder := { cap := some 1 }
    let script : List ReadStep := [.data [97, 98], .notReady, .data [99]]
    let streamed := (Transfer.alone .chunked (.reader script none) sink).settle
    let buffered := (Transfer.alone .buffered (.reader script none) sink).settle
    let response : Response := { body := some (.bytes [97, 98, 99]) }
    let served := (start (fun _ => response.withCoding Response.chunked) {} sink []).settle
    let simply := (start (fun _ => response) {} sink []).settle
    sink.failFlush = none ∧ streamed.copier.result? = buffered.copier.result? ∧
      buffered.copier.result? = some (.ok 3) ∧ buffered.sink.flushCalls = 1 ∧ streamed.sink.flushCalls = 3 ∧
      response.isStreaming = false ∧ served.delivery.isFinished = true ∧
      served.delivery.sink.body = simply.delivery.sink.body ∧ simply.delivery.sink.body = [97, 98, 99] ∧
      served.delivery.sink.head = some (.ok, .chunked) ∧ simply.delivery.sink.head = some (.ok, .length 3) ∧
      served.delivery.sink.flushCalls = 2 ∧ simply.delivery.sink.flushCalls = 1 := by
  intro sink script streamed buffered response served simply
  obtain ⟨hcopies, hserves⟩ := disciplines_agree sink rfl
  obtain ⟨-, -, hresult, -⟩ := hcopies script none
  have hstreaming : response.isStreaming = false := by decide +kernel
  obtain ⟨hfinished, -, -, hbody, -⟩ := (hserves {} response []).2 hstreaming
  exact ⟨rfl, hresult, by decide +kernel, by decide +kernel, by decide +kernel, hstreaming, hfinished, hbody,
    by decide +kernel, by decide +kernel, by decide +kernel, by decide +kernel, by decide +kernel⟩

end Courier
