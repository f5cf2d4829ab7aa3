import Courier.Proofs.Failure
import Courier.Proofs.Heads

/-!
# The header set of a head

The fields of a response are copied over those of the sink once, in the step that writes the head
(`Exchange.headers_trail`). The length that the head tells behind that is never one that the response has brought
along, in whatever case its name was spelled.
-/

namespace Courier

/-! ### Names -/

theorem isTokenChar_toLower {n : Nat} (h : n < 256) :
    isTokenChar (Char.ofNat n).toLower = isTokenChar (Char.ofNat n) := by
  revert n
  decide +kernel

theorem HeaderName.ofBytes?_eq_contentLength_iff (spelling : Bytes) :
    ofBytes? spelling = some .contentLength ↔
      spelling.map (fun b => (Char.ofNat b.toNat).toLower) = "content-length".toList := by
  have hlower : (spelling.map fun b => Char.ofNat b.toNat).map Char.toLower =
      spelling.map fun b => (Char.ofNat b.toNat).toLower := List.map_map
  unfold ofBytes?
  constructor
  · intro h
    obtain ⟨-, h⟩ := Option.ite_none_right_eq_some.1 h
    have htext := congrArg (fun name => name.text.toList) (Option.some.inj h)
    simpa [contentLength, Function.comp_def] using htext
  · intro h
    have hlength : spelling.length = 14 := by simpa using congrArg List.length h
    have htoken : isToken (spelling.map fun b => Char.ofNat b.toNat) = true := by
      have hne : spelling ≠ [] := by rintro rfl; cases hlength
      have hall : ∀ c ∈ "content-length".toList, isTokenChar c = true := by simp [isTokenChar]
      simp only [isToken, List.isEmpty_map, List.isEmpty_eq_false_iff.2 hne, Bool.not_false, Bool.true_and,
        List.all_map, List.all_eq_true]
      intro b hb
      rw [Function.comp_apply, ← isTokenChar_toLower b.toNat_lt]
      exact hall _ (h ▸ List.mem_map_of_mem hb)
    rw [if_pos ⟨htoken, by simp [hlength, maxLength]⟩, hlower, h]
    rfl

/-! ### The header set of a recorder -/

theorem Recorder.headers_writeHead {r r' : Recorder} {status : Status} {framing : Framing}
    {answer : Except Fault Unit} (h : ResponseSink.writeHead r status framing = (answer, r')) :
    r'.headers = r.headers := by
  have h : r.writeHead status framing = (answer, r') := h
  unfold writeHead at h
  dsimp only at h
  split at h <;> cases h <;> rfl

/-- From the call for the head on a recorder has the fields of the response in its header set. -/
theorem Exchange.headers_trail {request : Request} {response : Response} {sink : Recorder} {chunks : List Bytes}
    {n : Nat} {calls : List Delivery.Call} {x : Exchange Recorder}
    (hr : (start (fun _ => response) request sink chunks).Trail Eq n calls x) (hc : calls ≠ []) :
    x.delivery.sink.headers = sink.headers.copyFields response.headers := by
  have hkept : OnRecord Eq fun r : Recorder => r.headers :=
    ⟨fun r bytes => congrArg (·.2.2) (Recorder.onRecord.write r bytes),
      fun r => congrArg (·.2.2) (Recorder.onRecord.flush r), fun _ => rfl, fun _ _ h => by rw [h]⟩
  have htrail : (calls = [] ∧ x.delivery.state = .opening response.opening ∧ x.delivery.sink = sink) ∨
      (x.delivery.sink.headers = sink.headers.copyFields response.headers ∧ ∀ o, x.delivery.state ≠ .opening o) := by
    clear hc
    induction hr with
    | refl => exact .inl ⟨rfl, rfl, rfl⟩
    | @deliver n calls y z _ hs ih =>
      obtain ⟨d, hstep, rfl⟩ := Option.map_eq_some_iff.1 hs
      have ha := Delivery.advance_of_step? hstep
      rcases ih with ⟨-, hopening, hsink⟩ | ⟨hheaders, hopening⟩
      · -- the one step in which the header set is filled
        have hfilled {answer : Except Fault Unit} {r : Recorder}
            (hw : ResponseSink.writeHead (y.delivery.dressed response.opening) response.opening.status
              response.opening.framing = (answer, r)) : r.headers = sink.headers.copyFields response.headers := by
          rw [Recorder.headers_writeHead hw, ← hsink]
          rfl
        refine .inr ?_
        cases ha with
        | headLost ho hw | headSent ho hw =>
          rw [hopening] at ho
          cases ho
          exact ⟨hfilled hw, by simp⟩
        | headOnly ho hw =>
          rw [hopening] at ho
          cases ho
          exact ⟨hfilled hw, by simp [Delivery.finish]⟩
        | copy hd | copied hd | copyLost hd | report hd =>
          rw [hopening] at hd
          cases hd
      · obtain ⟨hrecord, hopening⟩ := hkept.advance ha hopening
        exact .inr ⟨hrecord.trans hheaders, hopening⟩
    | produce _ hs ih =>
      obtain ⟨p, body, p', body', -, -, -, rfl⟩ := Exchange.produce?_eq_some hs
      exact ih
    | turn _ ht ih =>
      subst ht
      exact ih
  rcases htrail with ⟨hnil, -⟩ | ⟨hheaders, -⟩
  · exact absurd hnil hc
  · exact hheaders

/-! ### The head of a relay -/

theorem Opening.values_contentLength_head (o : Opening) :
    o.head.headers.values .contentLength = match o.framing with
      | .length n => [Bytes.ofString (toString n)]
      | .empty | .chunked => [] := by
  have hcopied : (Headers.copyFields [] o.headers).values .contentLength = [] :=
    (Headers.replaces_copyFields [] o.headers).kept _ (.inl rfl)
  unfold head Relay.headOf
  cases o.framing with
  | length n => exact (Headers.values_insert ..).trans (if_pos rfl)
  | empty | chunked => exact hcopied

theorem Opening.values_head (o : Opening) {name : HeaderName} (h : name ≠ .contentLength) :
    o.head.headers.values name = o.headers.values name := by
  have hcopied : (Headers.copyFields [] o.headers).values name = o.headers.values name := by
    rcases hn : o.headers.has name with _ | _
    · rw [(Headers.replaces_copyFields [] o.headers).kept name (.inr hn), Headers.values_of_has_false hn]
      rfl
    · exact (Headers.replaces_copyFields [] o.headers).copied name h hn
  unfold head Relay.headOf
  cases o.framing with
  | length n => rw [← hcopied]; exact (Headers.values_insert ..).trans (if_neg h)
  | empty | chunked => exact hcopied

theorem Connection.exists_arrived (request : Request) (response : Response) (chunks : List Bytes) :
    ∃ c, (answered request response chunks).run? [.request .deliver] = some c ∧ c.isBroken = false ∧
      c.relay.takeHead.1 = .arrived response.opening.head := by
  have hw := Relay.writeHead_of_due (r := { headers := Headers.copyFields [] response.headers }) response.status
    response.framing rfl (by simp)
  rcases hb : response.body with _ | body
  · have ha : (answered request response chunks).delivery.Advance _ := .headOnly rfl hw hb
    exact ⟨_, by rw [run?_cons, deliver_of_advance rfl ha]; rfl, rfl, rfl⟩
  · have hsome : response.body.isSome = true := by rw [hb]; rfl
    have ha : (answered request response chunks).delivery.Advance _ := .headSent rfl hw hsome
    exact ⟨_, by rw [run?_cons, deliver_of_advance rfl ha]; rfl, rfl, rfl⟩

/-- The head that the host finds is the one of the response, at whatever time it looks. -/
theorem Connection.eq_head_of_arrived {request : Request} {response : Response} {chunks : List Bytes}
    {moves : List Move} {c : Connection} {head : Head}
    (hr : (answered request response chunks).run? moves = some c) (hb : c.isBroken = false)
    (ht : c.relay.takeHead.1 = .arrived head) : head = response.opening.head := by
  obtain ⟨hc, hs⟩ := serving_run hr hb
  exact hs.delivery.slot head (hc.hostStep_takeHead (Prod.ext ht rfl)).1

/-- The header set that a response is sent with. Its fields are copied over those of the sink, whatever the sink
holds and whichever way they are copied: each name of the response but one has the values of the response, in
their order, and every other name those of the sink; a second copy changes nothing. The one name is that of the
length, in whatever case it was spelled: the head that a new relay hands to the host has a length just when the
framing has one, and then this and no other. -/
theorem Response.headers_sent (response : Response) :
    (∀ held : Headers, response.headers.Replaces held (held.overlay response.headers) ∧
      (held.overlay response.headers).overlay response.headers = held.overlay response.headers ∧
      ∀ order : List HeaderName, (∀ name, name ∈ order ↔ response.headers.has name = true) →
        response.headers.Replaces held (held.copyNames response.headers order) ∧
          ∀ name, ((held.copyNames response.headers order).copyNames response.headers order).values name =
            (held.copyNames response.headers order).values name) ∧
    (∀ (request : Request) (sink : Recorder) (chunks : List Bytes) (n : Nat) (calls : List Delivery.Call)
      (x : Exchange Recorder), (Exchange.start (fun _ => response) request sink chunks).Trail Eq n calls x →
      calls ≠ [] → response.headers.Replaces sink.headers x.delivery.sink.headers) ∧
    (∀ spelling, HeaderName.ofBytes? spelling = some .contentLength ↔
      spelling.map (fun b => (Char.ofNat b.toNat).toLower) = "content-length".toList) ∧
    ∀ (request : Request) (chunks : List Bytes),
      (∃ c head, (Connection.answered request response chunks).run? [.request .deliver] = some c ∧
        c.isBroken = false ∧ c.relay.takeHead.1 = .arrived head) ∧
      ∀ moves c head, (Connection.answered request response chunks).run? moves = some c → c.isBroken = false →
        c.relay.takeHead.1 = .arrived head →
        (head.headers.has .contentLength = true ↔ ∃ n, response.framing = .length n) ∧
        (∀ n, response.framing = .length n →
          head.headers.values .contentLength = [Bytes.ofString (toString n)]) ∧
        ∀ name, name ≠ .contentLength → head.headers.values name = response.headers.values name := by
  refine ⟨fun held => ⟨held.replaces_overlay _, held.overlay_overlay _, fun order horder => ?_⟩,
    fun request sink chunks n calls x hr hc => ?_, HeaderName.ofBytes?_eq_contentLength_iff,
    fun request chunks => ⟨?_, fun moves c head hr hb ht => ?_⟩⟩
  · have h := held.replaces_copyNames horder
    exact ⟨h, h.again (Headers.replaces_copyNames _ horder)⟩
  · rw [Exchange.headers_trail hr hc]
    exact sink.headers.replaces_copyFields response.headers
  · obtain ⟨c, hr, hb, ht⟩ := Connection.exists_arrived request response chunks
    exact ⟨c, _, hr, hb, ht⟩
  · obtain rfl := Connection.eq_head_of_arrived hr hb ht
    refine ⟨response.opening.has_contentLength_head, fun n hn => ?_, fun name => response.opening.values_head⟩
    have hn : response.opening.framing = .length n := hn
    rw [response.opening.values_contentLength_head, hn]

/-- A response that brings two lengths along, neither of them its own, on a sink that holds a third. -/
theorem Response.headers_sent_stale :
    let multi : HeaderName := ⟨"x-multi"⟩
    let server : HeaderName := ⟨"server"⟩
    let response : Response :=
      { headers := [(multi, [97]), (.contentLength, [57]), (multi, [98]), (.contentLength, [55])]
        body := some (.bytes [104, 105]) }
    let sink : Recorder := { headers := [(multi, [104]), (.contentLength, [49]), (server, [102])] }
    (∃ n calls x, (Exchange.start (fun _ => response) {} sink []).Trail Eq n calls x ∧ calls ≠ [] ∧
      x.delivery.sink.headers.values multi = [[97], [98]] ∧
      x.delivery.sink.headers.values .contentLength = [[49]] ∧ x.delivery.sink.headers.values server = [[102]]) ∧
    ∃ c head, (Connection.answered {} response []).run? [.request .deliver] = some c ∧
      c.relay.takeHead.1 = .arrived head ∧ head.headers.values multi = [[97], [98]] ∧
      head.headers.values .contentLength = [[50]] := by
  intro multi server response sink
  obtain ⟨-, hrecorder, -, hrelay⟩ := headers_sent response
  obtain ⟨⟨c, head, hrun, hbroken, harrived⟩, hhead⟩ := hrelay {} []
  obtain ⟨-, hlength, hother⟩ := hhead _ c head hrun hbroken harrived
  obtain ⟨n, htrail⟩ := Exchange.Trail.steps
    (.refl : (Exchange.start (fun _ => response) {} sink []).Trail Eq 0 [] _) 1
  have hcalls : ([] ++ (Exchange.start (fun _ => response) {} sink []).calls 1).isEmpty = false := by
    decide +kernel
  have hcalls := List.isEmpty_eq_false_iff.1 hcalls
  have hset := hrecorder {} sink [] n _ _ htrail hcalls
  refine ⟨⟨n, _, _, htrail, hcalls, ?_, ?_, ?_⟩, c, head, hrun, harrived, ?_, ?_⟩
  · rw [hset.copied multi (by decide) (by decide)]; rfl
  · rw [hset.kept .contentLength (.inl rfl)]; rfl
  · rw [hset.kept server (.inr (by decide))]; rfl
  · rw [hother multi (by decide)]; rfl
  · rw [hlength 2 (by decide +kernel)]; decide +kernel

end Courier
