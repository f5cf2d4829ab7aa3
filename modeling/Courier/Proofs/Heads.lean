import Courier.Proofs.Attended
import Courier.Proofs.Fields
import Courier.Proofs.Framing

/-!
# Lengths and transfer codings in heads

The two fields that tell where a body ends come from different places: the length is worked out by the host
side, the transfer coding is copied from the response with all its other fields. Nothing compares the two, so
a head has both whenever the coding is not the one that streams.
-/

namespace Courier

namespace Opening

theorem has_contentLength_head (o : Opening) :
    o.head.headers.has .contentLength = true ↔ ∃ n, o.framing = .length n := by
  unfold head Relay.headOf
  cases hf : o.framing with
  | length n => simp [Headers.has_insert]
  | empty | chunked => simp [Headers.has_copyFields_nil, Headers.isComputed]

theorem has_transferEncoding_head (o : Opening) :
    o.head.headers.has .transferEncoding = o.headers.has .transferEncoding := by
  have hc : Headers.isComputed .transferEncoding = false := by decide
  have hn : HeaderName.contentLength ≠ .transferEncoding := by decide
  unfold head Relay.headOf
  cases hf : o.framing with
  | length n => simp [Headers.has_insert, Headers.has_copyFields_nil, hc, hn]
  | empty | chunked => simp [Headers.has_copyFields_nil, hc]

end Opening

/-- A head that tells the end of its body in two ways. -/
def Head.IsAmbiguous (head : Head) : Prop :=
  head.headers.has .contentLength = true ∧ head.headers.has .transferEncoding = true

namespace Connection

theorem not_isAmbiguous_missingHead : ¬ missingHead.IsAmbiguous := fun h => by cases h.1

/-- A host gets an ambiguous head just for a response that has a body of known length, need not be streamed,
and names a transfer coding. -/
theorem isAmbiguous_iff (request : Request) (response : Response) (chunks : List Bytes) :
    (∃ moves c head, (answered request response chunks).run? moves = some c ∧ c.isBroken = false ∧
        (c.head = some head ∨ c.relay.slot = .full head) ∧ head.IsAmbiguous) ↔
      response.headers.has .transferEncoding = true ∧
        ∃ body n, response.body = some body ∧ body.length? = some n ∧ response.isStreaming = false := by
  have hlength : (∃ n, response.opening.framing = .length n) ↔
      ∃ body n, response.body = some body ∧ body.length? = some n ∧ response.isStreaming = false := by
    constructor
    · rintro ⟨n, hn⟩
      obtain ⟨body, h⟩ := (response.framing_eq_length_iff n).1 hn
      exact ⟨body, n, h⟩
    · rintro ⟨body, n, h⟩
      exact ⟨n, (response.framing_eq_length_iff n).2 ⟨body, h⟩⟩
  have hhead : response.opening.head.IsAmbiguous ↔
      response.headers.has .transferEncoding = true ∧ ∃ n, response.opening.framing = .length n := by
    rw [Head.IsAmbiguous, response.opening.has_contentLength_head, response.opening.has_transferEncoding_head]
    exact And.comm
  rw [← hlength, ← hhead]
  constructor
  · rintro ⟨moves, c, head, hr, hb, hh, ha⟩
    obtain ⟨-, hs⟩ := serving_run hr hb
    rcases hh with hh | hh
    · rcases hs.told head hh with rfl | rfl
      · exact ha
      · exact absurd ha not_isAmbiguous_missingHead
    · rw [← hs.delivery.slot head hh]
      exact ha
  · intro ha
    obtain ⟨body, n, hbody, -⟩ := hlength.1 (hhead.1 ha).2
    have hsome : response.body.isSome = true := by simp [hbody]
    exact ⟨_, _, _, run?_opened request chunks hsome, rfl, .inl rfl, ha⟩

/-- A coding that does not stream is sent along with the length. -/
theorem not_forall_unambiguous :
    ¬ ∀ (response : Response) (moves : List Move) (c : Connection) (head : Head),
      (answered {} response []).run? moves = some c → c.head = some head → ¬ head.IsAmbiguous := by
  intro h
  let response : Response :=
    { headers := [(.transferEncoding, Bytes.ofString "gzip")], body := some (.bytes (Bytes.ofString "hello")) }
  have hframing : response.opening.framing = .length 5 := by decide +kernel
  refine h response _ _ _ (run?_opened {} [] rfl) rfl ⟨?_, ?_⟩
  · exact response.opening.has_contentLength_head.2 ⟨5, hframing⟩
  · rw [response.opening.has_transferEncoding_head]
    decide

end Connection

end Courier
