import Courier.Message.Response

/-!
# How a response is framed

Three signals ask for streaming, and the body itself says whether its length is known. The framing is decided
from these alone.
-/

namespace Courier.Response

theorem isStreaming_iff (response : Response) :
    response.isStreaming = true ↔ (∃ ch, response.body = some (.stream ch)) ∨
      Bytes.ofString chunked ∈ response.headers.values .transferEncoding ∨ chunked ∈ response.codings := by
  have hbody : response.body.any Body.isStream = true ↔ ∃ ch, response.body = some (.stream ch) := by
    cases hb : response.body with
    | none => simp
    | some body => cases body <;> simp [Body.isStream]
  unfold isStreaming
  rw [Bool.or_eq_true, Bool.or_eq_true, hbody, or_assoc]
  simp

theorem framing_eq_empty_iff (response : Response) : response.framing = .empty ↔ response.body = none := by
  unfold framing
  cases hb : response.body with
  | none => simp
  | some body =>
    cases hs : response.isStreaming with
    | true => simp
    | false => cases hl : body.length? <;> simp [hl]

theorem framing_ne_empty {response : Response} (hb : response.body.isSome = true) :
    response.framing ≠ .empty := by
  intro hf
  rw [response.framing_eq_empty_iff.1 hf] at hb
  cases hb

theorem framing_eq_chunked_iff (response : Response) :
    response.framing = .chunked ↔
      ∃ body, response.body = some body ∧ (response.isStreaming = true ∨ body.length? = none) := by
  unfold framing
  cases hb : response.body with
  | none => simp
  | some body =>
    cases hs : response.isStreaming with
    | true => simp
    | false => cases hl : body.length? <;> simp [hl]

theorem framing_eq_length_iff (response : Response) (n : Nat) :
    response.framing = .length n ↔
      ∃ body, response.body = some body ∧ body.length? = some n ∧ response.isStreaming = false := by
  unfold framing
  cases hb : response.body with
  | none => simp
  | some body =>
    cases hs : response.isStreaming with
    | true => simp
    | false => cases hl : body.length? <;> simp [hl]

end Courier.Response
