import Courier.Message.Request
import Courier.Payload.Body

/-!
# Responses

A response with a body is streamed if the body is a live stream, or if a transfer coding says so:
one of the header, or one that was promoted out of the header of a response on its way through. The
coding counts in exactly one spelling.
-/

namespace Courier

structure Status where
  code : Nat
  inRange : 100 ≤ code ∧ code ≤ 999
deriving DecidableEq, Repr

namespace Status

def ok : Status := ⟨200, by decide⟩
def badRequest : Status := ⟨400, by decide⟩
def notFound : Status := ⟨404, by decide⟩
def internalError : Status := ⟨500, by decide⟩

def ofNat? (code : Nat) : Option Status :=
  if h : 100 ≤ code ∧ code ≤ 999 then some ⟨code, h⟩ else none

end Status

/-- How the host marks where a body ends. -/
inductive Framing
  /-- No body follows. -/
  | empty
  /-- A body of this many bytes follows. -/
  | length (n : Nat)
  /-- A body in chunks follows. -/
  | chunked
deriving DecidableEq, Repr

structure Response where
  status : Status := .ok
  headers : Headers := []
  /-- Transfer codings that were promoted out of the header. -/
  codings : List String := []
  body : Option Body := none

namespace Response

/-- The one spelling of the coding that streams a body. -/
def chunked : String := "chunked"

def withHeader (response : Response) (name : HeaderName) (value : Bytes) : Response :=
  { response with headers := response.headers.append name value }

def withCoding (response : Response) (coding : String) : Response :=
  { response with codings := response.codings ++ [coding] }

def withBody (response : Response) (body : Body) : Response := { response with body := some body }

/-- Whether the response has to be streamed. -/
def isStreaming (response : Response) : Bool :=
  response.body.any Body.isStream ||
    (response.headers.values .transferEncoding).any (· = Bytes.ofString chunked) ||
    response.codings.any (· = chunked)

/-- The framing that the host is asked for. A body of unknown length goes in chunks even if it need
not be streamed. -/
def framing (response : Response) : Framing :=
  match response.body with
  | none => .empty
  | some body =>
    if response.isStreaming then .chunked
    else match body.length? with
      | some n => .length n
      | none => .chunked

end Response

/-- A service answers each request with a response. -/
abbrev Service := Request → Response

end Courier
