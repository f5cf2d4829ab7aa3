import Courier.Fault.Kind
import Courier.Fault.OsCode

/-!
# Faults

Everything that can go wrong between a body and the wire. Faults are wrapped on their way up: a
broken connection reaches the copy loop as an input or output fault around a transport fault around
the fault of the protocol engine around the code of the operating system. `causes` lays that chain
out, outermost first.
-/

namespace Courier

inductive Fault
  /-- An input or output fault carrying a code of the operating system. -/
  | os (code : Int)
  /-- An input or output fault that consists of its kind only. -/
  | io (kind : FaultKind)
  /-- An input or output fault around another one. -/
  | ioWith (kind : FaultKind) (inner : Fault)
  /-- The connection that carried the response ended with a fault. -/
  | connection (cause : Fault)
  /-- Nobody receives the response body any more. -/
  | bodyDropped
  /-- Body bytes were to be sent and there is no body to send them on. -/
  | headNotSent
  /-- A second head was to be sent. -/
  | headAlreadySent
  /-- The protocol engine failed because of another fault. -/
  | engine (source : Fault)
  /-- The protocol engine refused a message. -/
  | engineRefused
  /-- A body copy stopped early. -/
  | copyStopped (written : Nat) (source : Fault)
  /-- The reader of a live stream is gone. -/
  | streamClosed
  /-- A fault of unknown make. -/
  | foreign (text : String)
deriving DecidableEq, Repr

namespace Fault

instance : Inhabited Fault := ⟨io .other⟩

/-- The kind of an input or output fault; no other fault has one. -/
def kind? : Fault → Option FaultKind
  | os code => some (OsCode.kind code)
  | io kind => some kind
  | ioWith kind _ => some kind
  | _ => none

/-- The code of the operating system that the fault itself carries. -/
def code? : Fault → Option Int
  | os code => some code
  | _ => none

/-- An interrupted operation has done nothing and may be tried again. -/
def isInterrupted (fault : Fault) : Bool := fault.kind? = some .interrupted

/-- The fault as one of an input or output operation: a fault of another make is wrapped. -/
def toIo (fault : Fault) : Fault :=
  if fault.kind?.isSome then fault else ioWith .other fault

/-- The fault directly below, where the outer one is a known wrapper. -/
def next? : Fault → Option Fault
  | ioWith _ inner => some inner
  | connection cause => some cause
  | engine source => some source
  | _ => none

/-- The chain of causes, outermost first. It ends below the last known wrapper. -/
def causes : Fault → List Fault
  | ioWith kind inner => ioWith kind inner :: inner.causes
  | connection cause => connection cause :: cause.causes
  | engine source => engine source :: source.causes
  | fault => [fault]

/-- The text shown for a fault. The protocol engine words its own faults, so for those, and for
those that show their text, there is none. -/
def message? : Fault → Option String
  | os code => some (OsCode.message code)
  | io kind => some kind.description
  | ioWith _ inner => inner.message?
  | connection _ => some "connection closed with error"
  | bodyDropped => some "response body receiver dropped"
  | headNotSent => some "response body written before head"
  | headAlreadySent => some "response head already sent"
  | engine _ => none
  | engineRefused => none
  | copyStopped written source =>
    source.message?.map (s!"body copy failed after {written} bytes: " ++ ·)
  | streamClosed => some "stream closed by reader"
  | foreign text => some text

/-- What a dropped body and a failed connection look like to a writer: a broken pipe. The misuse of
a response is of no special kind. -/
def ofTransport (fault : Fault) : Fault :=
  match fault with
  | bodyDropped => ioWith .brokenPipe fault
  | connection _ => ioWith .brokenPipe fault
  | _ => ioWith .other fault

theorem causes_eq (fault : Fault) :
    fault.causes = fault :: (fault.next?.map causes).getD [] := by
  cases fault <;> simp [causes, next?]

end Fault

end Courier
