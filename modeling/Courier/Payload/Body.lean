import Courier.Fault
import Courier.Payload.Channel

/-!
# Bodies

A body is a byte string, a reader of unknown make, or a live stream. All three are consumed by reads,
and what a read of `room` bytes answers is all that the transmission knows of a body.
-/

namespace Courier

/-- What a reader does when it is read. -/
inductive ReadStep
  /-- Delivers these bytes, over as many reads as it takes. -/
  | data (bytes : Bytes)
  /-- Fails one read. -/
  | fail (fault : Fault)
  /-- Delivers no bytes once. -/
  | stop
  /-- Is not ready once. -/
  | notReady
deriving DecidableEq, Repr

inductive Body
  | bytes (data : Bytes)
  /-- A reader of unknown make, given by what its reads do; after the last step it is at its end. A
  declared length need not be the true one. -/
  | reader (script : List ReadStep) (length : Option Nat)
  | stream (channel : Channel)
deriving DecidableEq, Repr

namespace Body

/-- A longer byte string is sent without a declared length. -/
def chunkThreshold : Nat := 5000000

/-- The body that holds the given bytes. -/
def buffered (data : Bytes) : Body :=
  if chunkThreshold < data.length then reader [.data data] none else bytes data

/-- The length that is known before the body is read. -/
def length? : Body → Option Nat
  | bytes data => some data.length
  | reader _ length => length
  | stream _ => none

def isStream : Body → Bool
  | stream _ => true
  | _ => false

/-- One read of a reader. -/
def readScript (room : Nat) :
    List ReadStep → Poll (Except Fault Bytes) × List ReadStep
  | [] => (.ready (.ok []), [])
  | .data data :: rest =>
    let left := data.drop room
    (.ready (.ok (data.take room)), if left.isEmpty then rest else .data left :: rest)
  | .fail fault :: rest => (.ready (.error fault), rest)
  | .stop :: rest => (.ready (.ok []), rest)
  | .notReady :: rest => (.pending, rest)

/-- One read of at most `room` bytes. No bytes, where there was room for some, are the end. -/
def read (body : Body) (room : Nat) : Poll (Except Fault Bytes) × Body :=
  match body with
  | bytes data => (.ready (.ok (data.take room)), bytes (data.drop room))
  | reader script length =>
    let (answer, script) := readScript room script
    (answer, reader script length)
  | stream channel =>
    let (answer, channel) := channel.read room
    (answer.map .ok, stream channel)

/-- Nobody reads the body any more. -/
def release : Body → Body
  | stream channel => stream channel.dropReader
  | body => body

/-- The body without its contents, for a log. -/
def summary : Body → String
  | bytes data => s!"Bytes({data.length})"
  | reader _ none => "Reader \x7b len: None \x7d"
  | reader _ (some length) => s!"Reader \x7b len: Some({length}) \x7d"
  | stream _ => "Stream"

end Body

end Courier
