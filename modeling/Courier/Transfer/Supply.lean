import Courier.Transfer.Copier

/-!
# What a body supplies

Read unit by unit, a body supplies bytes until a read yields none, or until a read fails for good. What
it supplies, and whether it fails, can be told beforehand; of a live stream it can be told once it is
known which chunks are still to be sent on it.
-/

namespace Courier

/-- The units in which the bytes come. -/
def Bytes.units (bytes : Bytes) : List Bytes :=
  if bytes = [] then []
  else bytes.take Copier.unitLimit :: units (bytes.drop Copier.unitLimit)
termination_by bytes.length
decreasing_by
  have := List.length_pos_iff.2 ‹bytes ≠ []›
  simp only [Copier.unitLimit, List.length_drop]
  omega

namespace Body

def scriptUnits : List ReadStep → List Bytes
  | [] => []
  | .data data :: rest => if data = [] then [] else data.units ++ scriptUnits rest
  | .fail fault :: rest => if fault.isInterrupted then scriptUnits rest else []
  | .stop :: _ => []
  | .notReady :: rest => scriptUnits rest

def scriptFault? : List ReadStep → Option Fault
  | [] => none
  | .data data :: rest => if data = [] then none else scriptFault? rest
  | .fail fault :: rest => if fault.isInterrupted then scriptFault? rest else some fault
  | .stop :: _ => none
  | .notReady :: rest => scriptFault? rest

def scriptContent : List ReadStep → Bytes
  | [] => []
  | .data data :: rest => if data = [] then [] else data ++ scriptContent rest
  | .fail fault :: rest => if fault.isInterrupted then scriptContent rest else []
  | .stop :: _ => []
  | .notReady :: rest => scriptContent rest

/-- The units up to the first read that yields no bytes or fails for good, when the chunks in `rest` are
still to be sent on a live stream. -/
def units (rest : List Bytes) : Body → List Bytes
  | bytes data => data.units
  | reader script _ => scriptUnits script
  | stream ch => ch.current.units ++ (ch.queue ++ ch.waiting.map (·.2) ++ rest).flatMap Bytes.units

/-- The bytes up to the first read that yields none or fails for good. -/
def content (rest : List Bytes) : Body → Bytes
  | bytes data => data
  | reader script _ => scriptContent script
  | stream ch => ch.current ++ (ch.queue ++ ch.waiting.map (·.2) ++ rest).flatten

/-- The fault that the reads fail with for good, if they do so before one yields no bytes. -/
def fault? : Body → Option Fault
  | reader script _ => scriptFault? script
  | bytes _ | stream _ => none

end Body

end Courier
