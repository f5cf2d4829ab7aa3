import Courier.Context
import Courier.Fault
import Courier.Message.Header
import Courier.Message.Uri

/-!
# Requests
-/

namespace Courier

/-- The name of a method; its case counts. -/
structure Method where
  name : String
deriving DecidableEq, Repr

namespace Method

def get : Method := ⟨"GET"⟩

def ofString? (name : String) : Option Method := if isToken name.toList then some ⟨name⟩ else none

end Method

structure Request where
  method : Method := .get
  uri : Uri := { written := "/" }
  headers : Headers := []
  /-- The content, or why it could not be read. -/
  content : Except Fault Bytes := .ok []
  context : Context := {}

end Courier
