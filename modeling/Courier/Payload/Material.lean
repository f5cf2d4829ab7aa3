import Courier.Payload.Body

/-!
# What bodies are made from

A body can be made from bytes or from a text. Made from more than `Body.chunkThreshold` bytes it is a reader
that does not tell its length, but it still hands out the bytes it was made from, from the front, as much in
each read as there is room for.
-/

namespace Courier

/-- What a body can be made from. -/
inductive Material
  | bytes (data : Bytes)
  | array (data : Array UInt8)
  /-- A text, fixed or owned, in its UTF-8 form. -/
  | text (text : String)
deriving DecidableEq, Repr

def Material.content : Material → Bytes
  | bytes data => data
  | array data => data.toList
  | text words => Bytes.ofString words

/-- The bytes are cut from the front. Each piece fills its room, or takes all that is left. -/
inductive Bytes.Parts : Bytes → List Nat → List Bytes → Prop
  | nil (left : Bytes) : Parts left [] []
  | cons {piece left : Bytes} {room : Nat} {rooms : List Nat} {pieces : List Bytes}
      (hp : piece.length = min (piece ++ left).length room) (hs : Parts left rooms pieces) :
      Parts (piece ++ left) (room :: rooms) (piece :: pieces)

namespace Body

def made (material : Material) : Body := buffered material.content

/-- What reads answer that have so much room, one after the other. -/
def reads (body : Body) : List Nat → List (Poll (Except Fault Bytes))
  | [] => []
  | room :: rooms => (body.read room).1 :: (body.read room).2.reads rooms

/-- The bytes are all in the body: it is the byte string itself, or a reader over it, with whatever length it
declares. -/
inductive Holds : Body → Bytes → Prop
  | bytes (data : Bytes) : Holds (.bytes data) data
  | reader (data : Bytes) (length : Option Nat) : Holds (.reader [.data data] length) data
  /-- A reader that has been read to its end. -/
  | spent (length : Option Nat) : Holds (.reader [] length) []

end Body

end Courier
