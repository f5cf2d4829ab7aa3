import Mathlib.Algebra.GroupWithZero.Nat
import Courier.Payload.Material
import Courier.Proofs.Supply

/-!
# A body that holds its bytes

The byte string and the reader over it answer every read alike (`Holds.read`): a read takes its piece off the
bytes and leaves a body that holds the others. So any reads cut the same pieces off both, and behind the last
byte every piece is empty.
-/

namespace Courier

namespace Bytes.Parts

variable {data : Bytes} {rooms : List Nat} {pieces : List Bytes}

theorem take_drop {room : Nat} (h : Parts (data.drop room) rooms pieces) :
    Parts data (room :: rooms) (data.take room :: pieces) := by
  have hpiece : (data.take room).length = min (data.take room ++ data.drop room).length room := by
    rw [List.take_append_drop, List.length_take, Nat.min_comm]
  have hparts := h.cons hpiece
  rwa [List.take_append_drop] at hparts

/-- The pieces are consecutive, and nothing is between them. -/
theorem flatten_eq (h : Parts data rooms pieces) : pieces.flatten = data.take rooms.sum := by
  induction h with
  | nil left => rw [List.sum_nil, List.take_zero, List.flatten_nil]
  | @cons piece left room rooms pieces hp _ ih =>
    rw [List.length_append] at hp
    have htake : piece.take (room + rooms.sum) = piece := List.take_of_length_le (by omega)
    rw [List.flatten_cons, ih, List.sum_cons, List.take_append, htake]
    rcases Nat.le_total (piece.length + left.length) room with hle | hle
    · -- the piece took all that was left
      obtain rfl : left = [] := List.length_eq_zero_iff.1 (by omega)
      rw [List.take_nil, List.take_nil]
    · have hlength : piece.length = room := by omega
      rw [hlength, Nat.add_sub_cancel_left]

theorem of_nil (h : Parts [] rooms pieces) : ∀ piece ∈ pieces, piece = [] := by
  generalize hd : ([] : Bytes) = data at h
  induction h with
  | nil => exact nofun
  | cons _ _ ih =>
    obtain ⟨rfl, rfl⟩ := List.append_eq_nil_iff.1 hd.symm
    exact List.forall_mem_cons.2 ⟨rfl, ih rfl⟩

/-- Once there was room for all the bytes, the pieces are empty. -/
theorem eq_nil_behind (h : Parts data rooms pieces) (k : Nat) (hk : data.length ≤ (rooms.take k).sum) :
    ∀ piece ∈ pieces.drop k, piece = [] := by
  induction h generalizing k with
  | nil => simp
  | @cons piece left room rooms pieces hp hs ih =>
    cases k with
    | zero =>
      have hempty : piece ++ left = [] := List.length_eq_zero_iff.1 (by simpa using hk)
      have hall := hs.cons hp
      rw [hempty] at hall
      exact hall.of_nil
    | succ k =>
      rw [List.take_succ_cons, List.sum_cons, List.length_append] at hk
      rw [List.length_append] at hp
      exact ih k (by omega)

end Bytes.Parts

namespace Body

variable {body : Body} {data : Bytes}

theorem holds_made (material : Material) : (made material).Holds material.content := by
  unfold made buffered
  split
  · exact .reader _ _
  · exact .bytes _

namespace Holds

theorem isStream (h : body.Holds data) : body.isStream = false := by
  cases h <;> rfl

theorem release (h : body.Holds data) : body.release = body := by
  cases h <;> rfl

theorem content (h : body.Holds data) (rest : List Bytes) : body.content rest = data := by
  cases h with
  | bytes | spent => rfl
  | reader data =>
    by_cases hd : data = []
    · simp [Body.content, scriptContent, hd]
    · simp [Body.content, scriptContent, hd]

/-- A read takes its piece off the bytes, and the body holds the others. -/
theorem read (h : body.Holds data) (room : Nat) :
    ∃ next, body.read room = (.ready (.ok (data.take room)), next) ∧ next.Holds (data.drop room) := by
  cases h with
  | bytes => exact ⟨_, rfl, .bytes _⟩
  | spent length =>
    refine ⟨.reader [] length, by rw [List.take_nil]; rfl, ?_⟩
    rw [List.drop_nil]
    exact .spent length
  | reader data length =>
    refine ⟨_, rfl, ?_⟩
    by_cases hd : data.drop room = []
    · rw [hd]
      exact .spent length
    · have hleft : (data.drop room).isEmpty = false := by simpa using hd
      rw [hleft]
      exact .reader _ length

/-- The answer to a read is told by the bytes and the room for it. -/
theorem eq_of_read {room : Nat} {answer : Poll (Except Fault Bytes)} {next : Body} (h : body.Holds data)
    (hr : body.read room = (answer, next)) : answer = .ready (.ok (data.take room)) ∧ next.Holds (data.drop room) := by
  obtain ⟨next', hread, hnext⟩ := h.read room
  rw [hr] at hread
  cases hread
  exact ⟨rfl, hnext⟩

end Holds

/-- Reads with so much room cut the same pieces off every body that holds the bytes. -/
theorem exists_parts (data : Bytes) (rooms : List Nat) :
    ∃ pieces, Bytes.Parts data rooms pieces ∧
      ∀ body : Body, body.Holds data → body.reads rooms = pieces.map fun piece => .ready (.ok piece) := by
  induction rooms generalizing data with
  | nil => exact ⟨[], .nil data, fun _ _ => rfl⟩
  | cons room rooms ih =>
    obtain ⟨pieces, hparts, hreads⟩ := ih (data.drop room)
    refine ⟨data.take room :: pieces, hparts.take_drop, fun body h => ?_⟩
    obtain ⟨next, hread, hnext⟩ := h.read room
    rw [reads, hread, hreads next hnext, List.map_cons]

example : (Body.reader [.data [1, 2, 3]] none).reads [2, 0, 5, 1] =
    [[1, 2], [], [3], []].map fun piece => .ready (.ok piece) := rfl

end Body

end Courier
