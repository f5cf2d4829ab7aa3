import Courier.Transfer.Supply

/-!
# Consecutive pieces

How a byte string is cut: into units by the reads of a body, by a cap into what is written at a time, and into
frames by a relay. It is one cut with three limits.
-/

namespace Courier.Bytes

variable {limit : Nat}

theorem pieces_nil (limit : Nat) : pieces limit [] = [] := by
  rw [pieces, if_pos rfl]

theorem pieces_zero {bytes : Bytes} (h : bytes ≠ []) : bytes.pieces 0 = [[]] := by
  rw [pieces, if_neg h, if_pos rfl]

theorem pieces_of_ne {bytes : Bytes} (h : bytes ≠ []) (hl : 0 < limit) :
    bytes.pieces limit = bytes.take limit :: pieces limit (bytes.drop limit) := by
  rw [pieces, if_neg h, if_neg (by omega)]

/-- Pieces that get on are the bytes, cut. -/
theorem flatten_pieces (hl : 0 < limit) (bytes : Bytes) : (bytes.pieces limit).flatten = bytes := by
  induction bytes using pieces.induct limit with
  | case1 => rw [pieces_nil]; rfl
  | case2 bytes hb hz => omega
  | case3 bytes hb hz ih => rw [pieces_of_ne hb hl, List.flatten_cons, ih, List.take_append_drop]

/-- Pieces that get on or are none. -/
theorem flatten_landed {bytes : Bytes} (h : [] ∉ bytes.pieces limit) : (bytes.pieces limit).flatten = bytes := by
  rcases Nat.eq_zero_or_pos limit with rfl | hl
  · by_cases hb : bytes = []
    · rw [hb, pieces_nil]
      rfl
    · rw [pieces_zero hb] at h
      simp at h
  · exact flatten_pieces hl bytes

/-- Full frames are the first pieces of what they hold. -/
theorem pieces_append (hl : 0 < limit) {full : List Bytes} (hf : ∀ frame ∈ full, frame.length = limit)
    (rest : Bytes) : pieces limit (full.flatten ++ rest) = full ++ rest.pieces limit := by
  induction full with
  | nil => rfl
  | cons frame full ih =>
    have hframe := hf frame List.mem_cons_self
    have hne : (frame :: full).flatten ++ rest ≠ [] := by
      intro hnil
      have hzero := congrArg List.length hnil
      simp only [List.flatten_cons, List.length_append, List.length_nil] at hzero
      omega
    rw [pieces_of_ne hne hl, List.flatten_cons, List.append_assoc, List.take_left' hframe, List.drop_left' hframe,
      ih fun other ho => hf other (List.mem_cons_of_mem _ ho), List.cons_append]

theorem pieces_of_le {bytes : Bytes} (hl : 0 < limit) (h : bytes.length ≤ limit) :
    bytes.pieces limit = if bytes = [] then [] else [bytes] := by
  by_cases hb : bytes = []
  · rw [if_pos hb, hb, pieces_nil]
  · rw [if_neg hb, pieces_of_ne hb hl, List.take_of_length_le h, List.drop_eq_nil_of_le h, pieces_nil]

theorem mem_pieces {bytes piece : Bytes} (hl : 0 < limit) (h : piece ∈ bytes.pieces limit) :
    piece ≠ [] ∧ piece.length ≤ limit := by
  induction bytes using pieces.induct limit with
  | case1 =>
    rw [pieces_nil] at h
    cases h
  | case2 bytes hb hz => omega
  | case3 bytes hb hz ih =>
    rw [pieces_of_ne hb hl] at h
    rcases List.mem_cons.1 h with rfl | h
    · exact ⟨by simp [hb, hz], List.length_take_le ..⟩
    · exact ih h

/-- Pieces before others are not all of the bytes. -/
theorem flatten_front {bytes : Bytes} {front back : List Bytes} (hu : bytes ≠ [])
    (h : bytes.pieces limit = front ++ back) (hb : back ≠ []) :
    front.flatten <+: bytes ∧ front.flatten ≠ bytes := by
  rcases Nat.eq_zero_or_pos limit with rfl | hl
  · rw [pieces_zero hu] at h
    obtain ⟨piece, back, rfl⟩ := List.exists_cons_of_ne_nil hb
    cases front with
    | nil => exact ⟨List.nil_prefix, hu.symm⟩
    | cons first front => simp at h
  · have hflat := flatten_pieces hl bytes
    rw [h, List.flatten_append] at hflat
    refine ⟨⟨_, hflat⟩, fun hall => ?_⟩
    have hnil : back.flatten = [] := by
      rw [hall] at hflat
      exact List.self_eq_append_right.1 hflat.symm
    obtain ⟨piece, back, rfl⟩ := List.exists_cons_of_ne_nil hb
    have hpiece : piece ∈ bytes.pieces limit := by
      rw [h]
      exact List.mem_append_right _ List.mem_cons_self
    rw [List.flatten_cons, List.append_eq_nil_iff] at hnil
    exact (mem_pieces hl hpiece).1 hnil.1

/-- All pieces but the last are full. -/
theorem length_of_mem_dropLast_pieces {bytes piece : Bytes} (hl : 0 < limit)
    (h : piece ∈ (bytes.pieces limit).dropLast) : piece.length = limit := by
  induction bytes using pieces.induct limit with
  | case1 =>
    rw [pieces_nil] at h
    cases h
  | case2 bytes hb hz => omega
  | case3 bytes hb hz ih =>
    rw [pieces_of_ne hb hl] at h
    by_cases hd : bytes.drop limit = []
    · rw [hd, pieces_nil] at h
      cases h
    · rw [pieces_of_ne hd hl, List.dropLast_cons_cons, ← pieces_of_ne hd hl] at h
      rcases List.mem_cons.1 h with rfl | h
      · have hlong := mt List.drop_eq_nil_of_le hd
        rw [List.length_take]
        omega
      · exact ih h

/-- What is not the last of a prefix is not the last of the whole either. -/
theorem mem_dropLast_of_prefix {short long : List Bytes} {piece : Bytes} (h : short <+: long)
    (hm : piece ∈ short.dropLast) : piece ∈ long.dropLast := by
  obtain ⟨rest, rfl⟩ := h
  cases rest with
  | nil => rwa [List.append_nil]
  | cons next rest =>
    rw [List.dropLast_append_of_ne_nil (by simp)]
    exact List.mem_append_left _ (List.dropLast_subset _ hm)

/-- The units of a byte string are its pieces with the limit of a read. -/
theorem units_eq_pieces (bytes : Bytes) : bytes.units = bytes.pieces Copier.unitLimit := by
  induction bytes using units.induct with
  | case1 => rw [units, if_pos rfl, pieces_nil]
  | case2 bytes hb ih => rw [units, if_neg hb, ih, pieces_of_ne hb (by decide)]

end Courier.Bytes
