import Courier.Message.Header

/-!
# Fields that are copied

What a name has after fields were copied over others depends on that name alone, and not on how the copying goes
about it: `Headers.Replaces` says what it is, and holds of a copy made at once as well as of one that is made name
by name, in any order.
-/

namespace Courier

namespace Headers

theorem has_append (headers : Headers) (name other : HeaderName) (value : Bytes) :
    (headers.append name value).has other = (headers.has other || name = other) := by
  simp [append, has]

theorem has_remove (headers : Headers) (name other : HeaderName) :
    (headers.remove name).has other = (headers.has other && other ≠ name) := by
  induction headers with
  | nil => rfl
  | cons field headers ih =>
    unfold remove has at ih ⊢
    by_cases hn : field.1 = name <;> by_cases ho : field.1 = other <;> simp_all

theorem has_insert (headers : Headers) (name other : HeaderName) (value : Bytes) :
    (headers.insert name value).has other = (headers.has other || name = other) := by
  rw [insert, has_append, has_remove]
  by_cases h : name = other
  · simp [h]
  · simp [h, Ne.symm h]

theorem values_concat (headers more : Headers) (name : HeaderName) :
    values (headers ++ more) name = headers.values name ++ more.values name := by
  simp [values]

theorem values_filter (headers : Headers) (p : HeaderName → Bool) (name : HeaderName) :
    values (headers.filter fun field => p field.1) name = if p name then headers.values name else [] := by
  unfold values
  rw [List.filter_filter]
  split
  · rename_i hp
    congr 2
    funext field
    by_cases h : field.1 = name
    · simp [h, hp]
    · simp [h]
  · rename_i hp
    rw [List.map_eq_nil_iff, List.filter_eq_nil_iff]
    rintro field - h
    simp only [Bool.and_eq_true, decide_eq_true_eq] at h
    exact hp (h.1 ▸ h.2)

theorem values_of_has_false {headers : Headers} {name : HeaderName} (h : headers.has name = false) :
    headers.values name = [] := by
  simp only [has, List.any_eq_false, decide_eq_true_eq] at h
  simpa [values] using h

theorem values_insert (headers : Headers) (name other : HeaderName) (value : Bytes) :
    (headers.insert name value).values other = if other = name then [value] else headers.values other := by
  rw [insert, values_append, values_remove]
  by_cases h : other = name
  · simp [h]
  · simp [h, Ne.symm h]

theorem values_overlay (headers new : Headers) (name : HeaderName) :
    (headers.overlay new).values name =
      if isComputed name = true ∨ new.has name = false then headers.values name else new.values name := by
  unfold overlay
  rw [values_concat, values_filter headers (fun n => isComputed n || !new.has n),
    values_filter new (fun n => !isComputed n)]
  rcases hc : isComputed name with _ | _
  · rcases hn : new.has name with _ | _
    · simp [values_of_has_false hn]
    · simp
  · simp

theorem overlay_overlay (headers new : Headers) : (headers.overlay new).overlay new = headers.overlay new := by
  have hkept : (headers.filter fun field => isComputed field.1 || !new.has field.1).filter
      (fun field => isComputed field.1 || !new.has field.1) =
        headers.filter fun field => isComputed field.1 || !new.has field.1 := by
    rw [List.filter_filter]
    simp
  have hgone : (new.filter fun field => !isComputed field.1).filter
      (fun field => isComputed field.1 || !new.has field.1) = [] := by
    rw [List.filter_filter, List.filter_eq_nil_iff]
    intro field hmem
    have hhas : new.has field.1 = true := List.any_eq_true.2 ⟨field, hmem, by simp⟩
    simp [hhas]
  unfold overlay
  rw [List.filter_append, hkept, hgone, List.append_nil]

theorem values_copyName (new headers : Headers) (name other : HeaderName) :
    (copyName new headers name).values other =
      if isComputed name = false ∧ other = name then new.values name else headers.values other := by
  have happend (values : List Bytes) (headers : Headers) :
      (values.foldl (fun headers value => headers.append name value) headers).values other =
        headers.values other ++ if name = other then values else [] := by
    induction values generalizing headers with
    | nil => simp
    | cons value values ih =>
      rw [List.foldl_cons, ih, values_append]
      split <;> simp
  unfold copyName
  rcases hc : isComputed name with _ | _
  · rw [if_neg (by simp), happend, values_remove]
    by_cases h : other = name
    · simp [h]
    · simp [h, Ne.symm h]
  · simp

theorem values_copyNames (headers new : Headers) (order : List HeaderName) (name : HeaderName) :
    (headers.copyNames new order).values name =
      if isComputed name = false ∧ name ∈ order then new.values name else headers.values name := by
  unfold copyNames
  induction order generalizing headers with
  | nil => simp
  | cons first order ih =>
    rw [List.foldl_cons, ih, values_copyName]
    by_cases h : name = first
    · subst h
      by_cases hc : isComputed name = false <;> simp [hc]
    · simp [h]

/-- The fields of a response in place of those that were held: each of its names has its values, and no other
name is touched. -/
structure Replaces (new held headers : Headers) : Prop where
  copied : ∀ name, name ≠ .contentLength → new.has name = true → headers.values name = new.values name
  kept : ∀ name, name = .contentLength ∨ new.has name = false → headers.values name = held.values name

theorem Replaces.again {new held headers again : Headers} (h : new.Replaces held headers)
    (h' : new.Replaces headers again) (name : HeaderName) : again.values name = headers.values name := by
  by_cases hn : name = .contentLength ∨ new.has name = false
  · exact h'.kept name hn
  · rw [not_or, Bool.not_eq_false] at hn
    rw [h'.copied name hn.1 hn.2, h.copied name hn.1 hn.2]

theorem replaces_overlay (held new : Headers) : new.Replaces held (held.overlay new) := by
  refine ⟨fun name hname hnew => ?_, fun name h => ?_⟩
  · rw [values_overlay, if_neg]
    simp [isComputed, hname, hnew]
  · rw [values_overlay, if_pos]
    simpa [isComputed] using h

theorem replaces_copyNames (held : Headers) {new : Headers} {order : List HeaderName}
    (h : ∀ name, name ∈ order ↔ new.has name = true) : new.Replaces held (held.copyNames new order) := by
  refine ⟨fun name hname hnew => ?_, fun name hn => ?_⟩
  · rw [values_copyNames, if_pos]
    exact ⟨by simp [isComputed, hname], (h name).2 hnew⟩
  · rw [values_copyNames, if_neg]
    rintro ⟨hc, hmem⟩
    rcases hn with rfl | hn
    · cases hc
    · rw [(h name).1 hmem] at hn
      cases hn

/-! ### All the names -/

theorem mem_names (headers : Headers) (name : HeaderName) : name ∈ headers.names ↔ headers.has name = true := by
  rw [names, List.mem_eraseDups, has, List.any_eq_true, List.mem_map]
  simp only [decide_eq_true_eq]

theorem replaces_copyFields (held new : Headers) : new.Replaces held (held.copyFields new) :=
  held.replaces_copyNames new.mem_names

/-- Name by name, a copy comes to what it comes to at once. -/
theorem values_copyFields (headers new : Headers) (name : HeaderName) :
    (headers.copyFields new).values name = (headers.overlay new).values name := by
  rw [copyFields, values_copyNames, values_overlay]
  rcases hc : isComputed name with _ | _ <;> rcases hn : new.has name with _ | _ <;> simp [mem_names, hn]

theorem has_eq_isEmpty_values (headers : Headers) (name : HeaderName) :
    headers.has name = !(headers.values name).isEmpty := by
  rw [Bool.eq_iff_iff]
  simp [has, values]

/-- What is copied into an empty set: all but the fields that the host works out itself. -/
theorem has_copyFields_nil (new : Headers) (name : HeaderName) :
    (copyFields [] new).has name = (!isComputed name && new.has name) := by
  rw [has_eq_isEmpty_values, values_copyFields, ← has_eq_isEmpty_values, overlay, List.filter_nil, List.nil_append,
    has_eq_isEmpty_values, values_filter new (fun n => !isComputed n), has_eq_isEmpty_values]
  cases isComputed name <;> rfl

end Headers

end Courier
