import Courier.Proofs.Pieces

/-!
# One read and the supply

`Body.fault?_read` and `Body.units_read` say what one read tells of the supply of a body: the first unit,
its end, or the fault. No proof about a copy has to look into a script again.
-/

namespace Courier

namespace Bytes

theorem units_nil : units [] = [] := by
  rw [units, if_pos rfl]

theorem units_of_ne {bytes : Bytes} (h : bytes ≠ []) :
    bytes.units = bytes.take Copier.unitLimit :: units (bytes.drop Copier.unitLimit) := by
  rw [units, if_neg h]

theorem take_unitLimit_eq_nil {bytes : Bytes} : bytes.take Copier.unitLimit = [] ↔ bytes = [] := by
  simp [Copier.unitLimit]

theorem flatten_units (bytes : Bytes) : bytes.units.flatten = bytes := by
  rw [units_eq_pieces, flatten_pieces (by decide)]

/-- A unit is never empty, and never longer than a read. -/
theorem mem_units {bytes unit : Bytes} (h : unit ∈ bytes.units) :
    unit ≠ [] ∧ unit.length ≤ Copier.unitLimit :=
  mem_pieces (by decide) (units_eq_pieces bytes ▸ h)

end Bytes

namespace Body

theorem flatten_flatMap_units (chunks : List Bytes) : (chunks.flatMap Bytes.units).flatten = chunks.flatten := by
  induction chunks with
  | nil => rfl
  | cons chunk chunks ih =>
    rw [List.flatMap_cons, List.flatten_append, ih, Bytes.flatten_units, List.flatten_cons]

theorem flatten_scriptUnits (script : List ReadStep) : (scriptUnits script).flatten = scriptContent script := by
  fun_induction scriptUnits script <;> simp_all [scriptContent, Bytes.flatten_units]

/-- The units are the content, cut. -/
theorem flatten_units (rest : List Bytes) (body : Body) : (body.units rest).flatten = body.content rest := by
  cases body with
  | bytes data => exact Bytes.flatten_units data
  | reader script length => exact flatten_scriptUnits script
  | stream ch => rw [units, List.flatten_append, Bytes.flatten_units, flatten_flatMap_units, content]

theorem mem_scriptUnits {script : List ReadStep} {unit : Bytes} (h : unit ∈ scriptUnits script) :
    unit ≠ [] ∧ unit.length ≤ Copier.unitLimit := by
  fun_induction scriptUnits script with
  | case1 | case2 | case5 | case6 => cases h
  | case3 data rest hd ih =>
    rcases List.mem_append.1 h with h | h
    · exact Bytes.mem_units h
    · exact ih h
  | case4 fault rest hf ih => exact ih h
  | case7 rest ih => exact ih h

theorem mem_units {rest : List Bytes} {body : Body} {unit : Bytes} (h : unit ∈ body.units rest) :
    unit ≠ [] ∧ unit.length ≤ Copier.unitLimit := by
  cases body with
  | bytes data => exact Bytes.mem_units h
  | reader script length => exact mem_scriptUnits h
  | stream ch =>
    rcases List.mem_append.1 h with h | h
    · exact Bytes.mem_units h
    · obtain ⟨chunk, -, h⟩ := List.mem_flatMap.1 h
      exact Bytes.mem_units h

/-- The fault that is met after this answer, or with it, when `later` is met behind it. -/
def faultBehind (later : Option Fault) : Poll (Except Fault Bytes) → Option Fault
  | .ready (.ok []) => none
  | .ready (.error fault) => if fault.isInterrupted then later else some fault
  | .ready (.ok (_ :: _)) | .pending => later

/-- The units that come with this answer and after it, when `later` come behind it. -/
def unitsBehind (later : List Bytes) : Poll (Except Fault Bytes) → List Bytes
  | .ready (.ok []) => []
  | .ready (.ok (b :: unit)) => (b :: unit) :: later
  | .ready (.error fault) => if fault.isInterrupted then later else []
  | .pending => later

theorem unitsBehind_ok {unit : Bytes} (later : List Bytes) (h : unit ≠ []) :
    unitsBehind later (.ready (.ok unit)) = unit :: later := by
  obtain ⟨b, unit, rfl⟩ := List.exists_cons_of_ne_nil h
  rfl

theorem faultBehind_ok {unit : Bytes} (later : Option Fault) (h : unit ≠ []) :
    faultBehind later (.ready (.ok unit)) = later := by
  obtain ⟨b, unit, rfl⟩ := List.exists_cons_of_ne_nil h
  rfl

variable {body next : Body} {answer : Poll (Except Fault Bytes)}

theorem scriptFault?_left (data : Bytes) (rest : List ReadStep) :
    scriptFault? (if data.isEmpty then rest else .data data :: rest) = scriptFault? rest := by
  split
  · rfl
  · rename_i h
    rw [scriptFault?, if_neg (by simpa using h)]

theorem scriptUnits_left (data : Bytes) (rest : List ReadStep) :
    scriptUnits (if data.isEmpty then rest else .data data :: rest) =
      Bytes.units data ++ scriptUnits rest := by
  split
  · rename_i h
    rw [List.isEmpty_iff.1 h, Bytes.units_nil, List.nil_append]
  · rename_i h
    rw [scriptUnits, if_neg (by simpa using h)]

theorem scriptFault?_read {script next : List ReadStep}
    (hr : readScript Copier.unitLimit script = (answer, next)) :
    scriptFault? script = faultBehind (scriptFault? next) answer := by
  match script with
  | [] | .stop :: rest | .notReady :: rest | .fail fault :: rest => cases hr; rfl
  | .data data :: rest =>
    cases hr
    by_cases hd : data = []
    · subst hd; rfl
    · rw [scriptFault?_left, faultBehind_ok _ (mt Bytes.take_unitLimit_eq_nil.1 hd), scriptFault?, if_neg hd]

theorem scriptUnits_read {script next : List ReadStep}
    (hr : readScript Copier.unitLimit script = (answer, next)) :
    scriptUnits script = unitsBehind (scriptUnits next) answer := by
  match script with
  | [] | .stop :: rest | .notReady :: rest | .fail fault :: rest => cases hr; rfl
  | .data data :: rest =>
    cases hr
    by_cases hd : data = []
    · subst hd; rfl
    · rw [scriptUnits_left, unitsBehind_ok _ (mt Bytes.take_unitLimit_eq_nil.1 hd), scriptUnits, if_neg hd,
        Bytes.units_of_ne hd, List.cons_append]

/-- What one read tells of the fault of a body. -/
theorem fault?_read (hr : body.read Copier.unitLimit = (answer, next)) :
    body.fault? = faultBehind next.fault? answer := by
  match body with
  | .bytes data =>
    cases hr
    cases List.take Copier.unitLimit data <;> rfl
  | .reader script length =>
    rcases hs : readScript Copier.unitLimit script with ⟨a, s⟩
    simp only [read, hs] at hr
    cases hr
    exact scriptFault?_read hs
  | .stream ch =>
    rcases hs : ch.read Copier.unitLimit with ⟨a, ch'⟩
    simp only [read, hs] at hr
    cases hr
    match a with
    | .ready [] | .ready (_ :: _) | .pending => rfl

/-- What one read tells of the units of a body that is no live stream. -/
theorem units_read (rest : List Bytes) (hs : body.isStream = false)
    (hr : body.read Copier.unitLimit = (answer, next)) :
    body.units rest = unitsBehind (next.units rest) answer := by
  match body with
  | .bytes data =>
    cases hr
    by_cases hd : data = []
    · subst hd
      exact Bytes.units_nil
    · rw [unitsBehind_ok _ (mt Bytes.take_unitLimit_eq_nil.1 hd)]
      exact Bytes.units_of_ne hd
  | .reader script length =>
    rcases hs : readScript Copier.unitLimit script with ⟨a, s⟩
    simp only [read, hs] at hr
    cases hr
    exact scriptUnits_read hs
  | .stream ch => cases hs

/-- A live stream answers a read with bytes or not at all. -/
theorem read_stream {ch : Channel} {room : Nat} {answer : Except Fault Bytes} {next : Body}
    (hr : (stream ch).read room = (.ready answer, next)) :
    ∃ unit ch', answer = .ok unit ∧ ch.read room = (.ready unit, ch') ∧ next = .stream ch' := by
  rcases hs : ch.read room with ⟨a, ch'⟩
  simp only [read, hs] at hr
  cases a with
  | ready unit =>
    cases hr
    exact ⟨unit, ch', rfl, rfl, rfl⟩
  | pending => cases hr

/-- A read of a live stream does not fail. -/
theorem isStream_of_read_error {room : Nat} {fault : Fault} {body next : Body}
    (hr : body.read room = (.ready (.error fault), next)) : body.isStream = false := by
  match body with
  | .bytes _ | .reader _ _ => rfl
  | .stream ch =>
    obtain ⟨_, _, he, -⟩ := read_stream hr
    cases he

theorem length_readScript {room : Nat} {script next : List ReadStep} {unit : Bytes}
    (hr : readScript room script = (.ready (.ok unit), next)) : unit.length ≤ room := by
  match script with
  | [] | .stop :: _ =>
    cases hr
    exact Nat.zero_le _
  | .data data :: _ =>
    cases hr
    exact List.length_take_le ..
  | .fail _ :: _ | .notReady :: _ => cases hr

/-- A read yields no more bytes than there is room for. -/
theorem length_read {body next : Body} {room : Nat} {unit : Bytes}
    (hr : body.read room = (.ready (.ok unit), next)) : unit.length ≤ room := by
  match body with
  | .bytes data =>
    cases hr
    exact List.length_take_le ..
  | .reader script length =>
    rcases hs : readScript room script with ⟨answer, rest⟩
    simp only [read, hs] at hr
    cases hr
    exact length_readScript hs
  | .stream ch =>
    obtain ⟨_, ch', he, hread, -⟩ := read_stream hr
    cases he
    unfold Channel.read at hread
    split at hread
    · split at hread <;> cases hread
      exact Nat.zero_le _
    · cases hread
      exact List.length_take_le ..
    · cases hread
      exact List.length_take_le ..

/-- A unit is taken off the content. -/
theorem content_read {unit : Bytes} (rest : List Bytes)
    (hr : body.read Copier.unitLimit = (.ready (.ok unit), next)) (hu : unit ≠ []) :
    body.content rest = unit ++ next.content rest := by
  cases hs : body.isStream with
  | false =>
    have hunits := units_read rest hs hr
    rw [unitsBehind_ok _ hu] at hunits
    rw [← flatten_units, ← flatten_units, hunits, List.flatten_cons]
  | true =>
    cases body with
    | bytes | reader => cases hs
    | stream ch =>
      obtain ⟨_, ch', he, hread, rfl⟩ := read_stream hr
      cases he
      unfold Channel.read at hread
      split at hread
      · split at hread <;> cases hread
        exact absurd rfl hu
      · rename_i hc hq
        cases hread
        simp only [content, hc, hq, List.nil_append, List.cons_append, List.flatten_cons]
        rw [← List.append_assoc, List.take_append_drop]
      · cases hread
        simp only [content]
        rw [← List.append_assoc, List.take_append_drop]

/-- A read that is made again takes nothing off the content. -/
theorem content_read_again {fault : Fault} (rest : List Bytes)
    (hr : body.read Copier.unitLimit = (.ready (.error fault), next)) (hf : fault.isInterrupted = true) :
    next.content rest = body.content rest := by
  have hunits := units_read rest (isStream_of_read_error hr) hr
  rw [unitsBehind, if_pos hf] at hunits
  rw [← flatten_units, ← flatten_units, hunits]

theorem content_read_pending (rest : List Bytes) (hr : body.read Copier.unitLimit = (.pending, next))
    (hs : body.isStream = false) : next.content rest = body.content rest := by
  have hunits := units_read rest hs hr
  rw [unitsBehind] at hunits
  rw [← flatten_units, ← flatten_units, hunits]

end Body

end Courier
