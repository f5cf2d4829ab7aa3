import Courier.Proofs.Stream
import Courier.Proofs.Supply

/-!
# A body and its producer

`Body.Feeds` holds of a body that fails no read for good, beside the producer that sends the chunks of a live
stream. Its units are then settled: a read takes the first of them (`Feeds.read_unit`), and no step of the
producer changes them (`Feeds.feed`). What a copy relies on of such a body is a `Body.Supplier`.
-/

namespace Courier

/-- Bodies of which the units are known that they still supply: a read takes the first of them, and where there is
none it meets the end, behind which the body is `spent`. No read fails for good. -/
structure Body.Supplier (supplies : Body → List Bytes → Prop) (spent : Body → Prop) : Prop where
  unit {body body' : Body} {units : List Bytes} {unit : Bytes} (h : supplies body units)
    (hr : body.read Copier.unitLimit = (.ready (.ok unit), body')) (hu : unit ≠ []) :
    ∃ later, units = unit :: later ∧ supplies body' later
  ended {body body' : Body} {units : List Bytes} (h : supplies body units)
    (hr : body.read Copier.unitLimit = (.ready (.ok []), body')) : units = [] ∧ spent body'
  error {body body' : Body} {units : List Bytes} {fault : Fault} (h : supplies body units)
    (hr : body.read Copier.unitLimit = (.ready (.error fault), body')) :
    fault.isInterrupted = true ∧ supplies body' units
  notReady {body body' : Body} {units : List Bytes} (h : supplies body units)
    (hr : body.read Copier.unitLimit = (.pending, body')) (hs : body.isStream = false) : supplies body' units
  release {body : Body} (h : spent body) : spent body.release

structure Body.Feeds (chunks : List Bytes) (p : Producer) (body : Body) : Prop where
  fault : body.fault? = none
  fed : ∀ ch, body = .stream ch → ch.Fed p chunks (p.accepted chunks)

namespace Channel

theorem flatMap_units_solid (chunks : List Bytes) :
    (solid chunks).flatMap Bytes.units = chunks.flatMap Bytes.units := by
  induction chunks with
  | nil => rfl
  | cons chunk chunks ih =>
    cases chunk with
    | nil => simpa [solid, Bytes.units_nil] using ih
    | cons b chunk => simpa [solid] using ih

/-- A read takes the first unit off a stream in whose queue no chunk is empty. -/
theorem units_read {ch ch' : Channel} {unit : Bytes} (hqueue : ∀ chunk ∈ ch.queue, chunk ≠ []) (rest : List Bytes)
    (hu : unit ≠ []) (hs : ch.read Copier.unitLimit = (.ready unit, ch')) :
    (Body.stream ch).units rest = unit :: (Body.stream ch').units rest := by
  unfold Channel.read at hs
  split at hs
  · split at hs <;> cases hs
    exact absurd rfl hu
  · rename_i chunk queue hc hq
    cases hs
    have hne : chunk ≠ [] := hqueue chunk (by simp [hq])
    simp only [Body.units, hc, hq, Bytes.units_nil, List.nil_append, List.cons_append, List.flatMap_cons,
      Bytes.units_of_ne hne]
  · rename_i hne hc
    cases hs
    have hcur : ch.current ≠ [] := fun h0 => hu (by rw [h0]; rfl)
    simp only [Body.units, Bytes.units_of_ne hcur, List.cons_append]

namespace Fed

variable {ch ch' : Channel} {p p' : Producer} {chunks accepted : List Bytes}

theorem units_step (h : ch.Fed p chunks accepted) (hs : p.step? ch = some (p', ch')) :
    (Body.stream ch').units p'.rest = (Body.stream ch).units p.rest := by
  obtain ⟨new, hf, hq, hc⟩ := h.step hs
  have hsplit := hf.split
  rw [← h.split, List.append_assoc, List.append_assoc, List.append_assoc] at hsplit
  have hleft := List.append_cancel_left hsplit
  simp only [Body.units, hq, hc, List.append_assoc]
  rw [← hleft]
  simp only [List.flatMap_append, flatMap_units_solid]

end Fed

end Channel

namespace Body.Feeds

variable {chunks : List Bytes} {p p' : Producer} {body body' : Body}

theorem new (hf : body.fault? = none) (hn : ∀ ch, body = .stream ch → ch.Offered) :
    body.Feeds chunks { rest := chunks } := by
  refine ⟨hf, fun ch hb => ?_⟩
  have hfed := (hn ch hb).fed chunks
  rw [hfed.accepted_eq]
  exact hfed

/-- A read keeps the body fed, whatever it answers. -/
theorem read {answer : Poll (Except Fault Bytes)} (h : body.Feeds chunks p)
    (hr : body.read Copier.unitLimit = (answer, body')) (hf : faultBehind body'.fault? answer = body'.fault?) :
    body'.Feeds chunks p := by
  have hfault := fault?_read hr
  rw [h.fault, hf] at hfault
  refine ⟨hfault.symm, fun ch' hb => ?_⟩
  subst hb
  match body with
  | .bytes data => cases hr
  | .reader script length => cases hr
  | .stream ch =>
    rcases hread : ch.read Copier.unitLimit with ⟨a, ch₁⟩
    simp only [Body.read, hread] at hr
    cases hr
    cases a with
    | ready unit => exact ((h.fed ch rfl).read (by simp [Copier.unitLimit]) hread).1
    | pending =>
      rw [((h.fed ch rfl).read_pending hread).1]
      exact h.fed ch rfl

theorem read_unit {unit : Bytes} (h : body.Feeds chunks p)
    (hr : body.read Copier.unitLimit = (.ready (.ok unit), body')) (hu : unit ≠ []) :
    body'.Feeds chunks p ∧ body.units p.rest = unit :: body'.units p.rest := by
  refine ⟨h.read hr (faultBehind_ok _ hu), ?_⟩
  cases hs : body.isStream with
  | false => rw [units_read p.rest hs hr, unitsBehind_ok _ hu]
  | true =>
    match body, hs with
    | .stream ch, _ =>
      obtain ⟨_, ch', he, hread, rfl⟩ := read_stream hr
      cases he
      exact Channel.units_read (h.fed ch rfl).queue p.rest hu hread

theorem read_end (h : body.Feeds chunks p) (hr : body.read Copier.unitLimit = (.ready (.ok []), body')) :
    body.units p.rest = [] := by
  cases hs : body.isStream with
  | false => rw [units_read p.rest hs hr]; rfl
  | true =>
    match body, hs with
    | .stream ch, _ =>
      obtain ⟨_, ch', he, hread, rfl⟩ := read_stream hr
      cases he
      obtain ⟨-, -, hend⟩ := (h.fed ch rfl).read (by simp [Copier.unitLimit]) hread
      obtain ⟨hc, hq, hp⟩ := hend rfl
      obtain ⟨hn, hrest⟩ := (h.fed ch rfl).stopped hp
      simp [units, hc, hq, hrest, (h.fed ch rfl).waiting_of_none hn, Bytes.units_nil]

/-- A read that fails was interrupted. -/
theorem read_error {fault : Fault} (h : body.Feeds chunks p)
    (hr : body.read Copier.unitLimit = (.ready (.error fault), body')) :
    fault.isInterrupted = true ∧ body'.Feeds chunks p ∧ body.units p.rest = body'.units p.rest := by
  have hi : fault.isInterrupted = true := by
    have hfault := fault?_read hr
    rw [h.fault] at hfault
    cases hi : fault.isInterrupted with
    | true => rfl
    | false => simp [faultBehind, hi] at hfault
  refine ⟨hi, h.read hr (by simp [faultBehind, hi]), ?_⟩
  rw [units_read p.rest (isStream_of_read_error hr) hr]
  simp [unitsBehind, hi]

theorem read_pending (h : body.Feeds chunks p) (hr : body.read Copier.unitLimit = (.pending, body'))
    (hs : body.isStream = false) : body'.Feeds chunks p ∧ body.units p.rest = body'.units p.rest :=
  ⟨h.read hr rfl, units_read p.rest hs hr⟩

theorem feed (h : body.Feeds chunks p) (hs : p.feed? body = some (p', body')) :
    body'.Feeds chunks p' ∧ body'.units p'.rest = body.units p.rest := by
  unfold Producer.feed? at hs
  split at hs
  · rename_i ch
    obtain ⟨⟨p₁, ch'⟩, hstep, hs⟩ := Option.map_eq_some_iff.1 hs
    cases hs
    have hfed := h.fed ch rfl
    obtain ⟨new, hf, -⟩ := hfed.step hstep
    refine ⟨⟨rfl, fun ch₁ hb => ?_⟩, hfed.units_step hstep⟩
    cases hb
    rw [hf.accepted_eq]
    exact hf
  · cases hs

/-- While a read has to wait for its producer, the producer can go on. -/
theorem feed_of_pending (h : body.Feeds chunks p) (hr : body.read Copier.unitLimit = (.pending, body'))
    (hs : body.isStream = true) : ∃ p' body', p.feed? body = some (p', body') := by
  match body, hs with
  | .stream ch, _ =>
    rcases hread : ch.read Copier.unitLimit with ⟨a, ch'⟩
    simp only [Body.read, hread] at hr
    cases a with
    | ready unit => cases hr
    | pending =>
      have hfed := h.fed ch rfl
      obtain ⟨-, hq, hp⟩ := hfed.read_pending hread
      obtain ⟨p', ch', hstep⟩ := hfed.step_of_room hp (by simp [hq, Channel.capacity])
      exact ⟨p', .stream ch', by simp [Producer.feed?, hstep]⟩

end Body.Feeds

/-- What a body supplies beside its producer. -/
def Body.Supplies (chunks : List Bytes) (p : Producer) (body : Body) (units : List Bytes) : Prop :=
  body.Feeds chunks p ∧ body.units p.rest = units

theorem Body.supplier_supplies (chunks : List Bytes) (p : Producer) :
    Supplier (Supplies chunks p) fun _ => True where
  unit h hr hu := by
    obtain ⟨hfeed, hunits⟩ := h.1.read_unit hr hu
    exact ⟨_, h.2.symm.trans hunits, hfeed, rfl⟩
  ended h hr := ⟨h.2.symm.trans (h.1.read_end hr), trivial⟩
  error h hr := by
    obtain ⟨hi, hfeed, hunits⟩ := h.1.read_error hr
    exact ⟨hi, hfeed, hunits.symm.trans h.2⟩
  notReady h hr hs := by
    obtain ⟨hfeed, hunits⟩ := h.1.read_pending hr hs
    exact ⟨hfeed, hunits.symm.trans h.2⟩
  release h := h

end Courier
