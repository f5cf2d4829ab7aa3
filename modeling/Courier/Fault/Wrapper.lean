import Courier.Fault

/-!
# Wrappers

The three makes of faults that are looked through, and a fault with layers of them around it.
-/

namespace Courier

inductive Wrapper
  /-- An input or output fault around another one. -/
  | io (kind : FaultKind)
  | connection
  | engine
deriving DecidableEq, Repr

namespace Wrapper

def around : Wrapper → Fault → Fault
  | io kind, fault => .ioWith kind fault
  | connection, fault => .connection fault
  | engine, fault => .engine fault

@[simp] theorem next?_around (wrapper : Wrapper) (fault : Fault) : (wrapper.around fault).next? = some fault := by
  cases wrapper <;> rfl

@[simp] theorem code?_around (wrapper : Wrapper) (fault : Fault) : (wrapper.around fault).code? = none := by
  cases wrapper <;> rfl

end Wrapper

namespace Fault

/-- The fault below these layers, the outermost first. -/
def under (fault : Fault) (layers : List Wrapper) : Fault := layers.foldr Wrapper.around fault

@[simp] theorem under_nil (fault : Fault) : fault.under [] = fault := rfl

@[simp] theorem under_cons (fault : Fault) (wrapper : Wrapper) (layers : List Wrapper) :
    fault.under (wrapper :: layers) = wrapper.around (fault.under layers) := rfl

theorem next?_eq_some_iff {fault inner : Fault} :
    fault.next? = some inner ↔ ∃ wrapper : Wrapper, fault = wrapper.around inner := by
  constructor
  · intro h
    cases fault with
    | ioWith kind f => cases h; exact ⟨.io kind, rfl⟩
    | connection f => cases h; exact ⟨.connection, rfl⟩
    | engine f => cases h; exact ⟨.engine, rfl⟩
    | _ => cases h
  · rintro ⟨wrapper, rfl⟩
    exact wrapper.next?_around inner

theorem code?_eq_some_iff {fault : Fault} {code : Int} : fault.code? = some code ↔ fault = .os code := by
  cases fault <;> simp [code?]

/-- Every fault has something at its core that is no wrapper. -/
theorem exists_under (fault : Fault) :
    ∃ (layers : List Wrapper) (core : Fault), core.next? = none ∧ fault = core.under layers := by
  induction fault with
  | ioWith kind inner ih =>
    obtain ⟨layers, core, hc, rfl⟩ := ih
    exact ⟨.io kind :: layers, core, hc, rfl⟩
  | connection inner ih =>
    obtain ⟨layers, core, hc, rfl⟩ := ih
    exact ⟨.connection :: layers, core, hc, rfl⟩
  | engine inner ih =>
    obtain ⟨layers, core, hc, rfl⟩ := ih
    exact ⟨.engine :: layers, core, hc, rfl⟩
  | _ => exact ⟨[], _, rfl, rfl⟩

end Fault

end Courier
