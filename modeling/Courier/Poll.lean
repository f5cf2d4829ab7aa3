/-!
# Single attempts

An operation between two tasks is attempted once at a time. The attempt is answered, or it has to be
made again after the other side has moved.
-/

namespace Courier

inductive Poll (α : Type)
  | ready (answer : α)
  | pending
deriving DecidableEq, Repr

namespace Poll

variable {α β : Type}

def map (f : α → β) : Poll α → Poll β
  | ready a => ready (f a)
  | pending => pending

end Poll

end Courier
