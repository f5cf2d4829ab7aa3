/-!
# Severity

How loudly an event is reported. Severities are ordered from `debug` to `error`; an event that
nobody has classified is a warning.
-/

namespace Courier

inductive Severity
  | debug
  | info
  | warn
  | error
deriving DecidableEq, Repr

namespace Severity

instance : Inhabited Severity := ⟨warn⟩

/-- Position in the order, quietest first. -/
def rank : Severity → Nat
  | debug => 0
  | info => 1
  | warn => 2
  | error => 3

instance : Ord Severity := ⟨fun a b => compare a.rank b.rank⟩

instance : Max Severity := ⟨fun a b => if a.rank ≤ b.rank then b else a⟩

/-- The name of the level in a log line. -/
def level : Severity → String
  | debug => "DEBUG"
  | info => "INFO"
  | warn => "WARN"
  | error => "ERROR"

end Severity

end Courier
