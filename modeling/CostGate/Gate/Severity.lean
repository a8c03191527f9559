/-!
# Zones and severities

A component is in the autonomous zone, in the warning zone, or in the governance zone, where it
violates the threshold. Violations have a severity; everything below has a severity too, so that
components of all zones can be compared.
-/
namespace CostGate

/-- Where a cost lies relative to the autonomous limit and the threshold. -/
inductive Zone where
  | autonomous
  | warning
  | governance
  deriving Repr, DecidableEq

namespace Zone

def name : Zone → String
  | autonomous => "autonomous"
  | warning => "warning"
  | governance => "governance"

def rank : Zone → Nat
  | autonomous => 0
  | warning => 1
  | governance => 2

def all : List Zone := [autonomous, warning, governance]

instance : LE Zone := ⟨fun a b => a.rank ≤ b.rank⟩

instance (a b : Zone) : Decidable (a ≤ b) := inferInstanceAs (Decidable (a.rank ≤ b.rank))

end Zone

/-- How far a cost has gone. -/
inductive Severity where
  | autonomous
  | warning
  | critical
  | emergency
  deriving Repr, DecidableEq

namespace Severity

def name : Severity → String
  | autonomous => "autonomous"
  | warning => "warning"
  | critical => "critical"
  | emergency => "emergency"

def rank : Severity → Nat
  | autonomous => 0
  | warning => 1
  | critical => 2
  | emergency => 3

def all : List Severity := [autonomous, warning, critical, emergency]

instance : LE Severity := ⟨fun a b => a.rank ≤ b.rank⟩

instance (a b : Severity) : Decidable (a ≤ b) := inferInstanceAs (Decidable (a.rank ≤ b.rank))

end Severity

end CostGate
