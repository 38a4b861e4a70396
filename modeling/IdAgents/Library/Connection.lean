import Mathlib.Data.Option.Basic

/-- A connection to a database: what its statements see, and what a ROLLBACK brings back while a
transaction is open. -/
structure Connection (δ : Type) where
  data : δ
  saved : Option δ := none

namespace Connection
section
variable (c : Connection δ)

def isOpen : Bool := c.saved.isSome

def begin_ : Connection δ := { c with saved := c.saved.or (some c.data) }

def commit : Connection δ := { c with saved := none }

def rollback : Connection δ := { data := c.saved.getD c.data }

end

def write (f : δ → δ) (c : Connection δ) : Connection δ := { c with data := f c.data }

/-- A property of the contents, and of what a ROLLBACK would bring back. -/
structure Holds (P : δ → Prop) (c : Connection δ) : Prop where
  data : P c.data
  saved : ∀ d, c.saved = some d → P d

variable {c : Connection δ} {P : δ → Prop}

theorem Holds.of_closed (h : P c.data) (hc : c.saved = none) : c.Holds P := by
  refine ⟨h, ?_⟩
  intro d hd
  rw [hc] at hd
  cases hd

theorem Holds.begin_ (h : c.Holds P) : c.begin_.Holds P := by
  refine ⟨h.data, ?_⟩
  intro d hd
  rcases Option.or_eq_some_iff.mp hd with hsaved | ⟨_, hdata⟩
  · exact h.saved d hsaved
  · exact Option.some.inj hdata ▸ h.data

theorem Holds.commit (h : c.Holds P) : c.commit.Holds P :=
  .of_closed h.data rfl

theorem Holds.rollback (h : c.Holds P) : c.rollback.Holds P := by
  apply Holds.of_closed _ rfl
  change P (c.saved.getD c.data)
  cases hsaved : c.saved with
  | none => exact h.data
  | some d => exact h.saved d hsaved

end Connection
