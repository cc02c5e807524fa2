
namespace ReleaseLine

/-- Something that happens at some moment, or never. Moments are counted in nanoseconds from a
common start. -/
inductive Pending (α : Type) where
  | never
  | arrives (moment : Nat) (value : α)
deriving DecidableEq

namespace Pending

variable {α β : Type}

def map (f : α → β) : Pending α → Pending β
  | never => never
  | arrives moment value => arrives moment (f value)

/-- What follows once a thing has happened. -/
def andThen (p : Pending α) (next : Nat → α → Pending β) : Pending β :=
  match p with
  | never => never
  | arrives moment value => next moment value

/-- Wait up to a deadline. What happens in time counts; otherwise the wait itself ends, at the
deadline. -/
def limit (deadline : Nat) (late : α) : Pending α → Nat × α
  | never => (deadline, late)
  | arrives moment value => if moment ≤ deadline then (moment, value) else (deadline, late)

/-- Whichever happens first; at the same moment, the first one. -/
def race : Pending α → Pending β → Pending (α ⊕ β)
  | p, never => p.map .inl
  | never, q => q.map .inr
  | arrives moment a, arrives other b =>
    if moment ≤ other then arrives moment (.inl a) else arrives other (.inr b)

def ofPair (p : Nat × α) : Pending α := arrives p.1 p.2

end Pending

end ReleaseLine
