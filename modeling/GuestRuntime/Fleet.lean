import GuestRuntime.Session

/-!
Several sessions in one process. Each has its own guest memory; they share the console, the journal,
the environment and the numbering of handles. An operation on one sees the process as the last
operation on any left it.
-/

namespace GuestRuntime

/-- A session without the process it is in. -/
structure Member (φ ρ σ : Type) where
  source : φ
  lifecycle : Lifecycle ρ := .uninitialized
  memory : σ

structure Fleet (φ ρ σ : Type) where
  host : Host
  members : List (Member φ ρ σ)

namespace Fleet

variable {φ ρ σ α : Type}

/-- A member as a session of a process. -/
def join (m : Member φ ρ σ) (p : Host) : Session φ ρ σ := ⟨m.source, m.lifecycle, ⟨m.memory, p⟩⟩

/-- The session's own part. -/
def leave (s : Session φ ρ σ) : Member φ ρ σ := ⟨s.source, s.lifecycle, s.world.memory⟩

/-- One operation on the member at an index. -/
def on (f : Fleet φ ρ σ) (i : Nat) (op : Session φ ρ σ → α × Session φ ρ σ) :
    Option (α × Fleet φ ρ σ) :=
  f.members[i]?.map fun m =>
    let (a, s) := op (join m f.host)
    (a, ⟨s.world.host, f.members.set i (leave s)⟩)

end Fleet
end GuestRuntime
