import GuestRuntime.Guest.Entry

/-!
Dialogues. What a host does with a guest is a tree: a call, then for every answer what follows, and
notes between. The tree says nothing about the guest, so a statement about the whole tree is one
about all guests; `run` is the path through it that one guest takes.

A call is made while root frames are open, and knows how much each of them has rooted. Where the
guest panics the path ends, and the frames it is in are released from the inside out:

        ask e [1, 2] ──answer──▶ what follows
                 └─────panic──▶ unprotect 1, unprotect 2, panic
-/

namespace GuestRuntime

inductive Dialogue (α : Type) : Type
  | done (a : α)
  | note (n : Note) (next : Dialogue α)
  /-- A call; `held` is what each of the open frames has rooted, the innermost first. -/
  | ask (e : Entry) (held : List Nat) (next : e.Answer → Dialogue α)

namespace Dialogue

variable {α β ρ σ : Type}

def bind : Dialogue α → (α → Dialogue β) → Dialogue β
  | done a, f => f a
  | note n d, f => note n (d.bind f)
  | ask e held k, f => ask e held fun a => (k a).bind f

instance : Monad Dialogue where
  pure := done
  bind := bind

/-- One call. -/
def call (e : Entry) : Dialogue e.Answer := ask e [] done

/-- One note. -/
def remark (n : Note) : Dialogue Unit := note n (done ())

/-- What a frame with so many roots has to release; one that rooted nothing makes no call. -/
def holding (n : Nat) : List Nat := if 0 < n then [n] else []

/-- The dialogue inside a frame that has rooted so many objects. -/
def within (n : Nat) : Dialogue α → Dialogue α
  | done a => done a
  | note m d => note m (d.within n)
  | ask e held k => ask e (held ++ holding n) fun a => (k a).within n

/-- The release of open frames by a panic. No guest panics at a release of what it has rooted. -/
def unwind [Guest ρ σ] (g : ρ) : List Nat → World σ → World σ
  | [], w => w
  | n :: outer, w => unwind g outer (w.call g (.unprotect n)).2

/-- The dialogue as a guest answers it; a panic ends it where it stands. -/
def run [Guest ρ σ] (g : ρ) : Dialogue α → World σ → Except Panic α × World σ
  | done a, w => (.ok a, w)
  | note n d, w => d.run g { w with host := w.host.note n }
  | ask e held k, w =>
    match w.call g e with
    | (.ok a, w) => (k a).run g w
    | (.error p, w) => (.error p, unwind g held w)

/-- A call with its answer. -/
structure Exchange where
  entry : Entry
  answer : entry.Answer

@[simp] theorem pure_eq (a : α) : (pure a : Dialogue α) = done a := rfl

@[simp] theorem bind_eq (d : Dialogue α) (f : α → Dialogue β) : d >>= f = d.bind f := rfl

theorem bind_assoc {γ : Type} (d : Dialogue α) (f : α → Dialogue β) (g : β → Dialogue γ) :
    (d.bind f).bind g = d.bind fun a => (f a).bind g := by
  induction d with
  | done a => rfl
  | note n d ih => simp [bind, ih]
  | ask e held k ih => simp [bind, ih]

@[simp] theorem unwind_nil [Guest ρ σ] (g : ρ) (w : World σ) : unwind g [] w = w := rfl

theorem unwind_append [Guest ρ σ] (g : ρ) (held outer : List Nat) (w : World σ) :
    unwind g (held ++ outer) w = unwind g outer (unwind g held w) := by
  induction held generalizing w with
  | nil => rfl
  | cons n held ih => exact ih _

/-- Running one dialogue after another is running one and then the other. -/
theorem run_bind [Guest ρ σ] (g : ρ) (d : Dialogue α) (f : α → Dialogue β) (w : World σ) :
    (d.bind f).run g w =
      match d.run g w with
      | (.ok a, w) => (f a).run g w
      | (.error p, w) => (.error p, w) := by
  induction d generalizing w with
  | done a => rfl
  | note n d ih => simp only [bind, run]; exact ih _
  | ask e held k ih =>
    simp only [bind, run]
    match w.call g e with
    | (.ok a, w) => exact ih a w
    | (.error p, w) => rfl

/-- A dialogue inside a frame is answered as it is outside, and a panic goes through the frame. -/
theorem run_within [Guest ρ σ] (g : ρ) (n : Nat) (d : Dialogue α) (w : World σ) :
    (d.within n).run g w =
      match d.run g w with
      | (.ok a, w) => (.ok a, w)
      | (.error p, w) => (.error p, unwind g (holding n) w) := by
  induction d generalizing w with
  | done a => rfl
  | note m d ih => simp only [within, run]; exact ih _
  | ask e held k ih =>
    simp only [within, run]
    match w.call g e with
    | (.ok a, w) => exact ih a w
    | (.error p, w) => simp only [unwind_append]

end Dialogue
end GuestRuntime
