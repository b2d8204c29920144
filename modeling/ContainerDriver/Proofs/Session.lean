import ContainerDriver.Command.Session
import Mathlib.Data.List.Basic
import Mathlib.Data.Nat.Init

/-! Positions in a session. The answer at a position, and what is there after it, are those of its
step; behind the last step nothing happens. -/
namespace ContainerDriver.Session

variable {σ α β : Type} {step : σ → α → β × σ} {s : σ} {steps : List α} {n : Nat}

def before (step : σ → α → β × σ) (s : σ) (steps : List α) (n : Nat) : σ :=
  (run step s (steps.take n)).2

theorem runAt {a : α} (here : steps[n]? = some a) :
    (run step s steps).1[n]? = some (step (before step s steps n) a).1 ∧
    before step s steps (n + 1) = (step (before step s steps n) a).2 := by
  induction steps generalizing s n with
  | nil => cases here
  | cons first rest ih =>
    cases n with
    | zero =>
      cases here
      exact ⟨rfl, rfl⟩
    | succ n => exact ih here

theorem runPast (past : steps[n]? = none) :
    before step s steps (n + 1) = before step s steps n := by
  have long := List.getElem?_eq_none_iff.mp past
  rw [before, before, List.take_of_length_le long, List.take_of_length_le (Nat.le_succ_of_le long)]

theorem beforeKeeps {R : σ → σ → Prop} (refl : ∀ s, R s s) (trans : ∀ a b c, R a b → R b c → R a c)
    (keeps : ∀ s a, R s (step s a).2) {m : Nat} (order : m ≤ n) :
    R (before step s steps m) (before step s steps n) := by
  induction n, order using Nat.le_induction with
  | base => exact refl _
  | succ n order ih =>
    cases here : steps[n]? with
    | none => rwa [runPast here]
    | some a =>
      rw [(runAt here).2]
      exact trans _ _ _ ih (keeps _ a)

end ContainerDriver.Session
