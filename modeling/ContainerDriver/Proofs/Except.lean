import Mathlib.Data.List.Basic

/-! Computations that may fail, in sequence. -/
namespace ContainerDriver.Except

variable {ε ε' α β : Type} {x : Except ε α}

theorem bindOk {next : α → Except ε β} {b : β} :
    x >>= next = .ok b ↔ ∃ a, x = .ok a ∧ next a = .ok b := by
  cases x with
  | error e => simp [bind, Except.bind]
  | ok a => simp [bind, Except.bind]

theorem mapErrorOk {f : ε → ε'} {a : α} : x.mapError f = .ok a ↔ x = .ok a := by
  cases x with
  | error e => simp [Except.mapError]
  | ok a => simp [Except.mapError]

theorem bindMap (f : α → Except ε β) {γ : Type} (g : β → γ) :
    (x.bind f).map g = x.bind fun a => (f a).map g := by
  cases x <;> rfl

theorem mapBind {γ : Type} (f : α → β) (g : β → Except ε γ) :
    (x.map f).bind g = x.bind fun a => g (f a) := by
  cases x <;> rfl

theorem mapMParts {f : α → Except ε β} {xs : List α} {ys : List β} (done : xs.mapM f = .ok ys) :
    ∀ a ∈ xs, ∃ b, f a = .ok b := by
  induction xs generalizing ys with
  | nil => simp
  | cons a rest ih =>
    rw [List.mapM_cons] at done
    obtain ⟨b, here, done⟩ := bindOk.mp done
    obtain ⟨bs, later, -⟩ := bindOk.mp done
    exact List.forall_mem_cons.mpr ⟨⟨b, here⟩, ih later⟩

theorem mapMOk {f : α → Except ε β} {g : α → β} {xs : List α} (each : ∀ a ∈ xs, f a = .ok (g a)) :
    xs.mapM f = .ok (xs.map g) := by
  induction xs with
  | nil => rfl
  | cons a rest ih =>
    obtain ⟨here, later⟩ := List.forall_mem_cons.mp each
    rw [List.mapM_cons, here, ih later]
    rfl

end ContainerDriver.Except
