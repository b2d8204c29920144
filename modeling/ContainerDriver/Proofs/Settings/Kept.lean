import ContainerDriver.Proofs.Session
import ContainerDriver.Settings.Session

/-! The settings kept. Whoever asks for them gets what the first load since the last reset gave that
went well, whatever changed since; a load that fails, or that is made beside, leaves no trace. -/
namespace ContainerDriver.Settings

def Step.around : Step → Surroundings → Surroundings
  | change c, around => c.apply around
  | _, around => around

namespace Store

section

variable {s : Store} {v : Settings} {e : LoadError}

theorem getKept (kept : s.kept = some v) : s.get = (.ok v, s) := by
  unfold get
  rw [kept]

theorem getLoads (empty : s.kept = none) : s.get.1 = load [] s.around ∧
    (∀ v, s.get.2.kept = some v → s.get.1 = .ok v) ∧ ∀ e, s.get.1 = .error e → s.get.2 = s := by
  unfold get
  rw [empty]
  cases load [] s.around with
  | ok settings => exact ⟨rfl, fun v kept => congrArg Except.ok (Option.some.inj kept), nofun⟩
  | error e => exact ⟨rfl, fun v kept => absurd (empty.symm.trans kept) nofun, fun _ _ => rfl⟩

theorem getFails (failed : s.get.1 = .error e) : s.get.2 = s ∧ s.kept = none := by
  cases kept : s.kept with
  | none => exact ⟨(getLoads kept).2.2 e failed, rfl⟩
  | some v =>
    rw [getKept kept] at failed
    cases failed

theorem getAnswers (s : Store) (ok : s.get.1 = .ok v) : s.get.2.kept = some v := by
  unfold get at ok ⊢
  cases kept : s.kept with
  | some v' =>
    rw [kept] at ok
    cases ok
    exact kept
  | none =>
    rw [kept] at ok
    cases loaded : load [] s.around with
    | ok v' =>
      rw [loaded] at ok
      cases ok
      rfl
    | error e =>
      rw [loaded] at ok
      cases ok

theorem getAround (s : Store) : s.get.2.around = s.around := by
  unfold get
  cases s.kept with
  | some v => rfl
  | none => cases load [] s.around <;> rfl

theorem stepAround (s : Store) (step : Step) : (s.step step).2.around = step.around s.around := by
  cases step with
  | get => exact s.getAround
  | _ => rfl

theorem stepKeeps {step : Step} (kept : s.kept = some v) (other : step ≠ .reset) :
    (s.step step).2.kept = some v := by
  cases step with
  | change c => exact kept
  | load given => exact kept
  | get => exact s.getAnswers (congrArg Prod.fst (getKept kept))
  | reset => exact absurd rfl other

theorem stepSource {step : Step} (kept : (s.step step).2.kept = some v) :
    (s.kept = some v ∧ step ≠ .reset) ∨ (step = .get ∧ s.get.1 = .ok v) := by
  cases step with
  | change c => exact .inl ⟨kept, nofun⟩
  | load given => exact .inl ⟨kept, nofun⟩
  | reset => cases kept
  | get =>
    cases before : s.kept with
    | none => exact .inr ⟨rfl, (getLoads before).2.1 v kept⟩
    | some v' =>
      have same : s.get.2.kept = some v := kept
      rw [getKept before, before] at same
      exact .inl ⟨same, nofun⟩

end

def before (s : Store) (steps : List Step) (n : Nat) : Store := (s.session (steps.take n)).2

section

variable {s : Store} {steps : List Step} {n : Nat} {v : Settings}

theorem sessionAt {step : Step} (here : steps[n]? = some step) :
    (s.session steps).1[n]? = some ((s.before steps n).step step).1 ∧
    s.before steps (n + 1) = ((s.before steps n).step step).2 :=
  Session.runAt here

theorem sessionPast (past : steps[n]? = none) : s.before steps (n + 1) = s.before steps n :=
  Session.runPast past

theorem beforeAround (s : Store) (steps : List Step) (n : Nat) :
    (s.before steps n).around =
      (steps.take n).foldl (fun around step => step.around around) s.around := by
  unfold before
  generalize steps.take n = done
  induction done generalizing s with
  | nil => rfl
  | cons first rest ih => exact (ih (s.step first).2).trans (by rw [stepAround]; rfl)

def Unreset (steps : List Step) (first last : Nat) : Prop :=
  ∀ k, first ≤ k → k < last → steps[k]? ≠ some .reset

theorem Unreset.succ {m : Nat} (unreset : Unreset steps m n) (here : steps[n]? ≠ some .reset) :
    Unreset steps m (n + 1) := by
  intro k after before
  obtain lt | rfl := Nat.lt_succ_iff_lt_or_eq.mp before
  · exact unreset k after lt
  · exact here

theorem keptOn {m : Nat} (order : m ≤ n) (kept : (s.before steps m).kept = some v)
    (unreset : Unreset steps m n) : (s.before steps n).kept = some v := by
  induction n, order using Nat.le_induction with
  | base => exact kept
  | succ n order ih =>
    have still := ih fun k after before => unreset k after (Nat.lt_succ_of_lt before)
    cases here : steps[n]? with
    | none => rwa [sessionPast here]
    | some step =>
      rw [(sessionAt here).2]
      exact stepKeeps still fun reset => unreset n order n.lt_succ_self (reset ▸ here)

theorem keptSource (kept : (s.before steps n).kept = some v) :
    (s.kept = some v ∧ Unreset steps 0 n) ∨
    ∃ m < n, steps[m]? = some .get ∧ (s.session steps).1[m]? = some (some (.ok v)) ∧
      Unreset steps (m + 1) n := by
  induction n with
  | zero => exact .inl ⟨kept, fun k _ before => absurd before k.not_lt_zero⟩
  | succ n ih =>
    have onward (kept : (s.before steps n).kept = some v) (here : steps[n]? ≠ some .reset) :
        (s.kept = some v ∧ Unreset steps 0 (n + 1)) ∨
        ∃ m < n + 1, steps[m]? = some .get ∧ (s.session steps).1[m]? = some (some (.ok v)) ∧
          Unreset steps (m + 1) (n + 1) := by
      obtain ⟨kept, unreset⟩ | ⟨m, early, got, answered, unreset⟩ := ih kept
      · exact .inl ⟨kept, unreset.succ here⟩
      · exact .inr ⟨m, Nat.lt_succ_of_lt early, got, answered, unreset.succ here⟩
    cases here : steps[n]? with
    | none =>
      rw [sessionPast here] at kept
      exact onward kept (by rw [here]; exact nofun)
    | some step =>
      obtain ⟨answer, after⟩ := sessionAt (s := s) here
      rw [after] at kept
      obtain ⟨kept, other⟩ | ⟨rfl, ok⟩ := stepSource kept
      · refine onward kept ?_
        rw [here]
        exact fun same => other (Option.some.inj same)
      · refine .inr ⟨n, n.lt_succ_self, here, ?_, fun k after before => by omega⟩
        rw [answer]
        exact congrArg (some ∘ some) ok

end

/-- Asking gives the settings of the last answer that went well, and if there is none since the start
or the last reset, what a load gives in the present surroundings. An answer that fails leaves nothing
kept. Loads for themselves depend on the surroundings only and leave the store as it is. -/
theorem keptFaithful (start : Store) (steps : List Step) :
    let answers := (start.session steps).1
    let around n := (steps.take n).foldl (fun around step => step.around around) start.around
    (∀ m n v, m < n → steps[m]? = some .get → answers[m]? = some (some (.ok v)) →
      Unreset steps (m + 1) n → steps[n]? = some .get → answers[n]? = some (some (.ok v))) ∧
    (∀ n, steps[n]? = some .get → (start.kept = none ∨ ¬ Unreset steps 0 n) →
      (∀ m v, m < n → steps[m]? = some .get → answers[m]? = some (some (.ok v)) →
        ¬ Unreset steps (m + 1) n) →
      answers[n]? = some (some (load [] (around n)))) ∧
    (∀ n e, steps[n]? = some .get → answers[n]? = some (some (.error e)) →
      (start.before steps n).kept = none ∧ start.before steps (n + 1) = start.before steps n) ∧
    ∀ n given, steps[n]? = some (.load given) →
      answers[n]? = some (some (load given (around n))) ∧
      start.before steps (n + 1) = start.before steps n := by
  intro answers around
  have asked {n : Nat} (got : steps[n]? = some .get) :
      answers[n]? = some (some (start.before steps n).get.1) := (sessionAt got).1
  refine ⟨fun m n v order got answered unreset got' => ?_, fun n got fresh vain => ?_,
    fun n e got failed => ?_, fun n given loading => ?_⟩
  · have ok : (start.before steps m).get.1 = .ok v := by
      rw [asked got] at answered
      exact Option.some.inj (Option.some.inj answered)
    have kept : (start.before steps (m + 1)).kept = some v := by
      rw [(sessionAt got).2]
      exact getAnswers _ ok
    rw [asked got', getKept (keptOn order kept unreset)]
  · have empty : (start.before steps n).kept = none := by
      by_contra some
      obtain ⟨v, kept⟩ := Option.ne_none_iff_exists'.mp some
      obtain ⟨kept, unreset⟩ | ⟨m, early, got', answered, unreset⟩ := keptSource kept
      · exact fresh.elim (fun none => absurd (none.symm.trans kept) nofun) fun reset => reset unreset
      · exact vain m v early got' answered unreset
    rw [asked got, (getLoads empty).1, beforeAround]
  · rw [asked got] at failed
    obtain ⟨same, empty⟩ := getFails (Option.some.inj (Option.some.inj failed))
    exact ⟨empty, (sessionAt got).2.trans same⟩
  · obtain ⟨answer, after⟩ := sessionAt (s := start) loading
    refine ⟨answer.trans ?_, after⟩
    rw [step, beforeAround]

def naming (name value : String) : Step := .change (.environment [("DOCKINS_ENGINE__" ++ name, value)])

def restless : List Step :=
  [.get, naming "URI" "u", .load [], .get, .reset, naming "BINARY" " ", .get, naming "URI" "u", .get]

theorem keptFaithfulRestless :
    let answers := (session restless {}).1
    answers[3]? = some (some (.ok {})) ∧ before {} restless 7 = before {} restless 6 ∧
    answers[8]? = some (some (.ok { engine := { uri := some "u" } })) := by
  obtain ⟨again, anew, failing, -⟩ := keptFaithful {} restless
  have first : (session restless {}).1[0]? = some (some (.ok {})) := rfl
  have failed : (session restless {}).1[6]? =
      some (some (.error (.invalid [(["engine", "binary"], .blankBinary)]))) := rfl
  refine ⟨again 0 3 {} (by decide) rfl first (fun k after before => ?_) rfl,
    (failing 6 _ rfl failed).2, ?_⟩
  · obtain rfl | rfl : k = 1 ∨ k = 2 := by omega
    · exact nofun
    · exact nofun
  · refine (anew 8 rfl (.inl rfl) fun m v early got answered unreset => ?_).trans rfl
    obtain reset | later : m < 4 ∨ 4 ≤ m := Nat.lt_or_ge m 4
    · exact unreset 4 reset (by decide) rfl
    · obtain rfl | rfl | rfl | rfl : m = 4 ∨ m = 5 ∨ m = 6 ∨ m = 7 := by omega
      · cases got
      · cases got
      · cases failed.symm.trans answered
      · cases got

end Store
end ContainerDriver.Settings
