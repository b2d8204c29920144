import ContainerDriver.CommandLine.Request
import ContainerDriver.Proofs.Except
import Mathlib.Data.List.Basic

/-! What is known of a command line that was read. The operand is of the kind that the grammar asks
for, however the options stand around it, so nobody can be asked to remove a container of no name. -/
namespace ContainerDriver

namespace Options

def Operand.Takes : Operand → List Text → Prop
  | none, _ => False
  | one _ ifBlank, texts => ∃ text, texts = [text] ∧ (ifBlank ≠ .none → Text.blank text = false)
  | command _ choices, texts => ∃ word rest, texts = word :: rest ∧ word ∈ choices

def Reading.Fits (g : Grammar) (r : Reading) : Prop :=
  ∀ texts, r.operand = some texts → g.operand.Takes texts

variable {g : Grammar} {r r' : Reading}

namespace Reading

theorem addFlagsOperand {fs : List (Flag × Option Text)} (added : r.addFlags g fs = .ok r') :
    r'.operand = r.operand := by
  unfold addFlags at added
  split at added
  · cases added
  · cases added
    rfl

theorem addClusterOperand {found : Cluster} {next : Option Text}
    (added : r.addCluster g found next = .ok r') : r'.operand = r.operand := by
  unfold addCluster at added
  have extra : ((found.unknown.map r.addExtra).getD r).operand = r.operand := by
    cases found.unknown <;> rfl
  split at added
  · exact (addFlagsOperand added).trans extra
  · split at added
    · cases next with
      | none => cases added
      | some value => exact (addFlagsOperand added).trans extra
    · exact (addFlagsOperand added).trans extra

theorem addOneFits {name : String} {text : Text} {ifBlank : Option String}
    (asked : g.operand = .one name ifBlank) (added : r.addOperand g [text] = .ok r') :
    r'.Fits g := by
  intro texts own
  rw [addOperand, asked] at added
  rw [asked]
  cases ifBlank with
  | none =>
    cases added
    cases own
    exact ⟨text, rfl, absurd rfl⟩
  | some reason =>
    dsimp only at added
    split at added
    · cases added
    · next filled =>
      cases added
      cases own
      exact ⟨text, rfl, fun _ => Bool.eq_false_iff.mpr filled⟩

theorem addCommandFits {name : String} {text : Text} {choices more : List Text}
    (asked : g.operand = .command name choices)
    (added : r.addOperand g (text :: more) = .ok r') : r'.Fits g := by
  intro texts own
  rw [addOperand, asked] at added
  rw [asked]
  dsimp only at added
  split at added
  · next chosen =>
    cases added
    cases own
    exact ⟨text, more, rfl, List.contains_iff_mem.mp chosen⟩
  · cases added

end Reading

theorem scanFits (n : Nat) {ts : List (Text × Token)} (short : ts.length ≤ n) (fits : r.Fits g)
    (read : scan g r ts = .ok r') : r'.Fits g := by
  -- The bound on the length carries the induction, because a value and two dashes are skipped.
  induction n generalizing ts r with
  | zero =>
    cases List.length_eq_zero_iff.mp (Nat.le_zero.mp short)
    cases read
    exact fits
  | succ n ih =>
    cases ts with
    | nil =>
      cases read
      exact fits
    | cons t rest =>
      obtain ⟨text, token⟩ := t
      simp only [List.length_cons, Nat.add_le_add_iff_right] at short
      have tail {t : Text × Token} {later : List (Text × Token)} (more : rest = t :: later) :
          later.length ≤ n := by
        rw [more] at short
        exact Nat.le_of_succ_le short
      have extra : (r.addExtra text).Fits g := fits
      rw [scan.eq_def] at read
      cases token with
      | unknown => exact ih short extra read
      | flag f long joined =>
        obtain ⟨found, -, read⟩ := Except.bindOk.mp read
        have kept {next : Option Text} {r' : Reading}
            (added : r.addCluster g found next = .ok r') : r'.Fits g :=
          fun texts own => fits texts ((Reading.addClusterOperand added).symm.trans own)
        split at read
        · cases rest with
          | nil =>
            obtain ⟨r, added, read⟩ := Except.bindOk.mp read
            exact ih short (kept added) read
          | cons next later =>
            split at read
            · next same =>
              obtain ⟨r, added, read⟩ := Except.bindOk.mp read
              exact ih (tail same) (kept added) read
            · obtain ⟨r, added, read⟩ := Except.bindOk.mp read
              exact ih short (kept added) read
        · obtain ⟨r, added, read⟩ := Except.bindOk.mp read
          exact ih short (kept added) read
      | plain =>
        dsimp only at read
        split at read
        · next asked _ => exact Reading.addCommandFits asked read
        · next asked _ =>
          obtain ⟨r, added, read⟩ := Except.bindOk.mp read
          have new := Reading.addOneFits asked added
          split at read
          · exact ih (tail rfl) new read
          · exact ih short new read
        · exact ih short extra read
      | dashes =>
        dsimp only at read
        split at read
        · next asked _ => exact Reading.addCommandFits asked read
        · next asked _ =>
          obtain ⟨r, added, read⟩ := Except.bindOk.mp read
          exact ih (tail rfl) (Reading.addOneFits asked added) read
        · exact ih short extra read

theorem readFits {arguments : List Text} (done : read g arguments = .ok r) :
    r.Fits g ∧ missing g r = [] := by
  obtain ⟨ts, -, rest⟩ := Except.bindOk.mp done
  obtain ⟨r, scanned, rest⟩ := Except.bindOk.mp rest
  split at rest
  · next complete =>
    cases rest
    exact ⟨scanFits ts.length (Nat.le_refl _) (fun _ own => by cases own) scanned, complete⟩
  · cases rest

theorem readOne {name : String} {ifBlank : Option String} {arguments : List Text}
    (asked : g.operand = .one name ifBlank) (done : read g arguments = .ok r) :
    ∃ text, r.operand = some [text] ∧ (ifBlank ≠ none → Text.blank text = false) := by
  obtain ⟨fits, complete⟩ := readFits done
  cases own : r.operand with
  | none => simp [missing, asked, own] at complete
  | some texts =>
    have taken := fits texts own
    rw [asked] at taken
    obtain ⟨text, rfl, filled⟩ := taken
    exact ⟨text, rfl, filled⟩

end Options

namespace Invocation
open Options

variable {arguments : List Text} {i : Invocation}

theorem ofArgumentsSource (accepted : ofArguments arguments = .ok i) :
    ∃ r inner, read mainGrammar arguments = .ok r ∧
      let command := commandOf ((r.operand.getD []).headD "")
      read (grammarOf command) (r.operand.getD []).tail = .ok inner ∧ r.extras ++ inner.extras = [] ∧
      i = ⟨r.value? hostFlag, r.has verboseFlag, requestOf command inner⟩ := by
  obtain ⟨r, main, rest⟩ := Except.bindOk.mp accepted
  obtain ⟨inner, sub, rest⟩ := Except.bindOk.mp rest
  dsimp only at rest
  split at rest
  · cases rest
  · next plain =>
    cases rest
    exact ⟨r, inner, main, sub, not_not.mp plain, rfl⟩

theorem removeNamed {id : Text} (accepted : ofArguments arguments = .ok i)
    (asked : i.request = .remove id) : Text.blank id = false := by
  obtain ⟨r, inner, -, sub, -, rfl⟩ := ofArgumentsSource accepted
  have command : commandOf ((r.operand.getD []).headD "") = "rm" := by
    simp only [requestOf] at asked
    split at asked
    · cases asked
    split at asked
    · cases asked
    split at asked
    · cases asked
    split at asked
    · cases asked
    split at asked
    · next same => exact same
    · cases asked
  rw [command] at sub asked
  obtain ⟨text, own, filled⟩ := readOne (g := grammarOf "rm") rfl sub
  simp only [requestOf, own] at asked
  cases asked
  exact filled (by simp)

end Invocation
end ContainerDriver
