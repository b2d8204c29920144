import ContainerDriver.Text.Casing
import Mathlib

/-! Names in lower case. Lower casing leaves no capital letters of ASCII, and only the Kelvin sign
becomes a letter of ASCII without being one. So a name that was brought to lower case, and becomes a
name of small letters other than `k` when this is done again, is that name. -/
namespace ContainerDriver.Text

namespace Casing

def Small (c : Char) : Prop := c.toNat < 0x80 → c.toLower = c

def Firm (c : Char) : Prop := c.toNat < 0x80 ∧ c ≠ 'k'

instance (c : Char) : Decidable (Firm c) := inferInstanceAs (Decidable (_ ∧ _))

def Shift.safe (s : Shift) : Bool :=
  s.last < 0x80
  || decide (0x80 ≤ s.first + s.shift)
    && (decide (s.last + s.shift < 0xD800)
      || decide (0xDFFF < s.first + s.shift) && decide (s.last + s.shift < 0x110000))
  || s.first == 0x212A && s.last == 0x212A && s.shift == 0x6B - 0x212A

theorem lowerShiftsSafe : ∀ s ∈ lowerShifts, s.safe = true := by
  decide +kernel

theorem toNatOfNat {n : Nat} (valid : n.isValidChar) : (Char.ofNat n).toNat = n := by
  rw [Char.toNat_ofNat, if_pos valid]

theorem smallOfNat {n : Nat} (valid : n.isValidChar) (high : 0x80 ≤ n) :
    Small (Char.ofNat n) ∧ ¬ Firm (Char.ofNat n) := by
  unfold Small Firm
  rw [toNatOfNat valid]
  omega

theorem smallShifted {c : Char} (high : 0x80 ≤ c.toNat) :
    Small (Char.ofNat (shifted lowerShifts c.toNat)) ∧
    ¬ Firm (Char.ofNat (shifted lowerShifts c.toNat)) := by
  unfold shifted
  cases found : lowerShifts.find? fun s => s.first ≤ c.toNat && c.toNat ≤ s.last
      && (c.toNat - s.first) % s.step == 0 with
  | none => exact smallOfNat c.valid high
  | some s =>
    have safe := lowerShiftsSafe s (List.mem_of_find?_eq_some found)
    have inside := List.find?_some found
    simp only [Bool.and_eq_true, decide_eq_true_eq] at inside
    simp only [Shift.safe, Bool.or_eq_true, Bool.and_eq_true, decide_eq_true_eq, beq_iff_eq] at safe
    dsimp only
    -- A range inside ASCII does not hold the character; any other but the Kelvin sign stays outside.
    rcases safe with (low | ⟨start, wide⟩) | ⟨⟨first, last⟩, shift⟩
    · omega
    · refine smallOfNat ?_ (by omega)
      unfold Nat.isValidChar
      omega
    · have kelvin : ((c.toNat : Int) + s.shift).toNat = 0x6B := by omega
      rw [kelvin]
      exact ⟨fun _ => by decide, by decide⟩

theorem lowerCharHigh {c : Char} (high : 0x80 ≤ c.toNat) (before after : List Char) :
    (∀ d ∈ lowerChar before c after, Small d) ∧ ∃ d ∈ lowerChar before c after, ¬ Firm d := by
  unfold lowerChar
  rw [if_neg (Nat.not_lt.mpr high)]
  split
  · split
    · have sigma := smallOfNat (n := 0x3C2) (by decide) (by decide)
      exact ⟨fun d mem => List.mem_singleton.mp mem ▸ sigma.1, _, List.mem_singleton_self _, sigma.2⟩
    · have sigma := smallOfNat (n := 0x3C3) (by decide) (by decide)
      exact ⟨fun d mem => List.mem_singleton.mp mem ▸ sigma.1, _, List.mem_singleton_self _, sigma.2⟩
  · unfold mapChar
    cases image : lowerExpansions.lookup c.toNat with
    | none =>
      have moved := smallShifted high
      exact ⟨fun d mem => List.mem_singleton.mp mem ▸ moved.1, _, List.mem_singleton_self _, moved.2⟩
    | some codes =>
      simp only [lowerExpansions, List.lookup] at image
      split at image
      · cases image
        have dot := smallOfNat (n := 0x307) (by decide) (by decide)
        have letter : Small 'i' := fun _ => by decide
        refine ⟨?_, _, ?_, dot.2⟩
        · exact List.forall_mem_cons.mpr ⟨letter, List.forall_mem_singleton.mpr dot.1⟩
        · exact List.mem_cons_of_mem _ (List.mem_singleton_self _)
      · cases image

theorem lowerCharLow {c : Char} (low : c.toNat < 0x80) (before after : List Char) :
    lowerChar before c after = [c.toLower] := if_pos low

theorem toLowerSmall (c : Char) : Small c.toLower := fun _ => Char.toLower_toLower_eq_toLower c

theorem lowerFromSmall (before cs : List Char) : ∀ d ∈ lowerFrom before cs, Small d := by
  induction cs generalizing before with
  | nil => simp [lowerFrom]
  | cons c after ih =>
    refine List.forall_mem_append.mpr ⟨?_, ih _⟩
    by_cases low : c.toNat < 0x80
    · rw [lowerCharLow low]
      exact fun d mem => List.mem_singleton.mp mem ▸ toLowerSmall c
    · exact (lowerCharHigh (Nat.not_lt.mp low) before after).1

theorem lowerFromFirm (before cs : List Char) (small : ∀ c ∈ cs, Small c)
    (firm : ∀ d ∈ lowerFrom before cs, Firm d) : lowerFrom before cs = cs := by
  induction cs generalizing before with
  | nil => rfl
  | cons c after ih =>
    obtain ⟨first, rest⟩ := List.forall_mem_append.mp firm
    obtain ⟨here, later⟩ := List.forall_mem_cons.mp small
    by_cases low : c.toNat < 0x80
    · rw [lowerFrom, lowerCharLow low, here low, ih _ later rest]
      rfl
    · obtain ⟨d, mem, soft⟩ := (lowerCharHigh (Nat.not_lt.mp low) before after).2
      exact absurd (first d mem) soft

end Casing

theorem lowerSmall (s : String) : ∀ c ∈ (lower s).toList, Casing.Small c := by
  rw [lower, String.toList_ofList]
  exact Casing.lowerFromSmall _ _

theorem lowerFirm {s name : String} (small : ∀ c ∈ s.toList, Casing.Small c)
    (firm : ∀ d ∈ name.toList, Casing.Firm d) (same : lower s = name) : s = name := by
  rw [← same, lower, String.toList_ofList] at firm
  rw [← same, lower, Casing.lowerFromFirm _ _ small firm, String.ofList_toList]

end ContainerDriver.Text
