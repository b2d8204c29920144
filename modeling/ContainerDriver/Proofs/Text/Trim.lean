import ContainerDriver.Engine.Bridge
import Mathlib.Data.List.DropRight

/-! What trimming leaves. Only white space is taken away, from both ends, and none stays there. So
nothing is left exactly of a text that had nothing else. -/
namespace ContainerDriver

namespace Text

def Trimmed (cs : List Char) : Prop :=
  (∀ c ∈ cs.head?, isBlank c = false) ∧ ∀ c ∈ cs.getLast?, isBlank c = false

theorem trimSplits (cs : List Char) : ∃ front back, cs = front ++ trim cs ++ back ∧
    (∀ c ∈ front, isBlank c = true) ∧ ∀ c ∈ back, isBlank c = true := by
  refine ⟨cs.takeWhile isBlank, (trimLeft cs).rtakeWhile isBlank, ?_, ?_, ?_⟩
  · have right : trim cs ++ (trimLeft cs).rtakeWhile isBlank = trimLeft cs :=
      List.rdropWhile_append_rtakeWhile
    rw [List.append_assoc, right]
    exact List.takeWhile_append_dropWhile.symm
  · exact fun c taken => List.mem_takeWhile_imp taken
  · exact fun c taken => List.mem_rtakeWhile_imp taken

theorem trimTrimmed (cs : List Char) : Trimmed (trim cs) := by
  constructor
  · intro c first
    -- What is left is a prefix of what was left after the first half of the trimming.
    have longer : trim cs <+: trimLeft cs := List.rdropWhile_prefix isBlank _
    obtain ⟨back, same⟩ := longer
    have kept : (trimLeft cs).head? = some c := by
      rw [← same, List.head?_append, Option.mem_def.mp first]
      rfl
    have bare := List.head?_dropWhile_not isBlank cs
    rw [show (cs.dropWhile isBlank).head? = some c from kept] at bare
    exact bare
  · intro c last
    have some : trim cs ≠ [] := fun empty => by simp [empty] at last
    have bare := List.rdropWhile_last_not isBlank (trimLeft cs) some
    rw [Option.mem_def, List.getLast?_eq_some_getLast some] at last
    cases last
    exact Bool.eq_false_iff.mpr bare

theorem trimEmpty {cs : List Char} : trim cs = [] ↔ ∀ c ∈ cs, isBlank c = true := by
  constructor
  · intro empty
    obtain ⟨front, back, same, before, behind⟩ := trimSplits cs
    rw [empty, List.append_nil] at same
    rw [same]
    exact List.forall_mem_append.mpr ⟨before, behind⟩
  · intro blank
    have left : trimLeft cs = [] := List.dropWhile_eq_nil_iff.mpr blank
    rw [trim, left]
    rfl

end Text

namespace Execution

theorem textTrimmed (e : Execution) : Text.Trimmed e.text.toList := by
  rw [text, String.toList_ofList]
  exact Text.trimTrimmed _

theorem textEmpty {e : Execution} :
    e.text = "" ↔ ∀ c ∈ Text.Utf8.decodeReplacing e.stdout, Text.isBlank c = true := by
  rw [text, String.ofList_eq_empty_iff, Text.trimEmpty]

end Execution
end ContainerDriver
