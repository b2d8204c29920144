import ContainerDriver.Engine.Launch
import ContainerDriver.Proofs.Engine.LineSink

/-! Lines of a file. A line that is added leaves all that was there in front of it, an end of the
last line apart, and the lines are then those of before and the new one. -/
namespace ContainerDriver

open LineSink (newline)

namespace Bytes

def lines (b : Bytes) : List Bytes :=
  let pieces := b.splitOn newline
  if pieces.getLast? = some [] then pieces.dropLast else pieces

def ofLines (ls : List Bytes) : Bytes := ls.flatMap (· ++ [newline])

theorem ofLinesAppend (first second : List Bytes) :
    ofLines (first ++ second) = ofLines first ++ ofLines second :=
  List.flatMap_append

theorem intercalateOfLines (ls : List Bytes) (last : Bytes) :
    [newline].intercalate (ls ++ [last]) = ofLines ls ++ last := by
  induction ls with
  | nil => exact List.intercalate_singleton
  | cons l rest ih =>
    have more : rest ++ [last] ≠ [] := by simp
    rw [List.cons_append, List.intercalate_cons_of_ne_nil more, ih, ← List.append_assoc]
    rfl

theorem linesClean {b l : Bytes} (mem : l ∈ lines b) : newline ∉ l := by
  have piece : l ∈ b.splitOn newline := by
    unfold lines at mem
    dsimp only at mem
    split at mem
    · exact List.mem_of_mem_dropLast mem
    · exact mem
  rw [← splitIsSplitOn] at piece
  exact splitClean piece

theorem linesOfLines {ls : List Bytes} (clean : ∀ l ∈ ls, newline ∉ l) : lines (ofLines ls) = ls := by
  have pieces : (ofLines ls).splitOn newline = ls ++ [[]] := by
    rw [← List.append_nil (ofLines ls), ← intercalateOfLines]
    refine List.splitOn_intercalate newline (fun l mem => ?_) (by simp)
    rcases List.mem_append.mp mem with old | last
    · exact clean l old
    · simp [List.mem_singleton.mp last]
  simp [lines, pieces]

theorem ofLinesEnds {ls : List Bytes} (some' : ls ≠ []) :
    (ofLines ls).getLast? = some newline := by
  obtain ⟨init, last, rfl⟩ := (List.eq_nil_or_concat ls).resolve_left some'
  simp [ofLines]

theorem ofLinesLines (b : Bytes) : ofLines (lines b) =
    if b ≠ [] ∧ b.getLast? ≠ some newline then b ++ [newline] else b := by
  obtain ⟨init, last, pieces⟩ :=
    (List.eq_nil_or_concat (b.splitOn newline)).resolve_left (List.splitOn_ne_nil _ _)
  rw [List.concat_eq_append] at pieces
  have whole : b = ofLines init ++ last := by
    rw [← intercalateOfLines, ← pieces, List.intercalate_splitOn]
  -- The last piece is empty exactly if the last line has its end.
  by_cases ended : last = []
  · subst ended
    have read : lines b = init := by simp [lines, pieces]
    have complete : ¬ (b ≠ [] ∧ b.getLast? ≠ some newline) := by
      rintro ⟨some', open'⟩
      rw [whole, List.append_nil] at some' open'
      exact open' (ofLinesEnds fun none' => some' (by rw [none']; rfl))
    rw [read, if_neg complete, whole, List.append_nil]
  · have read : lines b = init ++ [last] := by simp [lines, pieces, ended]
    have clean : newline ∉ last := by
      refine splitClean (b := b) ?_
      rw [splitIsSplitOn, pieces]
      simp
    have cut : b.getLast? ≠ some newline := by
      rw [whole, List.getLast?_append_of_ne_nil _ ended]
      exact fun same => clean (List.mem_of_getLast? same)
    have some' : b ≠ [] := by
      rw [whole]
      exact List.append_ne_nil_of_right_ne_nil _ ended
    rw [read, if_pos ⟨some', cut⟩, ofLinesAppend, whole, List.append_assoc]
    simp [ofLines]

end Bytes

theorem appendLinePrefix (content line : Bytes) : content <+: appendLine content line := by
  unfold appendLine
  split
  · exact ⟨newline :: line, by simp⟩
  · exact List.prefix_append content line

theorem appendLineJoins (content line : Bytes) :
    appendLine content (line ++ [newline]) = Bytes.ofLines (content.lines ++ [line]) := by
  rw [Bytes.ofLinesAppend, Bytes.ofLinesLines, appendLine]
  simp [Bytes.ofLines]

theorem appendLineEnds (content line : Bytes) :
    (appendLine content (line ++ [newline])).getLast? = some newline := by
  rw [appendLineJoins]
  exact Bytes.ofLinesEnds (by simp)

theorem appendLineLines (content : Bytes) {line : Bytes} (clean : newline ∉ line) :
    (appendLine content (line ++ [newline])).lines = content.lines ++ [line] := by
  rw [appendLineJoins]
  refine Bytes.linesOfLines fun l mem => ?_
  rcases List.mem_append.mp mem with old | new
  · exact Bytes.linesClean old
  · rwa [List.mem_singleton.mp new]

end ContainerDriver
