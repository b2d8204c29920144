import ContainerDriver.Engine.Sink
import Mathlib

/-! What a line sink shows. The bytes of all writes between two flushes are one run; the events are
the lines of the runs, and the end of the last run is held back. How a run was cut into writes makes
no difference. -/
namespace ContainerDriver

namespace Bytes

variable {separator : UInt8}

theorem splitNeNil (separator : UInt8) (b : Bytes) : split separator b ≠ [] := by
  cases b with
  | nil => simp [split]
  | cons x rest =>
    rw [split]
    split
    · simp
    · split <;> simp

theorem splitSeparator (rest : Bytes) :
    split separator (separator :: rest) = [] :: split separator rest := by
  rw [split, if_pos rfl]

theorem splitOther {x : UInt8} (other : x ≠ separator) {head : Bytes} {tail : List Bytes}
    {rest : Bytes} (later : split separator rest = head :: tail) :
    split separator (x :: rest) = (x :: head) :: tail := by
  rw [split, if_neg other, later]

theorem splitIsSplitOn (separator : UInt8) (b : Bytes) :
    split separator b = b.splitOn separator := by
  induction b with
  | nil => rfl
  | cons x rest ih =>
    rw [List.splitOn, List.splitOnP_cons_eq_if_modifyHead, ← List.splitOn, ← ih]
    by_cases same : x = separator
    · subst same
      simp [splitSeparator]
    · obtain ⟨head, tail, later⟩ := List.exists_cons_of_ne_nil (splitNeNil separator rest)
      simp [splitOther same later, later, same]

theorem splitClean {piece : Bytes} {b : Bytes} (mem : piece ∈ split separator b) :
    separator ∉ piece := by
  induction b generalizing piece with
  | nil => simp_all [split]
  | cons x rest ih =>
    by_cases same : x = separator
    · subst same
      rw [splitSeparator, List.mem_cons] at mem
      rcases mem with rfl | mem
      · exact List.not_mem_nil
      · exact ih mem
    · obtain ⟨head, tail, later⟩ := List.exists_cons_of_ne_nil (splitNeNil separator rest)
      rw [splitOther same later, List.mem_cons] at mem
      rw [later] at ih
      rcases mem with rfl | mem
      · have clean : separator ∉ head := ih List.mem_cons_self
        simp [clean, Ne.symm same]
      · exact ih (List.mem_cons_of_mem _ mem)

theorem splitAlone {b : Bytes} (clean : separator ∉ b) : split separator b = [b] := by
  rw [splitIsSplitOn, List.splitOn]
  exact List.splitOnP_eq_singleton (by grind)

theorem splitAppend (a b : Bytes) : split separator (a ++ b) =
    (split separator a).dropLast ++ split separator ((split separator a).getLastD [] ++ b) := by
  -- Splitting goes on with what `a` left over.
  induction a with
  | nil => simp [split]
  | cons x rest ih =>
    obtain ⟨head, tail, later⟩ := List.exists_cons_of_ne_nil (splitNeNil separator rest)
    rw [later] at ih
    rw [List.cons_append]
    by_cases same : x = separator
    · subst same
      rw [splitSeparator, splitSeparator, ih, later]
      rfl
    · rw [splitOther same later]
      cases tail with
      | nil =>
        obtain ⟨head', tail', whole⟩ :=
          List.exists_cons_of_ne_nil (splitNeNil separator (head ++ b))
        have after : split separator (rest ++ b) = head' :: tail' := ih.trans whole
        exact (splitOther same after).trans (splitOther same whole).symm
      | cons next more => exact splitOther same ih

end Bytes

namespace Sink

def Call.isFlush : Call → Bool
  | write _ => false
  | flush => true

def Call.bytes : Call → Bytes
  | write data => data
  | flush => []

def Call.count? : Call → Option Nat
  | write data => some data.length
  | flush => none

def runs (calls : List Call) : List Bytes :=
  (calls.splitOnP Call.isFlush).map (·.flatMap Call.bytes)

theorem runsNeNil (calls : List Call) : runs calls ≠ [] := by
  simp [runs, List.splitOnP_ne_nil]

theorem runsFlush (rest : List Call) : runs (.flush :: rest) = [] :: runs rest := by
  simp [runs, List.splitOnP_cons_eq_if_modifyHead, Call.isFlush]

theorem runsWrite (data : Bytes) (rest : List Call) :
    runs (.write data :: rest) = (runs rest).modifyHead (data ++ ·) := by
  obtain ⟨first, more, later⟩ :=
    List.exists_cons_of_ne_nil (List.splitOnP_ne_nil Call.isFlush rest)
  simp [runs, List.splitOnP_cons_eq_if_modifyHead, Call.isFlush, later, Call.bytes]

theorem callsTaken (s : Sink) (calls : List Call) :
    (s.calls calls).2.map Reply.taken = calls.map Call.count? := by
  induction calls generalizing s with
  | nil => rfl
  | cons c rest ih =>
    have first : (s.call c).2.taken = c.count? := by cases c <;> rfl
    rw [Sink.calls, List.map_cons, List.map_cons, first, ih]

end Sink

namespace LineSink

def texts (pieces : List Bytes) : List (List Char) :=
  (pieces.map fun piece =>
    (Text.Utf8.decodeReplacing piece).rdropWhile (· = carriageReturn)).filter (· ≠ [])

def shows (s : LineSink) (pieces : List Bytes) : List Event :=
  (texts pieces).map fun text => .line s.title (String.ofList text) s.context

theorem eventsShown (s : LineSink) (pieces : List Bytes) :
    pieces.filterMap s.event? = s.shows pieces := by
  induction pieces with
  | nil => rfl
  | cons piece rest ih =>
    have same : lineText piece =
        (Text.Utf8.decodeReplacing piece).rdropWhile (· = carriageReturn) := rfl
    rw [List.filterMap_cons, ih, event?, same]
    unfold shows texts
    rw [List.map_cons]
    cases (Text.Utf8.decodeReplacing piece).rdropWhile (· = carriageReturn) with
    | nil => rfl
    | cons c more => rfl

theorem showsAppend (s : LineSink) (first second : List Bytes) :
    s.shows (first ++ second) = s.shows first ++ s.shows second := by
  simp [shows, texts]

def eventsOf (s : LineSink) (runs : List Bytes) : List Event :=
  runs.dropLast.flatMap (fun run => s.shows (run.splitOn newline)) ++
    s.shows ((runs.getLastD []).splitOn newline).dropLast

def heldOf (runs : List Bytes) : Bytes := ((runs.getLastD []).splitOn newline).getLastD []

theorem eventsOfCons (s : LineSink) (run : Bytes) {runs : List Bytes} (more : runs ≠ []) :
    s.eventsOf (run :: runs) = s.shows (run.splitOn newline) ++ s.eventsOf runs := by
  obtain ⟨next, rest, rfl⟩ := List.exists_cons_of_ne_nil more
  simp [eventsOf, List.getLastD]

theorem heldOfCons (run : Bytes) {runs : List Bytes} (more : runs ≠ []) :
    heldOf (run :: runs) = heldOf runs := by
  obtain ⟨next, rest, rfl⟩ := List.exists_cons_of_ne_nil more
  rfl

theorem heldClean (runs : List Bytes) : newline ∉ heldOf runs := by
  have pieces : (runs.getLastD []).splitOn newline ≠ [] := List.splitOn_ne_nil _ _
  rw [heldOf, List.getLastD_eq_getLast?, List.getLast?_eq_some_getLast pieces, Option.getD_some]
  refine Bytes.splitClean (b := runs.getLastD []) ?_
  rw [Bytes.splitIsSplitOn]
  exact List.getLast_mem pieces

theorem writeContinues (s : LineSink) (data : Bytes) {runs : List Bytes} (more : runs ≠ []) :
    s.eventsOf (runs.modifyHead (s.pending ++ data ++ ·)) =
        (s.write data).2 ++ s.eventsOf (runs.modifyHead ((s.write data).1.pending ++ ·)) ∧
      heldOf (runs.modifyHead (s.pending ++ data ++ ·)) =
        heldOf (runs.modifyHead ((s.write data).1.pending ++ ·)) := by
  -- What is held back may as well have been part of what is written next.
  obtain ⟨run, rest, rfl⟩ := List.exists_cons_of_ne_nil more
  have joined : (s.pending ++ data ++ run).splitOn newline =
      (Bytes.split newline (s.pending ++ data)).dropLast ++
        ((s.write data).1.pending ++ run).splitOn newline := by
    rw [← Bytes.splitIsSplitOn, ← Bytes.splitIsSplitOn, Bytes.splitAppend]
    rfl
  have shown : (s.write data).2 = s.shows (Bytes.split newline (s.pending ++ data)).dropLast :=
    s.eventsShown _
  have later : ((s.write data).1.pending ++ run).splitOn newline ≠ [] := List.splitOn_ne_nil _ _
  simp only [List.modifyHead_cons]
  cases rest with
  | nil =>
    simp only [eventsOf, heldOf, List.dropLast_singleton, List.flatMap_nil, List.nil_append,
      List.getLastD_cons, List.getLastD_nil, joined, shown]
    constructor
    · rw [List.dropLast_append_of_ne_nil later, showsAppend]
    · rw [List.getLastD_eq_getLast?, List.getLastD_eq_getLast?,
        List.getLast?_append_of_ne_nil _ later]
  | cons next rest =>
    have further : next :: rest ≠ [] := List.cons_ne_nil _ _
    rw [eventsOfCons _ _ further, eventsOfCons _ _ further, heldOfCons _ further,
      heldOfCons _ further, joined, shown, showsAppend, List.append_assoc]
    exact ⟨rfl, rfl⟩

theorem flushShows {s : LineSink} (clean : newline ∉ s.pending) :
    s.flush = ({ s with pending := [] }, s.shows (s.pending.splitOn newline)) := by
  have alone : (s.pending.splitOn newline).filterMap s.event? = (s.event? s.pending).toList := by
    rw [← Bytes.splitIsSplitOn, Bytes.splitAlone clean, List.filterMap_cons, List.filterMap_nil]
    cases s.event? s.pending <;> rfl
  rw [← eventsShown, alone, flush]
  by_cases empty : s.pending = []
  · have silent : s.event? [] = none := by
      simp [event?, lineText, Text.Utf8.decodeReplacing, Text.Utf8.pieces]
    rw [if_pos empty, empty, silent, ← empty]
    rfl
  · rw [if_neg empty]

theorem callsShow {s : LineSink} (clean : newline ∉ s.pending) (calls : List Sink.Call) :
    ((Sink.lines s).calls calls).1 = .lines
        { s with pending := heldOf ((Sink.runs calls).modifyHead (s.pending ++ ·)) } ∧
      ((Sink.lines s).calls calls).2.flatMap Sink.Reply.events =
        s.eventsOf ((Sink.runs calls).modifyHead (s.pending ++ ·)) := by
  induction calls generalizing s with
  | nil =>
    have alone : s.pending.splitOn newline = [s.pending] := by
      rw [← Bytes.splitIsSplitOn, Bytes.splitAlone clean]
    simp [Sink.runs, Sink.calls, heldOf, eventsOf, alone, shows, texts]
  | cons c rest ih =>
    cases c with
    | write data =>
      have held : newline ∉ (s.write data).1.pending := by
        have clean := heldClean [s.pending ++ data]
        rwa [heldOf, ← Bytes.splitIsSplitOn] at clean
      obtain ⟨shown, kept⟩ := s.writeContinues data (Sink.runsNeNil rest)
      obtain ⟨sink, events⟩ := ih held
      have regrouped : (Sink.runs (.write data :: rest)).modifyHead (s.pending ++ ·) =
          (Sink.runs rest).modifyHead (s.pending ++ data ++ ·) := by
        rw [Sink.runsWrite, List.modifyHead_modifyHead]
        simp only [Function.comp_def, List.append_assoc]
      rw [regrouped, shown, kept]
      exact ⟨sink, congrArg ((s.write data).2 ++ ·) events⟩
    | flush =>
      obtain ⟨sink, events⟩ := ih (s := { s with pending := [] }) List.not_mem_nil
      have regrouped : (Sink.runs (.flush :: rest)).modifyHead (s.pending ++ ·) =
          s.pending :: Sink.runs rest := by
        rw [Sink.runsFlush, List.modifyHead_cons, List.append_nil]
      have fresh : (Sink.runs rest).modifyHead ([] ++ ·) = Sink.runs rest :=
        congrFun List.modifyHead_id _
      rw [fresh] at sink events
      rw [regrouped, eventsOfCons _ _ (Sink.runsNeNil rest), heldOfCons _ (Sink.runsNeNil rest)]
      simp only [Sink.calls, Sink.call, Sink.flush, flushShows clean, List.flatMap_cons]
      exact ⟨sink, congrArg (s.shows (s.pending.splitOn newline) ++ ·) events⟩

/-- A line sink takes all bytes of every write. It shows the lines of each run, the last line of a
run without an end only when the run is flushed, and holds that line back until then; so any two
sequences of calls that have the same runs show the same and hold the same back. -/
theorem runsShown (title : String) (context : List (String × Value)) (calls : List Sink.Call) :
    let fresh : LineSink := { title, context }
    let runs := Sink.runs calls
    let ran := (Sink.lines fresh).calls calls
    ran.2.map Sink.Reply.taken = calls.map Sink.Call.count? ∧
      ran.2.flatMap Sink.Reply.events =
        runs.dropLast.flatMap (fun run => fresh.shows (run.splitOn newline)) ++
          fresh.shows ((runs.getLastD []).splitOn newline).dropLast ∧
      ran.1 = .lines
        { fresh with pending := ((runs.getLastD []).splitOn newline).getLastD [] } ∧
      newline ∉ ran.1.pending ∧
      ∀ calls', Sink.runs calls' = runs →
        ((Sink.lines fresh).calls calls').1 = ran.1 ∧
        ((Sink.lines fresh).calls calls').2.flatMap Sink.Reply.events =
          ran.2.flatMap Sink.Reply.events := by
  intro fresh runs ran
  have whole (calls : List Sink.Call) :
      ((Sink.lines fresh).calls calls).1 =
          .lines { fresh with pending := heldOf (Sink.runs calls) } ∧
        ((Sink.lines fresh).calls calls).2.flatMap Sink.Reply.events =
          fresh.eventsOf (Sink.runs calls) := by
    have shown := callsShow (s := fresh) List.not_mem_nil calls
    have unchanged : (Sink.runs calls).modifyHead (fresh.pending ++ ·) = Sink.runs calls :=
      congrFun List.modifyHead_id _
    rwa [unchanged] at shown
  obtain ⟨sink, events⟩ := whole calls
  refine ⟨Sink.callsTaken _ calls, events, sink, ?_, fun calls' same => ?_⟩
  · rw [show ran.1 = _ from sink]
    exact heldClean _
  · obtain ⟨sink', events'⟩ := whole calls'
    rw [same] at sink' events'
    exact ⟨sink'.trans sink.symm, events'.trans events.symm⟩

theorem runsShownCut :
    let whole : List Sink.Call := [.write [0xC3, 0xA9, 0x0D, 0x0A, 0x61], .flush, .write [0x62]]
    let cut : List Sink.Call :=
      [.write [0xC3], .write [0xA9, 0x0D], .write [0x0A, 0x61], .flush, .write [], .write [0x62]]
    Sink.runs cut = Sink.runs whole ∧
      ((Sink.lines {}).calls cut).1 = ((Sink.lines {}).calls whole).1 ∧
      ((Sink.lines {}).calls cut).1.pending = [0x62] ∧
      ((Sink.lines {}).calls cut).2.flatMap Sink.Reply.events =
        [.line "engine output" "é" [], .line "engine output" "a" []] := by
  intro whole cut
  have same : Sink.runs cut = Sink.runs whole := by decide
  obtain ⟨-, events, sink, -, alike⟩ := runsShown "engine output" [] whole
  obtain ⟨sink', events'⟩ := alike cut same
  refine ⟨same, sink', ?_, ?_⟩
  · rw [sink', sink]
    decide
  · rw [events', events]
    have first : texts [[0xC3, 0xA9, 0x0D], [0x61]] = [['é'], ['a']] := by decide +kernel
    change ((texts [[0xC3, 0xA9, 0x0D], [0x61]]).map _ ++ []) ++ (texts []).map _ = _
    rw [first]
    rfl

end LineSink
end ContainerDriver
