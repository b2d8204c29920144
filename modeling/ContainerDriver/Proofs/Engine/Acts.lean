import ContainerDriver.Proofs.Engine.Keeping
import ContainerDriver.Proofs.Engine.LineSink

/-! What is done to sinks, act by act. A sink is what its own acts have made of it, and the lines of
output on record are those that line sinks made, so a sequence of acts is accounted for sink by
sink: the bytes that it brought to each, and the lines that came of them. -/
namespace ContainerDriver

inductive Act where
  | call (sink : SinkId) (c : Sink.Call)
  | receive (sink : SinkId) (data : Bytes)

def Act.sink : Act → SinkId
  | call id _ | receive id _ => id

namespace Sink

def act (s : Sink) : Act → Sink
  | .call _ c => (s.call c).1
  | .receive _ data => s.receive data

def brought (s : Sink) : Act → Bytes
  | .call _ c => c.bytes
  | .receive _ data => if s.hasDescriptor then data else []

def entries (s : Sink) : Act → List Entry
  | .call id (.write data) => [.wrote id data]
  | .call id .flush => if s.canFlush then [.flushed id] else []
  | .receive id data => if s.hasDescriptor then [.received id data] else []

def made (s : Sink) : Act → List Event
  | .call _ c => (s.call c).2.events
  | .receive _ _ => []

def isLines : Sink → Bool
  | lines _ => true
  | _ => false

def appended : Sink → Bytes → Sink
  | memory content, data => memory (content ++ data)
  | bare content, data => bare (content ++ data)
  | s, _ => s

theorem flushStill {s : Sink} (still : s.canFlush = false) : s.flush = (s, []) := by
  cases s with
  | bare | null => rfl
  | memory | file | lines => cases still

theorem receiveStill {s : Sink} (plain : s.hasDescriptor = false) (data : Bytes) :
    s.receive data = s := by
  cases s with
  | file => cases plain
  | memory | bare | null | lines => rfl

theorem actDescriptor (s : Sink) (a : Act) : (s.act a).hasDescriptor = s.hasDescriptor := by
  cases a with
  | call id c => cases c <;> cases s <;> rfl
  | receive id data => cases s <;> rfl

theorem actLines (s : Sink) (a : Act) : (s.act a).isLines = s.isLines := by
  cases a with
  | call id c => cases c <;> cases s <;> rfl
  | receive id data => cases s <;> rfl

theorem madeSilent {s : Sink} (other : s.isLines = false) (a : Act) : s.made a = [] := by
  cases s with
  | lines => cases other
  | memory | file | bare | null =>
    cases a with
    | call id c => cases c <;> rfl
    | receive id data => rfl

def callsOf (acts : List Act) : List Call :=
  acts.filterMap fun
    | .call _ c => some c
    | .receive _ _ => none

theorem actsCalls {s : Sink} (plain : s.hasDescriptor = false) (acts : List Act) :
    acts.foldl act s = (s.calls (callsOf acts)).1 := by
  induction acts generalizing s with
  | nil => rfl
  | cons a rest ih =>
    have later := ih ((s.actDescriptor a).trans plain)
    cases a with
    | call id c => exact later
    | receive id data =>
      rw [List.foldl_cons, later, act, receiveStill plain]
      rfl

theorem callsAppended {s : Sink} (plain : s.hasDescriptor = false) (other : s.isLines = false)
    (calls : List Call) : (s.calls calls).1 = s.appended (calls.flatMap Call.bytes) := by
  induction calls generalizing s with
  | nil => cases s <;> simp [Sink.calls, appended]
  | cons c rest ih =>
    cases s with
    | file => cases plain
    | lines => cases other
    | memory | bare | null =>
      cases c with
      | write data => exact (ih rfl rfl).trans (by simp [call, write, appended, Call.bytes])
      | flush => exact ih rfl rfl

theorem broughtCalls {s : Sink} (plain : s.hasDescriptor = false) (acts : List Act) :
    acts.flatMap s.brought = (callsOf acts).flatMap Call.bytes := by
  induction acts with
  | nil => rfl
  | cons a rest ih =>
    rw [List.flatMap_cons, ih]
    cases a with
    | call id c => rfl
    | receive id data =>
      simp only [brought, plain, Bool.false_eq_true, if_false, List.nil_append]
      rfl

theorem callsSilent {s : Sink} (other : s.isLines = false) (calls : List Call) :
    (s.calls calls).2.flatMap Reply.events = [] := by
  induction calls generalizing s with
  | nil => rfl
  | cons c rest ih =>
    -- The sink does not matter to what one call makes of it, so any will do here.
    let a : Act := .call (.own 0) c
    have later := ih ((s.actLines a).trans other)
    have here : s.made a = [] := madeSilent other a
    rw [Sink.calls, List.flatMap_cons]
    exact (congrArg₂ (· ++ ·) here later)

def block (datas : List Bytes) : List Call := datas.map .write ++ [.flush]

theorem runsBlock (datas : List Bytes) (rest : List Call) :
    runs (block datas ++ rest) = datas.flatten :: runs rest := by
  induction datas with
  | nil => exact runsFlush rest
  | cons data datas ih =>
    rw [block] at ih
    rw [block, List.map_cons, List.cons_append, List.cons_append, runsWrite, ih,
      List.modifyHead_cons, List.flatten_cons]

theorem runsBlocks (blocks : List (List Bytes)) :
    runs (blocks.flatMap block) = blocks.map List.flatten ++ [[]] := by
  induction blocks with
  | nil => simp [runs]
  | cons datas rest ih => rw [List.flatMap_cons, runsBlock, ih, List.map_cons, List.cons_append]

theorem blocksBytes (blocks : List (List Bytes)) :
    (blocks.flatMap block).flatMap Call.bytes = blocks.flatten.flatten := by
  have one (datas : List Bytes) : (block datas).flatMap Call.bytes = datas.flatten := by
    simp [block, Call.bytes, List.flatMap_map, List.flatMap_id']
  rw [List.flatMap_assoc]
  simp only [one]
  rw [List.flatten_flatten, List.flatMap_def]

end Sink

namespace LineSink

def Ended (b : Bytes) : Prop := b = [] ∨ b.getLast? = some newline

theorem splitLine (front b : Bytes) :
    (front ++ newline :: b).splitOn newline = front.splitOn newline ++ b.splitOn newline := by
  rw [← Bytes.splitIsSplitOn, ← Bytes.splitIsSplitOn, ← Bytes.splitIsSplitOn]
  induction front with
  | nil => exact Bytes.splitSeparator b
  | cons x rest ih =>
    by_cases same : x = newline
    · subst same
      rw [List.cons_append, Bytes.splitSeparator, Bytes.splitSeparator, ih, List.cons_append]
    · obtain ⟨head, tail, later⟩ := List.exists_cons_of_ne_nil (Bytes.splitNeNil newline rest)
      rw [later, List.cons_append] at ih
      rw [List.cons_append, Bytes.splitOther same ih, Bytes.splitOther same later,
        List.cons_append]

theorem showsNothing (s : LineSink) : s.shows [[]] = [] := by
  simp [shows, texts, Text.Utf8.decodeReplacing, Text.Utf8.pieces]

theorem showsEnded (s : LineSink) {a : Bytes} (ended : Ended a) (b : Bytes) :
    s.shows ((a ++ b).splitOn newline) =
      s.shows (a.splitOn newline) ++ s.shows (b.splitOn newline) := by
  rcases ended with rfl | last
  · exact (congrArg (· ++ s.shows (b.splitOn newline)) s.showsNothing).symm
  · obtain ⟨front, rfl⟩ := List.getLast?_eq_some_iff.mp last
    have part : (front ++ [newline]).splitOn newline = front.splitOn newline ++ [[]] :=
      splitLine front []
    rw [part, List.append_assoc, List.singleton_append, splitLine, showsAppend, showsAppend,
      showsNothing, List.append_nil]

theorem showsJoined (s : LineSink) {blocks : List (List Bytes)}
    (ended : ∀ datas ∈ blocks.dropLast, Ended datas.flatten) :
    blocks.flatMap (fun datas => s.shows (datas.flatten.splitOn newline)) =
      s.shows (blocks.flatten.flatten.splitOn newline) := by
  induction blocks with
  | nil => exact s.showsNothing.symm
  | cons datas rest ih =>
    cases rest with
    | nil => simp
    | cons next more =>
      rw [List.dropLast_cons_cons] at ended
      obtain ⟨here, later⟩ := List.forall_mem_cons.mp ended
      have whole : (datas :: next :: more).flatten.flatten =
          datas.flatten ++ (next :: more).flatten.flatten := by
        rw [List.flatten_cons, List.flatten_append]
      rw [List.flatMap_cons, ih later, whole, s.showsEnded here]

theorem blocksShown {s : LineSink} (idle : s.pending = []) {blocks : List (List Bytes)}
    (ended : ∀ datas ∈ blocks.dropLast, Ended datas.flatten) :
    ((Sink.lines s).calls (blocks.flatMap Sink.block)).1 = .lines s ∧
      ((Sink.lines s).calls (blocks.flatMap Sink.block)).2.flatMap Sink.Reply.events =
        s.shows (blocks.flatten.flatten.splitOn newline) := by
  have clean : newline ∉ s.pending := by simp [idle]
  obtain ⟨sink, events⟩ := callsShow clean (blocks.flatMap Sink.block)
  have unchanged : (Sink.runs (blocks.flatMap Sink.block)).modifyHead (s.pending ++ ·) =
      blocks.map List.flatten ++ [[]] := by
    rw [idle, Sink.runsBlocks]
    exact congrFun List.modifyHead_id _
  rw [unchanged] at sink events
  constructor
  · have held : heldOf (blocks.map List.flatten ++ [[]]) = [] := by
      rw [heldOf, List.getLastD_concat]
      rfl
    rw [sink, held, ← idle]
  · rw [events, eventsOf, List.dropLast_concat, List.getLastD_concat, List.flatMap_map,
      s.showsJoined ended]
    exact List.append_nil _

end LineSink

theorem Table.setSame {κ α : Type} [DecidableEq κ] {t : List (κ × α)} {k : κ} {v : α}
    (has : get? k t = some v) : set k v t = t := by
  induction t with
  | nil => cases has
  | cons e rest ih =>
    rw [get?] at has
    rw [set]
    split at has
    · next same =>
      cases has
      rw [if_pos same, ← same]
    · next other => rw [if_neg other, ih has]

namespace Entry

def bytesTo (id : SinkId) : Entry → Bytes
  | wrote id' data | received id' data => if id' = id then data else []
  | _ => []

def line? : Entry → Option Event
  | event e => if e.isControl then none else some e
  | _ => none

end Entry

namespace World

def call (w : World) (id : SinkId) : Sink.Call → World
  | .write data => w.write id data
  | .flush => w.flush id

def act (w : World) : Act → World
  | .call id c => w.call id c
  | .receive id data => w.receive id data

def enact (w : World) (acts : List Act) : World := acts.foldl act w

def sent (w : World) (id : SinkId) : Bytes := w.journal.flatMap (Entry.bytesTo id)

def displayed (w : World) : List Event := w.journal.filterMap Entry.line?

theorem actUnknown {w : World} {a : Act} (unknown : w.sink? a.sink = none) : w.act a = w := by
  cases a with
  | call id c =>
    change w.sink? id = none at unknown
    cases c with
    | write data => simp only [act, call, write, unknown]
    | flush => simp only [act, call, flush, unknown]
  | receive id data =>
    change w.sink? id = none at unknown
    simp only [act, receive, unknown]

theorem actKnown {w : World} {a : Act} {s : Sink} (known : w.sink? a.sink = some s) : w.act a =
    { w with
      sinks := Table.set a.sink (s.act a) w.sinks
      journal := w.journal ++ s.entries a ++ (s.made a).map .event } := by
  have same : w = { w with sinks := Table.set a.sink s w.sinks } := by rw [Table.setSame known]
  cases a with
  | call id c =>
    change w.sink? id = some s at known
    cases c with
    | write data =>
      simp only [act, call, write, known]
      rfl
    | flush =>
      simp only [act, call, flush, known]
      split
      · next can =>
        simp only [Sink.entries, if_pos can]
        rfl
      · next still =>
        have stays := Sink.flushStill (Bool.not_eq_true _ ▸ still)
        simp only [Sink.entries, if_neg still, Sink.made, Sink.act, Sink.call, stays,
          List.append_nil, List.map_nil]
        exact same
  | receive id data =>
    change w.sink? id = some s at known
    simp only [act, receive, known]
    split
    · next open' =>
      simp only [Sink.entries, if_pos open', Sink.made, List.map_nil, List.append_nil]
      rfl
    · next plain =>
      have stays := Sink.receiveStill (Bool.not_eq_true _ ▸ plain) data
      simp only [Sink.entries, if_neg plain, Sink.made, Sink.act, stays, List.append_nil,
        List.map_nil]
      exact same

theorem sinkAct (w : World) (a : Act) (id : SinkId) : (w.act a).sink? id =
    if a.sink = id then (w.sink? id).map (Sink.act · a) else w.sink? id := by
  cases known : w.sink? a.sink with
  | none =>
    rw [actUnknown known]
    split
    · next same => rw [← same, known, Option.map_none]
    · rfl
  | some s =>
    rw [actKnown known]
    change Table.get? id (Table.set _ _ _) = _
    rw [Table.getSet]
    split
    · next same => rw [← same, known, Option.map_some]
    · rfl

theorem madeLines (s : Sink) (a : Act) : ∀ e ∈ s.made a, e.isControl = false := by
  cases a with
  | call id c =>
    cases c with
    | write data => exact s.writeLines data
    | flush => exact s.flushLines
  | receive id data => simp [Sink.made]

theorem displayedAct (w : World) (a : Act) : (w.act a).displayed =
    w.displayed ++ ((w.sink? a.sink).map (Sink.made · a)).getD [] := by
  cases known : w.sink? a.sink with
  | none => rw [actUnknown known, Option.map_none, Option.getD_none, List.append_nil]
  | some s =>
    have quiet : (s.entries a).filterMap Entry.line? = [] := by
      cases a with
      | call id c =>
        cases c with
        | write data => rfl
        | flush => cases can : s.canFlush <;> simp [Sink.entries, can, Entry.line?]
      | receive id data => cases open' : s.hasDescriptor <;> simp [Sink.entries, open', Entry.line?]
    have lines : ((s.made a).map Entry.event).filterMap Entry.line? = s.made a := by
      have line : ∀ e ∈ s.made a, (Entry.line? ∘ Entry.event) e = some e :=
        fun e mem => if_neg (by simp [madeLines s a e mem])
      rw [List.filterMap_map, List.filterMap_congr line]
      exact List.filterMap_some
    rw [actKnown known, displayed, List.filterMap_append, List.filterMap_append, quiet, lines,
      List.append_nil]
    rfl

theorem sentAct {w : World} {id : SinkId} {s : Sink} (has : w.sink? id = some s) (a : Act) :
    (w.act a).sent id = w.sent id ++ if a.sink = id then s.brought a else [] := by
  cases known : w.sink? a.sink with
  | none =>
    have other : a.sink ≠ id := by
      rintro rfl
      cases has.symm.trans known
    rw [actUnknown known, if_neg other, List.append_nil]
  | some t =>
    have none' : ((t.made a).map Entry.event).flatMap (Entry.bytesTo id) = [] := by
      simp [List.flatMap_map, Entry.bytesTo]
    have some' : (t.entries a).flatMap (Entry.bytesTo id) =
        if a.sink = id then t.brought a else [] := by
      cases a with
      | call id' c =>
        cases c with
        | write data => exact List.append_nil _
        | flush =>
          cases can : t.canFlush <;>
            simp [Sink.entries, can, Entry.bytesTo, Sink.brought, Sink.Call.bytes]
      | receive id' data =>
        cases open' : t.hasDescriptor with
        | false => simp [Sink.entries, open', Sink.brought]
        | true =>
          simp only [Sink.entries, open', Sink.brought, if_true]
          exact List.append_nil _
    rw [actKnown known, sent, List.flatMap_append, List.flatMap_append, none', some',
      List.append_nil]
    by_cases same : a.sink = id
    · rw [← same, known] at has
      cases has
      rfl
    · rw [if_neg same, if_neg same]
      rfl

theorem enactSink (w : World) (acts : List Act) (id : SinkId) : (w.enact acts).sink? id =
    (w.sink? id).map fun s => (acts.filter (·.sink = id)).foldl Sink.act s := by
  induction acts generalizing w with
  | nil => exact Option.map_id'.symm
  | cons a rest ih =>
    rw [enact, List.foldl_cons, ← enact, ih, sinkAct]
    by_cases same : a.sink = id
    · rw [if_pos same, List.filter_cons_of_pos (by simpa using same), Option.map_map]
      rfl
    · rw [if_neg same, List.filter_cons_of_neg (by simpa using same)]

theorem broughtAct (s : Sink) (a : Act) : (s.act a).brought = s.brought := by
  funext b
  cases b with
  | call id c => rfl
  | receive id data => rw [Sink.brought, Sink.brought, s.actDescriptor a]

theorem sentEnact {w : World} {id : SinkId} {s : Sink} (has : w.sink? id = some s)
    (acts : List Act) :
    (w.enact acts).sent id = w.sent id ++ (acts.filter (·.sink = id)).flatMap s.brought := by
  induction acts generalizing w s with
  | nil => simp [enact]
  | cons a rest ih =>
    have step := sentAct has a
    have next := sinkAct w a id
    rw [enact, List.foldl_cons, ← enact]
    by_cases same : a.sink = id
    · rw [if_pos same, has, Option.map_some] at next
      rw [ih next, step, if_pos same, broughtAct, List.filter_cons_of_pos (by simpa using same),
        List.flatMap_cons, List.append_assoc]
    · rw [if_neg same, has] at next
      rw [ih next, step, if_neg same, List.append_nil,
        List.filter_cons_of_neg (by simpa using same)]

theorem displayedEnact {w : World} {id : SinkId} {s : Sink} (has : w.sink? id = some s)
    (plain : s.hasDescriptor = false) (acts : List Act) :
    ∃ shown, (w.enact acts).displayed = w.displayed ++ shown ∧
      ((s.calls (Sink.callsOf (acts.filter (·.sink = id)))).2.flatMap Sink.Reply.events).Sublist
        shown ∧
      ((∀ a ∈ acts, a.sink ≠ id → ∀ t, w.sink? a.sink = some t → t.isLines = false) →
        shown = (s.calls (Sink.callsOf (acts.filter (·.sink = id)))).2.flatMap
          Sink.Reply.events) := by
  induction acts generalizing w s with
  | nil => exact ⟨[], by simp [enact, Sink.callsOf, Sink.calls]⟩
  | cons a rest ih =>
    have step := displayedAct w a
    have next := sinkAct w a id
    have still (others : ∀ b ∈ rest, b.sink ≠ id →
        ∀ t, w.sink? b.sink = some t → t.isLines = false) : ∀ b ∈ rest, b.sink ≠ id →
        ∀ t, (w.act a).sink? b.sink = some t → t.isLines = false := by
      intro b mem other t found
      rw [sinkAct] at found
      split at found
      · obtain ⟨u, old, rfl⟩ := Option.map_eq_some_iff.mp found
        exact (u.actLines a).trans (others b mem other u old)
      · exact others b mem other t found
    rw [enact, List.foldl_cons, ← enact]
    by_cases same : a.sink = id
    · rw [if_pos same, has, Option.map_some] at next
      rw [same, has, Option.map_some, Option.getD_some] at step
      obtain ⟨shown, more, part, whole⟩ := ih next ((s.actDescriptor a).trans plain)
      have first : (s.calls (Sink.callsOf ((a :: rest).filter (·.sink = id)))).2.flatMap
          Sink.Reply.events = s.made a ++
            ((s.act a).calls (Sink.callsOf (rest.filter (·.sink = id)))).2.flatMap
              Sink.Reply.events := by
        rw [List.filter_cons_of_pos (by simpa using same)]
        cases a with
        | call id' c => rfl
        | receive id' data =>
          rw [Sink.act, Sink.receiveStill plain]
          rfl
      rw [first]
      refine ⟨s.made a ++ shown, by rw [more, step, List.append_assoc],
        part.append_left _, fun others => ?_⟩
      rw [whole (still (List.forall_mem_cons.mp others).2)]
    · rw [if_neg same, has] at next
      obtain ⟨shown, more, part, whole⟩ := ih next plain
      rw [List.filter_cons_of_neg (by simpa using same)]
      refine ⟨((w.sink? a.sink).map (Sink.made · a)).getD [] ++ shown,
        by rw [more, step, List.append_assoc], part.trans (List.sublist_append_right _ _),
        fun others => ?_⟩
      have silent : ((w.sink? a.sink).map (Sink.made · a)).getD [] = [] := by
        cases known : w.sink? a.sink with
        | none => rfl
        | some t => exact Sink.madeSilent (others a List.mem_cons_self same t known) a
      rw [silent, whole (still (List.forall_mem_cons.mp others).2), List.nil_append]

def voice (w : World) (id : SinkId) (data : Bytes) : List Event :=
  match w.sink? id with
  | some (.lines s) => s.shows (data.splitOn LineSink.newline)
  | _ => []

/-- From one world to the other each sink got its bytes and nothing else. Sinks in memory have them
at the end of what they keep. If the log is a line sink that held nothing back, it still does not,
and the lines of its bytes are on record; no others are unless the output goes to one more line
sink. -/
structure Routed (w w' : World) (log : SinkId) (target : Option SinkId) (bytes : SinkId → Bytes) :
    Prop where
  sent : ∀ id s, w.sink? id = some s → w'.sent id = w.sent id ++ bytes id
  kept : ∀ id s, w.sink? id = some s → s.hasDescriptor = false → s.isLines = false →
    w'.sink? id = some (s.appended (bytes id))
  others : ∀ id, id ≠ log → target ≠ some id → w'.sink? id = w.sink? id
  lines : ∀ s, w.sink? log = some (.lines s) → s.pending = [] → w'.sink? log = some (.lines s)
  displayed : (∀ s, w.sink? log = some (.lines s) → s.pending = []) →
    ∃ shown, w'.displayed = w.displayed ++ shown ∧ (w.voice log (bytes log)).Sublist shown ∧
      ((∀ id t, target = some id → id ≠ log → w.sink? id = some t → t.isLines = false) →
        shown = w.voice log (bytes log))

theorem enactKept {w : World} {id : SinkId} {s : Sink} (has : w.sink? id = some s)
    (plain : s.hasDescriptor = false) (other : s.isLines = false) (acts : List Act) :
    (w.enact acts).sink? id =
      some (s.appended ((acts.filter (·.sink = id)).flatMap s.brought)) := by
  rw [enactSink, has, Option.map_some, Sink.actsCalls plain, Sink.callsAppended plain other,
    ← Sink.broughtCalls plain]

variable {w : World} {log : SinkId} {s : Sink} {acts : List Act} {blocks : List (List Bytes)}
  {target : Option SinkId} {bytes : SinkId → Bytes}

theorem enactRouted (known : w.sink? log = some s) (plain : s.hasDescriptor = false)
    (onLog : Sink.callsOf (acts.filter (·.sink = log)) = blocks.flatMap Sink.block)
    (ended : ∀ datas ∈ blocks.dropLast, LineSink.Ended datas.flatten)
    (own : bytes log = blocks.flatten.flatten)
    (elsewhere : ∀ id t, id ≠ log → w.sink? id = some t →
      (acts.filter (·.sink = id)).flatMap t.brought = bytes id)
    (inside : ∀ a ∈ acts, a.sink = log ∨ target = some a.sink) :
    w.Routed (w.enact acts) log target bytes := by
  have brought (id : SinkId) (t : Sink) (has : w.sink? id = some t) :
      (acts.filter (·.sink = id)).flatMap t.brought = bytes id := by
    by_cases same : id = log
    · subst same
      cases known.symm.trans has
      rw [Sink.broughtCalls plain, onLog, Sink.blocksBytes, own]
    · exact elsewhere id t same has
  exact {
    sent := fun id t has => by rw [sentEnact has, brought id t has]
    kept := fun id t has plain other => by rw [enactKept has plain other, brought id t has]
    others := fun id other away => by
      have none' : acts.filter (·.sink = id) = [] := by
        refine List.filter_eq_nil_iff.mpr fun a mem => ?_
        rcases inside a mem with here | there
        · simpa [here] using Ne.symm other
        · simp only [decide_eq_true_eq]
          exact fun same => away (same ▸ there)
      rw [enactSink, none']
      exact Option.map_id'
    lines := fun t has idle => by
      rw [enactSink, has, Option.map_some, Sink.actsCalls rfl, onLog,
        (LineSink.blocksShown idle ended).1]
    displayed := fun idle => by
      obtain ⟨shown, more, part, whole⟩ := displayedEnact known plain acts
      have voiced : (s.calls (Sink.callsOf (acts.filter (·.sink = log)))).2.flatMap
          Sink.Reply.events = w.voice log (bytes log) := by
        rw [onLog, voice, known]
        cases s with
        | lines s => rw [(LineSink.blocksShown (idle s known) ended).2, own]
        | memory | file | bare | null => exact Sink.callsSilent rfl _
      rw [voiced] at part whole
      refine ⟨shown, more, part, fun others => whole fun a mem other t has => ?_⟩
      exact others a.sink t ((inside a mem).resolve_left other) other has }

end World
end ContainerDriver
