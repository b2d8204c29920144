import ContainerDriver.Proofs.Engine.Attempts

/-! Sinks replayed. All that happens to a sink is on record at the time when it happens, so the
record alone tells what a sink of the caller has become, at its end and at each moment before. -/
namespace ContainerDriver

namespace Entry

def isCommand : Entry → Bool
  | event e => e.isCommand
  | attempt _ => true
  | _ => false

theorem loggedAside {e : Entry} (logged : e.isLogged = true) : e.isCommand = false := by
  cases e with
  | event e => cases e <;> first | rfl | cases logged
  | attempt => cases logged
  | _ => rfl

def act? : Entry → Option Act
  | wrote id data => some (.call id (.write data))
  | flushed id => some (.call id .flush)
  | received id data => some (.receive id data)
  | _ => none

end Entry

def Sink.replay (id : SinkId) (s : Sink) (entries : List Entry) : Sink :=
  ((entries.filterMap Entry.act?).filter (·.sink = id)).foldl Sink.act s

namespace Sink

theorem replayAppend (id : SinkId) (s : Sink) (front back : List Entry) :
    s.replay id (front ++ back) = (s.replay id front).replay id back := by
  simp only [replay, List.filterMap_append, List.filter_append, List.foldl_append]

theorem replayIdle {entries : List Entry} (idle : entries.filterMap Entry.act? = []) (id : SinkId)
    (s : Sink) : s.replay id entries = s := by
  rw [replay, idle]
  rfl

theorem actsDescriptor (s : Sink) (acts : List Act) :
    (acts.foldl act s).hasDescriptor = s.hasDescriptor := by
  induction acts generalizing s with
  | nil => rfl
  | cons a rest ih => exact (ih _).trans (s.actDescriptor a)

theorem replayDescriptor (id : SinkId) (s : Sink) (entries : List Entry) :
    (s.replay id entries).hasDescriptor = s.hasDescriptor := s.actsDescriptor _

theorem eventsIdle (es : List Event) : (es.map Entry.event).filterMap Entry.act? = [] := by
  simp [List.filterMap_eq_nil_iff, Entry.act?]

theorem entriesSink (s : Sink) (a : Act) :
    (s.entries a).filterMap Entry.act? = [a] ∨
      (s.entries a).filterMap Entry.act? = [] ∧ s.act a = s := by
  cases a with
  | call id c =>
    cases c with
    | write data => exact .inl rfl
    | flush =>
      cases can : s.canFlush with
      | true => exact .inl (by simp [entries, can, Entry.act?])
      | false => exact .inr (by simp [entries, can, act, call, flushStill can])
  | receive id data =>
    cases open' : s.hasDescriptor with
    | true => exact .inl (by simp [entries, open', Entry.act?])
    | false => exact .inr (by simp [entries, open', act, receiveStill open'])

theorem replayAct (s : Sink) (a : Act) : s.replay a.sink (s.entries a) = s.act a := by
  rcases s.entriesSink a with shown | ⟨hidden, still⟩
  · simp [replay, shown]
  · rw [replayIdle hidden, still]

theorem replayAside {a : Act} {id : SinkId} (aside : a.sink ≠ id) (s t : Sink) :
    t.replay id (s.entries a) = t := by
  rcases s.entriesSink a with shown | ⟨hidden, -⟩
  · simp [replay, shown, aside]
  · exact replayIdle hidden _ _

theorem entriesQuiet (s : Sink) (a : Act) :
    (s.entries a ++ (s.made a).map Entry.event).filter Entry.isCommand = [] := by
  refine List.filter_eq_nil_iff.mpr fun e mem command => ?_
  rw [← World.entriesLogged, List.mem_filter] at mem
  exact Bool.false_ne_true ((Entry.loggedAside mem.2).symm.trans command)

end Sink

namespace Bridge

def ending (p : Child) : List Act :=
  World.deliveries p.stdout p.stderr p.chunks ++
    match p.forwarder with
    | none => []
    | some id => writing id (Chunk.stderrOf p.chunks) ++ [.call id .flush]

end Bridge

namespace World

theorem finishActs (w : World) (p : Child) : w.finish p = w.enact (Bridge.ending p) := by
  rw [finish, Bridge.ending, enactAppend, ← deliverEnacts]
  cases p.forwarder with
  | none => rfl
  | some id =>
    rw [enactAppend, Bridge.writing]
    by_cases silent : Chunk.stderrOf p.chunks = []
    · rw [if_neg (not_not.mpr silent)]
      simp only [if_pos silent]
      rfl
    · rw [if_pos silent]
      simp only [if_neg silent]
      rfl

theorem settleActs (w : World) :
    w.settle = { w.enact (w.processes.flatMap Bridge.ending) with processes := [] } := by
  have all (ps : List Child) (v : World) :
      ps.foldl finish v = v.enact (ps.flatMap Bridge.ending) := by
    induction ps generalizing v with
    | nil => rfl
    | cons p rest ih => rw [List.foldl_cons, ih, finishActs, List.flatMap_cons, enactAppend]
  rw [settle, all]

/-- From one world to the other these entries came on record, and the sinks of the caller are what
the record makes of them. -/
structure Tells (w w' : World) (new : List Entry) : Prop where
  journal : w'.journal = w.journal ++ new
  sinks : ∀ name, w'.sink? (.given name) = (w.sink? (.given name)).map (·.replay (.given name) new)

namespace Tells

variable {w w' w'' : World} {new new' : List Entry}

theorem nothing (w : World) : Tells w w [] :=
  ⟨(List.append_nil _).symm, fun _ => Option.map_id'.symm⟩

theorem trans (first : Tells w w' new) (later : Tells w' w'' new') : Tells w w'' (new ++ new') where
  journal := by rw [later.journal, first.journal, List.append_assoc]
  sinks name := by
    rw [later.sinks, first.sinks, Option.map_map]
    exact Option.map_congr fun s _ => (s.replayAppend _ _ _).symm

theorem alike (told : Tells w w' new) (sinks : w''.sinks = w'.sinks)
    (journal : w''.journal = w'.journal) : Tells w w'' new where
  journal := journal.trans told.journal
  sinks name := (congrArg (Table.get? _) sinks).trans (told.sinks name)

theorem record (w : World) {e : Entry} (idle : e.act? = none) : Tells w (w.record e) [e] := by
  refine ⟨rfl, fun name => ?_⟩
  have same (s : Sink) : s.replay (.given name) [e] = s := Sink.replayIdle (by simp [idle]) _ s
  simp only [same]
  exact Option.map_id'.symm

theorem opened (w : World) (context : List (String × Value)) :
    Tells w (w.opened context none).2 [] := by
  refine ⟨(List.append_nil _).symm, fun name => ?_⟩
  have other : (w.opened context none).2.sink? (.given name) = w.sink? (.given name) :=
    (sinkPut w (.own w.ownSinks) (.given name) _).trans (if_neg (by simp))
  rw [other]
  exact Option.map_id'.symm

theorem act (w : World) (a : Act) :
    ∃ new, Tells w (w.act a) new ∧ new.filter Entry.isCommand = [] := by
  cases known : w.sink? a.sink with
  | none => exact ⟨[], by rw [actUnknown known]; exact nothing w, rfl⟩
  | some s =>
    refine ⟨s.entries a ++ (s.made a).map .event, ⟨?_, fun name => ?_⟩, s.entriesQuiet a⟩
    · rw [actKnown known, List.append_assoc]
    · rw [sinkAct]
      simp only [Sink.replayAppend, Sink.replayIdle (Sink.eventsIdle _)]
      split
      · next same =>
        rw [← same, known, Option.map_some, Option.map_some, s.replayAct]
      · next aside =>
        simp only [Sink.replayAside aside]
        exact Option.map_id'.symm

theorem enact (w : World) (acts : List Act) :
    ∃ new, Tells w (w.enact acts) new ∧ new.filter Entry.isCommand = [] := by
  induction acts generalizing w with
  | nil => exact ⟨[], nothing w, rfl⟩
  | cons a rest ih =>
    obtain ⟨here, tells, quiet⟩ := act w a
    obtain ⟨later, tells', quiet'⟩ := ih (w.act a)
    exact ⟨here ++ later, tells.trans tells', by rw [List.filter_append, quiet, quiet']; rfl⟩

theorem events (w : World) (es : List Event) : Tells w (w.recordEvents es) (es.map .event) := by
  refine ⟨rfl, fun name => ?_⟩
  simp only [Sink.replayIdle (Sink.eventsIdle es)]
  exact Option.map_id'.symm

theorem spawn (w : World) (s : Spawn) (before after : List Act) :
    ∃ front back,
      Tells w ((w.record (.event (.running s.attempt.command.render))).enact before) front ∧
      front.filter Entry.isCommand = [.event (.running s.attempt.command.render)] ∧
      Tells w (w.spawn s before after) (front ++ .attempt s.attempt :: back) ∧
      back.filter Entry.isCommand = s.closing.map .event := by
  let announced := (w.record (.event (.running s.attempt.command.render))).enact before
  obtain ⟨front, told, quiet⟩ :=
    enact (w.record (.event (.running s.attempt.command.render))) before
  obtain ⟨back, told', quiet'⟩ := enact (announced.tried s.attempt) after
  have running : Tells w announced (.event (.running s.attempt.command.render) :: front) :=
    (record w (e := .event _) rfl).trans told
  have tried : Tells announced (announced.tried s.attempt) [.attempt s.attempt] :=
    (record announced (e := .attempt s.attempt) rfl).alike rfl rfl
  have left : Tells ((announced.tried s.attempt).enact after) (w.spawn s before after)
      (s.closing.map .event) := (events _ s.closing).alike rfl rfl
  have closing : (s.closing.map Entry.event).filter Entry.isCommand = s.closing.map .event := by
    refine List.filter_eq_self.mpr fun e mem => ?_
    obtain ⟨said, there, rfl⟩ := List.mem_map.mp mem
    exact s.closingCommand there
  have whole := (running.trans tried).trans (told'.trans left)
  rw [List.append_assoc] at whole
  refine ⟨_, back ++ s.closing.map Entry.event, running, ?_, whole, ?_⟩
  · rw [List.filter_cons_of_pos rfl, quiet]
  · rw [List.filter_append, quiet', closing, List.nil_append]

theorem settle (w : World) :
    ∃ new, Tells w w.settle new ∧ new.filter Entry.isCommand = [] := by
  obtain ⟨new, told, quiet⟩ := enact w (w.processes.flatMap Bridge.ending)
  rw [settleActs]
  exact ⟨new, told.alike rfl rfl, quiet⟩

theorem step {c : Client} {log : Option SinkId} {s : Step}
    (told : Tells w (w.step c log s).2 new) : (w.step c log s).1.journal = new :=
  (congrArg (List.drop w.journal.length) told.journal).trans List.drop_left

end Tells
end World
end ContainerDriver
