import ContainerDriver.Proofs.Engine.Closing
import ContainerDriver.Proofs.Engine.Replay

/-! The journal of engine commands. In every session what is on record of commands is, for each
attempt in its turn, that it runs, the attempt, and how it ended or that it was started if it was
launched at all. A log in memory has one line for each of them and the output of the engine. Of a
command whose line cannot be shown it is only on record that it runs. -/
namespace ContainerDriver

namespace Spawn

def printed (s : Spawn) : Bytes :=
  if s.pid = none then Chunk.stderrOf s.attempt.answer.chunks ++
    (if s.echoed then Chunk.stdoutOf s.attempt.answer.chunks else [])
  else []

def late (s : Spawn) : Bytes := s.child?.toList.flatMap fun p => Chunk.stderrOf p.chunks

theorem endingBrought {s : Spawn} {id : SinkId} (same : s.log = id)
    (piped : s.attempt.stderr = .pipe) (content : Bytes) :
    ((s.child?.toList.flatMap Bridge.ending).filter (·.sink = id)).flatMap
      (Sink.memory content).brought = s.late := by
  unfold late child?
  split
  · next code chunks pid reply left =>
    simp only [Option.toList_some, List.flatMap_singleton, Bridge.ending, piped, if_true, same,
      List.filter_append, List.flatMap_append, Bridge.deliveriesBrought, Bridge.writingOn,
      Bridge.writingBrought, Bridge.flushingOn]
    simp [Sink.hasDescriptor, Sink.brought, Sink.Call.bytes]
  · rfl

end Spawn

/-- A command that was announced: it was tried, unless its line could not be shown. -/
inductive Announced where
  | tried (s : Spawn)
  | unshown (c : Command) (e : Text.Unencodable)

namespace Announced

def Holds (verbose : Bool) : Announced → Prop
  | tried s => s.attempt.command.unshown? verbose = none
  | unshown c e => c.unshown? verbose = some e

def entries : Announced → List Entry
  | tried s =>
    .event (.running s.attempt.command.render) :: .attempt s.attempt :: s.closing.map .event
  | unshown c _ => [.event (.running c.render)]

def spawn? : Announced → Option Spawn
  | tried s => some s
  | unshown _ _ => none

def child? (t : Announced) : Option Child := t.spawn?.bind Spawn.child?

def shown (verbose : Bool) : Announced → Bytes
  | tried s => Bridge.announcement verbose s.attempt.command ++ s.printed
  | unshown _ _ => []

def late : Announced → Bytes
  | tried s => s.late
  | unshown _ _ => []

end Announced

def Step.said (id : SinkId) : Step → Bytes
  | sinkWrite sink data => if sink = id then data else []
  | _ => []

/-- From one world to the other these commands were announced and nothing else was said of commands.
A log in memory has their lines and their output behind what was said to it. -/
structure World.Journaled (verbose : Bool) (starts : Prop) (log : Option SinkId)
    (said : SinkId → Bytes) (w w' : World) (turns : List Announced) : Prop where
  told : ∃ new, w.Tells w' new ∧ new.filter Entry.isCommand = turns.flatMap Announced.entries
  holds : ∀ t ∈ turns, t.Holds verbose
  processes : w'.processes = w.processes ++ turns.filterMap Announced.child?
  waited : ¬ starts → ∀ t ∈ turns, ∀ s ∈ t.spawn?, s.pid = none
  shown : ∀ id ∈ log, ∀ content, w.sink? id = some (.memory content) →
    (∀ t ∈ turns, ∀ s ∈ t.spawn?, s.log = id ∧ s.attempt.stderr = .pipe) ∧
    w'.sink? id = some (.memory (content ++ (said id ++ turns.flatMap (Announced.shown verbose))))

namespace World.Journaled

variable {verbose : Bool} {starts : Prop} {log : Option SinkId} {said : SinkId → Bytes}
  {w w' w'' : World} {turns later : List Announced}

theorem trans (first : Journaled verbose starts log said w w' turns)
    (next : Journaled verbose starts log (fun _ => []) w' w'' later) :
    Journaled verbose starts log said w w'' (turns ++ later) := by
  obtain ⟨new, told, commands⟩ := first.told
  obtain ⟨new', told', commands'⟩ := next.told
  refine ⟨⟨new ++ new', told.trans told', ?_⟩, List.forall_mem_append.mpr ⟨first.holds, next.holds⟩,
    ?_, fun none => ?_, fun id mem content has => ?_⟩
  · rw [List.filter_append, commands, commands', List.flatMap_append]
  · rw [next.processes, first.processes, List.filterMap_append, List.append_assoc]
  · exact List.forall_mem_append.mpr ⟨first.waited none, next.waited none⟩
  · obtain ⟨piped, shown⟩ := first.shown id mem content has
    obtain ⟨piped', shown'⟩ := next.shown id mem _ shown
    refine ⟨List.forall_mem_append.mpr ⟨piped, piped'⟩, ?_⟩
    simp only [shown', List.flatMap_append, List.nil_append, List.append_assoc]

theorem aside {new : List Entry} (told : w.Tells w' new) (quiet : new.filter Entry.isCommand = [])
    (processes : w'.processes = w.processes)
    (shown : ∀ id ∈ log, ∀ content, w.sink? id = some (.memory content) →
      w'.sink? id = some (.memory (content ++ said id))) :
    Journaled verbose starts log said w w' [] where
  told := ⟨new, told, quiet⟩
  holds _ mem := by cases mem
  processes := processes.trans (List.append_nil _).symm
  waited _ _ mem := by cases mem
  shown id mem content has := ⟨fun _ mem => (by cases mem), by simp [shown id mem content has]⟩

theorem still {new : List Entry} (told : w.Tells w' new) (quiet : new.filter Entry.isCommand = [])
    (processes : w'.processes = w.processes) (sinks : ∀ id ∈ log, w'.sink? id = w.sink? id) :
    Journaled verbose starts log (fun _ => []) w w' [] :=
  aside told quiet processes fun id mem content has => by
    rw [sinks id mem, has, List.append_nil]

theorem act {a : Act} (w : World)
    (brought : ∀ id ∈ log, a.sink = id → ∀ content, (Sink.memory content).brought a = said id)
    (others : ∀ id ∈ log, a.sink ≠ id → said id = []) :
    Journaled verbose starts log said w (w.act a) [] := by
  obtain ⟨new, told, quiet⟩ := Tells.act w a
  refine aside told quiet (processesDeaf.act w a) fun id mem content has => ?_
  refine (enactKept has rfl rfl [a]).trans ?_
  by_cases same : a.sink = id
  · simp [Sink.appended, same, brought id mem same]
  · simp [Sink.appended, same, others id mem same]

theorem spawn {s : Spawn} {before after : List Act}
    (holds : s.attempt.command.unshown? verbose = none) (waited : ¬ starts → s.pid = none)
    (shown : ∀ id ∈ log, ∀ content, w.sink? id = some (.memory content) →
      s.log = id ∧ s.attempt.stderr = .pipe ∧ (w.enact (before ++ after)).sink? id =
        some (.memory (content ++ (Bridge.announcement verbose s.attempt.command ++ s.printed)))) :
    Journaled verbose starts log (fun _ => []) w (w.spawn s before after) [.tried s] := by
  obtain ⟨front, back, -, front', told, back'⟩ := Tells.spawn w s before after
  refine ⟨⟨_, told, ?_⟩, List.forall_mem_singleton.mpr holds, ?_, ?_, fun id mem content has => ?_⟩
  · rw [List.filter_append, front', List.filter_cons_of_pos rfl, back']
    simp [Announced.entries]
  · rw [spawnProcesses]
    cases child : s.child? <;> simp [child, Announced.child?, Announced.spawn?]
  · simpa [Announced.spawn?] using waited
  · obtain ⟨same, piped, kept⟩ := shown id mem content has
    simp [same, piped, spawnSink, kept, Announced.spawn?, Announced.shown]

theorem unshown (w : World) {command : Command} {e : Text.Unencodable}
    (holds : command.unshown? verbose = some e) :
    Journaled verbose starts log (fun _ => []) w (w.record (.event (.running command.render)))
      [.unshown command e] where
  told := ⟨_, .record w rfl, rfl⟩
  holds := List.forall_mem_singleton.mpr holds
  processes := (List.append_nil _).symm
  waited _ := by simp [Announced.spawn?]
  shown id _ content has := by
    have same : (w.record (.event (.running command.render))).sink? id = w.sink? id := rfl
    refine ⟨by simp [Announced.spawn?], ?_⟩
    simp [Announced.shown, same, has]

theorem memoryPipes {id : SinkId} {content : Bytes} (has : w.sink? id = some (.memory content)) :
    Bridge.errorStream w id = .pipe := by
  exact if_neg (by simp [sinkPlain has rfl])

theorem completed (w : World) {command : Command} (input : Option Bytes) (output : Output)
    {id : SinkId} (holds : command.unshown? verbose = none) (same : log.getD id = id) :
    Journaled verbose starts log (fun _ => []) w (w.completed verbose command input output id)
      [.tried (Bridge.waited w verbose command input output id)] := by
  refine spawn holds (fun _ => rfl) fun id' mem content has => ?_
  cases mem
  obtain rfl : id' = id := same
  have routed := Bridge.completingRouted has rfl verbose command (Bridge.aim verbose output id')
    (Bridge.waited w verbose command input output id').attempt.answer
  have kept := routed.kept id' _ has rfl rfl
  refine ⟨rfl, memoryPipes has, ?_⟩
  rw [List.append_assoc]
  refine kept.trans ?_
  simp only [Sink.appended, share, if_true, Output.sinkSome, Spawn.printed, Bridge.waited,
    Bridge.attemptOf, decide_eq_true_eq, List.append_assoc]

theorem begun (w : World) {command : Command} (interactive : Bool) (stdout : Stream)
    {id : SinkId} (may : starts) (holds : command.unshown? verbose = none)
    (same : log.getD id = id) :
    Journaled verbose starts log (fun _ => []) w (w.begun verbose command interactive stdout id)
      [.tried (Bridge.left w command interactive stdout id)] := by
  refine spawn holds (absurd may) fun id' mem content has => ?_
  cases mem
  obtain rfl : id' = id := same
  have routed := Bridge.announcingRouted has rfl verbose command
  have kept := routed.kept id' _ has rfl rfl
  refine ⟨rfl, memoryPipes has, ?_⟩
  rw [List.append_nil]
  refine kept.trans ?_
  simp [Sink.appended, share, Spawn.printed, Bridge.left, Bridge.attemptOf]

theorem settle (journaled : Journaled verbose starts log said w w' turns)
    (idle : w.processes = []) : ∃ late, w'.Tells w'.settle late ∧
      late.filter Entry.isCommand = [] ∧
      ∀ id ∈ log, ∀ content, w.sink? id = some (.memory content) → w'.settle.sink? id =
        some (.memory (content ++ (said id ++ turns.flatMap (Announced.shown verbose) ++
          turns.flatMap Announced.late))) := by
  obtain ⟨late, told, quiet⟩ := Tells.settle w'
  refine ⟨late, told, quiet, fun id mem content has => ?_⟩
  obtain ⟨piped, shown⟩ := journaled.shown id mem content has
  have ends : ((w'.processes.flatMap Bridge.ending).filter (·.sink = id)).flatMap
      (Sink.memory content).brought = turns.flatMap Announced.late := by
    rw [journaled.processes, idle, List.nil_append, List.filterMap_eq_flatMap_toList,
      List.flatMap_assoc, List.filter_flatMap, List.flatMap_assoc]
    refine List.flatMap_congr fun turn mem => ?_
    cases turn with
    | unshown c e => rfl
    | tried s =>
      obtain ⟨same, piped⟩ := piped _ mem s rfl
      exact s.endingBrought same piped content
  have kept := enactKept shown rfl rfl (w'.processes.flatMap Bridge.ending)
  rw [settleActs]
  refine kept.trans ?_
  rw [← ends]
  simp only [Sink.appended, List.append_assoc]
  rfl

end World.Journaled

theorem World.journaledAccounted (c : Client) (starts : Prop) (log : Option SinkId) :
    Accounted c log
      fun w w' => ∃ turns, Journaled c.verbose starts log (fun _ => []) w w' turns where
  refl w := ⟨[], .still (.nothing w) rfl rfl fun _ _ => rfl⟩
  trans := fun ⟨_, first⟩ ⟨_, next⟩ => ⟨_, first.trans next⟩
  noted w e aside := ⟨[], .still (.record w rfl) (by simp [Entry.isCommand, aside]) rfl
    fun _ _ => rfl⟩
  connected w pid := ⟨[], .still (.record w rfl) rfl rfl fun _ _ => rfl⟩
  closed w := ⟨[], .still ((Tells.nothing w).alike rfl rfl) rfl rfl fun _ _ => rfl⟩
  flushed w sink := ⟨[], .act (a := .call sink .flush) w (fun _ _ _ _ => rfl) fun _ _ _ => rfl⟩
  opened w context none := ⟨[], .still (.opened w context) rfl rfl (by simp [none])⟩
  unshown w _ _ holds := ⟨_, .unshown w holds⟩
  completed w _ input output _ holds same := ⟨_, .completed w input output holds same⟩

namespace Step

theorem performJournaled (c : Client) (log : Option SinkId) (s : Step) (w : World) :
    ∃ turns, World.Journaled c.verbose s.Starts log s.said w (((s.perform c log).run w).run).2
      turns := by
  cases s with
  | sinkWrite sink data =>
    refine ⟨[], World.Journaled.act (a := .call sink (.write data)) w ?_ ?_⟩
    · rintro id - rfl content
      exact (if_pos rfl).symm
    · exact fun id _ other => if_neg other
  | _ =>
    exact (World.journaledAccounted c _ log).perform (by simp)
      fun starts w command interactive stdout id holds same =>
        ⟨_, .begun w interactive stdout starts holds same⟩

/-- What a log in memory gets of a step: what the caller writes to it, a line and the output of each
command, and what the processes that are left running print in the end. -/
def logged (verbose : Bool) (id : SinkId) (s : Step) (turns : List Announced) : Bytes :=
  s.said id ++ turns.flatMap (Announced.shown verbose) ++ turns.flatMap Announced.late

end Step

structure StepReport.Accounts (verbose : Bool) (report : StepReport) (s : Step)
    (turns : List Announced) : Prop where
  commands : report.journal.filter Entry.isCommand = turns.flatMap Announced.entries
  holds : ∀ t ∈ turns, t.Holds verbose
  processes : report.processes = turns.filterMap Announced.child?
  waited : ¬ s.Starts → ∀ t ∈ turns, ∀ spawn ∈ t.spawn?, spawn.pid = none

namespace World

theorem stepJournaled (c : Client) (log : Option SinkId) (s : Step) {w : World}
    (idle : w.processes = []) :
    let ran := w.step c log s
    ran.2.processes = [] ∧ ran.2.journal = w.journal ++ ran.1.journal ∧
    ∃ turns, ran.1.Accounts c.verbose s turns ∧
      ∀ id ∈ log, ∀ content, w.sink? id = some (.memory content) →
        ran.2.sink? id = some (.memory (content ++ s.logged c.verbose id turns)) := by
  intro ran
  obtain ⟨turns, journaled⟩ := s.performJournaled c log w
  obtain ⟨late, told', quiet', shown⟩ := journaled.settle idle
  obtain ⟨new, told, commands⟩ := journaled.told
  have whole : w.Tells ran.2 (new ++ late) := told.trans told'
  have part : ran.1.journal = new ++ late := whole.step
  refine ⟨rfl, part ▸ whole.journal, turns, ⟨?_, journaled.holds, ?_, journaled.waited⟩, shown⟩
  · rw [part, List.filter_append, commands, quiet', List.append_nil]
  · exact journaled.processes.trans (by rw [idle, List.nil_append])

end World

/-- In every session each attempt has its word that it runs in front of it and, if it was launched,
one word of its end or its start behind it, before the next attempt; nothing else is said of
commands, but that one runs whose line cannot be shown. A log in memory that is given to all steps
has one line for each attempt, in their order, and besides these the output of the engine and what
the caller wrote. -/
theorem commandsJournaled (c : Client) {w : World} (idle : w.processes = [])
    (steps : List (Option SinkId × Step)) :
    let ran := w.session c steps
    ran.2.journal = w.journal ++ ran.1.flatMap StepReport.journal ∧
    ∃ turns : List (List Announced), turns.length = steps.length ∧
      List.Forall₂ (fun done turns => done.2.Accounts c.verbose done.1.2 turns)
        (steps.zip ran.1) turns ∧
      ∀ id content, (∀ step ∈ steps, step.1 = some id) → w.sink? id = some (.memory content) →
        ran.2.sink? id = some (.memory (content ++
          (steps.zip turns).flatMap fun done => done.1.2.logged c.verbose id done.2)) := by
  induction steps generalizing w with
  | nil =>
    refine ⟨(List.append_nil _).symm, [], rfl, .nil, fun id content _ has => ?_⟩
    simpa [World.session] using has
  | cons step rest ih =>
    obtain ⟨log, s⟩ := step
    obtain ⟨settled, journal, turns, accounts, shown⟩ := w.stepJournaled c log s idle
    obtain ⟨journal', later, each, accounts', shown'⟩ := ih settled
    refine ⟨?_, turns :: later, congrArg Nat.succ each, .cons accounts accounts',
      fun id content same has => ?_⟩
    · simp only [World.session, List.flatMap_cons, ← List.append_assoc]
      rw [← journal]
      exact journal'
    · obtain ⟨here, same⟩ := List.forall_mem_cons.mp same
      refine (shown' id _ same (shown id here content has)).trans ?_
      simp only [List.zip_cons_cons, List.flatMap_cons, List.append_assoc]

def unsteady : World where
  script :=
    [⟨["create"], .exits 0 [.err (Bytes.ofAscii "new\n"), .out (Bytes.ofAscii "c1\n")], none⟩,
     ⟨["start"], .fails .bare, none⟩,
     ⟨["exec"], .exits 0 [.err (Bytes.ofAscii "late\n")], none⟩]
  sinks := [(.given "log", .memory [])]

def unsteadySteps : List (Option SinkId × Step) :=
  [(some (.given "log"), .side "db" ⟨"agent", "c0"⟩),
   (some (.given "log"), .exec "c1" [.value (.text "ls")] none [] .discard)]

def unsteadyLog : Bytes := Bytes.ofAscii <|
  "$ docker create --volumes-from c0 --net=container:c0 --ipc=container:c0 db\nnew\n" ++
  "$ docker start c1\n$ docker rm -f c1\n$ docker exec c1 env ls\nlate\n"

theorem commandsJournaledUnsteady :
    let c : Client := { verbose := true }
    let log := SinkId.given "log"
    let ran := unsteady.session c unsteadySteps
    unsteady.processes = [] ∧ (∀ step ∈ unsteadySteps, step.1 = some log) ∧
    unsteady.sink? log = some (.memory []) ∧
    ∃ turns, List.Forall₂ (fun done turns => done.2.Accounts c.verbose done.1.2 turns)
        (unsteadySteps.zip ran.1) turns ∧
      ((unsteadySteps.zip turns).flatMap fun done => done.1.2.logged c.verbose log done.2) =
        unsteadyLog := by
  intro c log ran
  have same : ∀ step ∈ unsteadySteps, step.1 = some log := by simp [unsteadySteps, log]
  obtain ⟨-, turns, -, accounts, shown⟩ := commandsJournaled c (w := unsteady) rfl unsteadySteps
  have kept : ran.2.contentOf log =
      (unsteadySteps.zip turns).flatMap fun done => done.1.2.logged c.verbose log done.2 := by
    rw [World.contentOf, shown log [] same rfl]
    rfl
  have computed : ran.2.contentOf log = unsteadyLog := by decide +kernel
  exact ⟨rfl, same, rfl, turns, accounts, kept.symm.trans computed⟩

theorem undecodedAnnounced :
    let c : Client := { verbose := true }
    let image : Text := [.surrogate ⟨0x4FF, by decide⟩]
    let ran := ({} : World).session c [(none, .pull image)]
    ran.2.core.asks = [] ∧ (ran.2.journal.filter Entry.isCommand ==
      [.event (.running (c.commandFor ["pull", image]).render)]) = true := by
  decide +kernel

end ContainerDriver
