import ContainerDriver.Proofs.Engine.Composition
import ContainerDriver.Proofs.Engine.Core

/-! What operations keep. Sinks of the caller stay what they are, whatever is logged to them; so
what can be read from one can still be read after any operation. -/
namespace ContainerDriver

def Sink.Readable : Sink → Prop
  | memory _ | file _ _ | bare _ => True
  | null | lines _ => False

namespace Sink

variable {s : Sink} (readable : s.Readable) (data : Bytes)
include readable

theorem writeReadable : (s.write data).1.Readable := by
  cases s <;> first | exact readable.elim | trivial

theorem flushReadable : s.flush.1.Readable := by
  cases s <;> first | exact readable.elim | trivial

theorem receiveReadable : (s.receive data).Readable := by
  cases s <;> first | exact readable.elim | trivial

theorem writeFlushShows : data <:+
    (if (s.write data).1.canFlush then (s.write data).1.flush.1 else (s.write data).1).content := by
  cases s with
  | memory content => exact List.suffix_append content data
  | bare content => exact List.suffix_append content data
  | file content pending =>
    refine ⟨content ++ pending, ?_⟩
    simp [write, flush, canFlush, Sink.content]
  | null => exact readable.elim
  | lines s => exact readable.elim

end Sink

namespace World

def Shows (name : String) (w : World) : Prop :=
  ∃ s, w.sink? (.given name) = some s ∧ s.Readable

def contentOf (id : SinkId) (w : World) : Bytes := ((w.sink? id).map Sink.content).getD []

theorem sinkPut (w : World) (id id' : SinkId) (s : Sink) :
    (w.putSink id s).sink? id' = if id = id' then some s else w.sink? id' :=
  Table.getSet w.sinks id id' s

theorem sinkWrite (w : World) (id : SinkId) {s : Sink} (data : Bytes) (has : w.sink? id = some s) :
    (w.write id data).sink? id = some (s.write data).1 := by
  rw [write, has]
  exact (sinkPut _ id id _).trans (if_pos rfl)

theorem sinkFlush (w : World) (id : SinkId) {s : Sink} (has : w.sink? id = some s) :
    (w.flush id).sink? id = some (if s.canFlush then s.flush.1 else s) := by
  rw [flush, has]
  dsimp only
  split
  · exact (sinkPut _ id id _).trans (if_pos rfl)
  · exact has

variable {name : String} {w : World}

theorem Shows.put {id : SinkId} {s : Sink} (shows : w.Shows name)
    (readable : id = .given name → s.Readable) : (w.putSink id s).Shows name := by
  obtain ⟨old, has, kept⟩ := shows
  by_cases same : id = .given name
  · exact ⟨s, (sinkPut w id _ s).trans (if_pos same), readable same⟩
  · exact ⟨old, ((sinkPut w id _ s).trans (if_neg same)).trans has, kept⟩

theorem Shows.readable {id : SinkId} {s : Sink} (shows : w.Shows name) (has : w.sink? id = some s)
    (same : id = .given name) : s.Readable := by
  obtain ⟨s', has', readable⟩ := shows
  rw [← same, has] at has'
  cases has'
  exact readable

theorem Shows.write (shows : w.Shows name) (id : SinkId) (data : Bytes) :
    (w.write id data).Shows name := by
  unfold World.write
  split
  · exact shows
  · next s has =>
    exact Shows.put (w := w.record _) shows fun same =>
      Sink.writeReadable (shows.readable has same) data

theorem Shows.flush (shows : w.Shows name) (id : SinkId) : (w.flush id).Shows name := by
  unfold World.flush
  split
  · exact shows
  · next s has =>
    split
    · exact Shows.put (w := w.record _) shows fun same =>
        Sink.flushReadable (shows.readable has same)
    · exact shows

theorem Shows.receive (shows : w.Shows name) (id : SinkId) (data : Bytes) :
    (w.receive id data).Shows name := by
  unfold World.receive
  split
  · exact shows
  · next s has =>
    split
    · exact Shows.put (w := w.record _) shows fun same =>
        Sink.receiveReadable (shows.readable has same) data
    · exact shows

theorem Shows.deliver (shows : w.Shows name) (stdout stderr : Stream) (chunks : List Chunk) :
    (w.deliver stdout stderr chunks).Shows name := by
  unfold World.deliver
  induction chunks generalizing w with
  | nil => exact shows
  | cons chunk rest ih =>
    refine ih ?_
    dsimp only
    split
    · exact shows.receive _ _
    · exact shows.receive _ _
    · exact shows

end World

def Keeps {α : Type} (I : World → Prop) (p : Op α) : Prop := ∀ w, I w → I ((p.run w).run).2

namespace Keeps

variable {I : World → Prop} {α β : Type} {p : Op α}

theorem value (a : α) : Keeps I (pure a) := fun _ held => held

theorem failure (f : Fault) : Keeps I (throw f : Op α) := fun _ held => held

theorem change {f : World → World} (keeps : ∀ w, I w → I (f w)) :
    Keeps I (modify f : Op PUnit) := keeps

theorem onward {q : α → Op β} {w : World} (held : I (p.run w).run.2)
    (next : ∀ a, Keeps I (q a)) : I ((p >>= q).run w).run.2 := by
  cases ran : (p.run w).run with
  | mk r w' =>
    rw [ran] at held
    cases r with
    | error f => rwa [Op.bindError ran]
    | ok a =>
      rw [Op.bindOk ran]
      exact next a w' held

theorem step {q : α → Op β} (first : Keeps I p) (next : ∀ a, Keeps I (q a)) :
    Keeps I (p >>= q) := fun w held => onward (first w held) next

theorem changeIf {c : Prop} [Decidable c] {f : World → World} (keeps : ∀ w, I w → I (f w))
    (rest : Keeps I p) : Keeps I (if c then (do modify f; p) else p) := by
  split
  · exact .step (.change keeps) fun _ => rest
  · exact rest

theorem look {q : World → Op β} (next : ∀ w, Keeps I (q w)) : Keeps I (get >>= q) :=
  fun w held => next w w held

theorem onwardCaught {handler : Fault → Op α} {w : World} (held : I (p.run w).run.2)
    (next : ∀ f, Keeps I (handler f)) : I ((tryCatch p handler).run w).run.2 := by
  cases ran : (p.run w).run with
  | mk r w' =>
    rw [ran] at held
    cases r with
    | error f =>
      rw [Op.catchError ran]
      exact next f w' held
    | ok a => rwa [Op.catchOk ran]

theorem caught {handler : Fault → Op α} (first : Keeps I p) (next : ∀ f, Keeps I (handler f)) :
    Keeps I (tryCatch p handler) := fun w held => onwardCaught (first w held) next

end Keeps

theorem Op.ownSinkKeeps {name : String} (context : List (String × Value)) :
    Keeps (World.Shows name) (ownSink context) :=
  fun w shows => World.Shows.put (w := w) shows fun same => by cases same

namespace Bridge

variable {name : String}

theorem launchKeeps (command : Command) (stdin stdout stderr : Stream) (input : Option Bytes) :
    Keeps (World.Shows name) (launch command stdin stdout stderr input) := by
  intro w shows
  rw [launchConcludes]
  unfold conclude
  cases (reply w.script w.parent command (unattachable? w stdout)).1 <;> exact shows

theorem announceKeeps (verbose : Bool) (command : Command) (log : SinkId) :
    Keeps (World.Shows name) (announce verbose command log) := by
  refine .step (.change fun _ shows => shows) fun _ => ?_
  split
  · split
    · exact .failure _
    · exact .step (.change fun _ shows => shows.write _ _) fun _ =>
        .change fun _ shows => shows.flush _
  · exact .value _

theorem reportKeeps (command : Command) (log : SinkId) (target : Output) (stdout stderr : Stream)
    (code : Int) (chunks : List Chunk) : Keeps (World.Shows name) (do
      modify (·.deliver stdout stderr chunks)
      let out := if stdout = .pipe then Chunk.stdoutOf chunks else []
      let err := if stderr = .pipe then Chunk.stderrOf chunks else []
      if err ≠ [] then modify (·.write log err)
      match target with
      | .sink id => if out ≠ [] then modify (·.write id out)
      | _ => pure ()
      modify (·.flush log)
      Op.emit (.finished command.render code)
      return Execution.mk code (if target = .collect then out else [])) := by
  have closes (e : Execution) : Keeps (World.Shows name) (do
      modify (·.flush log)
      Op.emit (.finished command.render code)
      return e) :=
    .step (.change fun _ shows => shows.flush log) fun _ =>
      .step (.change fun _ shows => shows) fun _ => .value e
  refine .step (.change fun _ shows => shows.deliver _ _ _) fun _ => ?_
  refine .changeIf (fun _ shows => shows.write log _) ?_
  cases target with
  | standard => exact closes _
  | collect => exact closes _
  | sink id => exact .changeIf (fun _ shows => shows.write id _) (closes _)

theorem completeKeeps (verbose : Bool) (command : Command) (input : Option Bytes)
    (output : Output) (log : SinkId) :
    Keeps (World.Shows name) (complete verbose command input output log) := by
  refine .step (announceKeeps verbose command log) fun _ => ?_
  extract_lets target
  refine .look fun w => ?_
  extract_lets stderr rest
  have restKeeps (stdout : Stream) : Keeps (World.Shows name) (rest stdout) :=
    .step (launchKeeps command _ stdout stderr input) fun out =>
      reportKeeps command log target stdout stderr out.2.1 out.2.2
  cases target with
  | standard => exact restKeeps .discard
  | collect => exact restKeeps .pipe
  | sink id =>
    dsimp only
    split
    · exact .step (.change fun _ shows => shows.flush id) fun _ => restKeeps _
    · exact restKeeps .pipe

end Bridge

structure Upheld (c : Client) (log : Option SinkId) (I : World → Prop) : Prop where
  noted (e : Event) : e.isCommand = false → Keeps I (Op.emit e)
  connected (pid : Nat) : Keeps I (modify (·.record (.connected pid)))
  opened (context : List (String × Value)) : log = none → Keeps I (Op.ownSink context)
  completed (command : Command) (input : Option Bytes) (output : Output) (id : SinkId) :
    log.getD id = id → Keeps I (Bridge.complete c.verbose command input output id)

namespace Upheld

variable {c : Client} {log : Option SinkId} {I : World → Prop} (upheld : Upheld c log I)

include upheld

theorem sinkOr {α : Type} {q : SinkId → Op α} (context : List (String × Value))
    (next : ∀ id, log.getD id = id → Keeps I (q id)) : Keeps I (Op.sinkOr log context >>= q) := by
  cases log with
  | some id => exact next id rfl
  | none => exact .step (upheld.opened context rfl) fun id => next id rfl

theorem lawful : Lawful c c.verbose log log (fun _ p _ => Keeps I p) where
  value := .value
  failure _ := .failure _
  step first next := .step first next
  onError first handled := .caught first fun f => by
    cases f with
    | error e => exact .step handled fun _ => .failure _
    | _ => exact .failure _
  pardon remark aside first := .caught first fun f => by
    cases f with
    | error e => exact upheld.noted _ (aside e)
    | _ => exact .failure _
  emit := upheld.noted
  checkOpen := .look fun w => by
    split
    · exact .failure _
    · exact .value _
  clock next := .look fun w => next w w rfl
  connected := upheld.connected
  sink context next := upheld.sinkOr context fun id same => next id id same same
  run args input output := upheld.sinkOr _ fun id same =>
    .step (upheld.completed _ input output id same) fun _ => .value _
  runInto args id _ same _ := by
    have ran := Keeps.step
      (upheld.completed (.build c.endpoint c.binary args) none (.sink id) id same)
      fun e => .value e.exitCode
    exact ran
  capture args input :=
    .step (upheld.sinkOr _ fun id same =>
      .step (upheld.completed _ input .collect id same) fun _ => .value _) fun _ => .value _

end Upheld

theorem Keeps.lawful (c : Client) (log : Option SinkId) (name : String) :
    Lawful c c.verbose log log (fun _ p _ => Keeps (World.Shows name) p) :=
  Upheld.lawful {
    noted := fun _ _ => .change fun _ shows => shows
    connected := fun _ => .change fun _ shows => shows
    opened := fun context _ => Op.ownSinkKeeps context
    completed := fun command input output id _ =>
      Bridge.completeKeeps c.verbose command input output id }

end ContainerDriver
