import ContainerDriver.Proofs.Engine.Closing
import ContainerDriver.Proofs.Engine.Replay

/-! Buffered files stay in order. What is written to a file is flushed before any process is started
that could write behind it, so nothing is ever held back when a command is tried or an operation is
over, and a file reads in the order of the commands. -/
namespace ContainerDriver

def World.Flushed (w : World) : Prop :=
  ∀ id s, w.sink? id = some s → w.hasDescriptor id = true → s.pending = []

def Attempt.written (id : SinkId) (a : Attempt) : Bytes :=
  a.answer.chunks.flatMap fun
    | .out data => if a.stdout = .sink id then data else []
    | .err data => if a.stderr = .sink id then data else []

def Entry.landed (verbose : Bool) (id : SinkId) : Entry → Bytes
  | attempt a =>
    (if a.stderr = .sink id then Bridge.announcement verbose a.command else []) ++ a.written id
  | _ => []

namespace Entry

theorem unattempted {entries : List Entry} (es : List Event)
    (only : entries.filter isCommand = es.map .event) (a : Attempt) : .attempt a ∉ entries := by
  intro mem
  have kept : Entry.attempt a ∈ entries.filter isCommand := List.mem_filter.mpr ⟨mem, rfl⟩
  rw [only] at kept
  simp at kept

theorem landedNothing {entries : List Entry} (none : ∀ a, .attempt a ∉ entries) (verbose : Bool)
    (id : SinkId) : entries.flatMap (landed verbose id) = [] := by
  refine List.flatMap_eq_nil_iff.mpr fun e mem => ?_
  cases e with
  | attempt a => exact absurd mem (none a)
  | _ => rfl

end Entry

namespace Sink

def Ready (id : SinkId) (s : Sink) (entries : List Entry) : Prop :=
  ∀ front a back, entries = front ++ .attempt a :: back → (s.replay id front).pending = []

theorem Ready.append {id : SinkId} {s : Sink} {front back : List Entry} (first : s.Ready id front)
    (later : (s.replay id front).Ready id back) : s.Ready id (front ++ back) := by
  intro before a behind split
  rcases List.append_eq_append_iff.mp split with ⟨more, rfl, same⟩ | ⟨more, rfl, same⟩
  · rw [replayAppend]
    exact later more a behind same
  · cases more with
    | nil =>
      rw [List.append_nil] at later
      exact later [] a behind same.symm
    | cons e rest =>
      cases same
      exact first before a rest rfl

theorem Ready.unattempted {id : SinkId} {s : Sink} {entries : List Entry}
    (none : ∀ a, .attempt a ∉ entries) : s.Ready id entries := by
  rintro front a back rfl
  exact absurd (List.mem_append_right _ List.mem_cons_self) (none a)

theorem Ready.attempt {id : SinkId} {s : Sink} (clear : s.pending = []) (a : Attempt) :
    s.Ready id [.attempt a] := by
  intro front b back split
  cases front with
  | nil => exact clear
  | cons e rest => simp at split

def Fills (id : SinkId) (acts : List Act) (bytes : Bytes) : Prop :=
  ∀ content, (acts.filter (·.sink = id)).foldl act (.file content []) = .file (content ++ bytes) []

namespace Fills

variable {id : SinkId} {acts more : List Act} {bytes bytes' : Bytes}

theorem nothing (id : SinkId) : Fills id [] [] := fun content => by simp

theorem append (first : Fills id acts bytes) (later : Fills id more bytes') :
    Fills id (acts ++ more) (bytes ++ bytes') := fun content => by
  rw [List.filter_append, List.foldl_append, first, later, List.append_assoc]

theorem aside (others : ∀ a ∈ acts, a.sink ≠ id) : Fills id acts [] := fun content => by
  rw [List.filter_eq_nil_iff.mpr fun a mem => by simpa using others a mem, List.append_nil]
  rfl

theorem flushing (id sink : SinkId) : Fills id [.call sink .flush] [] := by
  by_cases same : sink = id
  · exact fun content => by simp [Act.sink, same, act, call, flush]
  · exact aside (by simpa [Act.sink] using same)

theorem announcing (id : SinkId) (verbose : Bool) (command : Command) (log : SinkId) :
    Fills id (Bridge.announcing verbose command log)
      (if log = id then Bridge.announcement verbose command else []) := by
  cases verbose with
  | false => exact fun content => by simp [Bridge.announcing, Bridge.announcement]
  | true =>
    by_cases same : log = id
    · exact fun content => by
        simp [Bridge.announcing, Act.sink, same, act, call, write, flush]
    · rw [if_neg same]
      exact aside (by simp [Bridge.announcing, Act.sink, same])

theorem preparing (id : SinkId) (v : World) (target : Output) :
    Fills id (Bridge.preparing v target) [] := by
  unfold Bridge.preparing
  split
  · split
    · exact flushing id _
    · exact nothing id
  · exact nothing id

theorem writing {sink : SinkId} {data : Bytes} (idle : sink = id → data = []) :
    Fills id (Bridge.writing sink data) [] := by
  by_cases same : sink = id
  · rw [idle same]
    exact nothing id
  · exact aside fun a mem => Bridge.writingInside sink data a mem ▸ same

theorem receiving (id sink : SinkId) (data : Bytes) :
    Fills id [.receive sink data] (if sink = id then data else []) := by
  by_cases same : sink = id
  · exact fun content => by simp [Act.sink, same, act, receive]
  · rw [if_neg same]
    exact aside (by simpa [Act.sink] using same)

theorem deliveries (id : SinkId) (stdout stderr : Stream) (chunks : List Chunk) :
    Fills id (World.deliveries stdout stderr chunks) (chunks.flatMap fun
      | .out data => if stdout = .sink id then data else []
      | .err data => if stderr = .sink id then data else []) := by
  induction chunks with
  | nil => exact nothing id
  | cons chunk rest ih =>
    rw [List.flatMap_cons]
    cases chunk with
    | out data =>
      cases stdout with
      | sink sink =>
        simp only [Stream.sink.injEq] at ih ⊢
        exact (receiving id sink data).append ih
      | discard | pipe => exact ih
    | err data =>
      cases stderr with
      | sink sink =>
        simp only [Stream.sink.injEq] at ih ⊢
        exact (receiving id sink data).append ih
      | discard | pipe => exact ih

theorem reporting {log : SinkId} {target : Output} {stdout stderr : Stream}
    (direct : stderr = .pipe → log ≠ id) (direct' : stdout = .pipe → target ≠ .sink id)
    (chunks : List Chunk) :
    Fills id (Bridge.reporting log target stdout stderr chunks) (chunks.flatMap fun
      | .out data => if stdout = .sink id then data else []
      | .err data => if stderr = .sink id then data else []) := by
  have errors : Fills id (Bridge.writing log
      (if stderr = .pipe then Chunk.stderrOf chunks else [])) [] :=
    writing fun same => if_neg fun piped => direct piped same
  have output : Fills id (Bridge.outputting
      (if stdout = .pipe then Chunk.stdoutOf chunks else []) target) [] := by
    cases target with
    | standard | collect => exact nothing id
    | sink sink => exact writing fun same => if_neg fun piped => direct' piped (by rw [same])
  have reported := (deliveries id stdout stderr chunks).append
    (errors.append (output.append (flushing id log)))
  simp only [List.append_nil] at reported
  exact reported

end Fills
end Sink

namespace Bridge

variable {w : World} {id : SinkId}

theorem errorStreamSink (open' : w.hasDescriptor id = true) {log : SinkId} :
    errorStream w log = .sink id ↔ log = id := by
  unfold errorStream
  split
  · simp
  · next plain =>
    constructor
    · rintro ⟨⟩
    · rintro rfl
      exact absurd open' plain

theorem errorStreamPipe {log : SinkId} :
    errorStream w log = .pipe ↔ w.hasDescriptor log = false := by
  unfold errorStream
  cases w.hasDescriptor log <;> simp

theorem announcingFills (open' : w.hasDescriptor id = true) (verbose : Bool) (command : Command)
    (log : SinkId) : Sink.Fills id (announcing verbose command log)
      (if errorStream w log = .sink id then announcement verbose command else []) := by
  simpa only [errorStreamSink open'] using Sink.Fills.announcing id verbose command log

theorem openingFills (open' : w.hasDescriptor id = true) (verbose : Bool) (command : Command)
    (target : Output) (log : SinkId) :
    Sink.Fills id (announcing verbose command log ++ preparing w target)
      (if errorStream w log = .sink id then announcement verbose command else []) := by
  have opened := (announcingFills open' verbose command log).append (.preparing id w target)
  rwa [List.append_nil] at opened

theorem answeringFills (open' : w.hasDescriptor id = true) (target : Output) (log : SinkId)
    (answer : Answer) :
    Sink.Fills id (answering log target (outStream w target) (errorStream w log) answer)
      (answer.chunks.flatMap fun
        | .out data => if outStream w target = .sink id then data else []
        | .err data => if errorStream w log = .sink id then data else []) := by
  cases answer with
  | fails | refuses => exact .nothing id
  | exits code chunks =>
    refine .reporting (fun piped same => ?_) (fun piped same => ?_) chunks
    · rw [(errorStreamSink open').mpr same] at piped
      cases piped
    · rw [outStreamSink.mpr ⟨same, open'⟩] at piped
      cases piped

end Bridge

namespace World

variable {w w' w'' : World} {id : SinkId} {acts : List Act} {content bytes : Bytes}

theorem descriptorGiven {name : String} {s : Sink} (has : w.sink? (.given name) = some s) :
    w.hasDescriptor (.given name) = s.hasDescriptor := by simp [hasDescriptor, has]

theorem Flushed.file (flushed : w.Flushed) (open' : w.hasDescriptor id = true) :
    ∃ content, w.sink? id = some (.file content []) := by
  cases id with
  | own n => cases open'
  | given name =>
    cases has : w.sink? (.given name) with
    | none => simp [hasDescriptor, has] at open'
    | some s =>
      have clear := flushed _ s has open'
      rw [descriptorGiven has] at open'
      cases s with
      | file content pending =>
        cases clear
        exact ⟨content, rfl⟩
      | memory | bare | null | lines => cases open'

theorem enactFills (has : w.sink? id = some (.file content [])) (fills : Sink.Fills id acts bytes) :
    (w.enact acts).sink? id = some (.file (content ++ bytes) []) := by
  rw [enactSink, has, Option.map_some, fills]

theorem Flushed.enact (flushed : w.Flushed)
    (fills : ∀ id, w.hasDescriptor id = true → ∃ bytes, Sink.Fills id acts bytes) :
    (w.enact acts).Flushed := by
  intro id s has open'
  rw [enactDescriptor] at open'
  obtain ⟨content, file⟩ := flushed.file open'
  obtain ⟨bytes, fills⟩ := fills id open'
  cases has.symm.trans (enactFills file fills)
  rfl

theorem Flushed.alike (flushed : w.Flushed) (sinks : ∀ id, w'.sink? id = w.sink? id) : w'.Flushed :=
  fun id s has open' => flushed id s ((sinks id).symm.trans has)
    ((descriptorOfSink (sinks id)).symm.trans open')

theorem Tells.descriptor {new : List Entry} (told : w.Tells w' new) (name : String) :
    w'.hasDescriptor (.given name) = w.hasDescriptor (.given name) := by
  rw [hasDescriptor, hasDescriptor, told.sinks, Option.map_map]
  exact congrArg (Option.getD · false) (Option.map_congr fun s _ => s.replayDescriptor _ _)

/-- From one world to the other files stay in order: commands were tried with nothing held back, and
if nothing was left running each file has the commands' lines and output one after the other. -/
structure Kept (verbose : Bool) (still : Prop) (w w' : World) (new : List Entry) : Prop where
  told : w.Tells w' new
  descriptors : ∀ id, w'.hasDescriptor id = true → w.hasDescriptor id = true
  flushed : w.Flushed → w'.Flushed
  ready : w.Flushed → ∀ name s, w.sink? (.given name) = some s → s.hasDescriptor = true →
    s.Ready (.given name) new
  landed : still → ∀ name content, w.sink? (.given name) = some (.file content []) →
    w'.sink? (.given name) =
      some (.file (content ++ new.flatMap (Entry.landed verbose (.given name))) [])

namespace Kept

variable {verbose : Bool} {still still' : Prop} {new later : List Entry}

theorem trans (first : Kept verbose still w w' new) (next : Kept verbose still' w' w'' later) :
    Kept verbose (still ∧ still') w w'' (new ++ later) where
  told := first.told.trans next.told
  descriptors id open' := first.descriptors id (next.descriptors id open')
  flushed clear := next.flushed (first.flushed clear)
  ready clear name s has open' := by
    have has' := (first.told.sinks name).trans (congrArg _ has)
    exact (first.ready clear name s has open').append
      (next.ready (first.flushed clear) name _ has' ((s.replayDescriptor _ _).trans open'))
  landed both name content has := by
    rw [List.flatMap_append, ← List.append_assoc]
    exact next.landed both.2 name _ (first.landed both.1 name content has)

theorem weaken (kept : Kept verbose still w w' new) (more : still' → still) :
    Kept verbose still' w w' new :=
  { kept with landed := fun held => kept.landed (more held) }

theorem aside (told : w.Tells w' new) (untried : ∀ a, .attempt a ∉ new)
    (descriptors : ∀ id, w'.hasDescriptor id = true → w.hasDescriptor id = true)
    (flushed : w.Flushed → w'.Flushed)
    (files : still → ∀ id content, w'.hasDescriptor id = true →
      w.sink? id = some (.file content []) → w'.sink? id = some (.file content [])) :
    Kept verbose still w w' new where
  told := told
  descriptors := descriptors
  flushed := flushed
  ready _ _ _ _ _ := .unattempted untried
  landed held name content has := by
    have open' : w'.hasDescriptor (.given name) = true :=
      (told.descriptor name).trans (descriptorGiven has)
    rw [Entry.landedNothing untried, List.append_nil]
    exact files held _ content open' has

theorem spawn {s : Spawn} {before after : List Act} {front back : List Entry}
    (told : w.Tells ((w.record (.event (.running s.attempt.command.render))).enact before) front)
    (told' : w.Tells (w.spawn s before after) (front ++ .attempt s.attempt :: back))
    (unattempted : ∀ a, .attempt a ∉ front) (unattempted' : ∀ a, .attempt a ∉ back)
    (opens : ∀ id, w.hasDescriptor id = true → Sink.Fills id before
      (if s.attempt.stderr = .sink id then Bridge.announcement verbose s.attempt.command else []))
    (answers : ∀ id, w.hasDescriptor id = true → ∃ bytes, Sink.Fills id after bytes ∧
      (s.child? = none → bytes = s.attempt.written id)) :
    Kept verbose (s.child? = none) w (w.spawn s before after)
      (front ++ .attempt s.attempt :: back) := by
  have fills (id : SinkId) (open' : w.hasDescriptor id = true) :
      ∃ bytes, Sink.Fills id (before ++ after) bytes ∧
        (s.child? = none → bytes = Entry.landed verbose id (.attempt s.attempt)) := by
    obtain ⟨bytes, answer, written⟩ := answers id open'
    exact ⟨_, (opens id open').append answer, fun alone => by rw [written alone]; rfl⟩
  refine {
    told := told'
    descriptors := fun id open' => (w.spawnDescriptor s before after id).symm.trans open'
    flushed := fun clear => ?_
    ready := fun clear name t has open' => ?_
    landed := fun alone name content has => ?_ }
  · have sinks : (w.enact (before ++ after)).Flushed := clear.enact fun id open' => by
      obtain ⟨bytes, filled, -⟩ := fills id open'
      exact ⟨bytes, filled⟩
    exact sinks.alike fun id => spawnSink w s before after id
  -- The world at the attempt is the one in which the command is announced, and nothing that was
  -- told up to there or is told from there on is an attempt as well.
  · have announced :
        ((w.record (.event (.running s.attempt.command.render))).enact before).Flushed :=
      Flushed.enact (w := w.record _) clear fun id open' => ⟨_, opens id open'⟩
    have file := (told.sinks name).trans (congrArg _ has)
    have held : (t.replay (.given name) front).pending = [] :=
      announced (.given name) _ file <|
        (descriptorGiven file).trans ((t.replayDescriptor _ _).trans open')
    exact (Sink.Ready.unattempted unattempted).append
      ((Sink.Ready.attempt held s.attempt).append (.unattempted unattempted'))
  · obtain ⟨bytes, filled, landed⟩ := fills (.given name) (descriptorGiven has)
    rw [spawnSink, enactFills has filled, landed alone, List.flatMap_append, List.flatMap_cons,
      Entry.landedNothing unattempted, Entry.landedNothing unattempted', List.nil_append,
      List.append_nil]

end Kept

/-- What an operation does, with the processes that it leaves running. None of these copies its
error stream to a file, and every command logs where it is told to. -/
structure Orderly (verbose : Bool) (log : Option SinkId) (starts : Prop) (w w' : World)
    (new : List Entry) (left : List Child) : Prop where
  kept : Kept verbose (left = []) w w' new
  processes : w'.processes = w.processes ++ left
  waited : ¬ starts → left = []
  forwarded : ∀ p ∈ left, ∀ id ∈ p.forwarder, w'.hasDescriptor id = false
  wired : ∀ name, log = some (.given name) → w.hasDescriptor (.given name) = true →
    ∀ a, .attempt a ∈ new → a.stderr = .sink (.given name)

namespace Orderly

variable {verbose : Bool} {log : Option SinkId} {starts : Prop} {new later : List Entry}
  {left more : List Child}

theorem trans (first : Orderly verbose log starts w w' new left)
    (next : Orderly verbose log starts w' w'' later more) :
    Orderly verbose log starts w w'' (new ++ later) (left ++ more) where
  kept := (first.kept.trans next.kept).weaken List.append_eq_nil_iff.mp
  processes := by rw [next.processes, first.processes, List.append_assoc]
  waited none := by rw [first.waited none, next.waited none]; rfl
  forwarded := by
    refine List.forall_mem_append.mpr ⟨fun p mem id forwarder => ?_, next.forwarded⟩
    have closed := first.forwarded p mem id forwarder
    exact Bool.eq_false_iff.mpr fun open' =>
      Bool.false_ne_true (closed.symm.trans (next.kept.descriptors id open'))
  wired name same open' a mem := by
    rcases List.mem_append.mp mem with here | there
    · exact first.wired name same open' a here
    · exact next.wired name same ((first.kept.told.descriptor name).trans open') a there

theorem aside (told : w.Tells w' new) (untried : ∀ a, .attempt a ∉ new)
    (processes : w'.processes = w.processes)
    (descriptors : ∀ id, w'.hasDescriptor id = true → w.hasDescriptor id = true)
    (files : ∀ id content, w'.hasDescriptor id = true →
      w.sink? id = some (.file content []) → w'.sink? id = some (.file content [])) :
    Orderly verbose log starts w w' new [] where
  kept := .aside told untried descriptors (fun clear id s has open' => by
    obtain ⟨content, file⟩ := clear.file (descriptors id open')
    cases has.symm.trans (files id content open' file)
    rfl) fun _ => files
  processes := processes.trans (List.append_nil _).symm
  waited _ := rfl
  forwarded := by simp
  wired _ _ _ a mem := absurd mem (untried a)

theorem recorded (w : World) {e : Entry} (idle : e.act? = none) (untried : ∀ a, .attempt a ≠ e) :
    Orderly verbose log starts w (w.record e) [e] [] :=
  .aside (.record w idle) (fun a mem => untried a (List.mem_singleton.mp mem)) rfl (fun _ => id)
    fun _ _ _ => id

theorem spawn {s : Spawn} {before after : List Act} (waited : ¬ starts → s.child? = none)
    (forwarded : ∀ p ∈ s.child?, ∀ id ∈ p.forwarder, w.hasDescriptor id = false)
    (wired : ∀ name, log = some (.given name) → w.hasDescriptor (.given name) = true →
      s.attempt.stderr = .sink (.given name))
    (opens : ∀ id, w.hasDescriptor id = true → Sink.Fills id before
      (if s.attempt.stderr = .sink id then Bridge.announcement verbose s.attempt.command else []))
    (answers : ∀ id, w.hasDescriptor id = true → ∃ bytes, Sink.Fills id after bytes ∧
      (s.child? = none → bytes = s.attempt.written id)) :
    ∃ new, Orderly verbose log starts w (w.spawn s before after) new s.child?.toList := by
  obtain ⟨front, back, told, front', told', back'⟩ := Tells.spawn w s before after
  have unattempted (a : Attempt) : .attempt a ∉ front := Entry.unattempted [_] front' a
  have unattempted' (a : Attempt) : .attempt a ∉ back := Entry.unattempted _ back' a
  have kept := Kept.spawn told told' unattempted unattempted' opens answers
  refine ⟨front ++ .attempt s.attempt :: back, {
    kept := kept.weaken Option.toList_eq_nil_iff.mp
    processes := spawnProcesses w s before after
    waited := fun none => by rw [waited none]; rfl
    forwarded := fun p mem id forwarder => (w.spawnDescriptor s before after id).trans
      (forwarded p (Option.mem_toList.mp mem) id forwarder)
    wired := fun name same open' a mem => ?_ }⟩
  rcases List.mem_append.mp mem with early | mem
  · exact absurd early (unattempted a)
  rcases List.mem_cons.mp mem with ⟨⟨⟩⟩ | late
  · exact wired name same open'
  · exact absurd late (unattempted' a)

theorem wiredLog {id : SinkId} (same : log.getD id = id) {name : String}
    (given : log = some (.given name)) (open' : w.hasDescriptor (.given name) = true) :
    Bridge.errorStream w id = .sink (.given name) := by
  rw [given] at same
  exact (Bridge.errorStreamSink open').mpr same.symm

theorem completed (w : World) (command : Command) (input : Option Bytes) (output : Output)
    {id : SinkId} (same : log.getD id = id) :
    ∃ new, Orderly verbose log starts w (w.completed verbose command input output id) new [] := by
  have alone : (Bridge.waited w verbose command input output id).child? = none :=
    Spawn.childWaited rfl
  obtain ⟨new, orderly⟩ : ∃ new, Orderly verbose log starts w _ new _ := spawn
    (s := Bridge.waited w verbose command input output id)
    (fun _ => alone) (by simp [alone]) (fun _ => wiredLog same)
    (fun _ open' => Bridge.openingFills open' verbose command _ id)
    (fun _ open' => ⟨_, Bridge.answeringFills open' _ id _, fun _ => rfl⟩)
  rw [alone] at orderly
  exact ⟨new, orderly⟩

theorem begun (w : World) (command : Command) (interactive : Bool) (stdout : Stream)
    {id : SinkId} (may : starts) (same : log.getD id = id) :
    ∃ new left, Orderly verbose log starts w (w.begun verbose command interactive stdout id) new
      left := by
  let s := Bridge.left w command interactive stdout id
  have forwarded : ∀ p ∈ s.child?, ∀ id' ∈ p.forwarder, w.hasDescriptor id' = false := by
    intro p left id' forwarder
    obtain ⟨piped, rfl⟩ := Spawn.childForwards left forwarder
    exact Bridge.errorStreamPipe.mp piped
  have answers (id' : SinkId) (_ : w.hasDescriptor id' = true) :
      ∃ bytes, Sink.Fills id' [] bytes ∧ (s.child? = none → bytes = s.attempt.written id') := by
    refine ⟨[], .nothing id', fun alone => ?_⟩
    rw [Attempt.written, Spawn.childSilent rfl alone]
    rfl
  obtain ⟨new, orderly⟩ : ∃ new, Orderly verbose log starts w _ new _ :=
    spawn (absurd may) forwarded (fun _ => wiredLog same)
      (fun _ open' => Bridge.announcingFills open' verbose command id) answers
  exact ⟨new, _, orderly⟩

theorem act {a : Act} (w : World)
    (plain : ∀ id, w.hasDescriptor id = true → Sink.Fills id [a] []) :
    ∃ new, Orderly verbose log starts w (w.act a) new [] := by
  obtain ⟨new, told, quiet⟩ := Tells.act w a
  have untried := Entry.unattempted [] quiet
  have descriptor (id : SinkId) : (w.act a).hasDescriptor id = w.hasDescriptor id :=
    w.enactDescriptor [a] id
  refine ⟨new, .aside told untried (processesDeaf.act w a) (fun id open' => ?_) ?_⟩
  · rwa [descriptor] at open'
  · intro id content open' has
    rw [descriptor] at open'
    have kept := enactFills has (plain id open')
    rwa [List.append_nil] at kept

theorem accounted (c : Client) (log : Option SinkId) (starts : Prop) : Accounted c log
    fun w w' => ∃ new left, Orderly c.verbose log starts w w' new left where
  refl w := ⟨_, _, .aside (.nothing w) (by simp) rfl (fun _ => id) fun _ _ _ => id⟩
  trans := fun ⟨_, _, first⟩ ⟨_, _, next⟩ => ⟨_, _, first.trans next⟩
  noted w e _ := ⟨_, _, .recorded w rfl nofun⟩
  connected w _ := ⟨_, _, .recorded w rfl nofun⟩
  closed w := ⟨_, _, .aside ((Tells.nothing w).alike rfl rfl) (by simp) rfl (fun _ => id)
    fun _ _ _ => id⟩
  unshown w _ _ _ := ⟨_, _, .recorded w rfl nofun⟩
  flushed w sink := by
    obtain ⟨new, orderly⟩ := act (a := .call sink .flush) w fun id _ => .flushing id sink
    exact ⟨new, [], orderly⟩
  opened w context _ := by
    have others {id : SinkId} (open' : (w.opened context none).2.hasDescriptor id = true) :
        (w.opened context none).2.sink? id = w.sink? id := by
      have put : (w.opened context none).2.sink? id = _ := sinkPut w (.own w.ownSinks) id _
      refine put.trans (if_neg ?_)
      rintro rfl
      cases open'
    refine ⟨_, _, .aside (.opened w context) (by simp) rfl (fun id open' => ?_)
      fun id content open' has => (others open').trans has⟩
    exact (descriptorOfSink (others open')).symm.trans open'
  completed w command input output _ shown same := by
    obtain ⟨new, orderly⟩ := completed w command input output same
    exact ⟨new, [], orderly⟩

end Orderly
end World

namespace Step

def Ours (w : World) (s : Step) : Prop :=
  ∀ sink data, s = .sinkWrite sink data → w.hasDescriptor sink = false

theorem Ours.kept {s : Step} {w w' : World} {verbose : Bool} {still : Prop} {new : List Entry}
    (ours : s.Ours w) (kept : World.Kept verbose still w w' new) : s.Ours w' := by
  intro sink data same
  refine Bool.eq_false_iff.mpr fun open' => ?_
  exact Bool.false_ne_true ((ours sink data same).symm.trans (kept.descriptors sink open'))

theorem performOrderly (c : Client) (log : Option SinkId) {s : Step} {w : World} (ours : s.Ours w) :
    ∃ new left,
      World.Orderly c.verbose log s.Starts w (((s.perform c log).run w).run).2 new left := by
  refine (World.Orderly.accounted c log s.Starts).perform (fun sink data same => ?_)
    fun starts w command interactive stdout id _ same =>
      World.Orderly.begun w command interactive stdout starts same
  obtain ⟨new, orderly⟩ : ∃ new, World.Orderly c.verbose log s.Starts w _ new _ :=
    World.Orderly.act (a := .call sink (.write data)) w fun id open' =>
      .aside fun a mem here => by
        cases List.mem_singleton.mp mem
        cases here
        exact Bool.false_ne_true ((ours sink data same).symm.trans open')
  exact ⟨new, [], orderly⟩

end Step

namespace World

variable {w : World}

theorem endingsFill {id : SinkId} (open' : w.hasDescriptor id = true) {ps : List Child}
    (forwarded : ∀ p ∈ ps, ∀ id ∈ p.forwarder, w.hasDescriptor id = false) :
    ∃ bytes, Sink.Fills id (ps.flatMap Bridge.ending) bytes := by
  induction ps with
  | nil => exact ⟨[], .nothing id⟩
  | cons p rest ih =>
    obtain ⟨here, later⟩ := List.forall_mem_cons.mp forwarded
    obtain ⟨bytes, fills⟩ := ih later
    have delivered := Sink.Fills.deliveries id p.stdout p.stderr p.chunks
    rw [List.flatMap_cons, Bridge.ending]
    cases copied : p.forwarder with
    | none => exact ⟨_, (delivered.append (.nothing id)).append fills⟩
    | some sink =>
      have other : sink ≠ id := by
        rintro rfl
        exact Bool.false_ne_true ((here sink copied).symm.trans open')
      exact ⟨_, (delivered.append
        ((Sink.Fills.writing (absurd · other)).append (.flushing id sink))).append fills⟩

theorem settleKept (verbose : Bool)
    (forwarded : ∀ p ∈ w.processes, ∀ id ∈ p.forwarder, w.hasDescriptor id = false) :
    ∃ late, Kept verbose (w.processes = []) w w.settle late ∧ ∀ a, .attempt a ∉ late := by
  obtain ⟨late, told, quiet⟩ := Tells.settle w
  have sinks (id : SinkId) :
      w.settle.sink? id = (w.enact (w.processes.flatMap Bridge.ending)).sink? id := by
    rw [settleActs]
    rfl
  have descriptor (id : SinkId) : w.settle.hasDescriptor id = w.hasDescriptor id :=
    (descriptorOfSink (sinks id)).trans (w.enactDescriptor _ id)
  refine ⟨late, .aside told (Entry.unattempted [] quiet) (fun id open' => ?_) (fun clear => ?_)
    (fun idle id content _ has => ?_), Entry.unattempted [] quiet⟩
  · rwa [descriptor] at open'
  · exact (clear.enact fun id open' => endingsFill open' forwarded).alike sinks
  · rw [settleIdle idle, has]

theorem stepKept (c : Client) (log : Option SinkId) {s : Step} (idle : w.processes = [])
    (ours : s.Ours w) :
    let ran := w.step c log s
    Kept c.verbose (ran.1.processes = []) w ran.2 ran.1.journal ∧
    (w.Flushed → (((s.perform c log).run w).run).2.Flushed) ∧
    (¬ s.Starts → ran.1.processes = []) ∧
    ∀ name, log = some (.given name) → w.hasDescriptor (.given name) = true →
      ∀ a, .attempt a ∈ ran.1.journal → a.stderr = .sink (.given name) := by
  intro ran
  obtain ⟨new, left, orderly⟩ := s.performOrderly c log ours
  have processes : ran.1.processes = left := orderly.processes.trans (by rw [idle, List.nil_append])
  have forwarded := orderly.forwarded
  rw [← processes] at forwarded
  obtain ⟨late, settled, none⟩ := settleKept c.verbose forwarded
  have kept : Kept c.verbose (ran.1.processes = []) w ran.2 (new ++ late) :=
    (orderly.kept.trans settled).weaken fun idle => ⟨processes.symm.trans idle, idle⟩
  have part : ran.1.journal = new ++ late := kept.told.step
  rw [part]
  refine ⟨kept, orderly.kept.flushed, fun waits => processes.trans (orderly.waited waits), ?_⟩
  intro name same open' a mem
  rcases List.mem_append.mp mem with here | there
  · exact orderly.wired name same open' a here
  · exact absurd there (none a)

theorem sessionIdle (c : Client) (idle : w.processes = []) (steps : List (Option SinkId × Step)) :
    (w.session c steps).2.processes = [] := by
  cases steps with
  | nil => exact idle
  | cons step rest => exact sessionSettles (by simp) w

theorem sessionKept (c : Client) (idle : w.processes = []) {steps : List (Option SinkId × Step)}
    (ours : ∀ step ∈ steps, step.2.Ours w) :
    let ran := w.session c steps
    Kept c.verbose (∀ report ∈ ran.1, report.processes = []) w ran.2
      (ran.1.flatMap StepReport.journal) := by
  induction steps generalizing w with
  | nil => exact .aside (.nothing w) (fun _ => List.not_mem_nil) (fun _ => id) id fun _ _ _ _ => id
  | cons step rest ih =>
    obtain ⟨log, s⟩ := step
    obtain ⟨here, later⟩ := List.forall_mem_cons.mp ours
    have first := (stepKept c log idle here).1
    have next := ih (w := (w.step c log s).2) rfl fun step mem => (later step mem).kept first
    exact (first.trans next).weaken List.forall_mem_cons.mp

theorem sessionWaits (c : Client) (idle : w.processes = []) {steps : List (Option SinkId × Step)}
    (ours : ∀ step ∈ steps, step.2.Ours w) (waits : ∀ step ∈ steps, ¬ step.2.Starts) :
    ∀ report ∈ (w.session c steps).1, report.processes = [] := by
  induction steps generalizing w with
  | nil => simp [session]
  | cons step rest ih =>
    obtain ⟨log, s⟩ := step
    obtain ⟨here, later⟩ := List.forall_mem_cons.mp ours
    obtain ⟨waited, rest⟩ := List.forall_mem_cons.mp waits
    obtain ⟨kept, -, still, -⟩ := stepKept c log idle here
    refine List.forall_mem_cons.mpr ⟨still waited, ?_⟩
    exact ih (w := (w.step c log s).2) rfl (fun step mem => (later step mem).kept kept) rest

end World

/-- In a session over files that hold nothing back, with no one but the driver and its processes
writing to them, no file holds anything back when an operation is over, whatever its result, or at
any attempt, as the record of each file tells. The processes of a command that logs to a file write
their errors there directly. So when nothing is left running, which is so if all commands are waited
for, each file has the line and the output of one command after the other. -/
theorem filesInOrder (c : Client) {w : World} (idle : w.processes = []) (clear : w.Flushed)
    (steps : List (Option SinkId × Step)) (ours : ∀ step ∈ steps, step.2.Ours w) :
    let ran := w.session c steps
    let journal := ran.1.flatMap StepReport.journal
    (∀ front log s back, steps = front ++ (log, s) :: back →
      let before := (w.session c front).2
      (((s.perform c log).run before).run).2.Flushed ∧ (before.step c log s).2.Flushed ∧
      ∀ name, log = some (.given name) → w.hasDescriptor (.given name) = true →
        ∀ a, .attempt a ∈ (before.step c log s).1.journal → a.stderr = .sink (.given name)) ∧
    (ran.2.journal = w.journal ++ journal ∧
      ∀ name file, w.sink? (.given name) = some file → file.hasDescriptor = true →
        ran.2.sink? (.given name) = some (file.replay (.given name) journal) ∧
        file.Ready (.given name) journal) ∧
    ((∀ step ∈ steps, ¬ step.2.Starts) → ∀ report ∈ ran.1, report.processes = []) ∧
    ((∀ report ∈ ran.1, report.processes = []) → ∀ name content,
      w.sink? (.given name) = some (.file content []) → ran.2.sink? (.given name) =
        some (.file (content ++ journal.flatMap (Entry.landed c.verbose (.given name))) [])) := by
  intro ran journal
  have kept := World.sessionKept c idle ours
  refine ⟨?_, ⟨kept.told.journal, fun name file has open' => ⟨?_, ?_⟩⟩,
    World.sessionWaits c idle ours, kept.landed⟩
  · rintro front log s back rfl before
    obtain ⟨earlier, here⟩ := List.forall_mem_append.mp ours
    have until' := World.sessionKept c idle earlier
    have here' : s.Ours before := (here _ List.mem_cons_self).kept until'
    obtain ⟨step, returned, -, wired⟩ :=
      World.stepKept c log (World.sessionIdle c idle front) here'
    have clear' := until'.flushed clear
    refine ⟨returned clear', step.flushed clear', fun name same open' => wired name same ?_⟩
    exact (until'.told.descriptor name).trans open'
  · exact (kept.told.sinks name).trans (congrArg _ has)
  · exact kept.ready clear name file has open'

def filed : World where
  script :=
    [⟨["create"], .exits 0 [.err (Bytes.ofAscii "new\n"), .out (Bytes.ofAscii "c1\n")], none⟩,
     ⟨["start"], .fails .bare, none⟩,
     ⟨["ps"], .exits 1 [.out (Bytes.ofAscii "ID"), .err (Bytes.ofAscii "?"),
       .out (Bytes.ofAscii "\n")], none⟩]
  sinks := [(.given "log", .file (Bytes.ofAscii "old\n") [])]

def filedSteps : List (Option SinkId × Step) :=
  [(some (.given "log"), .side "db" ⟨"agent", "c0"⟩),
   (some (.given "log"), .run [.value (.text "ps")] none none)]

def filedLog : Bytes := Bytes.ofAscii <|
  "old\n$ docker create --volumes-from c0 --net=container:c0 --ipc=container:c0 db\nnew\n" ++
  "$ docker start c1\n$ docker rm -f c1\n$ docker ps\nID?\n"

theorem filesInOrderUnlaunched :
    let c : Client := { verbose := true }
    let log := SinkId.given "log"
    let ran := filed.session c filedSteps
    let journal := ran.1.flatMap StepReport.journal
    filed.processes = [] ∧ filed.Flushed ∧ (∀ step ∈ filedSteps, step.2.Ours filed) ∧
    (filed.step c (some log) (.side "db" ⟨"agent", "c0"⟩)).2.Flushed ∧
    (Sink.file (Bytes.ofAscii "old\n") []).Ready log journal ∧
    (∀ report ∈ ran.1, report.processes = []) ∧
    Bytes.ofAscii "old\n" ++ journal.flatMap (Entry.landed c.verbose log) = filedLog ∧
    ran.2.sink? log = some (.file filedLog []) := by
  intro c log ran journal
  have clear : filed.Flushed := by
    intro id s has _
    simp only [World.sink?, filed, Table.get?] at has
    split at has
    · cases has
      rfl
    · cases has
  have ours : ∀ step ∈ filedSteps, step.2.Ours filed := by
    simp [filedSteps, Step.Ours]
  obtain ⟨steps, ⟨-, files⟩, -, landed⟩ := filesInOrder c (w := filed) rfl clear filedSteps ours
  have left : ∀ report ∈ ran.1, report.processes = [] := by decide +kernel
  have whole :
      Bytes.ofAscii "old\n" ++ journal.flatMap (Entry.landed c.verbose log) = filedLog := by
    decide +kernel
  have file := landed left "log" _ rfl
  refine ⟨rfl, clear, ours, (steps [] _ _ _ rfl).2.1, (files "log" _ rfl rfl).2, left, whole, ?_⟩
  exact file.trans (by rw [← whole])

end ContainerDriver
