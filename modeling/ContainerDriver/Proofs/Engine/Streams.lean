import ContainerDriver.Proofs.Engine.Acts
import ContainerDriver.Proofs.Engine.Muted

/-! What commands do to sinks. Whatever a command is told to do with its streams, all of it is a list
of acts, one after the other, that depends on the engine's answer and on which sinks have a
descriptor. -/
namespace ContainerDriver

def Entry.isLogged : Entry → Bool
  | attempt _ | connected _ => false
  | event e => !e.isControl
  | _ => true

def World.logs (w : World) : World :=
  { sinks := w.sinks, processes := w.processes, journal := w.journal.filter Entry.isLogged }

namespace World

theorem entriesLogged (s : Sink) (a : Act) :
    (s.entries a ++ (s.made a).map Entry.event).filter Entry.isLogged =
      s.entries a ++ (s.made a).map Entry.event := by
  refine List.filter_eq_self.mpr (List.forall_mem_append.mpr ⟨?_, ?_⟩)
  · cases a with
    | call id c =>
      cases c with
      | write data => simp [Sink.entries, Entry.isLogged]
      | flush => cases can : s.canFlush <;> simp [Sink.entries, can, Entry.isLogged]
    | receive id data => cases open' : s.hasDescriptor <;> simp [Sink.entries, open', Entry.isLogged]
  · rw [List.forall_mem_map]
    exact fun e mem => by simp [Entry.isLogged, madeLines s a e mem]

theorem logsAct (w : World) (a : Act) : (w.act a).logs = w.logs.act a := by
  cases known : w.sink? a.sink with
  | none => rw [actUnknown known, actUnknown (w := w.logs) known]
  | some s =>
    rw [actKnown known, actKnown (w := w.logs) known]
    simp only [logs, List.append_assoc, List.filter_append w.journal, entriesLogged]

theorem logsEnact (w : World) (acts : List Act) :
    (w.enact acts).logs = w.logs.enact acts := by
  induction acts generalizing w with
  | nil => rfl
  | cons a rest ih =>
    rw [enact, List.foldl_cons, ← enact, ih, logsAct]
    rfl

theorem sentLogs (w : World) (id : SinkId) : w.logs.sent id = w.sent id := by
  unfold sent logs
  dsimp only
  induction w.journal with
  | nil => rfl
  | cons e rest ih =>
    cases kept : e.isLogged with
    | true => rw [List.filter_cons_of_pos kept, List.flatMap_cons, ih, List.flatMap_cons]
    | false =>
      have nothing : e.bytesTo id = [] := by
        cases e with
        | wrote | flushed | received => cases kept
        | event | attempt | connected => rfl
      rw [List.filter_cons_of_neg (by simp [kept]), ih, List.flatMap_cons, nothing,
        List.nil_append]

theorem displayedLogs (w : World) : w.logs.displayed = w.displayed := by
  unfold displayed logs
  dsimp only
  rw [List.filterMap_filter]
  refine List.filterMap_congr fun e _ => ?_
  cases e with
  | event e => cases control : e.isControl <;> simp [Entry.isLogged, Entry.line?, control]
  | _ => rfl

theorem enactDescriptor (w : World) (acts : List Act) (id : SinkId) :
    (w.enact acts).hasDescriptor id = w.hasDescriptor id := by
  have kept (s : Sink) (as : List Act) : (as.foldl Sink.act s).hasDescriptor = s.hasDescriptor := by
    induction as generalizing s with
    | nil => rfl
    | cons a rest ih => rw [List.foldl_cons, ih, s.actDescriptor]
  cases id with
  | own number => rfl
  | given name =>
    rw [hasDescriptor, enactSink, Option.map_map]
    refine congrArg (Option.getD · false) (Option.map_congr fun s _ => ?_)
    exact kept s _

theorem descriptorOfSink {w w' : World} {id : SinkId} (same : w'.sink? id = w.sink? id) :
    w'.hasDescriptor id = w.hasDescriptor id := by
  cases id with
  | own number => rfl
  | given name => rw [hasDescriptor, hasDescriptor, same]

theorem enactAppend (w : World) (as bs : List Act) :
    w.enact (as ++ bs) = (w.enact as).enact bs := List.foldl_append

def deliveries (stdout stderr : Stream) (chunks : List Chunk) : List Act :=
  chunks.filterMap fun c =>
    match c, stdout, stderr with
    | .out data, .sink id, _ => some (.receive id data)
    | .err data, _, .sink id => some (.receive id data)
    | _, _, _ => none

theorem deliverEnacts (w : World) (stdout stderr : Stream) (chunks : List Chunk) :
    w.deliver stdout stderr chunks = w.enact (deliveries stdout stderr chunks) := by
  unfold deliver deliveries enact
  rw [List.foldl_filterMap]
  refine congrArg (fun f => chunks.foldl f w) ?_
  funext w c
  cases c <;> cases stdout <;> cases stderr <;> rfl

end World

namespace World.Deaf

variable {α : Type} {view : World → α} (deaf : Deaf view)

include deaf

theorem act (w : World) (a : Act) : view (w.act a) = view w := by
  cases a with
  | call id c =>
    cases c with
    | write data => exact deaf.write w id data
    | flush => exact deaf.flush w id
  | receive id data => exact deaf.receive w id data

theorem enact (w : World) (acts : List Act) : view (w.enact acts) = view w := by
  induction acts generalizing w with
  | nil => rfl
  | cons a rest ih => exact (ih _).trans (deaf.act w a)

end World.Deaf

theorem World.enactBarred (w : World) (acts : List Act) (stdout : Stream) :
    Bridge.unattachable? (w.enact acts) stdout = Bridge.unattachable? w stdout :=
  (World.unattachableMuted _ stdout).symm.trans <|
    (congrArg (Bridge.unattachable? · stdout) (World.mutedDeaf.enact w acts)).trans
      (w.unattachableMuted stdout)

structure World.Stands (w : World) (k : Core) (v : World) : Prop where
  core : w.core = k
  logs : w.logs = v

namespace World.Stands

variable {w v : World} {k : Core}

theorem enact (here : w.Stands k v) (acts : List Act) : (w.enact acts).Stands k (v.enact acts) where
  core := (World.coreDeaf.enact w acts).trans here.core
  logs := by rw [World.logsEnact, here.logs]

theorem act (here : w.Stands k v) (a : Act) : (w.act a).Stands k (v.act a) := here.enact [a]

theorem control (here : w.Stands k v) {e : Event} (control : e.isControl = true) :
    (w.record (.event e)).Stands k v where
  core := (w.recordSilent ⟨rfl, rfl⟩).trans here.core
  logs := by
    rw [← here.logs]
    simp [World.logs, World.record, Entry.isLogged, control]

theorem descriptor (here : w.Stands k v) (id : SinkId) :
    w.hasDescriptor id = v.hasDescriptor id := by
  rw [← here.logs]
  cases id <;> rfl

theorem barred (here : w.Stands k v) (stdout : Stream) :
    Bridge.unattachable? w stdout = Bridge.unattachable? v stdout := by
  rw [← here.logs]
  rcases stdout with _ | _ | id
  · rfl
  · rfl
  · cases id <;> rfl

end World.Stands

def Leaves {α : Type} (p : Op α) (w : World) (r : Except Fault α) (k : Core) (v : World) : Prop :=
  ∃ w', (p.run w).run = (r, w') ∧ w'.Stands k v

namespace Leaves

variable {α β : Type} {p : Op α} {q : α → Op β} {w v v' : World} {k k' : Core}

theorem value (a : α) (here : w.Stands k v) : Leaves (pure a) w (.ok a) k v := ⟨w, rfl, here⟩

theorem step {a : α} {r : Except Fault β} (first : Leaves p w (.ok a) k v)
    (next : ∀ w', w'.Stands k v → Leaves (q a) w' r k' v') : Leaves (p >>= q) w r k' v' := by
  obtain ⟨w', ran, there⟩ := first
  obtain ⟨w'', ran', there'⟩ := next w' there
  exact ⟨w'', (Op.bindOk ran).trans ran', there'⟩

theorem stop {f : Fault} (first : Leaves p w (.error f) k v) :
    Leaves (p >>= q) w (.error f) k v := by
  obtain ⟨w', ran, there⟩ := first
  exact ⟨w', Op.bindError ran, there⟩

theorem change {f : World → World} (there : (f w).Stands k v) :
    Leaves (modify f : Op PUnit) w (.ok ⟨⟩) k v := ⟨f w, rfl, there⟩

theorem look {q : World → Op β} {r : Except Fault β} (next : Leaves (q w) w r k v) :
    Leaves (get >>= q) w r k v := next

theorem emit (e : Event) (control : e.isControl = true) (here : w.Stands k v) :
    Leaves (Op.emit e) w (.ok ()) k v := .change (here.control control)

end Leaves

namespace Bridge

variable {w v : World} {k : Core}

def writing (id : SinkId) (data : Bytes) : List Act :=
  if data ≠ [] then [.call id (.write data)] else []

def announcement (verbose : Bool) (command : Command) : Bytes :=
  if verbose then Text.Utf8.ofText command.announcement else []

def announcing (verbose : Bool) (command : Command) (log : SinkId) : List Act :=
  if verbose then [.call log (.write (announcement verbose command)), .call log .flush] else []

variable {verbose : Bool} {command : Command}

theorem announceLeaves (log : SinkId) (shown : command.unshown? verbose = none)
    (here : w.Stands k v) : Leaves (announce verbose command log) w (.ok ()) k
      (v.enact (announcing verbose command log)) := by
  refine .step (.emit _ rfl here) fun w here => ?_
  cases verbose with
  | false => exact .value () here
  | true =>
    rw [if_pos rfl, show Text.unencodable? command.announcement = none from shown]
    exact .step (.change (here.act (.call log (.write _)))) fun w here =>
      .change (here.act (.call log .flush))

theorem announceStops (log : SinkId) {e : Text.Unencodable}
    (unshown : command.unshown? verbose = some e) (here : w.Stands k v) :
    Leaves (announce verbose command log) w (.error (.unencodable e)) k v := by
  refine .step (.emit _ rfl here) fun w here => ?_
  cases verbose with
  | false => cases unshown
  | true =>
    rw [if_pos rfl, show Text.unencodable? command.announcement = some e from unshown]
    exact ⟨w, rfl, here⟩

theorem launchLeaves (command : Command) (stdin stdout stderr : Stream) (input : Option Bytes)
    (here : w.Stands k v) : Leaves (launch command stdin stdout stderr input) w
      (((k.answer command (unattachable? v stdout)).outcome command.binary).map
        fun out => (k.nextPid, out))
      (k.ask command input (unattachable? v stdout)) v := by
  have quiet (script : Script) (a : Attempt) :
      ({ w with script }.record (.attempt a)).logs = v := by
    rw [← here.logs]
    simp [World.logs, World.record, Entry.isLogged]
  obtain ⟨w', ran, core⟩ := launchEnds command stdin stdout stderr input here.core
  rw [← here.barred]
  refine ⟨w', ran, core, ?_⟩
  have concluded := launchConcludes w command stdin stdout stderr input
  rw [ran] at concluded
  rw [show w' = _ from congrArg Prod.snd concluded]
  unfold conclude
  cases (reply w.script w.parent command (unattachable? w stdout)).1 <;> exact quiet _ _

def outputting (out : Bytes) : Output → List Act
  | .sink id => writing id out
  | _ => []

def reporting (log : SinkId) (target : Output) (stdout stderr : Stream) (chunks : List Chunk) :
    List Act :=
  World.deliveries stdout stderr chunks ++
    (writing log (if stderr = .pipe then Chunk.stderrOf chunks else []) ++
      (outputting (if stdout = .pipe then Chunk.stdoutOf chunks else []) target ++
        [.call log .flush]))

theorem writingLeaves {α : Type} {p : Op α} {r : Except Fault α} {k' : Core} {v' : World}
    (id : SinkId) (data : Bytes) (here : w.Stands k v)
    (rest : ∀ w, w.Stands k (v.enact (writing id data)) → Leaves p w r k' v') :
    Leaves (if data ≠ [] then (do modify (·.write id data); p) else p) w r k' v' := by
  unfold writing at rest
  split
  · next some' =>
    rw [if_pos some'] at rest
    exact .step (.change (here.act (.call id (.write data)))) rest
  · next none' =>
    rw [if_neg none'] at rest
    exact rest w here

theorem reportLeaves (command : Command) (log : SinkId) (target : Output) (stdout stderr : Stream)
    (code : Int) (chunks : List Chunk) (here : w.Stands k v) : Leaves (do
      modify (·.deliver stdout stderr chunks)
      let out := if stdout = .pipe then Chunk.stdoutOf chunks else []
      let err := if stderr = .pipe then Chunk.stderrOf chunks else []
      if err ≠ [] then modify (·.write log err)
      match target with
      | .sink id => if out ≠ [] then modify (·.write id out)
      | _ => pure ()
      modify (·.flush log)
      Op.emit (.finished command.render code)
      return Execution.mk code (if target = .collect then out else [])) w
      (.ok ⟨code, if target = .collect then
        (if stdout = .pipe then Chunk.stdoutOf chunks else []) else []⟩) k
      (v.enact (reporting log target stdout stderr chunks)) := by
  have closes (e : Execution) {w v : World} (here : w.Stands k v) : Leaves (do
      modify (·.flush log)
      Op.emit (.finished command.render code)
      return e) w (.ok e) k (v.enact [.call log .flush]) :=
    .step (.change (here.act (.call log .flush))) fun w here =>
      .step (.emit _ rfl here) fun w here => .value e here
  have delivered : (w.deliver stdout stderr chunks).Stands k
      (v.enact (World.deliveries stdout stderr chunks)) := by
    rw [World.deliverEnacts]
    exact here.enact _
  rw [reporting, World.enactAppend, World.enactAppend, World.enactAppend]
  refine .step (.change delivered) fun w here => ?_
  refine writingLeaves log _ here fun w here => ?_
  cases target with
  | standard => exact closes _ here
  | collect => exact closes _ here
  | sink id => exact writingLeaves id _ here fun w here => closes _ here

def aim (verbose : Bool) (output : Output) (log : SinkId) : Output :=
  if output = .standard ∧ verbose then .sink log else output

theorem aimCollect {verbose : Bool} {output : Output} {log : SinkId} :
    aim verbose output log = .collect ↔ output = .collect := by
  unfold aim
  split
  · next standard => simp [standard.1]
  · exact Iff.rfl

def outStream (v : World) : Output → Stream
  | .standard => .discard
  | .collect => .pipe
  | .sink id => if v.hasDescriptor id then .sink id else .pipe

def preparing (v : World) : Output → List Act
  | .sink id => if v.hasDescriptor id then [.call id .flush] else []
  | _ => []

def answering (log : SinkId) (target : Output) (stdout stderr : Stream) : Answer → List Act
  | .exits _ chunks => reporting log target stdout stderr chunks
  | _ => []

def completing (v : World) (command : Command) (target : Output) (log : SinkId) (verbose : Bool)
    (answer : Answer) : List Act :=
  announcing verbose command log ++
    (preparing v target ++ answering log target (outStream v target) (errorStream v log) answer)

theorem answerLeaves {α : Type} {command : Command} {stdin stdout stderr : Stream}
    {input : Option Bytes} {log : SinkId} {target : Output}
    {report : Nat × Int × List Chunk → Op α} {give : Int × List Chunk → α}
    (free : unattachable? v stdout = none)
    (reports : ∀ out w, w.Stands (k.ask command input) v → Leaves (report out) w (.ok (give out.2))
      (k.ask command input) (v.enact (reporting log target stdout stderr out.2.2)))
    (here : w.Stands k v) :
    Leaves (launch command stdin stdout stderr input >>= report) w
      (((k.answer command).outcome command.binary).map give) (k.ask command input)
      (v.enact (answering log target stdout stderr (k.answer command))) := by
  have launched := launchLeaves command stdin stdout stderr input here
  rw [free] at launched
  cases reply : k.answer command with
  | exits code chunks =>
    rw [reply] at launched
    exact .step launched fun w here => reports (k.nextPid, code, chunks) w here
  | fails e =>
    rw [reply] at launched
    exact .stop launched
  | refuses r =>
    rw [reply] at launched
    exact .stop launched

theorem outStreamFree (v : World) (target : Output) :
    unattachable? v (outStream v target) = none := by
  cases target with
  | standard | collect => rfl
  | sink id =>
    rw [outStream]
    split
    · next open' => simp only [unattachable?, open', if_true]
    · rfl

theorem completeLeaves (input : Option Bytes) (output : Output) (log : SinkId)
    (shown : command.unshown? verbose = none) (here : w.Stands k v) :
    Leaves (complete verbose command input output log) w
      (((k.answer command).outcome command.binary).map fun out =>
        Execution.mk out.1 (if output = .collect then Chunk.stdoutOf out.2 else []))
      (k.ask command input)
      (v.enact (completing v command (aim verbose output log) log verbose (k.answer command))) := by
  rw [completing, World.enactAppend, World.enactAppend]
  refine .step (announceLeaves log shown here) fun w here => ?_
  extract_lets target
  have aimed : target = aim verbose output log := rfl
  have collected : target = .collect ↔ output = .collect := aimed ▸ aimCollect
  rw [← aimed]
  clear_value target
  refine .look ?_
  have descriptor (id : SinkId) : w.hasDescriptor id = v.hasDescriptor id :=
    (here.descriptor id).trans (World.enactDescriptor v _ id)
  extract_lets stderr rest
  have errors : stderr = errorStream v log := by
    simp only [stderr, errorStream, descriptor]
  have free := outStreamFree v target
  have restLeaves (stdout : Stream) (piped : target = .collect → stdout = .pipe) {w v' : World}
      (free : unattachable? v' stdout = none) (here : w.Stands k v') : Leaves (rest stdout) w
        (((k.answer command).outcome command.binary).map fun out =>
          Execution.mk out.1 (if output = .collect then Chunk.stdoutOf out.2 else []))
        (k.ask command input) (v'.enact (answering log target stdout stderr (k.answer command))) := by
    refine answerLeaves free (fun out w here => ?_) here
    have same : (if target = .collect then
        (if stdout = .pipe then Chunk.stdoutOf out.2.2 else []) else []) =
        if output = .collect then Chunk.stdoutOf out.2.2 else [] := by
      by_cases h : output = .collect
      · rw [if_pos h, if_pos (collected.mpr h), if_pos (piped (collected.mpr h))]
      · rw [if_neg h, if_neg (mt collected.mp h)]
    have reported := reportLeaves command log target stdout stderr out.2.1 out.2.2 here
    rw [same] at reported
    exact reported
  rw [← errors]
  cases target with
  | standard => exact restLeaves .discard (by simp) rfl here
  | collect => exact restLeaves .pipe (fun _ => rfl) rfl here
  | sink id =>
    dsimp only
    rw [outStream] at free ⊢
    rw [preparing, descriptor]
    split
    · next open' =>
      rw [if_pos open'] at free
      refine .step (.change (here.act (.call id .flush))) fun w here =>
        restLeaves _ (by simp) ?_ here
      rw [World.enactBarred _ [_], World.enactBarred]
      exact free
    · exact restLeaves .pipe (fun _ => rfl) rfl here

theorem completeStops (input : Option Bytes) (output : Output) (log : SinkId) {e : Text.Unencodable}
    (unshown : command.unshown? verbose = some e) (here : w.Stands k v) :
    Leaves (complete verbose command input output log) w (.error (.unencodable e)) k v :=
  .stop (announceStops log unshown here)

def started (v : World) (interactive : Bool) (stdout : Stream) (log : SinkId) (pid : Nat)
    (code : Int) (chunks : List Chunk) : Child :=
  ⟨pid, code, chunks, if interactive then .pipe else stdout, errorStream v log,
    if errorStream v log = .pipe then some log else none⟩

theorem startLaunches (interactive : Bool) (stdout : Stream) (log : SinkId)
    (shown : command.unshown? verbose = none) (here : w.Stands k v) {k' : Core} {v' : World}
    {r : Except Fault Nat}
    (rest : ∀ w, w.Stands k (v.enact (announcing verbose command log)) → Leaves (do
      let out ← launch command (if interactive then .pipe else .discard)
        (if interactive then .pipe else stdout) (errorStream v log) none
      modify fun w => { w with
        processes := w.processes ++ [started v interactive stdout log out.1 out.2.1 out.2.2] }
      Op.emit (.started command.render out.1)
      return out.1) w r k' v') :
    Leaves (start verbose command interactive stdout (some log)) w r k' v' := by
  refine .step (.value log here) fun w here =>
    .step (announceLeaves log shown here) fun w here => .look ?_
  have errors : errorStream w log = errorStream v log := by
    simp only [errorStream, here.descriptor, World.enactDescriptor]
  rw [errors]
  exact rest w here

theorem startLeaves {code : Int} {chunks : List Chunk} (interactive : Bool) (stdout : Stream)
    (log : SinkId) (shown : command.unshown? verbose = none)
    (free : startBarred? v interactive stdout = none) (here : w.Stands k v)
    (reply : k.answer command = .exits code chunks) :
    let process := started v interactive stdout log k.nextPid code chunks
    let v' := v.enact (announcing verbose command log)
    Leaves (start verbose command interactive stdout (some log)) w (.ok k.nextPid)
      (k.ask command none) { v' with processes := v'.processes ++ [process] } := by
  intro process v'
  refine startLaunches interactive stdout log shown here fun w here => ?_
  have launched := launchLeaves command (if interactive then .pipe else .discard)
    (if interactive then .pipe else stdout) (errorStream v log) none here
  rw [World.enactBarred, show unattachable? v _ = none from free, reply] at launched
  refine .step launched fun w here => ?_
  have left : { w with processes := w.processes ++ [process] }.Stands (k.ask command none)
      { v' with processes := v'.processes ++ [process] } :=
    ⟨here.core, by rw [← show w.logs = v' from here.logs]; rfl⟩
  exact .step (.change left) fun w here => .step (.emit _ rfl here) fun w here => .value _ here

theorem startHaltsAt {f : Fault} (interactive : Bool) (stdout : Stream) (log : SinkId)
    (shown : command.unshown? verbose = none) (here : w.Stands k v)
    (reply : (k.answer command (startBarred? v interactive stdout)).outcome command.binary =
      .error f) :
    Leaves (start verbose command interactive stdout (some log)) w (.error f)
      (k.ask command none (startBarred? v interactive stdout))
      (v.enact (announcing verbose command log)) := by
  refine startLaunches interactive stdout log shown here fun w here => ?_
  have launched := launchLeaves command (if interactive then .pipe else .discard)
    (if interactive then .pipe else stdout) (errorStream v log) none here
  rw [World.enactBarred, show (k.answer command (unattachable? v _)).outcome _ = _ from reply]
    at launched
  exact .stop launched

theorem startStops {e : Text.Unencodable} (interactive : Bool) (stdout : Stream) (log : SinkId)
    (unshown : command.unshown? verbose = some e) (here : w.Stands k v) :
    Leaves (start verbose command interactive stdout (some log)) w (.error (.unencodable e)) k v :=
  .step (.value log here) fun _ here => .stop (announceStops log unshown here)

end Bridge
end ContainerDriver
