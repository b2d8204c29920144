import ContainerDriver.Proofs.Engine.Delivery

/-! Engine commands one by one. Whether it is waited for or left running, a command is announced,
tried unless its line cannot be shown, and concluded if it was launched; sinks are written to before
and after the attempt, and nothing else is done. What every command upholds is upheld by every
step. -/
namespace ContainerDriver

structure Spawn where
  attempt : Attempt
  log : SinkId
  -- There is a number if the process is left running.
  pid : Option Nat
  -- The log is given the output as well.
  echoed : Bool

namespace Spawn

def closing (s : Spawn) : List Event :=
  match s.attempt.answer, s.pid with
  | .exits code _, none => [.finished s.attempt.command.render code]
  | .exits _ _, some pid => [.started s.attempt.command.render pid]
  | _, _ => []

def child? (s : Spawn) : Option Child :=
  match s.attempt.answer, s.pid with
  | .exits code chunks, some pid =>
    some ⟨pid, code, chunks, s.attempt.stdout, s.attempt.stderr,
      if s.attempt.stderr = .pipe then some s.log else none⟩
  | _, _ => none

theorem childWaited {s : Spawn} (waited : s.pid = none) : s.child? = none := by
  unfold child?
  rw [waited]
  cases s.attempt.answer <;> rfl

theorem childSilent {s : Spawn} {pid : Nat} (left : s.pid = some pid) (alone : s.child? = none) :
    s.attempt.answer.chunks = [] := by
  unfold child? at alone
  rw [left] at alone
  cases answer : s.attempt.answer with
  | exits => simp [answer] at alone
  | fails | refuses => rfl

theorem childForwards {s : Spawn} {p : Child} {id : SinkId} (left : p ∈ s.child?)
    (forwarder : id ∈ p.forwarder) : s.attempt.stderr = .pipe ∧ s.log = id := by
  unfold child? at left
  split at left
  · cases left
    simpa using forwarder
  · cases left

theorem closingCommand (s : Spawn) {e : Event} (said : e ∈ s.closing) : e.isCommand = true := by
  unfold closing at said
  split at said
  · cases List.mem_singleton.mp said
    rfl
  · cases List.mem_singleton.mp said
    rfl
  · cases said

end Spawn

namespace World

def tried (w : World) (a : Attempt) : World :=
  { w with
    script := (Bridge.reply w.script w.parent a.command (Bridge.unattachable? w a.stdout)).2
    nextPid := if a.launched then w.nextPid + 1 else w.nextPid
    journal := w.journal ++ [.attempt a] }

def spawn (w : World) (s : Spawn) (before after : List Act) : World :=
  let announced := (w.record (.event (.running s.attempt.command.render))).enact before
  let concluded := (announced.tried s.attempt).enact after
  { concluded with processes := concluded.processes ++ s.child?.toList }.recordEvents s.closing

theorem spawnHalts {w : World} {s : Spawn} {binary : Text} {f : Fault}
    (halted : s.attempt.answer.outcome binary = .error f) (before : List Act) :
    w.spawn s before [] = ((w.record (.event (.running s.attempt.command.render))).enact
      before).tried s.attempt := by
  cases reply : s.attempt.answer with
  | exits => simp [reply, Answer.outcome] at halted
  | fails | refuses => simp [spawn, Spawn.child?, Spawn.closing, reply, recordEvents, enact]

theorem spawnProcesses (w : World) (s : Spawn) (before after : List Act) :
    (w.spawn s before after).processes = w.processes ++ s.child?.toList := by
  change ((((w.record _).enact before).tried s.attempt).enact after).processes ++ _ = _
  rw [processesDeaf.enact]
  exact congrArg (· ++ _) (processesDeaf.enact (w.record _) before)

theorem spawnSink (w : World) (s : Spawn) (before after : List Act) (id : SinkId) :
    (w.spawn s before after).sink? id = (w.enact (before ++ after)).sink? id := by
  change ((((w.record _).enact before).tried s.attempt).enact after).sink? id = _
  rw [enactAppend, enactSink, enactSink _ after]
  refine congrArg (Option.map _) ?_
  change ((w.record _).enact before).sink? id = _
  rw [enactSink, enactSink]
  rfl

theorem spawnDescriptor (w : World) (s : Spawn) (before after : List Act) (id : SinkId) :
    (w.spawn s before after).hasDescriptor id = w.hasDescriptor id :=
  (descriptorOfSink (w.spawnSink s before after id)).trans (w.enactDescriptor _ id)

end World

def Gives {α : Type} (p : Op α) (w : World) (r : Except Fault α) (w' : World) : Prop :=
  (p.run w).run = (r, w')

def Reaches {α : Type} (p : Op α) (w w' : World) : Prop := ((p.run w).run).2 = w'

section

variable {α β : Type} {p : Op α} {q : α → Op β} {w v w' : World}

theorem Gives.step {a : α} {r : Except Fault β} (first : Gives p w (.ok a) v)
    (next : Gives (q a) v r w') : Gives (p >>= q) w r w' :=
  (Op.bindOk first).trans next

namespace Reaches

theorem step {a : α} (first : Gives p w (.ok a) v) (next : Reaches (q a) v w') :
    Reaches (p >>= q) w w' :=
  (congrArg Prod.snd (Op.bindOk first)).trans next

theorem stop {f : Fault} (first : Gives p w (.error f) w') : Reaches (p >>= q) w w' :=
  congrArg Prod.snd (Op.bindError first)

theorem look {q : World → Op β} (next : Reaches (q w) w w') : Reaches (get >>= q) w w' := next

theorem change {f : World → World} {q : Op β} (next : Reaches q (f w) w') :
    Reaches (do modify f; q) w w' := step (v := f w) rfl next

end Reaches

end

namespace Bridge

variable {w : World}

def attemptOf (w : World) (command : Command) (stdin stdout stderr : Stream)
    (input : Option Bytes) : Attempt :=
  ⟨command, childEnv w.parent command, stdin, stdout, stderr, input,
    (reply w.script w.parent command (unattachable? w stdout)).1⟩

def waited (w : World) (verbose : Bool) (command : Command) (input : Option Bytes)
    (output : Output) (log : SinkId) : Spawn where
  attempt := attemptOf w command (if input.isSome then .pipe else .discard)
    (outStream w (aim verbose output log)) (errorStream w log) input
  log := log
  pid := none
  echoed := aim verbose output log = .sink log

def left (w : World) (command : Command) (interactive : Bool) (stdout : Stream) (log : SinkId) :
    Spawn where
  attempt := attemptOf w command (if interactive then .pipe else .discard)
    (if interactive then .pipe else stdout) (errorStream w log) none
  log := log
  pid := some w.nextPid
  echoed := false

end Bridge

namespace World

open Bridge

def completed (w : World) (verbose : Bool) (command : Command) (input : Option Bytes)
    (output : Output) (log : SinkId) : World :=
  let target := aim verbose output log
  let s := waited w verbose command input output log
  w.spawn s (announcing verbose command log ++ preparing w target)
    (answering log target s.attempt.stdout s.attempt.stderr s.attempt.answer)

def begun (w : World) (verbose : Bool) (command : Command) (interactive : Bool) (stdout : Stream)
    (log : SinkId) : World :=
  w.spawn (left w command interactive stdout log) (announcing verbose command log) []

end World

namespace Bridge

variable {w : World}

theorem attemptEnact (w : World) (acts : List Act) (command : Command)
    (stdin stdout stderr : Stream) (input : Option Bytes) :
    attemptOf (w.enact acts) command stdin stdout stderr input =
      attemptOf w command stdin stdout stderr input := by
  have parent : (w.enact acts).parent = w.parent :=
    congrArg Core.parent (World.coreDeaf.enact w acts)
  have script : (w.enact acts).script = w.script :=
    congrArg Core.script (World.coreDeaf.enact w acts)
  rw [attemptOf, parent, script, World.enactBarred, ← attemptOf]

theorem concludeGives (w : World) (command : Command) (stdin stdout stderr : Stream)
    (input : Option Bytes) (answer : Answer) (script : Script) :
    let a : Attempt := ⟨command, childEnv w.parent command, stdin, stdout, stderr, input, answer⟩
    Gives (conclude w command stdin stdout stderr input answer script) w
      ((answer.outcome command.binary).map fun out => (w.nextPid, out))
      { w with
        script
        nextPid := if a.launched then w.nextPid + 1 else w.nextPid
        journal := w.journal ++ [.attempt a] } := by
  cases answer <;> rfl

theorem launchGives (w : World) (command : Command) (stdin stdout stderr : Stream)
    (input : Option Bytes) :
    let a := attemptOf w command stdin stdout stderr input
    Gives (launch command stdin stdout stderr input) w
      ((a.answer.outcome command.binary).map fun out => (w.nextPid, out)) (w.tried a) :=
  concludeGives w command stdin stdout stderr input _ _

section

variable {verbose : Bool} {command : Command} (log : SinkId) (w : World)

theorem announceGives (shown : command.unshown? verbose = none) :
    Gives (announce verbose command log) w (.ok ())
      ((w.record (.event (.running command.render))).enact (announcing verbose command log)) := by
  cases verbose with
  | false => rfl
  | true =>
    refine .step (v := w.record (.event (.running command.render))) (a := ()) rfl ?_
    rw [if_pos rfl, show Text.unencodable? command.announcement = none from shown]
    rfl

theorem announceReaches {e : Text.Unencodable} (unshown : command.unshown? verbose = some e) :
    Gives (announce verbose command log) w (.error (.unencodable e))
      (w.record (.event (.running command.render))) := by
  cases verbose with
  | false => cases unshown
  | true =>
    refine .step (v := w.record (.event (.running command.render))) (a := ()) rfl ?_
    rw [if_pos rfl, show Text.unencodable? command.announcement = some e from unshown]
    rfl

end

theorem writingGives {α : Type} {p : Op α} {r : Except Fault α} {w' : World} (id : SinkId)
    (data : Bytes) (rest : Gives p (w.enact (writing id data)) r w') :
    Gives (if data ≠ [] then (do modify (·.write id data); p) else p) w r w' := by
  unfold writing at rest
  split
  · next some' =>
    rw [if_pos some'] at rest
    exact .step (v := w.write id data) rfl rest
  · next none' =>
    rw [if_neg none'] at rest
    exact rest

theorem reportGives (command : Command) (log : SinkId) (target : Output) (stdout stderr : Stream)
    (code : Int) (chunks : List Chunk) (w : World) : Gives (do
      modify (·.deliver stdout stderr chunks)
      let out := if stdout = .pipe then Chunk.stdoutOf chunks else []
      let err := if stderr = .pipe then Chunk.stderrOf chunks else []
      if err ≠ [] then modify (·.write log err)
      match target with
      | .sink id => if out ≠ [] then modify (·.write id out)
      | _ => pure ()
      modify (·.flush log)
      Op.emit (.finished command.render code)
      return Execution.mk code (if target = .collect then out else [])) w
      (.ok ⟨code, if target = .collect then
        (if stdout = .pipe then Chunk.stdoutOf chunks else []) else []⟩)
      ((w.enact (reporting log target stdout stderr chunks)).record
        (.event (.finished command.render code))) := by
  have closes (e : Execution) (w : World) : Gives (do
      modify (·.flush log)
      Op.emit (.finished command.render code)
      return e) w (.ok e)
      ((w.enact [.call log .flush]).record (.event (.finished command.render code))) := rfl
  rw [reporting, World.enactAppend, World.enactAppend, World.enactAppend, ← World.deliverEnacts]
  refine .step (v := w.deliver stdout stderr chunks) rfl ?_
  refine writingGives log _ ?_
  cases target with
  | standard => exact closes _ _
  | collect => exact closes _ _
  | sink id => exact writingGives id _ (closes _ _)

theorem launchReaches {α : Type} {command : Command} {stdin stdout stderr : Stream}
    {input : Option Bytes} {s : Spawn} {conclude : Nat × Int × List Chunk → Op α}
    {before after : List Act} {w : World}
    (attempt : s.attempt = attemptOf w command stdin stdout stderr input)
    (concludes : ∀ code chunks, s.attempt.answer = .exits code chunks →
      let v := ((w.record (.event (.running command.render))).enact before).tried s.attempt
      Reaches (conclude (w.nextPid, code, chunks)) v (w.spawn s before after))
    (halts : ∀ f, s.attempt.answer.outcome command.binary = .error f → after = []) :
    Reaches (launch command stdin stdout stderr input >>= conclude)
      ((w.record (.event (.running command.render))).enact before) (w.spawn s before after) := by
  let announced := (w.record (.event (.running command.render))).enact before
  have same : attemptOf announced command stdin stdout stderr input = s.attempt :=
    (attemptEnact _ _ command _ _ _ input).trans attempt.symm
  have pid : announced.nextPid = w.nextPid :=
    congrArg Core.nextPid (World.coreDeaf.enact (w.record _) before)
  have launched := launchGives announced command stdin stdout stderr input
  simp only [same, pid] at launched
  have stops {f : Fault} (halted : s.attempt.answer.outcome command.binary = .error f) :
      Reaches (launch command stdin stdout stderr input >>= conclude) announced
        (w.spawn s before after) := by
    have rendered : s.attempt.command = command := congrArg Attempt.command attempt
    rw [halted] at launched
    rw [halts f halted, World.spawnHalts halted, rendered]
    exact .stop launched
  cases reply : s.attempt.answer with
  | exits code chunks =>
    rw [reply] at launched
    exact .step launched (concludes code chunks reply)
  | fails => exact stops (by rw [reply]; rfl)
  | refuses => exact stops (by rw [reply]; rfl)

theorem answeringHalts {answer : Answer} {binary : Text} {f : Fault} {log : SinkId}
    {target : Output} {stdout stderr : Stream} (halted : answer.outcome binary = .error f) :
    answering log target stdout stderr answer = [] := by
  cases answer with
  | exits => cases halted
  | fails | refuses => rfl

theorem completeReaches {verbose : Bool} {command : Command}
    (shown : command.unshown? verbose = none) (input : Option Bytes) (output : Output)
    (log : SinkId) (w : World) :
    Reaches (complete verbose command input output log) w
      (w.completed verbose command input output log) := by
  let target := aim verbose output log
  have descriptor (id : SinkId) : ((w.record (.event (.running command.render))).enact
      (announcing verbose command log)).hasDescriptor id = w.hasDescriptor id := by
    rw [World.enactDescriptor]
    rfl
  refine .step (announceGives log w shown) ?_
  extract_lets target'
  rw [show target' = target from rfl]
  refine .look ?_
  extract_lets stderr rest
  have errors : stderr = errorStream w log := by
    simp only [stderr, errorStream, descriptor]
  have restReaches (stdout : Stream) (before : List Act) :
      let a := attemptOf w command (if input.isSome then .pipe else .discard) stdout stderr input
      Reaches (rest stdout) ((w.record (.event (.running command.render))).enact before)
        (w.spawn ⟨a, log, none, target = .sink log⟩ before
          (answering log target stdout stderr a.answer)) := by
    intro a
    refine launchReaches rfl (fun code chunks reply => ?_) fun f halted => answeringHalts halted
    have reply : a.answer = .exits code chunks := reply
    simp only [World.spawn, Spawn.closing, Spawn.child?, reply, Option.toList_none, List.append_nil]
    exact congrArg Prod.snd (reportGives command log target stdout stderr code chunks _)
  rw [errors] at restReaches
  have reached : Reaches _ _ (w.completed verbose command input output log) :=
    restReaches (outStream w target) (announcing verbose command log ++ preparing w target)
  rw [World.enactAppend] at reached
  -- From here on the world that is reached does not matter, only the way to it.
  generalize w.completed verbose command input output log = final at reached ⊢
  clear_value rest target
  cases target with
  | standard => exact reached
  | collect => exact reached
  | sink id =>
    dsimp only
    rw [outStream, preparing] at reached
    rw [descriptor]
    split
    · next direct =>
      rw [if_pos direct, if_pos direct] at reached
      exact .change reached
    · next piped =>
      rw [if_neg piped, if_neg piped] at reached
      exact reached

theorem startReaches {verbose : Bool} {command : Command}
    (shown : command.unshown? verbose = none) (interactive : Bool) (stdout : Stream)
    (log : SinkId) (w : World) :
    Reaches (start verbose command interactive stdout (some log)) w
      (w.begun verbose command interactive stdout log) := by
  have errors : errorStream ((w.record (.event (.running command.render))).enact
      (announcing verbose command log)) log = errorStream w log := by
    rw [errorStream, World.enactDescriptor]
    rfl
  refine .step (v := w) rfl (.step (announceGives log w shown) (.look ?_))
  rw [errors]
  refine launchReaches rfl (fun code chunks reply => ?_) fun _ _ => rfl
  simp only [World.spawn, Spawn.closing, Spawn.child?, reply]
  rfl

theorem unshownReaches {verbose : Bool} {command : Command} {e : Text.Unencodable}
    (unshown : command.unshown? verbose = some e) (log : SinkId) (w : World) :
    (∀ input output, Reaches (complete verbose command input output log) w
      (w.record (.event (.running command.render)))) ∧
    ∀ interactive stdout, Reaches (start verbose command interactive stdout (some log)) w
      (w.record (.event (.running command.render))) :=
  ⟨fun _ _ => .stop (announceReaches log w unshown),
    fun _ _ => .step (v := w) rfl (.stop (announceReaches log w unshown))⟩

end Bridge

/-- The relation leads from before to after, whatever operations are made of; starts of processes
and what callers write to sinks are apart. -/
structure Accounted (c : Client) (log : Option SinkId) (R : World → World → Prop) : Prop where
  refl (w : World) : R w w
  trans {w w' w'' : World} : R w w' → R w' w'' → R w w''
  noted (w : World) {e : Event} : e.isCommand = false → R w (w.record (.event e))
  connected (w : World) (pid : Nat) : R w (w.record (.connected pid))
  closed (w : World) : R w { w with closed := true }
  flushed (w : World) (sink : SinkId) : R w (w.flush sink)
  opened (w : World) (context : List (String × Value)) : log = none → R w (w.opened context none).2
  unshown (w : World) {command : Command} {e : Text.Unencodable} :
    command.unshown? c.verbose = some e → R w (w.record (.event (.running command.render)))
  completed (w : World) {command : Command} (input : Option Bytes) (output : Output)
    {id : SinkId} : command.unshown? c.verbose = none → log.getD id = id →
    R w (w.completed c.verbose command input output id)

namespace Accounted

variable {c : Client} {log : Option SinkId} {R : World → World → Prop}
  (accounted : Accounted c log R)

include accounted

theorem upheld (w : World) : Upheld c log (R w) where
  noted e aside := .change fun v held => accounted.trans held (accounted.noted v aside)
  connected pid := .change fun v held => accounted.trans held (accounted.connected v pid)
  opened context none := fun v held => accounted.trans held (accounted.opened v context none)
  completed command input output id same := fun v held => by
    cases shown : command.unshown? c.verbose with
    | none =>
      rw [Bridge.completeReaches shown input output id v]
      exact accounted.trans held (accounted.completed v input output shown same)
    | some e =>
      rw [(Bridge.unshownReaches shown id v).1 input output]
      exact accounted.trans held (accounted.unshown v shown)

theorem change {s : Step} {f : World → World} (changes : s.change? = some f)
    (other : ∀ sink data, s ≠ .sinkWrite sink data) (w : World) : R w (f w) := by
  cases s with
  | close | enclose =>
    cases changes
    exact accounted.closed w
  | remoting image workdir artifact connector =>
    cases connector <;> cases changes
    exact accounted.closed w
  | sinkFlush sink =>
    cases changes
    exact accounted.flushed w sink
  | sinkWrite sink data => exact absurd rfl (other sink data)
  | _ => cases changes

theorem perform {s : Step} {w : World}
    (written : ∀ sink data, s = .sinkWrite sink data → R w (w.write sink data))
    (begun : s.Starts → ∀ (w : World) (command : Command) (interactive : Bool) (stdout : Stream)
      (id : SinkId), command.unshown? c.verbose = none → log.getD id = id →
      R w (w.begun c.verbose command interactive stdout id)) :
    R w (((s.perform c log).run w).run).2 := by
  by_cases writes : ∃ sink data, s = .sinkWrite sink data
  · obtain ⟨sink, data, rfl⟩ := writes
    exact written sink data rfl
  have upheld := accounted.upheld w
  have starting (starts : s.Starts) :
      Starting c c.verbose log log (fun _ p _ => Keeps (R w) p) := by
    intro args interactive stdout
    refine upheld.sinkOr _ fun id same => ?_
    have kept : Keeps (R w) (Bridge.start c.verbose (.build c.endpoint c.binary args) interactive
        stdout (some id)) := fun v held => by
      cases shown : (Command.build c.endpoint c.binary args).unshown? c.verbose with
      | none =>
        rw [Bridge.startReaches shown interactive stdout id v]
        exact accounted.trans held (begun starts v _ interactive stdout id shown same)
      | some e =>
        rw [(Bridge.unshownReaches shown id v).2 interactive stdout]
        exact accounted.trans held (accounted.unshown v shown)
    exact kept
  have changed {f : World → World} (changes : s.change? = some f) :
      Keeps (R w) (modify f : Op PUnit) :=
    .change fun v held => accounted.trans held <|
      accounted.change changes (fun sink data same => writes ⟨sink, data, same⟩) v
  have kept := upheld.lawful.perform s (fun _ => .failure _) (fun _ => changed) starting
  have led := kept w (accounted.refl w)
  rwa [Op.mapRan] at led

end Accounted
end ContainerDriver
