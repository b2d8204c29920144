import ContainerDriver.Proofs.Engine.Muted
import ContainerDriver.Proofs.Engine.Stages

/-! Launches as plans. Each of the three goes through its stages, removes the container when one of
the later ones fails with an error of the driver, and hands an attached process over. -/
namespace ContainerDriver

namespace Client

variable {w : World} {k : Core}

theorem commandEnds (c : Client) (args : List Text) (core : w.core = k) :
    Ends (c.command (.of args)) w (.ok (c.commandFor args)) k := by
  unfold command announceHost
  split
  · refine .step (Op.emitEnds _ core) fun w core => ?_
    exact .value _ core
  · subst core
    exact .value _ rfl

theorem checkOpenEnds (opened : w.closed = false) : Ends checkOpen w (.ok ()) w.core := by
  refine .after rfl ?_
  rw [if_neg (by simp [opened])]
  exact .value () rfl

theorem captureEnds (c : Client) (command : Command) (log : Option SinkId) (core : w.core = k) :
    Ends (c.capture command log) w
      ((k.call c.verbose command none).1.map fun out =>
        Execution.mk out.1 (Chunk.stdoutOf out.2)) (k.call c.verbose command none).2 :=
  Bridge.collectEnds c.verbose command none log core

theorem captureArgsEnds (c : Client) (args : List Text) (log : Option SinkId)
    (opened : w.closed = false) : Ends (c.captureArgs args log) w
      ((w.core.call c.verbose (c.commandFor args) none).1.map fun out =>
        Execution.mk out.1 (Chunk.stdoutOf out.2))
      (w.core.call c.verbose (c.commandFor args) none).2 := by
  refine .step (checkOpenEnds opened) fun w' core => ?_
  refine .step (c.commandEnds args core) fun w'' core' => ?_
  exact c.captureEnds _ log core'

theorem runArgsEnds (c : Client) (args : List Text) (log : Option SinkId)
    (opened : w.closed = false) : Ends (c.runArgs args log) w
      ((w.core.call c.verbose (c.commandFor args) none).1.map Prod.fst)
      (w.core.call c.verbose (c.commandFor args) none).2 := by
  refine .step (checkOpenEnds opened) fun w' core => ?_
  refine .step (c.commandEnds args core) fun w'' core' => ?_
  exact Bridge.runEnds c.verbose _ none .standard log core'

theorem createPerforms (c : Client) (image : Text) (args : List Text) (log : Option SinkId)
    (prev : Bytes) : Performs c (c.create image args log) [.create image args] prev
      (fun out _ handle => handle.image = image ∧ handle.id = (Execution.mk 0 out).text) := by
  intro w opened
  refine .command rfl (c.captureArgsEnds args log opened) fun out w' => ?_
  dsimp only [Stage.create]
  by_cases named : (Execution.mk out.1 (Chunk.stdoutOf out.2)).ok = true ∧
      (Execution.mk out.1 (Chunk.stdoutOf out.2)).text ≠ ""
  · rw [if_neg (by simp [named]), if_pos named, bindNamed image (mt Text.ofStringInj.mp named.2)]
    refine ⟨⟨image, _, mt Text.ofStringInj.mp named.2⟩, .step (.value _ rfl) fun _ core => ?_, rfl, rfl⟩
    exact .step (Op.emitEnds _ core) fun _ core => .value _ core
  · rw [if_pos (by simpa [or_iff_not_imp_left] using named), if_neg named]
    exact Ends.failure _ rfl

theorem getFilePerforms (c : Client) (container path : Text) (log : Option SinkId)
    (prev : Bytes) : Performs c (c.getFile container path log) [.retrieve container path] prev
      (fun out _ content => content = out) := by
  intro w _
  refine .step (c.commandEnds _ rfl) fun w' core => ?_
  rw [← core]
  refine .command rfl (c.captureEnds _ log rfl) fun out w'' => ?_
  dsimp only [Stage.retrieve]
  cases done : (Execution.mk out.1 (Chunk.stdoutOf out.2)).ok with
  | false => exact Ends.failure _ rfl
  | true =>
    simp only [Bool.not_true, Bool.false_eq_true, if_false, if_true]
    cases Archive.decode (Chunk.stdoutOf out.2) with
    | ok content => exact ⟨content, .value _ rfl, rfl⟩
    | error fault => cases fault <;> exact Ends.failure _ rfl

theorem putFilePerforms (c : Client) (container directory : Text) (p : Parcel) (prev : Bytes)
    (log : Option SinkId) :
    Performs c (c.putFile container directory p.name (p.content prev) log p.mode)
      [.send container directory p] prev (fun _ _ _ => True) := by
  intro w _
  have stage : (Stage.send container directory p).input w.core.now prev =
      (p.archive w.core.now prev).map some := rfl
  refine .step (.current w) fun w' core => ?_
  cases written : p.archive w.core.now prev with
  | error f =>
    rw [c.courseOne, stage, written]
    rw [show Archive.encode _ _ w.now = _ from written]
    rw [← core]
    exact Ends.failure _ rfl
  | ok archive =>
    rw [written] at stage
    rw [show Archive.encode _ _ w.now = _ from written]
    rw [← core] at stage ⊢
    refine .step (c.commandEnds _ rfl) fun w'' core' => ?_
    rw [← core'] at stage ⊢
    refine .command stage (Bridge.runEnds c.verbose _ _ .standard log rfl) fun out w => ?_
    dsimp only [Stage.send]
    by_cases done : out.1 = 0
    · rw [if_neg (fun other => other done), if_pos done]
      rw [done]
      exact ⟨0, .step (Op.emitEnds _ rfl) fun _ core => .value _ core, trivial⟩
    · rw [if_pos done, if_neg done]
      exact Ends.failure _ rfl

theorem startPerforms (c : Client) (args : List Text) (interactive : Bool) (log : Option SinkId)
    (prev : Bytes) :
    Performs c (Bridge.start c.verbose (c.commandFor args) interactive .discard log) [.detach args]
      prev (fun _ k pid => k.nextPid = pid + 1) := by
  intro w _
  have started := Bridge.startEnds c.verbose (c.commandFor args) interactive .discard log (w := w) rfl
  have free : Bridge.startBarred? w interactive .discard = none := by cases interactive <;> rfl
  rw [free] at started
  rw [c.courseOne]
  dsimp only [Stage.detach, Stage.input, Client.attend]
  rcases call : w.core.call c.verbose (c.commandFor args) none with ⟨f | out, k⟩
  · rw [call] at started
    exact started
  · have pid := Core.callNextPid (congrArg Prod.fst call)
    rw [call] at started pid
    exact ⟨w.core.nextPid, started, pid⟩

def lineParcel (file : Text) (line : Bytes) : Parcel := ⟨file, (appendLine · line), none⟩

def trampolineParcel (c : Client) : Parcel := ⟨"trampoline", fun _ => c.trampoline, some 0o555⟩

theorem injectLinePerforms (c : Client) (container directory file : Text) (line : Bytes)
    (log : Option SinkId) (prev : Bytes) :
    Performs c (c.injectLine container directory file line log)
      [.retrieve container (directory ++ "/" ++ file),
       .send container directory (lineParcel file line)]
      prev (fun _ _ _ => True) := by
  refine .bind (c.getFilePerforms container _ log prev) fun content out k same => ?_
  subst same
  refine .bind (c.putFilePerforms container directory (lineParcel file line) content log)
    fun _ out k _ => ?_
  exact fun _ _ => ⟨(), .value () rfl, trivial⟩

theorem injectTrampolinePerforms (c : Client) (container : Text) (log : Option SinkId)
    (prev : Bytes) : Performs c (c.injectTrampoline container log)
      [.send container "/" c.trampolineParcel] prev (fun _ _ _ => True) := by
  refine .bind (c.putFilePerforms container "/" c.trampolineParcel prev log) fun _ out k _ => ?_
  exact fun _ _ => ⟨(), .value () rfl, trivial⟩

theorem startWaitedPerforms (c : Client) (container : Text) (log : Option SinkId)
    (prev : Bytes) : Performs c (do
      let code ← c.runArgs ["start", container] log
      if code ≠ 0 then Op.fail (.exited .startContainer code container))
      [.start container] prev (fun _ _ _ => True) := by
  intro w opened
  refine .command rfl (c.runArgsEnds _ log opened) fun out w' => ?_
  dsimp only [Stage.start]
  by_cases done : out.1 = 0
  · rw [if_neg (fun other => other done), if_pos done]
    exact ⟨(), .value () rfl, trivial⟩
  · rw [if_pos done, if_neg done]
    exact Ends.failure _ rfl

def removal (c : Client) (id : Text) : Command := c.commandFor ["rm", "-f", id]

def pardoned {α : Type} : Except Fault α → Except Fault Unit
  | .ok _ => .ok ()
  | .error (.error _) => .ok ()
  | .error f => .error f

theorem discardEnds (c : Client) (handle : Handle) (log : Option SinkId) (core : w.core = k) :
    Ends (c.discard handle log) w
      (pardoned (k.call c.verbose (c.removal handle.id) none).1)
      (k.call c.verbose (c.removal handle.id) none).2 := by
  refine .step (Op.emitEnds _ core) fun w core => ?_
  have ran : Ends (do
      let command ← c.command (.of ["rm", "-f", handle.id])
      let _ ← c.run command none log) w
      ((k.call c.verbose (c.removal handle.id) none).1.map fun _ => ())
      (k.call c.verbose (c.removal handle.id) none).2 := by
    refine .step (c.commandEnds _ core) fun w core => ?_
    have ran := Bridge.runEnds c.verbose (c.removal handle.id) none .standard log core
    exact .mapped ran fun _ _ core => .value () core
  rcases call : k.call c.verbose (c.removal handle.id) none with ⟨f | out, k'⟩
  · rw [call] at ran
    cases f with
    | error e => exact .caught ran fun w core => Op.emitEnds _ core
    | _ => exact .caught ran fun _ core => .failure _ core
  · rw [call] at ran
    exact .uncaught ran

end Client
end ContainerDriver
