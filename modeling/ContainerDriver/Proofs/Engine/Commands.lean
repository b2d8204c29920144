import ContainerDriver.Proofs.Engine.Launches
import ContainerDriver.Proofs.Except

/-! Operations of one engine command. Each asks the engine once; what it gives or raises is a verdict
on the exit code and the output, and a command that cannot be launched gets none. -/
namespace ContainerDriver

theorem Ends.judged {α β : Type} {p : Op α} {q : α → Op β} {w : World} {k : Core}
    {r : Except Fault α} {verdict : α → Except Fault β} (first : Ends p w r k)
    (next : ∀ a w', w'.core = k → Ends (q a) w' (verdict a) k) :
    Ends (p >>= q) w (r.bind verdict) k := by
  cases r with
  | error f => exact .stop first
  | ok a => exact .step first (next a)

def Execution.demanded (task : Task) (e : Execution) : Except Fault String :=
  if e.ok then .ok e.text else .error (.error (.exited task e.exitCode ""))

namespace Client

variable {c : Client} {log : Option SinkId} {w : World}

def executed (c : Client) (k : Core) (args : List Text) : Except Fault Execution :=
  (k.call c.verbose (c.commandFor args) none).1.map fun out => ⟨out.1, Chunk.stdoutOf out.2⟩

def called (c : Client) (k : Core) (args : List Text) : Core :=
  (k.call c.verbose (c.commandFor args) none).2

theorem executedCode (c : Client) (k : Core) (args : List Text) :
    (c.executed k args).map Execution.exitCode =
      (k.call c.verbose (c.commandFor args) none).1.map Prod.fst := by
  unfold executed
  cases (k.call c.verbose (c.commandFor args) none).1 <;> rfl

theorem captureExecuted (args : List Text) (opened : w.closed = false) :
    Ends (c.captureArgs args log) w (c.executed w.core args) (c.called w.core args) :=
  c.captureArgsEnds args log opened

theorem runExecuted (args : List Text) (opened : w.closed = false) :
    Ends (c.runArgs args log) w ((c.executed w.core args).map Execution.exitCode)
      (c.called w.core args) := by
  rw [executedCode]
  exact c.runArgsEnds args log opened

theorem runLoggedExecuted (args : List Text) (context : List (String × Value))
    (opened : w.closed = false) :
    Ends (c.runLogged args context log) w ((c.executed w.core args).map Execution.exitCode)
      (c.called w.core args) := by
  refine .step (checkOpenEnds opened) fun w' core => ?_
  obtain ⟨id, sink⟩ := Op.sinkOrEnds log context core
  refine .step sink fun w' core => .step (c.commandEnds args core) fun w' core => ?_
  rw [executedCode]
  exact Bridge.runEnds c.verbose (c.commandFor args) none (.sink id) (some id) core

theorem demandEnds (task : Task) (args : List Text) (opened : w.closed = false) :
    Ends (do
      let result ← c.captureArgs args log
      if !result.ok then Op.fail (.exited task result.exitCode "")
      return result.text) w ((c.executed w.core args).bind (Execution.demanded task))
      (c.called w.core args) := by
  refine (captureExecuted args opened).judged fun e w' core => ?_
  unfold Execution.demanded
  cases e.ok with
  | true => exact .value e.text core
  | false => exact .failure _ core

theorem givenEnds {α β : Type} {p : Op α} {args : List Text} {v : Execution → Except Fault α}
    (give : α → β) (ended : Ends p w ((c.executed w.core args).bind v) (c.called w.core args)) :
    Ends (do return give (← p)) w ((c.executed w.core args).bind fun e => (v e).map give)
      (c.called w.core args) := by
  rw [← Except.bindMap]
  exact ended.judged fun a _ core => .value (give a) core

theorem createVolumeEnds (opened : w.closed = false) : Ends (c.createVolume log) w
    ((c.executed w.core ["volume", "create"]).bind (Execution.demanded .createVolume))
    (c.called w.core ["volume", "create"]) :=
  demandEnds .createVolume _ opened

theorem serverVersionEnds (opened : w.closed = false) : Ends (c.serverVersion log) w
    ((c.executed w.core ["version", "-f", fieldOf "Server.Version"]).bind (Execution.demanded .connect))
    (c.called w.core ["version", "-f", fieldOf "Server.Version"]) :=
  demandEnds .connect _ opened

theorem foundEnds (args : List Text) (opened : w.closed = false) :
    Ends (do return (← c.captureArgs args log).ok) w
      ((c.executed w.core args).bind fun e => .ok e.ok) (c.called w.core args) :=
  (captureExecuted args opened).judged fun e _ core => .value e.ok core

theorem imageExistsEnds (image : Text) (opened : w.closed = false) :
    Ends (c.imageExists image log) w
      ((c.executed w.core ["inspect", "-f", fieldOf "Id", image]).bind fun e => .ok e.ok)
      (c.called w.core ["inspect", "-f", fieldOf "Id", image]) :=
  foundEnds _ opened

theorem hasVolumeEnds {name : Text} (named : name ≠ "") (opened : w.closed = false) :
    Ends (c.hasVolume name log) w
      ((c.executed w.core ["volume", "inspect", "-f", fieldOf "Name", name]).bind fun e => .ok e.ok)
      (c.called w.core ["volume", "inspect", "-f", fieldOf "Name", name]) := by
  rw [hasVolume, if_neg named]
  exact foundEnds _ opened

theorem hasContainerEnds {id : Text} (named : id ≠ "") (opened : w.closed = false) :
    Ends (c.hasContainer id log) w
      ((c.executed w.core ["inspect", "-f", fieldOf "Id", id]).bind fun e => .ok e.ok)
      (c.called w.core ["inspect", "-f", fieldOf "Id", id]) := by
  rw [hasContainer, if_neg named]
  exact foundEnds _ opened

theorem pullImageEnds (image : Text) (opened : w.closed = false) :
    Ends (c.pullImage image log) w ((c.executed w.core ["pull", image]).bind fun e =>
      if e.ok then .ok () else .error (.error (.imagePull image e.exitCode)))
      (c.called w.core ["pull", image]) := by
  have ended : Ends (c.pullImage image log) w
      (((c.executed w.core ["pull", image]).map Execution.exitCode).bind fun code =>
        if code = 0 then .ok () else .error (.error (.imagePull image code)))
      (c.called w.core ["pull", image]) := by
    refine (runLoggedExecuted ["pull", image] _ opened).judged fun code w' core => ?_
    by_cases done : code = 0
    · rw [if_neg (fun other => other done), if_pos done]
      exact Op.emitEnds _ core
    · rw [if_pos done, if_neg done]
      exact .failure _ core
  simpa only [Except.mapBind, Execution.ok, decide_eq_true_eq] using ended

theorem buildDockerfileEnds (path tag : Text) (pull : Bool) (opened : w.closed = false) :
    let args : List Text := ["build", "--pull=" ++ (if pull then "true" else "false"), "-t", tag, path]
    Ends (c.buildDockerfile path tag pull log) w ((c.executed w.core args).map Execution.exitCode)
      (c.called w.core args) :=
  runLoggedExecuted _ _ opened

theorem removeContainerEnds (handle : Handle) (opened : w.closed = false) :
    Ends (c.removeContainer handle log) w
      ((c.executed w.core ["rm", "-f", handle.id]).map Execution.exitCode)
      (c.called w.core ["rm", "-f", handle.id]) := by
  refine .mapped (runExecuted _ opened) fun e w' core => ?_
  by_cases done : e.exitCode = 0
  · rw [if_neg (fun other => other done)]
    exact .value e.exitCode core
  · rw [if_pos done]
    exact .step (Op.emitEnds _ core) fun _ core => .value e.exitCode core

end Client
end ContainerDriver
