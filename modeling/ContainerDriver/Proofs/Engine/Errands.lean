import ContainerDriver.Engine.Session
import ContainerDriver.Proofs.Command.Growth
import ContainerDriver.Proofs.Engine.Commands

/-! Errands: what a driver does by one engine command. The exit code settles an errand, and every
errand has its own rule for it; what the driver did before plays no part. A command whose line has
to be shown and cannot be is not tried. -/
namespace ContainerDriver

inductive Errand where
  | createVolume
  | hasVolume (name : Text)
  | hasContainer (id : Text)
  | imageExists (image : Text)
  | remove (handle : Handle)
  | pull (image : Text)
  | buildDockerfile (path tag : Text) (fresh : Bool)
  | version

namespace Errand

def step : Errand → Step
  | createVolume => .createVolume
  | hasVolume name => .hasVolume name
  | hasContainer id => .hasContainer id
  | imageExists image => .imageExists image
  | remove handle => .remove ⟨handle.image, handle.id⟩
  | pull image => .pull image
  | buildDockerfile path tag fresh => .buildDockerfile path tag fresh
  | version => .version

def args? : Errand → Option (List Text)
  | createVolume => some ["volume", "create"]
  | hasVolume name =>
    if name = "" then none else some ["volume", "inspect", "-f", Client.fieldOf "Name", name]
  | hasContainer id => if id = "" then none else some ["inspect", "-f", Client.fieldOf "Id", id]
  | imageExists image => some ["inspect", "-f", Client.fieldOf "Id", image]
  | remove handle => some ["rm", "-f", handle.id]
  | pull image => some ["pull", image]
  | buildDockerfile path tag fresh =>
    some ["build", "--pull=" ++ (if fresh then "true" else "false"), "-t", tag, path]
  | version => some ["version", "-f", Client.fieldOf "Server.Version"]

def verdict (e : Execution) : Errand → Except Fault Outcome
  | createVolume => (e.demanded .createVolume).map .text
  | hasVolume _ | hasContainer _ | imageExists _ => .ok (.flag e.ok)
  | remove _ | buildDockerfile _ _ _ => .ok (.code e.exitCode)
  | pull image => if e.ok then .ok .nothing else .error (.error (.imagePull image e.exitCode))
  | version => (e.demanded .connect).map .text

def Settled (binary : Text) (errand : Errand) (r : Except Fault Outcome) : Answer → Prop
  | .exits code chunks => r = errand.verdict ⟨code, Chunk.stdoutOf chunks⟩
  | .fails e => r = .error (.error (.launch binary e.reason))
  | .refuses refusal => r = .error (.launchRefused refusal)

variable {c : Client} {log : Option SinkId} {w : World} {k : Core}

def result (errand : Errand) (c : Client) (k : Core) : Except Fault Outcome :=
  errand.args?.elim (.ok (.flag false)) fun args => (c.executed k args).bind (verdict · errand)

def after (errand : Errand) (c : Client) (k : Core) : Core := errand.args?.elim k (c.called k)

theorem performEnds (errand : Errand) (c : Client) (log : Option SinkId)
    (opened : w.closed = false) :
    Ends (errand.step.perform c log) w (errand.result c w.core) (errand.after c w.core) := by
  unfold result after
  cases errand with
  | createVolume => exact Client.givenEnds Outcome.text (Client.createVolumeEnds opened)
  | hasVolume name =>
    by_cases unnamed : name = ""
    · rw [args?, if_pos unnamed, step, Step.perform, Client.hasVolume, if_pos unnamed]
      exact .value (Outcome.flag false) rfl
    · rw [args?, if_neg unnamed]
      exact Client.givenEnds Outcome.flag (Client.hasVolumeEnds unnamed opened)
  | hasContainer id =>
    by_cases unnamed : id = ""
    · rw [args?, if_pos unnamed, step, Step.perform, Client.hasContainer, if_pos unnamed]
      exact .value (Outcome.flag false) rfl
    · rw [args?, if_neg unnamed]
      exact Client.givenEnds Outcome.flag (Client.hasContainerEnds unnamed opened)
  | imageExists image => exact Client.givenEnds Outcome.flag (Client.imageExistsEnds image opened)
  | remove handle =>
    rw [step, Step.perform, Step.withHandle, Handle.of?, dif_pos handle.id_ne]
    exact Client.givenEnds Outcome.code (Client.removeContainerEnds handle opened)
  | pull image =>
    have pulled : Ends (c.pullImage image log) w _ _ := Client.pullImageEnds image opened
    have ended := Client.givenEnds (fun _ => Outcome.nothing) pulled
    simp only [apply_ite (Except.map _)] at ended
    exact ended
  | buildDockerfile path tag fresh =>
    exact Client.givenEnds Outcome.code (Client.buildDockerfileEnds path tag fresh opened)
  | version => exact Client.givenEnds Outcome.text (Client.serverVersionEnds opened)

section

variable {errand : Errand} {args : List Text} (asks : errand.args? = some args)

include asks

theorem resultUnshown {e : Text.Unencodable}
    (unshown : (c.commandFor args).unshown? c.verbose = some e) :
    errand.result c k = .error (.unencodable e) ∧ errand.after c k = k := by
  rw [result, after, asks, Option.elim_some, Option.elim_some, Client.executed, Client.called,
    Core.call, unshown]
  exact ⟨rfl, rfl⟩

theorem afterShown (shown : (c.commandFor args).unshown? c.verbose = none) :
    errand.after c k = k.ask (c.commandFor args) none := by
  rw [after, asks, Option.elim_some, Client.called, Core.call, shown]

theorem resultSettled (shown : (c.commandFor args).unshown? c.verbose = none) :
    errand.Settled c.binary (errand.result c k) (k.answer (c.commandFor args)) := by
  rw [result, asks, Option.elim_some, Client.executed, Core.call, shown]
  dsimp only
  cases k.answer (c.commandFor args) <;> rfl

end

theorem resultSame (errand : Errand) {c : Client} {k k' : Core}
    (same : ∀ args, errand.args? = some args →
      k'.answer (c.commandFor args) = k.answer (c.commandFor args)) :
    errand.result c k' = errand.result c k := by
  unfold result Client.executed Core.call
  cases asks : errand.args? with
  | none => rfl
  | some args =>
    rw [Option.elim_some, Option.elim_some, same args asks]
    cases (c.commandFor args).unshown? c.verbose <;> rfl

theorem afterClosed (errand : Errand) (c : Client) (k : Core) :
    (errand.after c k).closed = k.closed := by
  unfold after
  cases errand.args? with
  | none => rfl
  | some args => exact (k.callFrame c.verbose (c.commandFor args) none).1

theorem verdictLaunched (e : Execution) (errand : Errand) (binary reason : Text) :
    errand.verdict e ≠ .error (.error (.launch binary reason)) := by
  have demanded (task : Task) : (e.demanded task).map Outcome.text ≠
      .error (.error (.launch binary reason)) := by
    unfold Execution.demanded
    split <;> simp [Except.map]
  cases errand with
  | createVolume => exact demanded _
  | version => exact demanded _
  | pull image =>
    rw [verdict]
    split <;> simp
  | _ => simp [verdict]

theorem settledLaunch {binary : Text} {errand : Errand} {r : Except Fault Outcome}
    {answer : Answer} (settled : errand.Settled binary r answer) :
    (∃ name reason, r = .error (.error (.launch name reason))) ↔ ∃ e, answer = .fails e := by
  cases answer with
  | exits code chunks =>
    rw [show r = _ from settled]
    exact ⟨fun ⟨name, reason, failed⟩ => absurd failed (verdictLaunched _ errand name reason),
      (by nofun)⟩
  | fails e => exact ⟨fun _ => ⟨e, rfl⟩, fun _ => ⟨_, _, settled⟩⟩
  | refuses refusal =>
    rw [show r = _ from settled]
    exact ⟨(by nofun), (by nofun)⟩

/-- An errand of an open driver asks the engine once, or not at all: with nothing to ask for, and when
the line of the command cannot be shown that has to be, which is an error then. Otherwise the answer
alone settles it: the exit code by the rule of the errand, a launch that fails by an error that names
the binary. The driver stays as it is, so the same answer settles the same errand the same way in any
other world. -/
theorem errandsSettled (errand : Errand) (c : Client) (log : Option SinkId)
    (opened : w.closed = false) :
    ∃ r w', ((errand.step.perform c log).run w).run = (r, w') ∧ w'.closed = false ∧
      (errand.args? = none → r = .ok (.flag false) ∧ w'.core = w.core) ∧
      (∀ args, errand.args? = some args →
        (∀ e, (c.commandFor args).unshown? c.verbose = some e →
          r = .error (.unencodable e) ∧ w'.core = w.core) ∧
        ((c.commandFor args).unshown? c.verbose = none →
          ∃ ask, w'.core.asks = w.core.asks ++ [ask] ∧
            ask.command.argv = c.binary :: c.endpoint.flags ++ args ∧
            ask.answer = (Bridge.reply w.script w.parent ask.command none).1 ∧
            errand.Settled c.binary r ask.answer ∧
            ((∃ name reason, r = .error (.error (.launch name reason))) ↔
              ∃ e, ask.answer = .fails e))) ∧
      ∀ log' other, other.closed = false →
        (∀ args, errand.args? = some args →
          other.core.answer (c.commandFor args) = w.core.answer (c.commandFor args)) →
        ((errand.step.perform c log').run other).run.1 = r := by
  obtain ⟨w', ran, core⟩ := performEnds errand c log opened
  refine ⟨_, w', ran, ?_, fun unasked => ?_, fun args asks => ⟨fun e unshown => ?_, fun shown => ?_⟩,
    fun log' other opened' same => ?_⟩
  · rw [← opened]
    exact (congrArg Core.closed core).trans (afterClosed errand c w.core)
  · rw [result, core, after, unasked]
    exact ⟨rfl, rfl⟩
  · obtain ⟨failed, same⟩ := resultUnshown (k := w.core) asks unshown
    exact ⟨failed, core.trans same⟩
  · have settled := resultSettled (k := w.core) asks shown
    refine ⟨w.core.asked (c.commandFor args) none, ?_, ?_, rfl, settled, settledLaunch settled⟩
    · rw [core, afterShown asks shown]
      rfl
    · exact (Command.buildShows c.endpoint c.binary _).1.trans
        (congrArg _ (ArgumentList.ofValues args))
  · obtain ⟨w'', ran', -⟩ := performEnds errand c log' opened'
    rw [ran']
    exact resultSame errand same

def killed : World where
  script := [⟨["pull"], .exits (-9) [.err [0xff]], none⟩]

theorem errandsSettledKilled : killed.closed = false ∧
    ∃ ask r w', (((pull "agent").step.perform {} none).run killed).run = (r, w') ∧
      w'.core.asks = [ask] ∧ ask.command.argv = (["docker", "pull", "agent"] : List Text) ∧
      r = .error (.error (.imagePull "agent" (-9))) ∧
      (((pull "agent").step.perform {} none).run w').run.1 = r := by
  obtain ⟨r, w', ran, opened, -, asked, again⟩ :=
    errandsSettled (w := killed) (pull "agent") {} none rfl
  obtain ⟨ask, asks, argv, -, settled, -⟩ := (asked _ rfl).2 rfl
  have last := congrArg Prod.snd ran
  subst last
  have exits : ask.answer = .exits (-9) [.err [0xff]] := by
    have answers : (((pull "agent").step.perform {} none).run killed).run.2.core.asks.map
        Ask.answer = [.exits (-9) [.err [0xff]]] := by decide +kernel
    rw [asks] at answers
    exact List.singleton_inj.mp answers
  rw [exits] at settled
  refine ⟨rfl, ask, r, _, ran, asks, argv, settled, again none _ opened ?_⟩
  rintro args ⟨⟩
  rfl

theorem refusedUnnamed :
    let ran := (((pull "a\x00b").step.perform {} none).run ({} : World)).run
    ran.2.core.asks.map (·.answer) = [.refuses .zeroByte] ∧
      ran.1 = .error (.launchRefused .zeroByte) ∧
      ∀ name reason, ran.1 ≠ .error (.error (.launch name reason)) := by
  intro ran
  have refused : ran.1 = .error (.launchRefused .zeroByte) := by decide +kernel
  refine ⟨by decide +kernel, refused, fun name reason launched => ?_⟩
  cases refused.symm.trans launched

end Errand
end ContainerDriver
