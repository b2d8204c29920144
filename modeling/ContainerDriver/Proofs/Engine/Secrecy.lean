import ContainerDriver.Engine.Session
import ContainerDriver.Proofs.Command.Growth
import ContainerDriver.Proofs.Engine.Launches
import ContainerDriver.Proofs.Engine.TwoRuns

/-! Secrets stay out of the logs. Two commands that differ in the values of secret arguments only
are rendered alike, so whatever is shown of a run of the one is shown of a run of the other; the
values themselves reach the engine. -/
namespace ContainerDriver

def Argument.Alike (a b : Argument) : Prop :=
  a.secret = b.secret ∧ (a.secret = false → a.value = b.value)

theorem Argument.Alike.shown {a b : Argument} (alike : a.Alike b) : a.shown = b.shown := by
  unfold Argument.shown
  rw [← alike.1]
  cases secret : a.secret with
  | true => rfl
  | false => exact alike.2 secret

theorem renderAlike (endpoint : Endpoint) (binary : Text) (front : List Argument)
    {args args' : List Argument} (alike : List.Forall₂ Argument.Alike args args') :
    (Command.build endpoint binary (front ++ args)).render
      = (Command.build endpoint binary (front ++ args')).render := by
  have shown : args.map Argument.shown = args'.map Argument.shown := by
    induction alike with
    | nil => rfl
    | cons first _ ih => rw [List.map_cons, List.map_cons, first.shown, ih]
  simp only [Command.build, Command.render, List.map_append, shown]

namespace Client

def execFront (container : Text) (workdir : Option Text) (env : List (Text × Value)) :
    ArgumentList × Bool :=
  let inside := match workdir with
    | some dir => [trampolinePath, "cdexec", dir]
    | none => []
  (((ArgumentList.of ["exec", container]).add inside).add ["env"]).addEnv env

def execCommand (c : Client) (container : Text) (workdir : Option Text)
    (env : List (Text × Value)) (args : List Argument) : Command :=
  .build c.endpoint c.binary ((execFront container workdir env).1.toList ++ args)

def launches (c : Client) (container : Text) (workdir : Option Text) (env : List (Text × Value))
    (args : List Argument) (w : World) : Bool :=
  !w.closed && env.all (·.2.display?.isSome) &&
    ((c.execCommand container workdir env args).unshown? c.verbose).isNone

def assigned (kv : Text × Value) : Text := kv.1 ++ "=" ++ kv.2.display?.getD ""

def execArgs (container : Text) (workdir : Option Text) (env : List (Text × Value))
    (values : List Text) : List Text :=
  let front : List Text := ["exec", container]
  let inside : List Text := match workdir with
    | some dir => ["/trampoline", "cdexec", dir]
    | none => []
  let assignments : List Text := "env" :: env.map assigned
  front ++ inside ++ assignments ++ values

def execLine (c : Client) (container : Text) (workdir : Option Text)
    (env : List (Text × Value)) (values : List Text) : List Text :=
  c.binary :: c.endpoint.flags ++ execArgs container workdir env values

theorem assignmentsRead (env : List (Text × Value)) :
    (readUntil assignment? env).2 = !env.all (·.2.display?.isSome) ∧
      (env.all (·.2.display?.isSome) = true →
        (readUntil assignment? env).1.map (·.value) = env.map assigned) := by
  induction env with
  | nil => exact ⟨rfl, fun _ => rfl⟩
  | cons kv rest ih =>
    rw [readUntil, assignment?, List.all_cons, List.map_cons, assigned]
    cases kv.2.display? with
    | none => exact ⟨rfl, fun all => by cases all⟩
    | some value => exact ⟨ih.1, fun all => congrArg (_ :: ·) (ih.2 all)⟩

theorem execFrontValues (container : Text) (workdir : Option Text) {env : List (Text × Value)}
    (known : env.all (·.2.display?.isSome) = true) (args : List Argument) :
    ((execFront container workdir env).1.toList ++ args).map (·.value)
      = execArgs container workdir env (args.map (·.value)) := by
  have read := (assignmentsRead env).2 known
  cases workdir <;> simp [execArgs, execFront, ArgumentList.of, ArgumentList.add,
    ArgumentList.addEnv, ArgumentList.addRead, ArgumentList.append, trampolinePath, read]

theorem execCommandArgv (c : Client) (container : Text) (workdir : Option Text)
    {env : List (Text × Value)} (known : env.all (·.2.display?.isSome) = true)
    (args : List Argument) :
    (c.execCommand container workdir env args).argv
      = c.execLine container workdir env (args.map (·.value)) := by
  rw [execCommand, (Command.buildShows _ _ _).1, execFrontValues container workdir known]
  rfl

variable {c : Client} {container : Text} {workdir : Option Text} {env : List (Text × Value)}
  {cmd cmd' : List Item} {args args' : List Argument} {stdout : Stream} {log : Option SinkId}

theorem execOpens (formed : cmd.mapM Item.argument? = some args) :
    c.exec container cmd workdir env stdout log = (do
      checkOpen
      if (execFront container workdir env).2 then throw .malformedItem
      c.announceHost
      Bridge.start c.verbose (c.execCommand container workdir env args) false stdout log) := by
  simp only [exec, ArgumentList.extend, ArgumentList.addRead, readUntilWhole formed, command,
    bind_assoc, pure_bind, Bool.false_eq_true, if_false]
  rfl

theorem checkOpenRan (w : World) :
    (checkOpen.run w).run = (if w.closed then .error (.error .refused) else .ok (), w) := by
  have looked : ((get : Op World).run w).run = (.ok w, w) := rfl
  rw [checkOpen, Op.bindOk looked]
  cases w.closed <;> rfl

theorem announceHostAgrees {out : Stream} {matters : Prop} {one two : Command} (c : Client) :
    Agree (Twins out matters one two) (Twins out matters one two) c.announceHost
      c.announceHost := by
  unfold announceHost
  split
  · exact Op.emitAgrees _
  · exact .value _

theorem execAgrees (formed : cmd.mapM Item.argument? = some args)
    (formed' : cmd'.mapM Item.argument? = some args')
    (alike : List.Forall₂ Argument.Alike args args') {w w' : World}
    (twins : Twins stdout (c.launches container workdir env args w = true)
      (c.execCommand container workdir env args) (c.execCommand container workdir env args') w w') :
    ∃ r v v', ((c.exec container cmd workdir env stdout log).run w).run = (r, v) ∧
      ((c.exec container cmd' workdir env stdout log).run w').run = (r, v') ∧ Same v v' := by
  have part : (execFront container workdir env).2 = !env.all (·.2.display?.isSome) :=
    (assignmentsRead env).1
  have closed' : w.closed = w'.closed := twins.same.read fun _ => rfl
  have checked := checkOpenRan w
  have checked' := checkOpenRan w'
  rw [← closed'] at checked'
  rw [execOpens formed, execOpens formed', part]
  cases closed : w.closed with
  | true =>
    rw [closed] at checked checked'
    exact ⟨_, w, w', Op.bindError checked, Op.bindError checked', twins.same⟩
  | false =>
    rw [closed] at checked checked'
    rw [Op.bindOk checked, Op.bindOk checked']
    cases known : env.all (·.2.display?.isSome) with
    | false => exact ⟨.error .malformedItem, w, w', rfl, rfl, twins.same⟩
    | true =>
      rw [Bool.not_true, if_neg (by decide)]
      have live (shown : (c.execCommand container workdir env args).unshown? c.verbose = none) :
          c.launches container workdir env args w = true := by
        rw [launches, closed, known, shown]
        rfl
      have started := Bridge.startAgrees c.verbose (renderAlike _ _ _ alike) rfl live false stdout
        log
      exact Agree.step (announceHostAgrees c) (fun _ => started) (fun _ _ twins => twins.same) w w'
        twins

theorem execEnds (formed : cmd.mapM Item.argument? = some args) (w : World) :
    ∃ r barred, Ends (c.exec container cmd workdir env stdout log) w r
      (if c.launches container workdir env args w then
        w.core.ask (c.execCommand container workdir env args) none barred
      else w.core) := by
  have part : (execFront container workdir env).2 = !env.all (·.2.display?.isSome) :=
    (assignmentsRead env).1
  rw [execOpens formed, part]
  unfold launches
  cases closed : w.closed with
  | true =>
    refine ⟨.error (.error .refused), none, .stop (.after rfl ?_)⟩
    rw [if_pos closed]
    exact .failure _ rfl
  | false =>
    have opened : (checkOpen.run w).run = (.ok (), w) := by
      rw [checkOpenRan, closed]
      rfl
    cases known : env.all (·.2.display?.isSome) with
    | false => exact ⟨.error .malformedItem, none, .after opened (.stop (.failure _ rfl))⟩
    | true =>
      have announced : ∃ w', (c.announceHost.run w).run = (.ok (), w') ∧ w'.core = w.core := by
        unfold announceHost
        split
        · exact ⟨_, rfl, w.recordSilent ⟨rfl, rfl⟩⟩
        · exact ⟨w, rfl, rfl⟩
      obtain ⟨v, ran, core⟩ := announced
      rw [Bool.not_true, if_neg (by decide)]
      let command := c.execCommand container workdir env args
      let barred := Bridge.startBarred? v false stdout
      have started := Bridge.startEnds c.verbose command false stdout log core
      have called : (w.core.call c.verbose command none barred).2 =
          if (command.unshown? c.verbose).isNone then w.core.ask command none barred
          else w.core := by
        unfold Core.call
        cases command.unshown? c.verbose <;> rfl
      have launched : Ends (do
          c.announceHost
          Bridge.start c.verbose command false stdout log) w
          ((w.core.call c.verbose command none barred).1.map fun _ => w.core.nextPid)
          (if (command.unshown? c.verbose).isNone then w.core.ask command none barred
            else w.core) := by
        rw [← called]
        exact .after ran started
      exact ⟨_, barred, .after opened launched⟩

theorem performAgrees (formed : cmd.mapM Item.argument? = some args)
    (formed' : cmd'.mapM Item.argument? = some args')
    (alike : List.Forall₂ Argument.Alike args args') {w w' : World}
    (twins : Twins stdout (c.launches container workdir env args w = true)
      (c.execCommand container workdir env args) (c.execCommand container workdir env args') w w') :
    ∃ r v v', (((Step.exec container cmd workdir env stdout).perform c log).run w).run = (r, v) ∧
      (((Step.exec container cmd' workdir env stdout).perform c log).run w').run = (r, v') ∧
      Same v v' := by
  obtain ⟨r, v, v', ran, ran', same⟩ := execAgrees formed formed' alike twins
  cases r with
  | error f => exact ⟨.error f, v, v', Op.bindError ran, Op.bindError ran', same⟩
  | ok pid => exact ⟨.ok (.process pid), v, v', Op.bindOk ran, Op.bindOk ran', same⟩

theorem performEnds (formed : cmd.mapM Item.argument? = some args) (w : World) :
    ∃ r barred, Ends ((Step.exec container cmd workdir env stdout).perform c log) w r
      (if c.launches container workdir env args w then
        w.core.ask (c.execCommand container workdir env args) none barred
      else w.core) := by
  obtain ⟨r, barred, ends⟩ := execEnds formed w
  cases r with
  | error f => exact ⟨.error f, barred, .stop ends⟩
  | ok pid => exact ⟨.ok (.process pid), barred, .step ends fun _ core => .value _ core⟩

theorem launchesAlike (alike : List.Forall₂ Argument.Alike args args') (w : World) :
    c.launches container workdir env args' w = c.launches container workdir env args w := by
  have render := renderAlike c.endpoint c.binary (execFront container workdir env).1.toList alike
  unfold launches Command.unshown? Command.announcement execCommand
  rw [render]

end Client

theorem World.stepRan {c : Client} {log : Option SinkId} {s : Step} {w after : World}
    {r : Except Fault Outcome} (ran : ((s.perform c log).run w).run = (r, after)) :
    (w.step c log s).1.result = r ∧ (w.step c log s).2 = after.settle := by
  simp only [step, ran, and_self]

def World.spawned (w : World) : List (List Text) := w.core.asks.map (·.command.argv)

theorem World.spawnedExec {c : Client} {container : Text} {workdir : Option Text}
    {env : List (Text × Value)} {cmd : List Item} {args : List Argument} {stdout : Stream}
    {log : Option SinkId} (formed : cmd.mapM Item.argument? = some args) (w : World) :
    (w.step c log (.exec container cmd workdir env stdout)).2.spawned = w.spawned ++
      if c.launches container workdir env args w then
        [c.execLine container workdir env (args.map (·.value))] else [] := by
  obtain ⟨r, barred, after, ran, core⟩ := Client.performEnds formed w
  rw [(stepRan ran).2, spawned, settleSilent, core]
  split
  · next launches =>
    simp only [Client.launches, Bool.and_eq_true] at launches
    simp [spawned, Core.ask, Core.asked, c.execCommandArgv container workdir launches.1.2]
  · simp [spawned]

theorem execSame {c : Client} {container : Text} {workdir : Option Text}
    {env : List (Text × Value)} {cmd cmd' : List Item} {args args' : List Argument}
    (formed : cmd.mapM Item.argument? = some args) (formed' : cmd'.mapM Item.argument? = some args')
    (alike : List.Forall₂ Argument.Alike args args') (log : Option SinkId) (stdout : Stream)
    {w w' : World} (twins : Twins stdout (c.launches container workdir env args w = true)
      (c.execCommand container workdir env args) (c.execCommand container workdir env args') w w') :
    (w.step c log (.exec container cmd workdir env stdout)).1.result
        = (w'.step c log (.exec container cmd' workdir env stdout)).1.result ∧
      Same (w.step c log (.exec container cmd workdir env stdout)).2
        (w'.step c log (.exec container cmd' workdir env stdout)).2 := by
  obtain ⟨r, after, after', ran, ran', same⟩ := Client.performAgrees formed formed' alike twins
  obtain ⟨result, left⟩ := World.stepRan ran
  obtain ⟨result', left'⟩ := World.stepRan ran'
  refine ⟨result.trans result'.symm, ?_⟩
  rw [left, left']
  exact same.change World.settleBlind

/-- A command inside a container is run twice from the same world, with arguments that differ in
the values of secrets only. If it comes to a launch that the output stream does not bar, the launches
come to the same. Then both runs come to the same result or error, make the same events, write the
same to every sink, and leave the sinks alike. The lines that are launched, by both runs or by none,
hold the arguments in clear. -/
theorem execSecret (c : Client) (log : Option SinkId) (container : Text) (workdir : Option Text)
    (env : List (Text × Value)) (stdout : Stream) (w : World)
    (script : Script) {cmd cmd' : List Item} {args args' : List Argument}
    (formed : cmd.mapM Item.argument? = some args)
    (formed' : cmd'.mapM Item.argument? = some args')
    (alike : List.Forall₂ Argument.Alike args args')
    (answer : c.launches container workdir env args w = true →
      Bridge.unattachable? w stdout = none →
      w.core.answer (c.execCommand container workdir env args)
        = { w with script }.core.answer (c.execCommand container workdir env args')) :
    let one := w.step c log (.exec container cmd workdir env stdout)
    let two := { w with script }.step c log (.exec container cmd' workdir env stdout)
    two.1.result = one.1.result ∧ two.2.shown = one.2.shown ∧ two.2.sinks = one.2.sinks ∧
      one.2.spawned = w.spawned ++ (if c.launches container workdir env args w then
        [c.execLine container workdir env (args.map (·.value))] else []) ∧
      two.2.spawned = w.spawned ++ (if c.launches container workdir env args w then
        [c.execLine container workdir env (args'.map (·.value))] else []) := by
  have twins : Twins stdout (c.launches container workdir env args w = true)
      (c.execCommand container workdir env args) (c.execCommand container workdir env args') w
      { w with script } := ⟨rfl, answer⟩
  obtain ⟨result, same⟩ := execSame formed formed' alike log stdout twins
  have spawned' :
      ({ w with script }.step c log (.exec container cmd' workdir env stdout)).2.spawned = _ :=
    World.spawnedExec formed' { w with script }
  rw [Client.launchesAlike alike] at spawned'
  exact ⟨result.symm, (congrArg World.journal same).symm, (congrArg World.sinks same).symm,
    World.spawnedExec formed w, spawned'⟩

def remote : Client := { endpoint := { uri := some "tcp://engine" }, verbose := true }

def logged : World where
  script := [⟨["exec"], .exits 1 [.err (Bytes.ofAscii "denied")], none⟩]
  sinks := [(.given "log", .memory [])]

def login (password : String) : List Item :=
  [.value (.text "login"), .pair [.text password, .bool true]]

theorem loginFormed (password : String) : (login password).mapM Item.argument?
    = some [⟨"login", false⟩, ⟨password, true⟩] := rfl

theorem execSecretLogin :
    let run (password : String) := logged.step remote (some (.given "log"))
      (.exec "c1" (login password) (some "/work") [("USER", .ofText "dev")] .discard)
    (run "guess").1.result = (run "hunter2").1.result ∧
      (run "guess").2.shown = (run "hunter2").2.shown ∧
      (run "guess").2.sinks = (run "hunter2").2.sinks ∧
      (run "guess").2.spawned = [["docker", "-H", "tcp://engine", "exec", "c1", "/trampoline",
        "cdexec", "/work", "env", "USER=dev", "login", "guess"].map Text.ofString] := by
  intro run
  have alike : List.Forall₂ Argument.Alike [⟨"login", false⟩, ⟨"hunter2", true⟩]
      [⟨"login", false⟩, ⟨"guess", true⟩] :=
    .cons ⟨rfl, fun _ => rfl⟩ (.cons ⟨rfl, by simp⟩ .nil)
  obtain ⟨result, shown, sinks, -, spawned⟩ := execSecret remote (some (.given "log")) "c1"
    (some "/work") [("USER", .ofText "dev")] .discard logged logged.script (loginFormed "hunter2")
    (loginFormed "guess") alike fun _ _ => by decide +kernel
  refine ⟨result, shown, sinks, spawned.trans ?_⟩
  decide +kernel

theorem zeroByteTells :
    let run (password : String) := logged.step remote (some (.given "log"))
      (.exec "c1" (login password) none [] .discard)
    (run "s\x00t").1.result = .error (.launchRefused .zeroByte) ∧
      (run "st").1.result = .ok (.process 1001) := by
  decide +kernel

end ContainerDriver
