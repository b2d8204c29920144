import ContainerDriver.Engine.Session
import Mathlib

/-! Judgements on every operation. The operations of a driver are put together from engine commands
and few other parts. A judgement on pairs of operations that holds of these parts, and is kept by
the ways to put them together, holds of each operation that is done twice, with any verbosity and
any log each time. -/
namespace ContainerDriver

def Fault.Ordinary : Fault → Prop
  | error (.closed _) | missingId _ => False
  | _ => True

def Outcome.plain : Outcome → Outcome
  | captured e _ => captured e (.given "")
  | o => o

def Step.change? : Step → Option (World → World)
  | close | enclose | remoting _ _ _ .closes => some ({ · with closed := true })
  | sinkWrite sink data => some (·.write sink data)
  | sinkFlush sink => some (·.flush sink)
  | _ => none

def Step.Starts : Step → Prop
  | remoting _ _ _ _ | side _ _ | exec _ _ _ _ _ | start _ _ _ => True
  | _ => False

def Event.isCommand : Event → Bool
  | running _ | finished _ _ | started _ _ => true
  | _ => false

structure Lawful (c : Client) (verbose : Bool) (log log' : Option SinkId)
    (J : (α : Type) → Op α → Op α → Prop) : Prop where
  value {α : Type} (a : α) : J α (pure a) (pure a)
  failure {α : Type} {f : Fault} : f.Ordinary → J α (throw f) (throw f)
  step {α β : Type} {p p' : Op α} {q q' : α → Op β} :
    J α p p' → (∀ a, J β (q a) (q' a)) → J β (p >>= q) (p' >>= q')
  onError {α : Type} {p p' : Op α} {handler handler' : Op Unit} :
    J α p p' → J Unit handler handler' → J α (Op.onError p handler) (Op.onError p' handler')
  pardon {p p' : Op Unit} (remark : Error → Event) :
    (∀ e, (remark e).isCommand = false) → J Unit p p' →
    J Unit (tryCatch p fun | .error e => Op.emit (remark e) | f => throw f)
      (tryCatch p' fun | .error e => Op.emit (remark e) | f => throw f)
  emit (e : Event) : e.isCommand = false → J Unit (Op.emit e) (Op.emit e)
  checkOpen : J Unit Client.checkOpen Client.checkOpen
  clock {α : Type} {q q' : World → Op α} : (∀ w w', w.now = w'.now → J α (q w) (q' w')) →
    J α (get >>= q) (get >>= q')
  connected (pid : Nat) :
    J Unit (modify (·.record (.connected pid))) (modify (·.record (.connected pid)))
  sink {α : Type} {q q' : SinkId → Op α} (context : List (String × Value)) :
    (∀ id id', log.getD id = id → log'.getD id' = id' → J α (q id) (q' id')) →
    J α (Op.sinkOr log context >>= q) (Op.sinkOr log' context >>= q')
  run (args : List Argument) (input : Option Bytes) (output : Output) :
    J Int (Bridge.run c.verbose (.build c.endpoint c.binary args) input output log)
      (Bridge.run verbose (.build c.endpoint c.binary args) input output log')
  runInto (args : List Argument) (id id' : SinkId) :
    log.getD id = id → log'.getD id' = id' →
    J Int (Bridge.run c.verbose (.build c.endpoint c.binary args) none (.sink id) (some id))
      (Bridge.run verbose (.build c.endpoint c.binary args) none (.sink id') (some id'))
  capture (args : List Argument) (input : Option Bytes) :
    J Execution
      (do return (← Bridge.capture c.verbose (.build c.endpoint c.binary args) input log).1)
      (do return (← Bridge.capture verbose (.build c.endpoint c.binary args) input log').1)

def Starting (c : Client) (verbose : Bool) (log log' : Option SinkId)
    (J : (α : Type) → Op α → Op α → Prop) : Prop :=
  ∀ (args : List Argument) (interactive : Bool) (stdout : Stream),
    J Nat (Bridge.start c.verbose (.build c.endpoint c.binary args) interactive stdout log)
      (Bridge.start verbose (.build c.endpoint c.binary args) interactive stdout log')

namespace Lawful

variable {c : Client} {verbose : Bool} {log log' : Option SinkId} {α : Type}
  {J : (α : Type) → Op α → Op α → Prop} (laws : Lawful c verbose log log' J)

theorem withHandle (name : HandleName) {q q' : Handle → Op Outcome}
    (missing : ∀ image, J Outcome (throw (.missingId image)) (throw (.missingId image)))
    (next : ∀ handle, J Outcome (Outcome.plain <$> q handle) (Outcome.plain <$> q' handle)) :
    J Outcome (Outcome.plain <$> Step.withHandle name q)
      (Outcome.plain <$> Step.withHandle name q') := by
  unfold Step.withHandle
  cases Handle.of? name.image name.id with
  | none => exact missing name.image
  | some handle => exact next handle

include laws

theorem announceHost : J Unit c.announceHost c.announceHost := by
  unfold Client.announceHost
  split
  · exact laws.emit _ rfl
  · exact laws.value _

theorem command (args : ArgumentList) {q q' : Command → Op α}
    (next : J α (q (.build c.endpoint c.binary args.toList))
      (q' (.build c.endpoint c.binary args.toList))) :
    J α (c.command args >>= q) ({ c with verbose }.command args >>= q') := by
  simp only [Client.command, bind_assoc, pure_bind]
  exact laws.step laws.announceHost fun _ => next

theorem commandOf (items : List Item) {q q' : Command → Op α}
    (next : ∀ args, J α (q (.build c.endpoint c.binary args))
      (q' (.build c.endpoint c.binary args))) :
    J α (c.commandOf items >>= q) ({ c with verbose }.commandOf items >>= q') := by
  simp only [Client.commandOf, bind_assoc]
  refine laws.step laws.announceHost fun _ => ?_
  unfold Command.ofItems?
  cases items.mapM Item.argument? with
  | none => exact laws.failure (f := .malformedItem) trivial
  | some args => exact next args

theorem captureArgs (args : List Text) :
    J Execution (c.captureArgs args log) ({ c with verbose }.captureArgs args log') :=
  laws.step laws.checkOpen fun _ => laws.command _ (laws.capture _ none)

theorem runArgs (args : List Text) :
    J Int (c.runArgs args log) ({ c with verbose }.runArgs args log') :=
  laws.step laws.checkOpen fun _ => laws.command _ (laws.run _ none .standard)

theorem runLogged (args : List Text) (context : List (String × Value)) :
    J Int (c.runLogged args context log) ({ c with verbose }.runLogged args context log') :=
  laws.step laws.checkOpen fun _ => laws.sink context fun id id' same same' =>
    laws.command _ (laws.runInto _ id id' same same')

theorem check {bad : Prop} [Decidable bad] {f : Fault} {q q' : Op α} (next : J α q q')
    (ordinary : f.Ordinary := by trivial) :
    J α (if bad then throw f >>= fun (_ : Unit) => q else q)
      (if bad then throw f >>= fun (_ : Unit) => q' else q') := by
  split
  · exact laws.step (laws.failure ordinary) fun _ => next
  · exact next

theorem note {noted : Prop} [Decidable noted] (e : Event) {q q' : Op α} (next : J α q q')
    (aside : e.isCommand = false := by rfl) :
    J α (if noted then Op.emit e >>= fun (_ : Unit) => q else q)
      (if noted then Op.emit e >>= fun (_ : Unit) => q' else q') := by
  split
  · exact laws.step (laws.emit e aside) fun _ => next
  · exact next

theorem createVolume : J String (c.createVolume log) ({ c with verbose }.createVolume log') :=
  laws.step (laws.captureArgs _) fun _ => laws.check (laws.value _)

theorem hasVolume (name : Text) :
    J Bool (c.hasVolume name log) ({ c with verbose }.hasVolume name log') := by
  unfold Client.hasVolume
  split
  · exact laws.value false
  · exact laws.step (laws.captureArgs _) fun result => laws.value result.ok

theorem hasContainer (id : Text) :
    J Bool (c.hasContainer id log) ({ c with verbose }.hasContainer id log') := by
  unfold Client.hasContainer
  split
  · exact laws.value false
  · exact laws.step (laws.captureArgs _) fun result => laws.value result.ok

theorem imageExists (image : Text) :
    J Bool (c.imageExists image log) ({ c with verbose }.imageExists image log') :=
  laws.step (laws.captureArgs _) fun result => laws.value result.ok

theorem serverVersion : J String (c.serverVersion log) ({ c with verbose }.serverVersion log') :=
  laws.step (laws.captureArgs _) fun _ => laws.check (laws.value _)

theorem pullImage (image : Text) :
    J Unit (c.pullImage image log) ({ c with verbose }.pullImage image log') :=
  laws.step (laws.runLogged _ _) fun _ => laws.check (laws.emit _ rfl)

theorem buildDockerfile (path tag : Text) (pull : Bool) :
    J Int (c.buildDockerfile path tag pull log)
      ({ c with verbose }.buildDockerfile path tag pull log') :=
  laws.runLogged _ _

theorem removeContainer (handle : Handle) :
    J Int (c.removeContainer handle log) ({ c with verbose }.removeContainer handle log') :=
  laws.step (laws.runArgs _) fun code => laws.note _ (laws.value code)

theorem exec (starting : Starting c verbose log log' J) (container : Text) (items : List Item)
    (workdir : Option Text) (env : List (Text × Value)) (stdout : Stream) :
    J Nat (c.exec container items workdir env stdout log)
      ({ c with verbose }.exec container items workdir env stdout log') := by
  refine laws.step laws.checkOpen fun _ => ?_
  refine laws.check ?_
  dsimp only
  exact laws.check (laws.command _ (starting _ false stdout))

theorem getFile (container path : Text) :
    J Bytes (c.getFile container path log) ({ c with verbose }.getFile container path log') := by
  refine laws.command _ (laws.step (laws.capture _ none) fun result => laws.check ?_)
  cases Archive.decode result.stdout with
  | ok content => exact laws.value content
  | error fault => cases fault <;> exact laws.failure trivial

theorem putFile (container directory file : Text) (content : Bytes) (mode : Option Int) :
    J Int (c.putFile container directory file content log mode)
      ({ c with verbose }.putFile container directory file content log' mode) := by
  refine laws.clock fun w w' same => ?_
  simp only [same]
  cases Archive.encode { name := file, size := content.length, mode } content w'.now with
  | error f => exact laws.failure trivial
  | ok archive =>
    refine laws.command _ (laws.step (laws.run _ (some archive) .standard) fun code => ?_)
    exact laws.check (laws.step (laws.emit _ rfl) fun _ => laws.value code)

theorem create (image : Text) (args : List Text) :
    J Handle (c.create image args log) ({ c with verbose }.create image args log') := by
  refine laws.step (laws.captureArgs args) fun result => ?_
  by_cases refused : result.ok = false ∨ result.text = ""
  · rw [if_pos refused]
    exact laws.failure (f := .error (.exited .createContainer _ _)) trivial
  · rw [if_neg refused, Client.bindNamed image (mt Text.ofStringInj.mp (not_or.mp refused).2)]
    exact laws.step (laws.value _) fun _ => laws.step (laws.emit _ rfl) fun _ => laws.value _

theorem discard (handle : Handle) :
    J Unit (c.discard handle log) ({ c with verbose }.discard handle log') :=
  laws.step (laws.emit _ rfl) fun _ => laws.pardon _ (fun _ => rfl) <|
    laws.command _ (laws.step (laws.run _ none .standard) fun _ => laws.value ())

theorem injectLine (container directory file : Text) (line : Bytes) :
    J Unit (c.injectLine container directory file line log)
      ({ c with verbose }.injectLine container directory file line log') :=
  laws.step (laws.getFile _ _) fun _ =>
    laws.step (laws.putFile _ _ _ _ _) fun _ => laws.value ()

theorem injectTrampoline (container : Text) :
    J Unit (c.injectTrampoline container log)
      ({ c with verbose }.injectTrampoline container log') :=
  laws.step (laws.putFile _ _ _ _ _) fun _ => laws.value ()

theorem connect (connector : Connector) (pid : Nat)
    (close : connector = .closes → J Unit Client.close Client.close) :
    J Unit (connector.connect pid) (connector.connect pid) := by
  refine laws.step (laws.connected pid) fun _ => ?_
  cases connector with
  | accepts => exact laws.value ()
  | fails text => exact laws.failure trivial
  | refuses => exact laws.failure trivial
  | closes => exact close rfl

theorem launchRemoting (starting : Starting c verbose log log' J) (image workdir : Text)
    (artifact : Bytes) (connector : Connector)
    (close : connector = .closes → J Unit Client.close Client.close) :
    J Handle (c.launchRemoting image workdir artifact connector log)
      ({ c with verbose }.launchRemoting image workdir artifact connector log') := by
  refine laws.step (laws.create _ _) fun handle => laws.command _ ?_
  refine laws.step (laws.onError ?_ (laws.discard handle)) fun pid => ?_
  · exact laws.step (laws.putFile _ _ _ _ _) fun _ => starting _ true .discard
  · exact laws.step (laws.emit _ rfl) fun _ =>
      laws.step (laws.connect connector pid close) fun _ => laws.value handle

theorem launchBuild (image : Text) (remoting : Handle) :
    J Handle (c.launchBuild image remoting log)
      ({ c with verbose }.launchBuild image remoting log') := by
  refine laws.step (laws.create _ _) fun handle => ?_
  refine laws.step (laws.onError ?_ (laws.discard handle)) fun _ => ?_
  · refine laws.step (laws.injectLine _ _ _ _) fun _ => ?_
    refine laws.step (laws.injectLine _ _ _ _) fun _ => ?_
    refine laws.step (laws.injectTrampoline _) fun _ => ?_
    exact laws.step (laws.runArgs _) fun _ => laws.check (laws.value ())
  · exact laws.step (laws.emit _ rfl) fun _ => laws.value handle

theorem launchSide (starting : Starting c verbose log log' J) (image : Text)
    (remoting : Handle) :
    J (Handle × Nat) (c.launchSide image remoting log)
      ({ c with verbose }.launchSide image remoting log') := by
  refine laws.step (laws.create _ _) fun handle => laws.command _ ?_
  refine laws.step (laws.onError (starting _ false .discard) (laws.discard handle)) fun pid => ?_
  exact laws.step (laws.emit _ rfl) fun _ => laws.value (handle, pid)

theorem mapped (give : α → Outcome) {p p' : Op α} (agreed : J α p p') :
    J Outcome (Outcome.plain <$> (do return give (← p)))
      (Outcome.plain <$> (do return give (← p'))) := by
  simp only [map_bind, map_pure]
  exact laws.step agreed fun a => laws.value (give a).plain

theorem perform (s : Step)
    (missing : ∀ image, J Outcome (throw (.missingId image)) (throw (.missingId image)))
    (change : ∀ f, s.change? = some f → J Unit (modify f) (modify f))
    (starting : s.Starts → Starting c verbose log log' J) :
    J Outcome (Outcome.plain <$> s.perform c log)
      (Outcome.plain <$> s.perform { c with verbose } log') := by
  have changed (f : World → World) (o : Outcome) (own : s.change? = some f) :
      J Outcome (Outcome.plain <$> (do modify f; return o))
        (Outcome.plain <$> (do modify f; return o)) :=
    laws.mapped (fun _ => o) (change f own)
  cases s with
  | createVolume => exact laws.mapped _ laws.createVolume
  | hasVolume name => exact laws.mapped _ (laws.hasVolume name)
  | hasContainer id => exact laws.mapped _ (laws.hasContainer id)
  | imageExists image => exact laws.mapped _ (laws.imageExists image)
  | version => exact laws.mapped _ laws.serverVersion
  | pull image => exact laws.mapped _ (laws.pullImage image)
  | buildDockerfile path tag fresh => exact laws.mapped _ (laws.buildDockerfile path tag fresh)
  | remove name =>
    exact withHandle name missing fun handle => laws.mapped _ (laws.removeContainer handle)
  | remoting image workdir artifact connector =>
    refine laws.mapped _ (laws.launchRemoting (starting trivial) image workdir artifact connector
      fun closes => ?_)
    subst closes
    exact change _ rfl
  | build image name =>
    exact withHandle name missing fun host => laws.mapped _ (laws.launchBuild image host)
  | side image name =>
    exact withHandle name missing fun host =>
      laws.mapped _ (laws.launchSide (starting trivial) image host)
  | exec id cmd workdir env stdout =>
    exact laws.mapped _ (laws.exec (starting trivial) id cmd workdir env stdout)
  | close => exact changed _ _ rfl
  | enclose => exact changed _ _ rfl
  | getFile id path => exact laws.mapped _ (laws.getFile id path)
  | putFile id directory name content mode =>
    exact laws.mapped _ (laws.putFile id directory name content mode)
  | run args input stdout =>
    simp only [Step.perform, map_bind, map_pure]
    exact laws.commandOf args fun args => laws.step (laws.run args input _) fun _ => laws.value _
  | capture args input =>
    simp only [Step.perform, map_bind, map_pure]
    refine laws.commandOf args fun args => ?_
    have captured := laws.step (laws.capture args input) fun e =>
      laws.value (Outcome.captured e (.given ""))
    simp only [bind_assoc, pure_bind] at captured
    exact captured
  | start args interactive stdout =>
    simp only [Step.perform, map_bind, map_pure]
    exact laws.commandOf args fun args =>
      laws.step (starting trivial args interactive stdout) fun _ => laws.value _
  | sinkWrite sink data => exact changed _ _ rfl
  | sinkFlush sink => exact changed _ _ rfl

end Lawful
end ContainerDriver
