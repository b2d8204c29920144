import ContainerDriver.Engine.Launch

/-! Sessions: operations of one client, its transfers and its process bridge in any order. What an
operation leaves running comes to its end after the operation. -/
namespace ContainerDriver

structure HandleName where
  image : Text
  id : Text
  deriving DecidableEq, Repr

inductive Step where
  | createVolume
  | hasVolume (name : Text)
  | hasContainer (id : Text)
  | imageExists (image : Text)
  | version
  | pull (image : Text)
  | buildDockerfile (path tag : Text) (fresh : Bool)
  | remove (handle : HandleName)
  | remoting (image workdir : Text) (artifact : Bytes) (connector : Connector)
  | build (image : Text) (remoting : HandleName)
  | side (image : Text) (remoting : HandleName)
  | exec (id : Text) (cmd : List Item) (workdir : Option Text) (env : List (Text × Value))
      (stdout : Stream)
  | close
  | enclose
  | getFile (id path : Text)
  | putFile (id directory name : Text) (content : Bytes) (mode : Option Int)
  | run (args : List Item) (input : Option Bytes) (stdout : Option SinkId)
  | capture (args : List Item) (input : Option Bytes)
  | start (args : List Item) (interactive : Bool) (stdout : Stream)
  | sinkWrite (sink : SinkId) (data : Bytes)
  | sinkFlush (sink : SinkId)
  deriving Repr

inductive Outcome where
  | nothing
  | text (s : String)
  | flag (b : Bool)
  | code (n : Int)
  | handle (h : Handle)
  | launched (h : Handle) (pid : Nat)
  | process (pid : Nat)
  | content (b : Bytes)
  | captured (e : Execution) (log : SinkId)
  deriving DecidableEq, Repr

namespace Step

def withHandle {α : Type} (name : HandleName) (f : Handle → Op α) : Op α :=
  match Handle.of? name.image name.id with
  | some handle => f handle
  | none => throw (.missingId name.image)

def perform (c : Client) (log : Option SinkId) : Step → Op Outcome
  | createVolume => return .text (← c.createVolume log)
  | hasVolume name => return .flag (← c.hasVolume name log)
  | hasContainer id => return .flag (← c.hasContainer id log)
  | imageExists image => return .flag (← c.imageExists image log)
  | version => return .text (← c.serverVersion log)
  | pull image => do
    c.pullImage image log
    return .nothing
  | buildDockerfile path tag fresh => return .code (← c.buildDockerfile path tag fresh log)
  | remove name => withHandle name fun handle => return .code (← c.removeContainer handle log)
  | remoting image workdir artifact connector =>
    return .handle (← c.launchRemoting image workdir artifact connector log)
  | build image name => withHandle name fun remoting =>
    return .handle (← c.launchBuild image remoting log)
  | side image name => withHandle name fun remoting => do
    let (handle, pid) ← c.launchSide image remoting log
    return .launched handle pid
  | exec id cmd workdir env stdout => return .process (← c.exec id cmd workdir env stdout log)
  | close => do
    Client.close
    return .nothing
  | enclose => do
    Client.close
    return .flag true
  | getFile id path => return .content (← c.getFile id path log)
  | putFile id directory name content mode =>
    return .code (← c.putFile id directory name content log mode)
  | run args input stdout => do
    let command ← c.commandOf args
    return .code (← Bridge.run c.verbose command input ((stdout.map .sink).getD .standard) log)
  | capture args input => do
    let command ← c.commandOf args
    let (execution, log) ← Bridge.capture c.verbose command input log
    return .captured execution log
  | start args interactive stdout => do
    let command ← c.commandOf args
    return .process (← Bridge.start c.verbose command interactive stdout log)
  | sinkWrite sink data => do
    modify (·.write sink data)
    return .nothing
  | sinkFlush sink => do
    modify (·.flush sink)
    return .nothing

end Step

structure StepReport where
  result : Except Fault Outcome
  processes : List Child
  journal : List Entry
  deriving Repr

def World.step (c : Client) (log : Option SinkId) (s : Step) (w : World) : StepReport × World :=
  let (result, after) := ((s.perform c log).run w).run
  let settled := after.settle
  (⟨result, after.processes, settled.journal.drop w.journal.length⟩, settled)

def World.session (c : Client) : List (Option SinkId × Step) → World → List StepReport × World
  | [], w => ([], w)
  | (log, s) :: rest, w =>
    let (report, w) := w.step c log s
    let (reports, w) := w.session c rest
    (report :: reports, w)

end ContainerDriver
