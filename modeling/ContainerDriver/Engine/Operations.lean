import ContainerDriver.Engine.Client

/-! Operations of a driver that need one engine command. A closed driver refuses them all, except
questions about nothing, which are answered without asking the engine. -/
namespace ContainerDriver.Client

def checkOpen : Op Unit := do
  if (← get).closed then Op.fail .refused

def close : Op Unit := modify ({ · with closed := true })

def captureArgs (c : Client) (args : List Text) (log : Option SinkId) : Op Execution := do
  checkOpen
  c.capture (← c.command (.of args)) log

def runArgs (c : Client) (args : List Text) (log : Option SinkId) : Op Int := do
  checkOpen
  c.run (← c.command (.of args)) none log

def runLogged (c : Client) (args : List Text) (context : List (String × Value))
    (log : Option SinkId) : Op Int := do
  checkOpen
  let log ← Op.sinkOr log context
  let command ← c.command (.of args)
  Bridge.run c.verbose command none (.sink log) (some log)

def fieldOf (path : String) : String := "\x7b\x7b." ++ path ++ "\x7d\x7d"

def createVolume (c : Client) (log : Option SinkId) : Op String := do
  let result ← c.captureArgs ["volume", "create"] log
  if !result.ok then Op.fail (.exited .createVolume result.exitCode "")
  return result.text

def hasVolume (c : Client) (name : Text) (log : Option SinkId) : Op Bool := do
  if name = "" then return false
  return (← c.captureArgs ["volume", "inspect", "-f", fieldOf "Name", name] log).ok

def hasContainer (c : Client) (id : Text) (log : Option SinkId) : Op Bool := do
  if id = "" then return false
  return (← c.captureArgs ["inspect", "-f", fieldOf "Id", id] log).ok

def imageExists (c : Client) (image : Text) (log : Option SinkId) : Op Bool := do
  return (← c.captureArgs ["inspect", "-f", fieldOf "Id", image] log).ok

def serverVersion (c : Client) (log : Option SinkId) : Op String := do
  let result ← c.captureArgs ["version", "-f", fieldOf "Server.Version"] log
  if !result.ok then Op.fail (.exited .connect result.exitCode "")
  return result.text

def pullImage (c : Client) (image : Text) (log : Option SinkId) : Op Unit := do
  let code ← c.runLogged ["pull", image] [("image", .ofText image)] log
  if code ≠ 0 then Op.fail (.imagePull image code)
  Op.emit (.pulled image)

def buildDockerfile (c : Client) (path tag : Text) (pull : Bool) (log : Option SinkId) : Op Int :=
  c.runLogged ["build", "--pull=" ++ (if pull then "true" else "false"), "-t", tag, path]
    [("tag", .ofText tag)] log

def removeContainer (c : Client) (handle : Handle) (log : Option SinkId) : Op Int := do
  let code ← c.runArgs ["rm", "-f", handle.id] log
  if code ≠ 0 then Op.emit (.removalFailed handle.id code)
  return code

def trampolinePath : Text := "/trampoline"

/-- Starts a command inside a running container. A directory to work in is reached through the
trampoline, because the engine's own command has no option for it. -/
def exec (c : Client) (container : Text) (items : List Item) (workdir : Option Text)
    (env : List (Text × Value)) (stdout : Stream) (log : Option SinkId) : Op Nat := do
  checkOpen
  let inside := match workdir with
    | some dir => [trampolinePath, "cdexec", dir]
    | none => []
  let args := ((ArgumentList.of ["exec", container]).add inside).add ["env"]
  let (args, malformed) := args.addEnv env
  if malformed then throw .malformedItem
  let (args, malformed) := args.extend items
  if malformed then throw .malformedItem
  let command ← c.command args
  Bridge.start c.verbose command false stdout log

end ContainerDriver.Client
