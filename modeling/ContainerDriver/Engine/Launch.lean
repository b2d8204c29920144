import ContainerDriver.Engine.Operations

/-! Launching containers. A handle exists only once the engine has created the container; when a
later step fails with an error of the driver, the container is removed before the error goes on. -/
namespace ContainerDriver

inductive Connector where
  | accepts
  | fails (text : Text)
  | refuses
  | closes
  deriving DecidableEq, Repr

def Connector.connect (k : Connector) (pid : Nat) : Op Unit := do
  modify (·.record (.connected pid))
  match k with
  | accepts => pure ()
  | fails text => Op.fail (.general text)
  | refuses => throw .connectorRefused
  | closes => Client.close

namespace Agent

def root : Text := "/home/jenkins/"
def home : Text := "/home/jenkins"
def temporary : Text := root ++ ".tmp"
def artifact : Text := "agent.jar"
def user : Text := "10000:10000"
def groupLine : Bytes := Text.Utf8.ofString "jenkins:x:10000:\n"
def userLine : Bytes := Text.Utf8.ofString "jenkins:x:10000:10000::/home/jenkins:/bin/false\n"

end Agent

/-- Adds a line to a text; a last line without an end is completed first. -/
def appendLine (content line : Bytes) : Bytes :=
  (if content ≠ [] ∧ content.getLast? ≠ some LineSink.newline then content ++ [LineSink.newline]
   else content) ++ line

namespace Client

def joinOptions (remoting : Handle) : List Text :=
  ["--volumes-from", remoting.id, "--net=container:" ++ remoting.id,
   "--ipc=container:" ++ remoting.id]

def bind (image id : Text) : Op Handle :=
  match Handle.of? image id with
  | some handle => return handle
  | none => throw (.missingId image)

theorem bindNamed (image : Text) {id : Text} (named : id ≠ "") :
    bind image id = pure ⟨image, id, named⟩ := by
  unfold bind Handle.of?
  rw [dif_pos named]

def create (c : Client) (image : Text) (args : List Text) (log : Option SinkId) : Op Handle := do
  let result ← c.captureArgs args log
  if result.ok = false ∨ result.text = "" then
    Op.fail (.exited .createContainer result.exitCode ("from image " ++ image))
  let handle ← bind image result.text
  Op.emit (.created handle.id handle.image)
  return handle

/-- Removes a container that was provisioned only in part. Errors of the driver are put on record
and otherwise ignored. -/
def discard (c : Client) (handle : Handle) (log : Option SinkId) : Op Unit := do
  Op.emit (.discarding handle.id)
  tryCatch
    (do
      let command ← c.command (.of ["rm", "-f", handle.id])
      let _ ← c.run command none log)
    fun
      | .error e => Op.emit (.discardFailed handle.id e.message)
      | f => throw f

def remotingArgs (image workdir : Text) : List Text :=
  ["create", "--interactive", "--log-driver=none", "--env", "TMPDIR=" ++ Agent.temporary, "--user",
   Agent.user, "--volume", workdir ++ ":" ++ Agent.root, "--workdir", Agent.root, image, "java",
   "-Djava.io.tmpdir=" ++ Agent.temporary, "-jar", Agent.root ++ Agent.artifact]

def buildArgs (image : Text) (remoting : Handle) : List Text :=
  let front : List Text := ["create", "--env", "TMPDIR=" ++ Agent.temporary, "--workdir", Agent.home]
  let back : List Text := ["--user", Agent.user, image, trampolinePath, "wait"]
  front ++ joinOptions remoting ++ back

def sideArgs (image : Text) (remoting : Handle) : List Text :=
  "create" :: (joinOptions remoting ++ [image])

def launchRemoting (c : Client) (image workdir : Text) (artifact : Bytes)
    (connector : Connector) (log : Option SinkId) : Op Handle := do
  let handle ← c.create image (remotingArgs image workdir) log
  let command ← c.command (.of ["start", "--interactive", "--attach", handle.id])
  let pid ← Op.onError
    (do
      let _ ← c.putFile handle.id Agent.root Agent.artifact artifact log
      Bridge.start c.verbose command true .discard log)
    (c.discard handle log)
  Op.emit (.remotingStarted handle.id image)
  connector.connect pid
  return handle

def injectLine (c : Client) (container directory file : Text) (line : Bytes)
    (log : Option SinkId) : Op Unit := do
  let content ← c.getFile container (directory ++ "/" ++ file) log
  let _ ← c.putFile container directory file (appendLine content line) log

def injectTrampoline (c : Client) (container : Text) (log : Option SinkId) : Op Unit := do
  let _ ← c.putFile container "/" "trampoline" c.trampoline log (some 0o555)

def launchBuild (c : Client) (image : Text) (remoting : Handle) (log : Option SinkId) :
    Op Handle := do
  let handle ← c.create image (buildArgs image remoting) log
  Op.onError
    (do
      c.injectLine handle.id "/etc" "group" Agent.groupLine log
      c.injectLine handle.id "/etc" "passwd" Agent.userLine log
      c.injectTrampoline handle.id log
      let code ← c.runArgs ["start", handle.id] log
      if code ≠ 0 then Op.fail (.exited .startContainer code handle.id))
    (c.discard handle log)
  Op.emit (.buildStarted handle.id image)
  return handle

def launchSide (c : Client) (image : Text) (remoting : Handle) (log : Option SinkId) :
    Op (Handle × Nat) := do
  let handle ← c.create image (sideArgs image remoting) log
  let command ← c.command (.of ["start", handle.id])
  let pid ← Op.onError (Bridge.start c.verbose command false .discard log) (c.discard handle log)
  Op.emit (.sideStarting handle.id image)
  return (handle, pid)

end Client
end ContainerDriver
