import ContainerDriver.CommandLine.Run
import ContainerDriver.Proofs.CommandLine.Arguments
import ContainerDriver.Proofs.Driver.Choice
import ContainerDriver.Proofs.Except
import ContainerDriver.Proofs.Engine.Commands
import ContainerDriver.Proofs.Engine.Keeping

/-! What is asked for on the command line, and what the engine is asked. Every request is one engine
command, and its exit code and output alone decide what is printed and returned. -/
namespace ContainerDriver

namespace Request

def args : Request → List Text
  | version => ["version", "-f", "\x7b\x7b.Server.Version\x7d\x7d"]
  | pull image => ["pull", image]
  | imageExists image => ["inspect", "-f", "\x7b\x7b.Id\x7d\x7d", image]
  | build path tag fresh => ["build", if fresh then "--pull=true" else "--pull=false", "-t", tag, path]
  | createVolume => ["volume", "create"]
  | remove id => ["rm", "-f", id]

def line (text : String) : Text × Int := (text ++ "\n", 0)

def verdict (e : Execution) : Request → Except Fault (Text × Int)
  | version => (e.demanded .connect).map line
  | createVolume => (e.demanded .createVolume).map line
  | pull image =>
    if e.ok then .ok ("", 0) else .error (.error (.imagePull image e.exitCode))
  | imageExists _ => .ok ("", if e.ok then 0 else 1)
  | build _ _ _ | remove _ => .ok ("", e.exitCode)

def Named (r : Request) : Prop := ∀ id, r = remove id → id ≠ ""

variable {c : Client} {log : Option SinkId} {w : World}

theorem versionArgs : version.args = (["version", "-f", Client.fieldOf "Server.Version"] : List Text) := by
  decide

theorem imageExistsArgs (image : Text) :
    (imageExists image).args = (["inspect", "-f", Client.fieldOf "Id", image] : List Text) := by
  rw [show Client.fieldOf "Id" = "\x7b\x7b.Id\x7d\x7d" by decide]
  rfl

theorem buildArgs (path tag : Text) (fresh : Bool) : (build path tag fresh).args =
    (["build", "--pull=" ++ (if fresh then "true" else "false"), "-t", tag, path] : List Text) := by
  cases fresh
  · rw [show ("--pull=" : Text) ++ (if false = true then "true" else "false" : String) =
      "--pull=false" by decide]
    rfl
  · rw [show ("--pull=" : Text) ++ (if true = true then "true" else "false" : String) =
      "--pull=true" by decide]
    rfl

theorem performEnds (r : Request) (named : r.Named) (opened : w.closed = false) :
    Ends (r.perform c log) w ((c.executed w.core r.args).bind fun e => r.verdict e)
      (c.called w.core r.args) := by
  cases r with
  | version =>
    rw [versionArgs]
    exact Client.givenEnds line (Client.serverVersionEnds opened)
  | createVolume =>
    exact Client.givenEnds line (Client.createVolumeEnds opened)
  | pull image =>
    have pulled : Ends (c.pullImage image log) w _ _ := Client.pullImageEnds image opened
    have ended := Client.givenEnds (fun _ => (("", 0) : Text × Int)) pulled
    simp only [apply_ite (Except.map _)] at ended
    exact ended
  | imageExists image =>
    rw [imageExistsArgs]
    exact Client.givenEnds (fun found => (("", if found then 0 else 1) : Text × Int))
      (Client.imageExistsEnds image opened)
  | build path tag fresh =>
    rw [buildArgs]
    exact Client.givenEnds (fun code => (("", code) : Text × Int))
      (Client.buildDockerfileEnds path tag fresh opened)
  | remove id =>
    have asked : perform c log (remove id) =
        (do return ("", ← c.removeContainer ⟨"", id, named id rfl⟩ log)) := by
      simp only [perform, Handle.of?, dif_pos (named id rfl)]
    rw [asked]
    exact Client.givenEnds (fun code => (("", code) : Text × Int)) (Client.removeContainerEnds _ opened)

theorem performKeeps (r : Request) (c : Client) (log : Option SinkId) (name : String) :
    Keeps (World.Shows name) (r.perform c log) := by
  have laws := Keeps.lawful c log name
  cases r with
  | version => exact .step laws.serverVersion fun _ => .value _
  | createVolume => exact .step laws.createVolume fun _ => .value _
  | pull image => exact .step (laws.pullImage image) fun _ => .value _
  | imageExists image => exact .step (laws.imageExists image) fun _ => .value _
  | build path tag fresh => exact .step (laws.buildDockerfile path tag fresh) fun _ => .value _
  | remove id =>
    simp only [perform]
    cases Handle.of? "" id with
    | none => exact .failure _
    | some handle => exact .step (laws.removeContainer handle) fun _ => .value _

end Request
end ContainerDriver
