import ContainerDriver.Archive.Encode
import ContainerDriver.Command.ArgumentList
import ContainerDriver.Engine.Bridge

/-! A client of one engine, and files moved through it. Both directions of a transfer hold the whole
archive in memory. -/
namespace ContainerDriver

structure Handle where
  image : Text
  id : Text
  id_ne : id ≠ ""
  deriving DecidableEq, Repr

def Handle.of? (image id : Text) : Option Handle :=
  if h : id ≠ "" then some ⟨image, id, h⟩ else none

def missingIdMessage (image : Text) : String :=
  "container for image " ++ Text.quoted image ++ " has no id"

structure Client where
  endpoint : Endpoint := {}
  binary : Text := "docker"
  verbose : Bool := false
  trampoline : Bytes := []
  deriving DecidableEq, Repr

namespace Client

def announceHost (c : Client) : Op Unit :=
  if c.endpoint.host.isNone then Op.emit .noHost else pure ()

def command (c : Client) (args : ArgumentList) : Op Command := do
  c.announceHost
  return .build c.endpoint c.binary args.toList

def commandOf (c : Client) (items : List Item) : Op Command := do
  c.announceHost
  match Command.ofItems? c.endpoint c.binary items with
  | some command => return command
  | none => throw .malformedItem

def run (c : Client) (command : Command) (input : Option Bytes) (log : Option SinkId) : Op Int :=
  Bridge.run c.verbose command input .standard log

def capture (c : Client) (command : Command) (log : Option SinkId) : Op Execution := do
  return (← Bridge.capture c.verbose command none log).1

def place (container path : Text) : Text := container ++ ":" ++ path

def getFile (c : Client) (container path : Text) (log : Option SinkId) : Op Bytes := do
  let command ← c.command (.of ["cp", place container path, "-"])
  let result ← c.capture command log
  let what := path ++ " from " ++ container
  if !result.ok then Op.fail (.exited .getFile result.exitCode what)
  match Archive.decode result.stdout with
  | .ok content => return content
  | .error (.flaw f) => Op.fail (.fileDecoding (what ++ ": " ++ f.message))
  | .error (.mishap m) => throw (.mishap m)

def putFile (c : Client) (container directory file : Text) (content : Bytes)
    (log : Option SinkId) (mode : Option Int := none) : Op Int := do
  let entry : Archive.Entry := { name := file, size := content.length, mode }
  match Archive.encode entry content (← get).now with
  | .error f => Op.fail (.encoding f.message)
  | .ok archive =>
    let command ← c.command (.of ["cp", "-", place container directory])
    let code ← c.run command (some archive) log
    if code ≠ 0 then
      Op.fail (.exited .putFile code (file ++ " into " ++ place container directory))
    Op.emit (.injected container directory file content.length)
    return code

end Client
end ContainerDriver
