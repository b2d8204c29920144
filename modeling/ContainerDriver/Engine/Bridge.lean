import ContainerDriver.Engine.World

/-! Running engine commands. A command that is waited for gives its exit code, whatever it is. A
binary that cannot be launched is an error of the driver; a launch that is refused for its strings
or its streams is not, and neither is a line that cannot be shown. -/
namespace ContainerDriver

structure Execution where
  exitCode : Int
  stdout : Bytes
  deriving DecidableEq, Repr

namespace Execution

def ok (e : Execution) : Bool := e.exitCode = 0

def text (e : Execution) : String := String.ofList (Text.trim (Text.Utf8.decodeReplacing e.stdout))

end Execution

namespace Refusal

def ofSurrogates (t : Text) : Option Refusal := (Text.unescapable? t).map .unencodable

def ofZero (t : Text) : Option Refusal := if .char '\x00' ∈ t then some .zeroByte else none

def ofVariable (e : Text × Text) : Option Refusal :=
  (ofSurrogates e.1).or <|
    (if .char '=' ∈ e.1 then some .illegalVariable else none).or (ofSurrogates e.2)

def searched (binary : Text) (env : Environment) : Text :=
  if .char '/' ∈ binary then [] else (Table.get? ("PATH" : Text) env).getD []

/-- What is wrong with the strings of a launch, in the order in which they are looked at. -/
def ofStrings (binary : Text) (argv : List Text) (env : Environment) : Option Refusal :=
  (env.findSome? ofVariable).or <|
    (ofSurrogates binary).or <|
      ([binary, searched binary env].findSome? ofZero).or <|
        (argv.findSome? fun a => (ofSurrogates a).or (ofZero a)).or <|
          env.findSome? fun e => (ofZero e.1).or (ofZero e.2)

end Refusal

def Command.announcement (c : Command) : Text := "$ " ++ c.render ++ "\n"

inductive Output where
  | standard
  | sink (id : SinkId)
  | collect
  deriving DecidableEq, Repr

namespace Bridge

def childEnv (parent : Environment) (command : Command) : Environment :=
  Table.overlay parent command.env

def unattachable? (w : World) : Stream → Option Answer
  | .sink id =>
    if w.hasDescriptor id then none
    else match id, w.sink? id with
      | .given _, some (.memory _) => some (.fails (.plain "fileno"))
      | _, _ => some (.refuses .noDescriptor)
  | _ => none

/-- What becomes of a launch. Streams that do not bar it leave its strings to be looked at; the engine
is only asked when both will do. -/
def reply (script : Script) (parent : Environment) (command : Command) (barred : Option Answer) :
    Answer × Script :=
  match barred with
  | some answer => (answer, script)
  | none =>
    match Refusal.ofStrings command.binary command.argv (childEnv parent command) with
    | some r => (.refuses r, script)
    | none => Script.answer script command.operation

def launch (command : Command) (stdin stdout stderr : Stream) (input : Option Bytes) :
    Op (Nat × Int × List Chunk) := do
  let w ← get
  let (answer, script) := reply w.script w.parent command (unattachable? w stdout)
  let w := { w with script }.record
    (.attempt ⟨command, childEnv w.parent command, stdin, stdout, stderr, input, answer⟩)
  match answer with
  | .exits code chunks =>
    set { w with nextPid := w.nextPid + 1 }
    return (w.nextPid, code, chunks)
  | .fails e =>
    set w
    Op.fail (.launch command.binary e.reason)
  | .refuses r =>
    set w
    throw (.launchRefused r)

def announce (verbose : Bool) (command : Command) (log : SinkId) : Op Unit := do
  Op.emit (.running command.render)
  if verbose then
    match Text.unencodable? command.announcement with
    | some e => throw (.unencodable e)
    | none =>
      modify (·.write log (Text.Utf8.ofText command.announcement))
      modify (·.flush log)

def errorStream (w : World) (log : SinkId) : Stream :=
  if w.hasDescriptor log then .sink log else .pipe

def defaultContext (command : Command) : List (String × Value) := [("command", .ofText command.render)]

def complete (verbose : Bool) (command : Command) (input : Option Bytes) (output : Output)
    (log : SinkId) : Op Execution := do
  announce verbose command log
  let output := if output = .standard ∧ verbose then .sink log else output
  let w ← get
  let stdout ← match output with
    | .standard => pure .discard
    | .collect => pure .pipe
    | .sink id =>
      if w.hasDescriptor id then do
        modify (·.flush id)
        pure (.sink id)
      else pure .pipe
  let stderr := errorStream w log
  let stdin := if input.isSome then .pipe else .discard
  let (_, code, chunks) ← launch command stdin stdout stderr input
  modify (·.deliver stdout stderr chunks)
  let out := if stdout = .pipe then Chunk.stdoutOf chunks else []
  let err := if stderr = .pipe then Chunk.stderrOf chunks else []
  if err ≠ [] then modify (·.write log err)
  match output with
  | .sink id => if out ≠ [] then modify (·.write id out)
  | _ => pure ()
  modify (·.flush log)
  Op.emit (.finished command.render code)
  return ⟨code, if output = .collect then out else []⟩

def run (verbose : Bool) (command : Command) (input : Option Bytes) (output : Output)
    (log : Option SinkId) : Op Int := do
  let log ← Op.sinkOr log (defaultContext command)
  return (← complete verbose command input output log).exitCode

def capture (verbose : Bool) (command : Command) (input : Option Bytes) (log : Option SinkId) :
    Op (Execution × SinkId) := do
  let log ← Op.sinkOr log (defaultContext command)
  return (← complete verbose command input .collect log, log)

def start (verbose : Bool) (command : Command) (interactive : Bool) (stdout : Stream)
    (log : Option SinkId) : Op Nat := do
  let log ← Op.sinkOr log (defaultContext command)
  announce verbose command log
  let stderr := errorStream (← get) log
  let stdin := if interactive then .pipe else .discard
  let stdout := if interactive then .pipe else stdout
  let (pid, code, chunks) ← launch command stdin stdout stderr none
  let process : Child :=
    ⟨pid, code, chunks, stdout, stderr, if stderr = .pipe then some log else none⟩
  modify fun w => { w with processes := w.processes ++ [process] }
  Op.emit (.started command.render pid)
  return pid

end Bridge
end ContainerDriver
