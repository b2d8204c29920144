import ContainerDriver.CommandLine.Request
import ContainerDriver.Driver.Selection
import ContainerDriver.Engine.Operations
import ContainerDriver.Settings.Load

/-! Running a command line: arguments are read, then settings are loaded, then the log level is set
and a driver is made, and it does what is asked. Typed errors of the driver are told on the error
stream; what is raised elsewhere is not. -/
namespace ContainerDriver

inductive Escape where
  | load (e : Settings.LoadError)
  | logging (f : Threshold.Flaw)
  | selection (t : Trouble)
  | fault (f : Fault)
  | foreign

inductive Ending where
  | stopped (code : Nat)
  | returned (code : Int)
  | escaped (e : Escape)

structure Report where
  ending : Ending
  stdout : Text := ""
  logLevel : Option String := none

structure Installation where
  around : Settings.Surroundings := {}
  -- Variables that settings do not read. They need not be valid Unicode.
  others : Environment := []
  plugins : List EntryPoint := []

def Installation.environment (i : Installation) : Environment :=
  Environment.ofStrings i.around.environment ++ i.others

namespace Request

def perform (c : Client) (log : Option SinkId) : Request → Op (Text × Int)
  | version => return ((← c.serverVersion log) ++ "\n", 0)
  | pull image => do
    c.pullImage image log
    return ("", 0)
  | imageExists image => return ("", if ← c.imageExists image log then 0 else 1)
  | build path tag fresh => return ("", ← c.buildDockerfile path tag fresh log)
  | createVolume => return ((← c.createVolume log) ++ "\n", 0)
  | remove id =>
    match Handle.of? "" id with
    | some handle => return ("", ← c.removeContainer handle log)
    | none => throw (.missingId "")

end Request

def Invocation.settings (i : Invocation) (s : Settings) : Settings :=
  let host := i.host.filter (· ≠ ("" : Text))
  { s with engine := { s.engine with uri := host.or s.engine.uri,
                                     verbose := i.verbose || s.engine.verbose } }

/-- What the drivers of plugins do, by the names of the plugins. Such a driver may lack any operation,
that of closing it included. -/
structure PluginDrivers where
  perform : String → Request → Option (Op (Text × Int)) := fun _ _ => none
  close : String → Option (Op Unit) := fun _ => none

namespace World

def errorStream : SinkId := .given "stderr"

def tell (w : World) (text : Text) : World :=
  if text = "" then w
  else (w.write errorStream (Text.Utf8.ofString text.visible)).flush errorStream

end World

namespace Driver

def operate (drivers : PluginDrivers) (r : Request) : Driver → Option (Op (Text × Int))
  | cli c => some (r.perform c (some World.errorStream))
  | foreign plugin _ _ => drivers.perform plugin r

def close (drivers : PluginDrivers) : Driver → Option (Op Unit)
  | cli _ => some Client.close
  | foreign plugin _ _ => drivers.close plugin

end Driver

namespace World

/-- What is made of the result of an operation. Only valid Unicode can be printed; typed errors are
told, others go on. -/
def conclude (result : Except Fault (Text × Int)) (w : World) : Ending × Text × World :=
  match result with
  | .ok (text, code) =>
    match Text.unencodable? text with
    | some e => (.escaped (.fault (.unencodable e)), "", w)
    | none => (.returned code, text, w)
  | .error (.error e) => (.returned 1, "", w.tell ("dockins: " ++ e.message ++ "\n"))
  | .error f => (.escaped (.fault f), "", w)

def operate (drivers : PluginDrivers) (r : Request) (driver : Driver) (w : World) :
    Ending × Text × World :=
  match driver.operate drivers r with
  | none => (.escaped .foreign, "", w)
  | some operation =>
    let (result, w) := (operation.run w).run
    conclude result w

/-- Does what is asked and closes the driver, whatever came of it. What stops the closing takes the
place of what was there before. -/
def perform (drivers : PluginDrivers) (r : Request) (driver : Driver) (w : World) :
    Ending × Text × World :=
  let (ending, stdout, w) := w.operate drivers r driver
  match driver.close drivers with
  | none => (.escaped .foreign, stdout, w)
  | some closing =>
    match (closing.run w).run with
    | (.ok (), w) => (ending, stdout, w)
    | (.error f, w) => (.escaped (.fault f), stdout, w)

def serve (i : Installation) (inv : Invocation) (s : Settings) (w : World)
    (drivers : PluginDrivers := {}) : Report × World :=
  let (events, driver) := createDriver (inv.settings s) [] i.plugins
  let w := w.recordEvents events
  match driver with
  | .error t => ({ ending := .escaped (.selection t), logLevel := some s.logLevel }, w)
  | .ok driver =>
    let (ending, stdout, w) := w.perform drivers inv.request driver
    ({ ending, stdout, logLevel := some s.logLevel }, w)

def commandLine (i : Installation) (arguments : List Text) (w : World)
    (drivers : PluginDrivers := {}) : Report × World :=
  let w := { w with parent := i.environment, closed := false }
  match Invocation.ofArguments arguments with
  | .error stop =>
    ({ ending := .stopped stop.exitCode, stdout := stop.stdout }, w.tell stop.stderr)
  | .ok inv =>
    match Settings.load [] i.around with
    | .error e => ({ ending := .escaped (.load e) }, w)
    | .ok s =>
      match Threshold.ofWord s.logLevel with
      | .error f => ({ ending := .escaped (.logging f), logLevel := some s.logLevel }, w)
      | .ok _ => w.serve i inv s drivers

end World
end ContainerDriver
