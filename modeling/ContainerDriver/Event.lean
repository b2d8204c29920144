import ContainerDriver.Threshold
import ContainerDriver.Value

/-! Structured log records. Each event has a level, a text and fields; the constructors list all
records that the library makes. -/
namespace ContainerDriver

inductive Event where
  | noHost
  | running (command : Text)
  | finished (command : Text) (code : Int)
  | started (command : Text) (pid : Nat)
  | line (title : String) (text : String) (context : List (String × Value))
  | injected (container directory file : Text) (size : Nat)
  | created (container image : Text)
  | discarding (container : Text)
  | discardFailed (container reason : Text)
  | removalFailed (container : Text) (code : Int)
  | remotingStarted (container image : Text)
  | buildStarted (container image : Text)
  | sideStarting (container image : Text)
  | pulled (image : Text)
  | builtinRegistered (plugin : String)
  | builtinDisabled (plugin : String)
  | discovered (count : Nat)
  | classUnregistered (plugin : String)
  | factoryIgnored (type : String)
  | duplicateFactory (driver : String)
  | unknownDriver (driver : String)
  | driverCreated (driver : String)
  deriving Repr, BEq

namespace Event

def level : Event → Level
  | line _ _ _ | remotingStarted _ _ | buildStarted _ _ | sideStarting _ _ | pulled _
  | builtinDisabled _ | discovered _ => .info
  | discarding _ | classUnregistered _ | factoryIgnored _ | duplicateFactory _
  | unknownDriver _ => .warning
  | _ => .debug

def text : Event → String
  | noHost => "No engine host configured, using CLI default"
  | running _ => "Running engine command"
  | finished _ _ => "Engine command finished"
  | started _ _ => "Engine command started"
  | line title _ _ => title
  | injected _ _ _ _ => "Injected file"
  | created _ _ => "Container created"
  | discarding _ => "Removing half-provisioned container"
  | discardFailed _ _ => "docker rm -f failed"
  | removalFailed _ _ => "Container removal exited non-zero"
  | remotingStarted _ _ => "Remoting container started"
  | buildStarted _ _ => "Build container started"
  | sideStarting _ _ => "Side container starting"
  | pulled _ => "Image pulled"
  | builtinRegistered _ => "Registered built-in plugin"
  | builtinDisabled _ => "Plugin disabled via config"
  | discovered _ => "Discovered third-party plugins"
  | classUnregistered _ => "Unregistered invalid class-based plugin object"
  | factoryIgnored _ => "Ignoring invalid driver factory"
  | duplicateFactory _ => "Duplicate driver factory ignored"
  | unknownDriver _ => "Unknown driver; falling back to the CLI driver"
  | driverCreated _ => "Driver created"

def fields : Event → List (String × Value)
  | noHost => []
  | running command => [("command", .ofText command)]
  | finished command code => [("command", .ofText command), ("exit_code", .int code)]
  | started command pid => [("command", .ofText command), ("pid", .int pid)]
  | line _ text context => ("line", .text text) :: context
  | injected container directory file size =>
    [("container", .ofText container), ("dest", .ofText directory), ("filename", .ofText file),
     ("size", .int size)]
  | created container image | remotingStarted container image | buildStarted container image
  | sideStarting container image => [("container", .ofText container), ("image", .ofText image)]
  | discarding container => [("container", .ofText container)]
  | discardFailed container reason => [("container", .ofText container), ("err", .ofText reason)]
  | removalFailed container code => [("container", .ofText container), ("exit_code", .int code)]
  | pulled image => [("image", .ofText image)]
  | builtinRegistered plugin => [("name", .text plugin)]
  | builtinDisabled plugin | classUnregistered plugin => [("plugin", .text plugin)]
  | discovered count => [("count", .int count)]
  | factoryIgnored type => [("factory_type", .text type)]
  | duplicateFactory driver | unknownDriver driver | driverCreated driver =>
    [("driver", .text driver)]

def isControl : Event → Bool
  | line _ _ _ => false
  | _ => true

end Event
end ContainerDriver
