import ContainerDriver.Text.Basic

/-! Errors of the driver. Each says what failed; raw process output is not part of a message. -/
namespace ContainerDriver

inductive Task where
  | runCommand
  | createVolume
  | createContainer
  | startContainer
  | getFile
  | putFile
  | connect
  deriving DecidableEq, Repr

def Task.phrase : Task → String
  | runCommand => "run engine command"
  | createVolume => "create volume"
  | createContainer => "create container"
  | startContainer => "start container"
  | getFile => "get file"
  | putFile => "put file"
  | connect => "connect to the container engine"

inductive Error where
  | general (text : Text)
  | launch (binary reason : Text)
  | closed (text : Text)
  | archive (text : Text)
  | encoding (text : Text)
  | decoding (text : Text)
  | exited (task : Task) (code : Int) (detail : Text)
  | fileDecoding (detail : Text)
  | imagePull (image : Text) (code : Int)
  deriving DecidableEq, Repr

inductive Category where
  | driver
  | launch
  | closed
  | archive
  | encoding
  | decoding
  | exited (task : Task)
  | fileDecoding
  | imagePull
  deriving DecidableEq, Repr

namespace Category

def ancestors : Category → List Category
  | driver => [driver]
  | launch => [launch, driver]
  | closed => [closed, driver]
  | archive => [archive, driver]
  | encoding => [encoding, archive, driver]
  | decoding => [decoding, archive, driver]
  | exited .runCommand => [exited .runCommand, driver]
  | exited task => [exited task, exited .runCommand, driver]
  | fileDecoding =>
    [fileDecoding, exited .getFile, exited .runCommand, decoding, archive, driver]
  | imagePull => [imagePull, exited .runCommand, driver]

end Category

namespace Error

def category : Error → Category
  | general _ => .driver
  | launch _ _ => .launch
  | closed _ => .closed
  | archive _ => .archive
  | encoding _ => .encoding
  | decoding _ => .decoding
  | exited task _ _ => .exited task
  | fileDecoding _ => .fileDecoding
  | imagePull _ _ => .imagePull

def exitedMessage (phrase : String) (detail : Text) (code : Int) : Text :=
  "failed to " ++ phrase ++ (if detail = "" then "" else " " ++ detail : Text)
    ++ (" (exit " ++ toString code ++ ")")

def message : Error → Text
  | general text => text
  | launch binary reason => "failed to launch " ++ binary ++ ": " ++ reason
  | closed text => text
  | archive text => text
  | encoding text => text
  | decoding text => text
  | exited task code detail => exitedMessage task.phrase detail code
  | fileDecoding detail => "failed to get file " ++ detail
  | imagePull image code => exitedMessage "pull image" image code

def exitCode? : Error → Option Int
  | exited _ code _ => some code
  | fileDecoding _ => some 0
  | imagePull _ code => some code
  | _ => none

def image? : Error → Option Text
  | imagePull image _ => some image
  | _ => none

def binary? : Error → Option Text
  | launch binary _ => some binary
  | _ => none

def refused : Error := closed "driver is closed"

end Error
end ContainerDriver
