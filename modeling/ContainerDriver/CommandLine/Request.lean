import ContainerDriver.CommandLine.Options

/-! The command line of the program: what can be asked for, and how it is written. -/
namespace ContainerDriver

inductive Request where
  | version
  | pull (image : Text)
  | imageExists (image : Text)
  | build (path tag : Text) (fresh : Bool)
  | createVolume
  | remove (id : Text)
  deriving DecidableEq, Repr

structure Invocation where
  host : Option Text := none
  verbose : Bool := false
  request : Request
  deriving DecidableEq, Repr

namespace Invocation
open Options

def hostFlag : Flag := { names := ["-H", "--host"], takesValue := true }
def verboseFlag : Flag := { names := ["-v", "--verbose"] }
def tagFlag : Flag := { names := ["-t", "--tag"], takesValue := true, required := true }
def freshFlag : Flag := { names := ["--pull"] }

def program : String := "dockins"

def commands : List String := ["version", "pull", "image-exists", "build", "volume-create", "rm"]

def choice : String := "\x7b" ++ ",".intercalate commands ++ "\x7d"

def mainGrammar : Grammar where
  program := program
  usage := "usage: " ++ program ++ " [-h] [-H HOST] [-v]\n               " ++ choice ++ " ...\n"
  details := "Container lifecycle driver for disposable build environments\n\npositional arguments:\n  "
    ++ choice ++ "\n    version             Print the engine server version\n"
    ++ "    pull                Pull an image\n"
    ++ "    image-exists        Exit 0 if the image is present locally\n"
    ++ "    build               Build an image from a Dockerfile directory\n"
    ++ "    volume-create       Create a volume and print its name\n"
    ++ "    rm                  Force-remove a container\n\noptions:\n"
    ++ "  -h, --help            show this help message and exit\n"
    ++ "  -H HOST, --host HOST  Engine endpoint URI (overrides [engine] uri)\n"
    ++ "  -v, --verbose         Echo engine commands and output\n"
  flags := [helpFlag, hostFlag, verboseFlag]
  operand := .command "command" (commands.map Text.ofString)

def helpDetails : String := "options:\n  -h, --help  show this help message and exit\n"

def plainGrammar (command : String) : Grammar where
  program := program ++ " " ++ command
  usage := "usage: " ++ program ++ " " ++ command ++ " [-h]\n"
  details := helpDetails
  flags := [helpFlag]
  operand := .none

def operandGrammar (command operand : String) (ifBlank : Option String) : Grammar where
  program := program ++ " " ++ command
  usage := "usage: " ++ program ++ " " ++ command ++ " [-h] " ++ operand ++ "\n"
  details := "positional arguments:\n  " ++ operand ++ "\n\n" ++ helpDetails
  flags := [helpFlag]
  operand := .one operand ifBlank

def buildGrammar : Grammar where
  program := program ++ " build"
  usage := "usage: " ++ program ++ " build [-h] -t TAG [--pull] path\n"
  details := "positional arguments:\n  path\n\noptions:\n"
    ++ "  -h, --help         show this help message and exit\n  -t TAG, --tag TAG\n"
    ++ "  --pull             Always pull the base image\n"
  flags := [helpFlag, tagFlag, freshFlag]
  operand := .one "path" none

def grammarOf (command : String) : Grammar :=
  if command = "pull" ∨ command = "image-exists" then operandGrammar command "image" none
  else if command = "build" then buildGrammar
  else if command = "rm" then operandGrammar command "id" (some "container id must not be empty")
  else plainGrammar command

def requestOf (command : String) (r : Reading) : Request :=
  let operand := (r.operand.getD []).headD ""
  if command = "pull" then .pull operand
  else if command = "image-exists" then .imageExists operand
  else if command = "build" then .build operand ((r.value? tagFlag).getD "") (r.has freshFlag)
  else if command = "volume-create" then .createVolume
  else if command = "rm" then .remove operand
  else .version

def commandOf (word : Text) : String := (commands.find? fun c => Text.ofString c = word).getD ""

def ofArguments (arguments : List Text) : Except Stop Invocation := do
  let r ← read mainGrammar arguments
  let words := r.operand.getD []
  let command := commandOf (words.headD "")
  let inner ← read (grammarOf command) words.tail
  let extras := r.extras ++ inner.extras
  if extras ≠ [] then .error (.mistake mainGrammar (.unrecognized extras))
  return { host := r.value? hostFlag, verbose := r.has verboseFlag,
           request := requestOf command inner }

end Invocation
end ContainerDriver
