import ContainerDriver.CommandLine.Run

/-! The program, rehearsed. Arguments and variables count as they would in earnest, but no engine is
attached: every engine command succeeds and says nothing. With `--verbose` the commands are shown. -/
namespace ContainerDriver

def settingsVariables : List String :=
  let inside (s : Settings.Section) : List String :=
    match s with
    | .plugins => s.keys.map fun k => s.variableName ++ "__" ++ Selection.builtinName ++ "__" ++ k.1
    | _ => s.keys.map fun k => s.variableName ++ "__" ++ k.1
  (Settings.Section.all.flatMap fun s => s.variableName :: inside s).map Text.upper

def Ending.exitCode : Ending → UInt32
  | .stopped code => UInt32.ofNat code
  | .returned code => UInt32.ofNat (code % 256).toNat
  | .escaped _ => 1

end ContainerDriver

open ContainerDriver in
def main (arguments : List String) : IO UInt32 := do
  let environment ← settingsVariables.filterMapM fun name =>
    return (← IO.getEnv name).map fun value => (name, value)
  let idle : World := { sinks := [(World.errorStream, .memory [])] }
  let (report, world) := idle.commandLine { around := { environment } } (arguments.map Text.ofString)
  IO.print report.stdout.visible
  let stderr := ((world.sink? World.errorStream).map Sink.content).getD []
  (← IO.getStderr).write ⟨stderr.toArray⟩
  return report.ending.exitCode
