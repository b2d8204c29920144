import ContainerDriver.Command.Basic

/-! Settings: how engine commands run, which driver runs them, what is logged, and which plugins are
enabled. -/
namespace ContainerDriver

structure EngineSettings where
  uri : Option Text := none
  env : List (String × String) := []
  binary : String := "docker"
  verbose : Bool := false
  tlsVerify : Bool := false
  certPath : Option String := none
  deriving DecidableEq, Repr

structure Settings where
  engine : EngineSettings := {}
  driver : String := "cli"
  logLevel : String := "INFO"
  plugins : List (String × Bool) := []
  deriving DecidableEq, Repr

namespace Settings

def endpoint (s : Settings) : Endpoint :=
  let env := s.engine.env
  let env := if s.engine.tlsVerify then Table.set "DOCKER_TLS_VERIFY" "1" env else env
  let env := match s.engine.certPath.filter (· ≠ "") with
    | some path => Table.set "DOCKER_CERT_PATH" path env
    | none => env
  ⟨s.engine.uri, .ofStrings env⟩

def enabled (s : Settings) (plugin : String) : Bool := (Table.get? plugin s.plugins).getD true

end Settings
end ContainerDriver
