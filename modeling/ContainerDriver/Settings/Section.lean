import ContainerDriver.Settings.Basic

/-! The sections of a configuration, and the keys that each declares. -/
namespace ContainerDriver.Settings

inductive Leaf where
  | text
  | optionalText
  | flag
  | texts
  deriving DecidableEq, Repr

inductive Section where
  | engine
  | driver
  | logging
  | plugins
  deriving DecidableEq, Repr

namespace Section

def all : List Section := [engine, driver, logging, plugins]

def name : Section → String
  | engine => "engine"
  | driver => "driver"
  | logging => "logging"
  | plugins => "plugins"

def keys : Section → List (String × Leaf)
  | engine => [("uri", .optionalText), ("env", .texts), ("binary", .text), ("verbose", .flag),
      ("tls_verify", .flag), ("cert_path", .optionalText)]
  | driver => [("name", .text)]
  | logging => [("level", .text)]
  | plugins => [("enabled", .flag)]

def declares (s : Section) (key : String) : Bool := s.keys.any (·.1 = key)

end Section
end ContainerDriver.Settings
