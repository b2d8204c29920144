import ContainerDriver.Dotenv
import ContainerDriver.Settings.Check
import ContainerDriver.Settings.Variables
import ContainerDriver.Text.Utf8
import ContainerDriver.Toml.Document

/-! Loading settings from what the caller gives and what surrounds the program, and keeping those
that were loaded first. -/
namespace ContainerDriver.Settings

structure Surroundings where
  environment : List (String × String) := []
  file : Option Bytes := none
  dotenv : Option Bytes := none

inductive LoadError where
  | undecodable
  | file (flaw : Toml.Flaw)
  | variables (flaw : VariableFlaw)
  | invalid (issues : List (List String × Issue))

def decoded (b : Bytes) : Except LoadError (List Char) :=
  match Text.Utf8.decode? b with
  | some cs => .ok cs
  | none => .error .undecodable

def sectionsOf (t : Entries) : Entries :=
  Section.all.filterMap fun s =>
    let anyCase := (t.find? fun e => Text.lower e.1 = s.name).map (·.2)
    ((Table.get? s.name t).or anyCase).map fun v => (s.name, v)

def layers (given : Entries) (around : Surroundings) : Except LoadError Layers := do
  -- The files are read before any variable is.
  let bindings ← match around.dotenv with
    | some b => pure (Dotenv.read around.environment (← decoded b))
    | none => pure []
  let file ← match around.file with
    | some b => (Toml.read (← decoded b)).mapError .file
    | none => pure []
  let environment ← (Variables.ofEnvironment around.environment).layer.mapError .variables
  let dotenv ← (Variables.ofBindings bindings).layer.mapError .variables
  return { given, environment, dotenv, file := sectionsOf file }

def load (given : Entries) (around : Surroundings) : Except LoadError Settings := do
  match ofMerged (← layers given around).merged with
  | .ok s => return s
  | .issues is => .error (.invalid is)

structure Store where
  around : Surroundings := {}
  kept : Option Settings := none

namespace Store

def get (s : Store) : Except LoadError Settings × Store :=
  match s.kept with
  | some settings => (.ok settings, s)
  | none =>
    match load [] s.around with
    | .ok settings => (.ok settings, { s with kept := some settings })
    | .error e => (.error e, s)

def reset (s : Store) : Store := { s with kept := none }

end Store
end ContainerDriver.Settings
