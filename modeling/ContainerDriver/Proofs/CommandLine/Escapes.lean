import ContainerDriver.Proofs.CommandLine.Serving

/-! Typed errors of the driver, seen from the command line. Those of an operation are told and end
the program with code 1. Those that a plugin raises while it is loaded or asked, when its factory
makes the driver, or when the driver is closed, are not caught. -/
namespace ContainerDriver

def Escape.typed? : Escape → Option Error
  | selection (.typed e) => some e
  | fault (.error e) => some e
  | _ => none

def Ending.typed? : Ending → Option Error
  | escaped e => e.typed?
  | _ => none

namespace World

variable {w : World} {drivers : PluginDrivers} {driver : Driver} {r : Request} {e : Error}

theorem concludeUntyped (result : Except Fault (Text × Int)) (w : World) :
    (conclude result w).1.typed? = none := by
  rcases result with f | ⟨text, code⟩
  · cases f <;> rfl
  · simp only [conclude]
    cases Text.unencodable? text <;> rfl

theorem operateUntyped (drivers : PluginDrivers) (r : Request) (driver : Driver) (w : World) :
    (w.operate drivers r driver).1.typed? = none := by
  unfold operate
  cases driver.operate drivers r with
  | none => rfl
  | some operation => exact concludeUntyped _ _

theorem performTyped : (w.perform drivers r driver).1.typed? = some e ↔
    w.closing drivers r driver = some (.error e) := by
  have quiet := operateUntyped drivers r driver w
  unfold perform closing
  generalize w.operate drivers r driver = done at quiet ⊢
  obtain ⟨ending, stdout, v⟩ := done
  cases driver.close drivers with
  | none => simp [Ending.typed?, Escape.typed?]
  | some close =>
    dsimp only [Option.bind_some] at quiet ⊢
    rcases (close.run v).run with ⟨f | u, v'⟩
    · cases f <;> simp [Ending.typed?, Escape.typed?]
    · simp [show ending.typed? = none from quiet]

/-- Where a typed error comes from that escapes: a plugin that is loaded or asked, the factory that is
chosen, or closing. -/
inductive Uncaught (i : Installation) (arguments : List Text) (w : World)
    (drivers : PluginDrivers) (e : Error) : Prop where
  | choosing (inv : Invocation) (s : Settings)
      (accepted : Invocation.ofArguments arguments = .ok inv)
      (loaded : Settings.load [] i.around = .ok s)
      (levelled : ∃ t, Threshold.ofWord s.logLevel = .ok t)
      (raised : Selection.chosen (inv.settings s) i.plugins = .error (.typed e))
  | making (inv : Invocation) (s : Settings) (name plugin : String)
      (accepted : Invocation.ofArguments arguments = .ok inv)
      (loaded : Settings.load [] i.around = .ok s)
      (levelled : ∃ t, Threshold.ofWord s.logLevel = .ok t)
      (picked : Selection.chosen (inv.settings s) i.plugins
        = .ok (some ⟨name, .plugin plugin (some (.typed e))⟩))
  | closing (inv : Invocation) (s : Settings) (driver : Driver) (w' : World)
      (served : Served i arguments w inv s driver w')
      (raised : w'.closing drivers inv.request driver = some (.error e))

theorem escapedUncaught {i : Installation} {arguments : List Text}
    (escaped : (w.commandLine i arguments drivers).1.ending.typed? = some e) :
    Uncaught i arguments w drivers e := by
  cases accepted : Invocation.ofArguments arguments with
  | error stop =>
    rw [commandLineStops accepted] at escaped
    cases escaped
  | ok inv =>
  cases loaded : Settings.load [] i.around with
  | error f =>
    rw [commandLineUnloaded accepted loaded] at escaped
    cases escaped
  | ok s =>
  cases level : Threshold.ofWord s.logLevel with
  | error f =>
    rw [commandLineUnlevelled accepted loaded level] at escaped
    cases escaped
  | ok t =>
  cases made : (createDriver (inv.settings s) [] i.plugins).2 with
  | error trouble =>
    rw [commandLineUnserved accepted loaded ⟨t, level⟩ made] at escaped
    cases trouble with
    | untyped kind => cases escaped
    | typed e' =>
      cases escaped
      rcases Selection.createDriverRefuses.mp made with raised | ⟨name, plugin, picked⟩
      · exact .choosing inv s accepted loaded ⟨t, level⟩ raised
      · exact .making inv s name plugin accepted loaded ⟨t, level⟩ picked
  | ok driver =>
    have served : Served i arguments w inv s driver _ := ⟨accepted, loaded, ⟨t, level⟩, made, rfl⟩
    rw [commandLineServes served] at escaped
    exact .closing inv s driver _ served (performTyped.mp escaped)

theorem uncaughtEscapes {i : Installation} {arguments : List Text}
    (uncaught : Uncaught i arguments w drivers e) :
    (w.commandLine i arguments drivers).1.ending.typed? = some e := by
  cases uncaught with
  | choosing inv s accepted loaded levelled raised =>
    rw [commandLineUnserved accepted loaded levelled (Selection.createDriverRefuses.mpr (.inl raised))]
    rfl
  | making inv s name plugin accepted loaded levelled picked =>
    rw [commandLineUnserved accepted loaded levelled
      (Selection.createDriverRefuses.mpr (.inr ⟨name, plugin, picked⟩))]
    rfl
  | closing inv s driver w' served raised =>
    rw [commandLineServes served]
    exact performTyped.mpr raised

/-- Typed errors escape from plugins that are loaded or asked, from the factory that is chosen and
from closing, and from nowhere else. Those of an operation end the program with code 1, their message
on the error stream. -/
theorem typedEscapes (i : Installation) (arguments : List Text) (w : World)
    (drivers : PluginDrivers) (e : Error) :
    ((w.commandLine i arguments drivers).1.ending.typed? = some e ↔
      Uncaught i arguments w drivers e) ∧
    ∀ inv s driver w' operation close w'' last, Served i arguments w inv s driver w' →
      driver.operate drivers inv.request = some operation → driver.close drivers = some close →
      (operation.run w').run = (.error (.error e), w'') →
      let line : Text := "dockins: " ++ e.message ++ "\n"
      (close.run (w''.tell line)).run = (.ok (), last) →
      (w''.Shows "stderr" →
        Text.Utf8.ofString line.visible <:+ (w''.tell line).contentOf errorStream) ∧
      w.commandLine i arguments drivers =
        ({ ending := .returned 1, stdout := "", logLevel := some s.logLevel }, last) := by
  refine ⟨⟨escapedUncaught, uncaughtEscapes⟩, ?_⟩
  intro inv s driver w' operation close w'' last served serves closes ran line closed
  have concluded : w'.operate drivers inv.request driver =
      (Ending.returned 1, ("" : Text), w''.tell line) :=
    operateConcludes serves ran
  refine ⟨fun shows => tellShows shows _, ?_⟩
  have performed : w'.perform drivers inv.request driver = _ :=
    performCloses closes (by rw [concluded]; exact closed)
  rw [commandLineServes served, performed, concluded]

theorem typedEscapesDeadEngine :
    ∃ last, ({ script := [⟨["version"], .exits 1 [], none⟩] } : World).commandLine {} ["version"] =
      ({ ending := .returned 1, stdout := "", logLevel := some "INFO" }, last) := by
  have served : Served {} ["version"] { script := [⟨["version"], .exits 1 [], none⟩] }
      ⟨none, false, .version⟩ {} (.cli (Settings.client {} [])) _ :=
    ⟨rfl, rfl, ⟨_, rfl⟩, rfl, rfl⟩
  have told := (typedEscapes {} ["version"] _ {} (.exited .connect 1 "")).2 _ _ _ _ _ _ _ _ served
    rfl rfl rfl rfl
  exact ⟨_, told.2⟩

def brokenFactory : Installation where
  around := { environment := [("DOCKINS_DRIVER__NAME", "broken")] }
  plugins := [⟨"p", "dockins", .object .normal (.ok (some (.ofFactory
    ⟨"broken", .plugin "p" (some (.typed (.general "plugin failed: p")))⟩)))⟩]

theorem brokenFactoryEscapes :
    (({} : World).commandLine brokenFactory ["version"]).1.ending.typed?
      = some (.general "plugin failed: p") := by
  decide +kernel

end World
end ContainerDriver
