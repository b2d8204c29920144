import ContainerDriver.Proofs.Settings.VariableLayers

/-! Which source decides a setting. What the caller gives comes first, then the environment, the
environment file and the configuration file; the highest that says something of a setting decides it,
and what lower ones say of it does not matter. -/
namespace ContainerDriver.Settings

open Table (Distinct without)

namespace Scalar

structure Like (l : Scalar) (a b : Option Value) : Prop where
  some : a.isSome = b.isSome
  settled : l.settle a = l.settle b

variable {l : Scalar} {lower lower' upper upper' : Entries}

theorem Like.refl (l : Scalar) (a : Option Value) : l.Like a a := ⟨rfl, rfl⟩

theorem Like.trans {a b c : Option Value} (first : l.Like a b) (second : l.Like b c) :
    l.Like a c :=
  ⟨first.some.trans second.some, first.settled.trans second.settled⟩

theorem Like.or {a a' b b' : Option Value} (first : l.Like a a') (second : l.Like b b') :
    l.Like (a.or b) (a'.or b') := by
  obtain ⟨some, settled⟩ := first
  cases a with
  | none =>
    cases a' with
    | none => exact second
    | some v => cases some
  | some v =>
    cases a' with
    | none => cases some
    | some v' => exact ⟨rfl, settled⟩

theorem saidOverlay (low : Tabular l.home lower) (up : Layered l.home upper) :
    l.Like (l.said (overlay lower upper)) ((l.said upper).or (l.said lower)) := by
  have merged := getOverlay up.inner (inside l.home lower) l.key
  unfold said
  rw [(overlayTabular low up).2, merged]
  cases Table.get? l.key (inside l.home upper) with
  | none => exact .refl l _
  | some v => exact ⟨rfl, l.checkOverlaid _ _ v⟩

theorem Beside.overlay (low : Tabular l.home lower) (up : Layered l.home upper)
    (low' : Tabular l.home lower') (up' : Layered l.home upper') (below : l.Beside lower lower')
    (above : l.Beside upper upper') : l.Beside (overlay lower upper) (overlay lower' upper') := by
  constructor
  · intro s other
    rw [getOverlay up.distinct, getOverlay up'.distinct, below.others s other, above.others s other]
  · rw [(overlayTabular low up).2, (overlayTabular low' up').2, overlayWithout, overlayWithout,
      below.home, above.home]

theorem Beside.symm {t u : Entries} (beside : l.Beside t u) : l.Beside u t :=
  ⟨fun s other => (beside.others s other).symm, beside.home.symm⟩

end Scalar

def Layers.sayings (ls : Layers) (l : Scalar) : List (Option Value) :=
  [l.said ls.given, l.said ls.environment, l.said ls.dotenv, l.said ls.file]

structure Layers.Stacked (s : Section) (ls : Layers) : Prop where
  given : Layered s ls.given
  environment : Layered s ls.environment
  dotenv : Layered s ls.dotenv
  file : Tabular s ls.file

namespace Layers.Stacked

variable {l : Scalar} {ls ls' : Layers} (stacked : ls.Stacked l.home)
include stacked

theorem upper : Layered l.home (overlay ls.environment ls.given) :=
  .overlay stacked.environment.tabular stacked.given stacked.environment.distinct
    stacked.environment.inner

theorem uppers : Layered l.home (overlay ls.dotenv (overlay ls.environment ls.given)) :=
  .overlay stacked.dotenv.tabular stacked.upper stacked.dotenv.distinct stacked.dotenv.inner

theorem tabular : Tabular l.home ls.merged := (overlayTabular stacked.file stacked.uppers).1

theorem merged : l.Like (l.said ls.merged) ((ls.sayings l).findSome? id) := by
  have first := Scalar.saidOverlay stacked.environment.tabular stacked.given
  have second := Scalar.saidOverlay stacked.dotenv.tabular stacked.upper
  have third := Scalar.saidOverlay stacked.file stacked.uppers
  have highest : (ls.sayings l).findSome? id =
      (((l.said ls.given).or (l.said ls.environment)).or (l.said ls.dotenv)).or (l.said ls.file) := by
    unfold Layers.sayings
    cases l.said ls.given <;> cases l.said ls.environment <;> cases l.said ls.dotenv <;>
      cases l.said ls.file <;> rfl
  rw [highest]
  exact third.trans ((second.trans (first.or (.refl l _))).or (.refl l _))

theorem beside (stacked' : ls'.Stacked l.home) (given : l.Beside ls.given ls'.given)
    (environment : l.Beside ls.environment ls'.environment)
    (dotenv : l.Beside ls.dotenv ls'.dotenv) (file : l.Beside ls.file ls'.file) :
    l.Beside ls.merged ls'.merged := by
  have upper := Scalar.Beside.overlay stacked.environment.tabular stacked.given
    stacked'.environment.tabular stacked'.given environment given
  have uppers := Scalar.Beside.overlay stacked.dotenv.tabular stacked.upper stacked'.dotenv.tabular
    stacked'.upper dotenv upper
  exact .overlay stacked.file stacked.uppers stacked'.file stacked'.uppers file uppers

end Layers.Stacked

/-- What settings are loaded from once the files are read. Names of variables are in lower case, and
the lines of the environment file are free of references. -/
structure Sources where
  given : Entries
  environment : Variables
  dotenv : Variables
  file : Entries
  environmentLowered : Lowered environment
  dotenvLowered : Lowered dotenv

namespace Sources

def read (given : Entries) (around : Surroundings) : Except LoadError Sources := do
  let bindings ← match around.dotenv with
    | some b => pure (Dotenv.read around.environment (← decoded b))
    | none => pure []
  let file ← match around.file with
    | some b => (Toml.read (← decoded b)).mapError .file
    | none => pure []
  return { given, environment := .ofEnvironment around.environment, dotenv := .ofBindings bindings,
           file := sectionsOf file, environmentLowered := ofBindingsLowered _,
           dotenvLowered := ofBindingsLowered _ }

def layers (src : Sources) : Except LoadError Layers := do
  let environment ← src.environment.layer.mapError .variables
  let dotenv ← src.dotenv.layer.mapError .variables
  return { given := src.given, environment, dotenv, file := src.file }

def load (src : Sources) : Except LoadError Settings := do
  match ofMerged (← src.layers).merged with
  | .ok s => return s
  | .issues is => .error (.invalid is)

theorem layersRead (given : Entries) (around : Surroundings) :
    Settings.layers given around = read given around >>= layers := by
  obtain ⟨environment, file, dotenv⟩ := around
  unfold Settings.layers read layers
  cases dotenv <;> cases file <;> simp only [bind_assoc, pure_bind]

theorem loadRead (given : Entries) (around : Surroundings) :
    Settings.load given around = read given around >>= load := by
  rw [Settings.load, layersRead, bind_assoc]
  rfl

def sayings (src : Sources) (l : Scalar) : List (Option Value) :=
  [l.said src.given, (Table.get? l.variableName src.environment).map Scalar.textOf,
   (Table.get? l.variableName src.dotenv).map Scalar.textOf, l.said src.file]

structure Formed (src : Sources) (l : Scalar) : Prop where
  given : Layered l.home src.given
  environment : l.Plain src.environment
  dotenv : l.Plain src.dotenv
  file : Tabular l.home src.file

/-- Sources that differ in nothing but what they say of a setting. -/
structure Beside (l : Scalar) (src src' : Sources) : Prop where
  given : l.Beside src.given src'.given
  environment : without l.variableName src.environment = without l.variableName src'.environment
  dotenv : without l.variableName src.dotenv = without l.variableName src'.dotenv
  file : l.Beside src.file src'.file

theorem layersOk {src : Sources} {ls : Layers} : src.layers = .ok ls ↔
    ∃ e d, src.environment.layer = .ok e ∧ src.dotenv.layer = .ok d ∧
      ls = ⟨src.given, e, d, src.file⟩ := by
  unfold layers
  constructor
  · intro made
    obtain ⟨e, environment, made⟩ := Except.bindOk.mp made
    obtain ⟨d, dotenv, made⟩ := Except.bindOk.mp made
    cases made
    exact ⟨e, d, Except.mapErrorOk.mp environment, Except.mapErrorOk.mp dotenv, rfl⟩
  · rintro ⟨e, d, environment, dotenv, rfl⟩
    rw [environment, dotenv]
    rfl

theorem layersError {src : Sources} {e : LoadError} (failed : src.layers = .error e) :
    e = .variables .malformed := by
  unfold layers at failed
  cases environment : src.environment.layer with
  | error flaw =>
    rw [environment] at failed
    cases failed
    rfl
  | ok _ =>
    cases dotenv : src.dotenv.layer with
    | error flaw =>
      rw [environment, dotenv] at failed
      cases failed
      rfl
    | ok _ =>
      rw [environment, dotenv] at failed
      cases failed

variable {l : Scalar} {src src' : Sources} {ls : Layers}

theorem layersStacked (formed : src.Formed l) (made : src.layers = .ok ls) :
    ls.Stacked l.home ∧ ls.sayings l = src.sayings l := by
  obtain ⟨e, d, environment, dotenv, rfl⟩ := layersOk.mp made
  obtain ⟨upper, saidEnvironment⟩ :=
    Scalar.layerReads src.environmentLowered formed.environment environment
  obtain ⟨lower, saidDotenv⟩ := Scalar.layerReads src.dotenvLowered formed.dotenv dotenv
  refine ⟨⟨formed.given, upper, lower, formed.file⟩, ?_⟩
  rw [Layers.sayings, saidEnvironment, saidDotenv]
  rfl

theorem layersFollow (formed : src.Formed l) (formed' : src'.Formed l) (beside : src.Beside l src')
    (made : src.layers = .ok ls) : ∃ ls', src'.layers = .ok ls' ∧ l.Beside ls.merged ls'.merged := by
  have stacked := (layersStacked formed made).1
  obtain ⟨e, d, environment, dotenv, rfl⟩ := layersOk.mp made
  obtain ⟨e', environment', besideEnvironment⟩ := Scalar.layerFollows src.environmentLowered
    src'.environmentLowered formed.environment formed'.environment beside.environment environment
  obtain ⟨d', dotenv', besideDotenv⟩ := Scalar.layerFollows src.dotenvLowered
    src'.dotenvLowered formed.dotenv formed'.dotenv beside.dotenv dotenv
  have made' := layersOk.mpr ⟨e', d', environment', dotenv', rfl⟩
  have stacked' := (layersStacked formed' made').1
  exact ⟨_, made', stacked.beside stacked' beside.given besideEnvironment besideDotenv beside.file⟩

theorem Beside.symm (beside : src.Beside l src') : src'.Beside l src where
  given := beside.given.symm
  environment := beside.environment.symm
  dotenv := beside.dotenv.symm
  file := beside.file.symm

theorem loadOk {s : Settings} :
    src.load = .ok s ↔ ∃ ls, src.layers = .ok ls ∧ ofMerged ls.merged = .ok s := by
  unfold load
  rw [Except.bindOk]
  refine exists_congr fun ls => and_congr_right fun _ => ?_
  cases ofMerged ls.merged with
  | ok s' => simp [pure, Except.pure]
  | issues is => simp

theorem loadSettled {s : Settings} (formed : src.Formed l) (loaded : src.load = .ok s) :
    l.settle ((src.sayings l).findSome? id) = .ok (l.of s) := by
  obtain ⟨ls, made, merged⟩ := loadOk.mp loaded
  obtain ⟨stacked, same⟩ := layersStacked formed made
  rw [← same, ← stacked.merged.settled]
  exact ofMergedSettled merged l stacked.tabular

theorem loadSame (formed : src.Formed l) (formed' : src'.Formed l) (beside : src.Beside l src')
    (highest : (src.sayings l).findSome? id = (src'.sayings l).findSome? id) :
    src'.load = src.load := by
  unfold load
  -- Variables are malformed in both or in neither, and a malformed variable has one error only.
  cases made : src.layers with
  | error e =>
    cases made' : src'.layers with
    | error e' => rw [layersError made, layersError made']
    | ok ls' =>
      obtain ⟨ls, made', -⟩ := layersFollow formed' formed beside.symm made'
      rw [made] at made'
      cases made'
  | ok ls =>
    obtain ⟨ls', made', besideMerged⟩ := layersFollow formed formed' beside made
    obtain ⟨stacked, same⟩ := layersStacked formed made
    obtain ⟨stacked', same'⟩ := layersStacked formed' made'
    have settled : l.settle (l.said ls.merged) = l.settle (l.said ls'.merged) := by
      rw [stacked.merged.settled, stacked'.merged.settled, same, same', highest]
    rw [made']
    dsimp only [bind, Except.bind]
    rw [ofMergedSame stacked.tabular stacked'.tabular besideMerged settled]

end Sources

theorem findSomeTake {α : Type} {xs : List (Option α)} {n : Nat} {v : α}
    (has : xs[n]? = some (some v)) : xs.findSome? id = (xs.take (n + 1)).findSome? id := by
  induction xs generalizing n with
  | nil => cases has
  | cons x rest ih =>
    cases x with
    | some a => rfl
    | none =>
      cases n with
      | zero => cases has
      | succ n => exact ih has

/-- A setting is what its check makes of the highest value given, or its default; and no value below
one that is given has any influence, good or bad. The lines of the environment file count as they
are once references in them are resolved. -/
theorem scalarPrecedence (l : Scalar) {given : Entries} {around : Surroundings} {src : Sources}
    (read : Sources.read given around = .ok src) (formed : src.Formed l) :
    (∀ s, load given around = .ok s →
      match (src.sayings l).findSome? id with
      | some v => l.check [l.home.name, l.key] v = .ok (l.of s)
      | none => l.of s = l.default) ∧
    ∀ given' around' src', Sources.read given' around' = .ok src' → src'.Formed l →
      src.Beside l src' → ∀ n v, (src.sayings l)[n]? = some (some v) →
        (src'.sayings l).take (n + 1) = (src.sayings l).take (n + 1) →
        load given' around' = load given around := by
  constructor
  · intro s loaded
    rw [Sources.loadRead, read] at loaded
    have settled := Sources.loadSettled formed loaded
    cases highest : (src.sayings l).findSome? id with
    | some v => rwa [highest] at settled
    | none =>
      rw [highest] at settled
      exact (Checked.ok.inj settled).symm
  · intro given' around' src' read' formed' beside n v has agree
    have has' : (src'.sayings l)[n]? = some (some v) := by
      rw [← List.getElem?_take_of_lt (Nat.lt_succ_self n), agree,
        List.getElem?_take_of_lt (Nat.lt_succ_self n), has]
    have highest : (src.sayings l).findSome? id = (src'.sayings l).findSome? id := by
      rw [findSomeTake has, findSomeTake has', agree]
    rw [Sources.loadRead, Sources.loadRead, read, read']
    exact Sources.loadSame formed formed' beside highest

def addressed (uri : String) : Surroundings where
  environment := [("DOCKINS_engine__uri", uri), ("DOCKINS_LOGGING__LEVEL", "debug")]

theorem addressedPlain (uri : String) : Scalar.uri.Plain
    [("dockins_engine__uri", some uri), ("dockins_logging__level", some "debug")] := by
  refine ⟨rfl, fun b mem => ?_⟩
  have named : b.1 = "dockins_engine__uri" ∨ b.1 = "dockins_logging__level" := by
    simp only [List.mem_cons, List.not_mem_nil, or_false] at mem
    exact mem.imp (congrArg Prod.fst) (congrArg Prod.fst)
  rcases named with own | other
  · rw [own]
    decide
  · rw [other]
    decide

theorem scalarPrecedenceGiven :
    (∀ s, load [("engine", .table [("uri", .text "u")])] (addressed "a") = .ok s →
      Settings.uri ["engine", "uri"] (.text "u") = .ok s.engine.uri) ∧
    load [("engine", .table [("uri", .text "u")])] (addressed " ") =
      load [("engine", .table [("uri", .text "u")])] (addressed "a") := by
  let given : Entries := [("engine", .table [("uri", .text "u")])]
  have layered : Layered .engine given :=
    ⟨List.nodup_singleton "engine", .inr ⟨_, rfl⟩, List.nodup_singleton "uri"⟩
  have nothing : Scalar.uri.Plain [] := ⟨rfl, fun b mem => by cases mem⟩
  have read (uri : String) : Sources.read given (addressed uri) = .ok
      ⟨given, .ofEnvironment (addressed uri).environment, [], [], ofBindingsLowered _,
        ofBindingsLowered []⟩ := rfl
  obtain ⟨decided, undisturbed⟩ := scalarPrecedence .uri (read "a")
    ⟨layered, addressedPlain "a", nothing, .inl rfl⟩
  refine ⟨decided, undisturbed given (addressed " ") _ (read " ")
    ⟨layered, addressedPlain " ", nothing, .inl rfl⟩
    ⟨⟨fun _ _ => rfl, rfl⟩, rfl, rfl, ⟨fun _ _ => rfl, rfl⟩⟩ 0 (.text "u") rfl rfl⟩

def reference : String := "DOCKINS_DRIVER__NAME=$\x7bDOCKINS_ENGINE__URI\x7d\n"

def referring (uri : String) : Surroundings where
  environment := [("DOCKINS_ENGINE__URI", uri)]
  dotenv := some (Text.Utf8.ofString reference)

theorem referringLoads {uri : String} {bound : List Dotenv.Binding}
    (reads : Dotenv.read [("DOCKINS_ENGINE__URI", uri)] reference.toList = bound)
    (given : Entries) : load given (referring uri) =
      Sources.load ⟨given, .ofEnvironment [("DOCKINS_ENGINE__URI", uri)], .ofBindings bound,
        sectionsOf [], ofBindingsLowered _, ofBindingsLowered _⟩ := by
  have text : decoded (Text.Utf8.ofString reference) = .ok reference.toList := by cbv
  rw [Sources.loadRead, Sources.read, ← reads]
  simp only [referring, text]
  rfl

theorem referringDiffers :
    (load [("engine", .table [("uri", .text "u")])] (referring "a")).map (·.driver) = .ok "a" ∧
    (load [("engine", .table [("uri", .text "u")])] (referring "b")).map (·.driver) = .ok "b" := by
  have first : Dotenv.read [("DOCKINS_ENGINE__URI", "a")] reference.toList =
    [("DOCKINS_DRIVER__NAME", some "a")] := rfl
  have second : Dotenv.read [("DOCKINS_ENGINE__URI", "b")] reference.toList =
    [("DOCKINS_DRIVER__NAME", some "b")] := rfl
  rw [referringLoads first, referringLoads second]
  exact ⟨rfl, rfl⟩

end ContainerDriver.Settings
