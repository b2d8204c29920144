import ContainerDriver.Proofs.Settings.VariableLayers

/-! Layers, from what is read. Only the sections count: what is given beside them, or stands beside
them in the configuration file, changes nothing. -/
namespace ContainerDriver.Settings

open Table (Distinct)

def Surroundings.bindings (around : Surroundings) :
    Except LoadError (List (String × Option String)) :=
  match around.dotenv with
  | some text => do return Dotenv.read around.environment (← decoded text)
  | none => return []

def Surroundings.tables (around : Surroundings) : Except LoadError Entries :=
  match around.file with
  | some text => do (Toml.read (← decoded text)).mapError .file
  | none => return []

variable {given given' t : Entries} {around : Surroundings} {ls : Layers}

theorem layersParts (given : Entries) (around : Surroundings) : layers given around = (do
    let bs ← around.bindings
    let t ← around.tables
    let environment ← (Variables.ofEnvironment around.environment).layer.mapError .variables
    let dotenv ← (Variables.ofBindings bs).layer.mapError .variables
    return { given, environment, dotenv, file := sectionsOf t }) := by
  obtain ⟨environment, file, dotenv⟩ := around
  unfold layers Surroundings.bindings Surroundings.tables
  cases dotenv <;> cases file <;> simp only [bind_assoc, pure_bind]

theorem layersSource : layers given around = .ok ls ↔ ∃ bs t,
    around.bindings = .ok bs ∧ around.tables = .ok t ∧
    (Variables.ofEnvironment around.environment).layer = .ok ls.environment ∧
    (Variables.ofBindings bs).layer = .ok ls.dotenv ∧ ls.given = given ∧ ls.file = sectionsOf t := by
  rw [layersParts]
  constructor
  · intro made
    obtain ⟨bs, bindings, made⟩ := Except.bindOk.mp made
    obtain ⟨t, tables, made⟩ := Except.bindOk.mp made
    obtain ⟨e, environment, made⟩ := Except.bindOk.mp made
    obtain ⟨d, dotenv, made⟩ := Except.bindOk.mp made
    cases made
    exact ⟨bs, t, bindings, tables, Except.mapErrorOk.mp environment, Except.mapErrorOk.mp dotenv,
      rfl, rfl⟩
  · obtain ⟨_, _, _, _⟩ := ls
    rintro ⟨bs, t, bindings, tables, environment, dotenv, rfl, rfl⟩
    dsimp only at environment dotenv
    rw [bindings, tables, environment]
    dsimp only [bind, Except.bind, Except.mapError]
    rw [dotenv]
    rfl

theorem mergedDistinct (made : layers given around = .ok ls) : Distinct ls.merged := by
  obtain ⟨bs, t, -, -, -, -, -, file⟩ := layersSource.mp made
  unfold Layers.merged
  rw [file]
  exact overlayDistinct (gatherDistinct _) _

theorem ofMergedSections {u : Entries}
    (same : ∀ s : Section, Table.get? s.name t = Table.get? s.name u) : ofMerged t = ofMerged u := by
  have engine : Table.get? "engine" t = _ := same .engine
  have driver : Table.get? "driver" t = _ := same .driver
  have logging : Table.get? "logging" t = _ := same .logging
  have plugins : Table.get? "plugins" t = _ := same .plugins
  simp only [ofMerged, entry, engine, driver, logging, plugins, Section.name]

theorem layersGiven (given given' : Entries) (around : Surroundings) :
    layers given' around = (layers given around).map fun ls => { ls with given := given' } := by
  rw [layersParts, layersParts]
  simp only [bind, Except.bindMap]
  rfl

theorem mergedGiven (made : layers given around = .ok ls)
    (same : ∀ s : Section,
      (given'.filter fun e => e.1 = s.name) = given.filter fun e => e.1 = s.name)
    (s : Section) : Table.get? s.name { ls with given := given' }.merged =
      Table.get? s.name ls.merged := by
  obtain ⟨bs, t, -, -, environment, dotenv, rfl, -⟩ := layersSource.mp made
  obtain ⟨e, -, environment⟩ := layerSource.mp environment
  obtain ⟨d, -, dotenv⟩ := layerSource.mp dotenv
  have distinct (given : Entries) : Distinct (overlay ls.environment given) := by
    rw [environment]
    exact overlayDistinct (gatherDistinct e) _
  have distinct' (given : Entries) : Distinct (overlay ls.dotenv given) := by
    rw [dotenv]
    exact overlayDistinct (gatherDistinct d) _
  have upper : Table.get? s.name (overlay ls.environment given') =
      Table.get? s.name (overlay ls.environment ls.given) := by
    rw [overlayMerge, overlayMerge, Table.getMergeFold, Table.getMergeFold, same]
  unfold Layers.merged
  rw [getOverlay (distinct' _), getOverlay (distinct' _), getOverlay (distinct _),
    getOverlay (distinct _), upper]

theorem loadGiven (same : ∀ s : Section,
    (given'.filter fun e => e.1 = s.name) = given.filter fun e => e.1 = s.name) :
    load given' around = load given around := by
  rw [load, load, layersGiven given given']
  cases made : layers given around with
  | error e => rfl
  | ok ls =>
    dsimp only [bind, Except.bind, Except.map]
    rw [ofMergedSections (mergedGiven made same)]

theorem sectionsOfSame {u : Entries} (same : ∀ s : Section,
    (t.filter fun e => Text.lower e.1 = s.name) = u.filter fun e => Text.lower e.1 = s.name) :
    sectionsOf t = sectionsOf u := by
  have named (s : Section) : Text.lower s.name = s.name := by cases s <;> rfl
  have exact' (s : Section) (t : Entries) : Table.get? s.name t =
      Table.get? s.name (t.filter fun e => Text.lower e.1 = s.name) :=
    (Table.getFilter fun e _ here => by rw [here, named, decide_eq_true rfl]).symm
  unfold sectionsOf
  refine List.filterMap_congr fun s _ => ?_
  rw [exact' s t, exact' s u, ← List.head?_filter, ← List.head?_filter, same]

theorem loadTables {around' : Surroundings} {t' : Entries}
    (environment : around'.environment = around.environment)
    (dotenv : around'.dotenv = around.dotenv) (tables : around.tables = .ok t)
    (tables' : around'.tables = .ok t') (same : ∀ s : Section,
      (t'.filter fun e => Text.lower e.1 = s.name) = t.filter fun e => Text.lower e.1 = s.name) :
    load given around' = load given around := by
  have bindings : around'.bindings = around.bindings := by
    rw [Surroundings.bindings, Surroundings.bindings, environment, dotenv]
  rw [load, load, layersParts, layersParts, bindings, tables, tables', environment]
  cases around.bindings with
  | error e => rfl
  | ok bs =>
    dsimp only [bind, Except.bind]
    rw [sectionsOfSame same]

end ContainerDriver.Settings
