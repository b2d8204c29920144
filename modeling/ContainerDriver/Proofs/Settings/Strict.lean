import ContainerDriver.Proofs.Settings.Undeclared
import ContainerDriver.Proofs.Text.Trim

/-! Loaded settings are normalised and hold declared keys only. -/
namespace ContainerDriver.Settings

section

variable {t : Entries} {s : Settings}

theorem binaryTrimmed {site : List String} {v : Value} {b : String}
    (checked : binary site v = .ok b) : b ≠ "" ∧ Text.Trimmed b.toList := by
  unfold binary at checked
  cases read : text site v with
  | issues is =>
    rw [read] at checked
    cases checked
  | ok s =>
    rw [read] at checked
    dsimp only [Checked.andThen] at checked
    split at checked
    · cases checked
    · next filled =>
      cases checked
      refine ⟨filled, ?_⟩
      rw [Text.trimmed, String.toList_ofList]
      exact Text.trimTrimmed _

theorem loadedBinary (merged : ofMerged t = .ok s) :
    s.engine.binary ≠ "" ∧ Text.Trimmed s.engine.binary.toList := by
  obtain ⟨u, engine⟩ := engineChecked merged
  obtain ⟨-, -, -, given, -⟩ := engineParts.mp engine
  have docker : binary [] (.text "docker") = .ok "docker" := rfl
  obtain ⟨-, default⟩ | ⟨v, -, checked⟩ := entryOk.mp given
  · exact default ▸ binaryTrimmed docker
  · exact binaryTrimmed checked

theorem textGiven {site : List String} {v : Value} {a : String} (checked : text site v = .ok a) :
    v = .text a := by
  unfold text at checked
  split at checked
  · cases checked
    rfl
  · cases checked
  · cases checked

theorem loadedLevel (merged : ofMerged t = .ok s) :
    match atPath ["logging", "level"] (.table t) with
    | some v => ∃ level, v = .text level ∧ s.logLevel = Text.upper level
    | none => s.logLevel = "INFO" := by
  rw [atPathCons, atKey]
  obtain ⟨absent, logging⟩ | ⟨v, found, logging⟩ :=
    entryOk.mp (ofMergedParts.mp merged).2.2.1
  · rw [absent]
    exact logging.symm
  · obtain ⟨u, rfl, parts⟩ := tableOk.mp logging
    rw [found, Option.bind_some, atKey]
    obtain ⟨absent, default⟩ | ⟨w, found, checked⟩ := entryOk.mp (logLevelParts.mp parts).2
    · rw [absent]
      exact default.symm
    · rw [found]
      obtain ⟨level, given, upper⟩ := Checked.mapOk.mp checked
      exact ⟨level, textGiven given, upper.symm⟩

end

/-- Settings that load are normalised and come from declared keys only. A key that is not declared,
put in a table by any source, makes loading fail with an issue at that key, whatever the others
say. A variable puts it under its name in lower case. What is given beside the sections, or stands
beside them in the configuration file, counts for nothing. -/
theorem settingsStrict (given : Entries) (around : Surroundings) :
    (∀ s, load given around = .ok s →
      (s.engine.binary ≠ "" ∧ Text.Trimmed s.engine.binary.toList) ∧
      (∀ u, s.engine.uri = some u →
        ∃ a : String, u = a ∧ ∃ c ∈ a.toList, Text.isBlank c = false) ∧
      ∃ ls, layers given around = .ok ls ∧
        (match atPath ["logging", "level"] (.table ls.merged) with
          | some v => ∃ level, v = .text level ∧ s.logLevel = Text.upper level
          | none => s.logLevel = "INFO") ∧
        ∀ place key, Has (Place.path place key) (.table ls.merged) →
          place.home.declares key = true) ∧
    (∀ place key ls, layers given around = .ok ls → ls.Tabled (Place.path place key) →
      Puts given around place key → place.home.declares key = false →
      ∃ is, load given around = .error (.invalid is) ∧ (place.path key, .undeclared) ∈ is) ∧
    (∀ place k, Named k → (∀ p ∈ Place.inner place, Named p ∧ p.toList.getLast? ≠ some '_') →
      place.home.path? (Text.lower (place.variableStart ++ k)) =
        some ((place.inner ++ [k]).map Text.lower)) ∧
    (∀ given', (∀ s : Section,
        (given'.filter fun e => e.1 = s.name) = given.filter fun e => e.1 = s.name) →
      load given' around = load given around) ∧
    ∀ around' t t', around'.environment = around.environment → around'.dotenv = around.dotenv →
      around.tables = .ok t → around'.tables = .ok t' → (∀ s : Section,
        (t'.filter fun e => Text.lower e.1 = s.name) = t.filter fun e => Text.lower e.1 = s.name) →
      load given around' = load given around := by
  refine ⟨fun s loaded => ?_, fun place key ls made tabled puts undeclared => ?_,
    fun place k named inner => place.variablePath named inner, fun given' same => loadGiven same,
    fun around' t t' environment dotenv tables tables' same =>
      loadTables environment dotenv tables tables' same⟩
  · obtain ⟨ls, made, merged⟩ := loadSource.mp loaded
    refine ⟨loadedBinary merged, fun u has => ?_, ls, made, loadedLevel merged,
      fun place key has => ?_⟩
    · obtain ⟨a, rfl, filled⟩ := loadUriFilled loaded has
      obtain ⟨l, mem, plain⟩ := List.all_eq_false.mp filled
      obtain ⟨c, inside, rfl⟩ := List.mem_map.mp mem
      exact ⟨a, rfl, c, inside, Bool.eq_false_iff.mpr plain⟩
    · by_contra undeclared
      have reports := undeclaredReports (mergedDistinct made) has (Bool.eq_false_iff.mpr undeclared)
      rw [merged] at reports
      exact reports
  · exact loadReported made
      (undeclaredReports (mergedDistinct made) (putsMerged made tabled puts) undeclared)

def wholePlugin : String × String := ("DOCKINS_PLUGINS__A", "\x7b\x7d")

def misspelledKey : String × String := ("DOCKINS_PLUGINS__a__Enable", "1")

def pluginLayers (entries : Entries) : Layers :=
  { environment := [("plugins", .table [("a", .table entries)])] }

theorem pluginTabled (entries : Entries) :
    (pluginLayers entries).Tabled ["plugins", "a", "enable"] := by
  refine ⟨by simp [pluginLayers, Tabled, Table.Bound], ?_,
    by simp [pluginLayers, Tabled, Table.Bound], by simp [pluginLayers, Tabled, Table.Bound]⟩
  intro plugins mem _
  cases List.mem_singleton.mp mem
  intro plugin mem _
  cases List.mem_singleton.mp mem
  exact fun _ _ _ => trivial

theorem pluginLayered {e : List (String × String)} {vars : Variables} {entries : Entries}
    (entered : Variables.ofEnvironment e = vars)
    (layer : vars.layer = .ok [("plugins", .table [("a", .table entries)])]) :
    layers [] { environment := e } = .ok (pluginLayers entries) :=
  layersSource.mpr ⟨[], [], rfl, rfl, entered ▸ layer, rfl, rfl, rfl⟩

theorem settingsStrictMisspelled :
    (∃ s, load [("engine", .table [("binary", .text " podman ")]), ("ENGINE", .null)] {} = .ok s ∧
      s.engine.binary ≠ "" ∧ Text.Trimmed s.engine.binary.toList) ∧
    ∃ is, load [] { environment := [wholePlugin, misspelledKey] } = .error (.invalid is) ∧
      (["plugins", "a", "enable"], .undeclared) ∈ is := by
  constructor
  · obtain ⟨binary, -⟩ := (settingsStrict [("engine", .table [("binary", .text " podman ")]),
      ("ENGINE", .null)] {}).1 { engine := { binary := "podman" } } rfl
    exact ⟨_, rfl, binary⟩
  · have entered : Variables.ofEnvironment [wholePlugin, misspelledKey] =
        [("dockins_plugins__a", some "\x7b\x7d"), ("dockins_plugins__a__enable", some "1")] := rfl
    have spoken : (Place.plugin "a").Spoken "enable"
        ([wholePlugin, misspelledKey].map fun b => (b.1, some b.2)) := by
      refine ⟨⟨_, List.mem_cons_of_mem _ List.mem_cons_self, rfl⟩, ?_, ?_⟩
      · intro text has
        cases (congrArg (Table.get? "dockins_plugins") entered).symm.trans has
      · rintro name ⟨⟩
        exact (congrArg (List.Pairwise _) entered).mpr (by decide)
    have made : layers [] { environment := [wholePlugin, misspelledKey] } =
      .ok (pluginLayers [("enable", .int 1)]) := pluginLayered entered rfl
    exact (settingsStrict [] { environment := [wholePlugin, misspelledKey] }).2.1 (.plugin "a")
      "enable" _ made (pluginTabled _) (.environment spoken) rfl

theorem overtakenLoads :
    (∃ b ∈ [misspelledKey, wholePlugin],
      Section.plugins.path? (Text.lower b.1) = some ["a", "enable"]) ∧
    Section.plugins.declares "enable" = false ∧
    (∃ ls, layers [] { environment := [misspelledKey, wholePlugin] } = .ok ls ∧
      ls.Tabled ["plugins", "a", "enable"]) ∧
    load [] { environment := [misspelledKey, wholePlugin] } = .ok { plugins := [("a", true)] } := by
  have entered : Variables.ofEnvironment [misspelledKey, wholePlugin] =
    [("dockins_plugins__a__enable", some "1"), ("dockins_plugins__a", some "\x7b\x7d")] := rfl
  have made : layers [] { environment := [misspelledKey, wholePlugin] } = .ok (pluginLayers []) :=
    pluginLayered entered rfl
  exact ⟨⟨misspelledKey, List.mem_cons_self, rfl⟩, rfl, ⟨_, made, pluginTabled []⟩,
    loadSource.mpr ⟨_, made, rfl⟩⟩

end ContainerDriver.Settings
