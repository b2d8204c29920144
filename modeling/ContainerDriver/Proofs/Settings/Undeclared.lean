import ContainerDriver.Proofs.Settings.Presence
import ContainerDriver.Proofs.Settings.Reading

/-! Keys that are not declared. Whichever source puts one into a table of the settings, it comes
through to the merged layers, where it is reported. -/
namespace ContainerDriver.Settings

open Table (Distinct)

inductive Place where
  | engine
  | driver
  | logging
  | plugin (name : String)
  deriving DecidableEq, Repr

namespace Place

def home : Place → Section
  | engine => .engine
  | driver => .driver
  | logging => .logging
  | plugin _ => .plugins

def inner : Place → List String
  | plugin name => [name]
  | _ => []

def path (place : Place) (key : String) : List String := place.home.name :: (place.inner ++ [key])

/-- One of the variables gives the key. None of them says of the whole section that it is null, and
none for the whole of a plugin comes behind. -/
structure Spoken (place : Place) (key : String) (bs : List (String × Option String)) : Prop where
  named : ∃ b ∈ bs, place.home.path? (Text.lower b.1) = some (place.inner ++ [key])
  filled : ∀ text,
    Table.get? place.home.variableName (Variables.ofBindings bs) = some (some text) →
    Json.read? text ≠ some .null
  last : ∀ name, place = plugin name → (Variables.ofBindings bs).Pairwise fun b c =>
    Section.plugins.path? b.1 = some [name, key] → Section.plugins.path? c.1 ≠ some [name]

variable {place : Place} {key : String}

theorem pathHas {v : Value} {t : Entries} (has : Table.get? place.home.name t = some v)
    (inside : Has (place.inner ++ [key]) v) : Has (place.path key) (.table t) :=
  ⟨_, Table.getMem has, rfl, inside⟩

theorem canonicalHas {t : Entries}
    (small : ∀ first, (place.inner ++ [key]).head? = some first →
      ∀ c ∈ first.toList, Text.Casing.Small c)
    (has : Has (place.inner ++ [key]) (.table t)) :
    Has (place.inner ++ [key]) (.table (place.home.canonicalEntries t)) := by
  have fixed (s : Section) (small : ∀ c ∈ key.toList, Text.Casing.Small c)
      (has : Has [key] (.table t)) :
      Has [key] (.table (Table.ofEntries (t.map fun e => (s.canonical e.1, e.2)))) := by
    obtain ⟨e, mem, rfl, -⟩ := has
    refine Table.holdsOfEntries ?_
    rw [List.map_map]
    exact List.mem_map.mpr ⟨e, mem, s.canonicalSmall small⟩
  cases place with
  | plugin name => exact has
  | engine => exact fixed .engine (small key rfl) has
  | driver => exact fixed .driver (small key rfl) has
  | logging => exact fixed .logging (small key rfl) has

theorem canonicalTabled {t : Entries}
    (tabled : Tabled (place.inner ++ [key]) (.table (place.home.canonicalEntries t))) :
    Tabled (place.inner ++ [key]) (.table t) := by
  cases place with
  | plugin name => exact tabled
  | _ => exact fun _ _ _ => trivial

theorem innerSplit (place : Place) (key : String) : ∃ k path, place.inner ++ [key] = k :: path ∧
    path.length ≤ 1 := by
  cases place with
  | plugin name => exact ⟨name, [key], rfl, le_rfl⟩
  | _ => exact ⟨key, [], rfl, Nat.zero_le 1⟩

theorem offInner {name : String} (aside : ∀ p, place = plugin p →
    Section.plugins.path? name ≠ some [p]) : place.home.Off (place.inner ++ [key]) name := by
  -- Only a variable for the whole of a plugin can take a key away again.
  intro other named into
  have nonempty := (Section.pathSpelled named).1
  rcases List.prefix_concat_iff.mp into with whole | before
  · exact whole
  · cases place with
    | plugin p =>
      obtain none | ⟨more, rfl, rest⟩ := List.prefix_cons_iff.mp before
      · exact absurd none nonempty
      · exact absurd (List.prefix_nil.mp rest ▸ named) (aside p rfl)
    | _ => exact absurd (List.prefix_nil.mp before) nonempty

section

variable {vars : Variables} {t u : Entries} (lowered : Lowered vars)
  (named : ∃ b ∈ vars, place.home.path? b.1 = some (place.inner ++ [key]))
  (last : vars.Pairwise fun b c => place.home.path? b.1 = some (place.inner ++ [key]) →
    place.home.Off (place.inner ++ [key]) c.1)

include named last in
theorem nestedTaken (nested : place.home.nested vars = .ok u) :
    Taken (place.inner ++ [key]) (.table u) := by
  rw [nestedFolds] at nested
  exact Section.foldTaken named last nested

include lowered named last

theorem nestedHas {lower : Entries} (nested : place.home.nested vars = .ok u)
    (tabled : Tabled (place.inner ++ [key])
      (.table (place.home.canonicalEntries (overlay lower u)))) :
    Has (place.inner ++ [key]) (.table (place.home.canonicalEntries (overlay lower u))) := by
  have taken := nestedTaken named last nested
  have tabled := canonicalTabled tabled
  have distinct := (Section.nestedFormed lowered.small nested).1
  obtain ⟨b, mem, path⟩ := named
  refine canonicalHas (fun first head => ?_) ?_
  · exact Section.pathSmall path (lowered.small b.1 (List.mem_map_of_mem mem)) head
  · obtain ⟨k, path, split, short⟩ := place.innerSplit key
    rw [split] at taken tabled ⊢
    exact overlayTaken distinct short taken lower tabled

theorem layerHas (made : vars.layer = .ok t)
    (filled : ∀ text, Table.get? place.home.variableName vars = some (some text) →
      Json.read? text ≠ some .null)
    (tabled : Tabled (place.path key) (.table t)) : Has (place.path key) (.table t) := by
  obtain ⟨f, reads, rfl⟩ := layerSource.mp made
  have found := getGather f place.home
  have said := Section.ofVariablesSays (reads place.home)
  have clear : ∀ v, f place.home = some v → Tabled (place.inner ++ [key]) v := fun v has =>
    tabled _ (Table.getMem (found.trans has)) rfl
  generalize f place.home = said at said found clear
  obtain ⟨k, path, split, -⟩ := place.innerSplit key
  cases said with
  | null whole json => exact absurd json (filled _ whole)
  | table whole json nested =>
    exact pathHas found (nestedHas lowered named last nested (clear _ rfl))
  | other whole json bare =>
    have tabled := clear _ rfl
    rw [split] at tabled
    obtain ⟨u, same, -⟩ := tabledTable tabled
    exact absurd same (bare u)
  | @parts u nested =>
    have some' : u.isEmpty = false := by
      have taken := nestedTaken named last nested
      rw [split] at taken
      obtain ⟨e, mem, -⟩ := taken
      exact List.isEmpty_eq_false_iff_exists_mem.mpr ⟨e, mem⟩
    have alone : overlay [] u = u := overlayNone (Section.nestedFormed lowered.small nested).1
    rw [some', ← alone] at found clear
    exact pathHas found (nestedHas lowered named last nested (clear _ rfl))

end

theorem spokenHas {bs : List (String × Option String)} {t : Entries} (spoken : place.Spoken key bs)
    (made : (Variables.ofBindings bs).layer = .ok t)
    (tabled : Tabled (place.path key) (.table t)) : Has (place.path key) (.table t) := by
  refine layerHas (ofBindingsLowered bs) ?_ ?_ made spoken.filled tabled
  · obtain ⟨b, mem, named⟩ := spoken.named
    have entered : Text.lower b.1 ∈ (bs.map fun b => (Text.lower b.1, b.2)).map Prod.fst :=
      List.mem_map_of_mem (List.mem_map_of_mem mem)
    obtain ⟨c, mem, same, -⟩ := Table.holdsOfEntries entered
    exact ⟨c, mem, same ▸ named⟩
  · by_cases plugin : ∃ name, place = .plugin name
    · obtain ⟨name, rfl⟩ := plugin
      exact (spoken.last name rfl).imp fun later named => offInner fun p same =>
        (Place.plugin.inj same) ▸ later named
    · exact List.pairwise_of_forall fun _ _ _ => offInner fun p same => (plugin ⟨p, same⟩).elim

end Place

/-- A source puts a key into a table. -/
inductive Puts (given : Entries) (around : Surroundings) (place : Place) (key : String) : Prop where
  | given (has : Has (place.path key) (.table given))
  | environment (spoken : place.Spoken key (around.environment.map fun b => (b.1, some b.2)))
  | dotenv {bs : List (String × Option String)} (read : around.bindings = .ok bs)
      (spoken : place.Spoken key bs)
  | file {t : Entries} (read : around.tables = .ok t)
      (has : Has (place.path key) (.table (sectionsOf t)))

structure Layers.Tabled (ls : Layers) (path : List String) : Prop where
  given : Settings.Tabled path (.table ls.given)
  environment : Settings.Tabled path (.table ls.environment)
  dotenv : Settings.Tabled path (.table ls.dotenv)
  file : Settings.Tabled path (.table ls.file)

section

variable {given : Entries} {around : Surroundings} {ls : Layers} {place : Place} {key : String}

theorem mergedOverlaid (ls : Layers) : Value.table ls.merged =
    overlaid (some (.table ls.file)) (overlaid (some (.table ls.dotenv))
      (overlaid (some (.table ls.environment)) (.table ls.given))) := by
  simp only [overlaid, Layers.merged]

theorem putsMerged (made : layers given around = .ok ls) (tabled : ls.Tabled (place.path key))
    (puts : Puts given around place key) : Has (place.path key) (.table ls.merged) := by
  obtain ⟨bs, t, bindings, tables, environment, dotenv, rfl, file⟩ := layersSource.mp made
  have upper := overlaidTabled tabled.environment tabled.given
  have uppers := overlaidTabled tabled.dotenv upper
  rw [mergedOverlaid]
  cases puts with
  | given has => exact overlaidHas uppers (overlaidHas upper (overlaidHas tabled.given has _) _) _
  | environment spoken =>
    have has := Place.spokenHas spoken environment tabled.environment
    exact overlaidHas uppers (overlaidHas upper (overlaidKeeps tabled.given has) _) _
  | dotenv read spoken =>
    cases bindings.symm.trans read
    have has := Place.spokenHas spoken dotenv tabled.dotenv
    exact overlaidHas uppers (overlaidKeeps upper has) _
  | file read has =>
    cases tables.symm.trans read
    rw [← file] at has
    exact overlaidKeeps uppers has

theorem undeclaredReports {t : Entries} (distinct : Distinct t)
    (has : Has (place.path key) (.table t)) (undeclared : place.home.declares key = false) :
    (ofMerged t).Reports (place.path key, .undeclared) := by
  obtain ⟨e, mem, same, has⟩ := has
  have found := Table.memGet distinct mem
  rw [same] at found
  unfold ofMerged
  simp only [Checked.reportsMap, Checked.reportsAnd]
  -- The table itself is checked first, whatever its place.
  have strictly {t : Entries} (has : Has [key] (.table t)) (site : List String) :
      (strict place.home site t).Reports (site ++ [key], .undeclared) := by
    obtain ⟨e, mem, same, -⟩ := has
    exact strictReports (List.mem_map.mpr ⟨e, mem, same⟩) undeclared
  cases place with
  | engine =>
    obtain ⟨u, table, holds⟩ := hasTable has
    refine .inl (entryReports found ?_)
    simp only [table, tableOf, engineOf, Checked.reportsMap, Checked.reportsAnd]
    exact .inl (strictly holds ["engine"])
  | driver =>
    obtain ⟨u, table, holds⟩ := hasTable has
    refine .inr (.inl (entryReports found ?_))
    simp only [table, tableOf, driverOf, Checked.reportsMap, Checked.reportsAnd]
    exact .inl (strictly holds ["driver"])
  | logging =>
    obtain ⟨u, table, holds⟩ := hasTable has
    refine .inr (.inr (.inl (entryReports found ?_)))
    simp only [table, tableOf, logLevelOf, Checked.reportsMap, Checked.reportsAnd]
    exact .inl (strictly holds ["logging"])
  | plugin name =>
    obtain ⟨u, table, ⟨name, v⟩, mem, rfl, inside⟩ := hasTable has
    obtain ⟨w, rfl, holds⟩ := hasTable (v := v) inside
    refine .inr (.inr (.inr (entryReports found ?_)))
    rw [table, pluginsOf, Checked.reportsAll]
    refine ⟨_, List.mem_map_of_mem mem, ?_⟩
    simp only [tableOf, pluginOf, Checked.reportsMap, Checked.reportsAnd]
    exact .inl (strictly holds ["plugins", name])

theorem loadReported (made : layers given around = .ok ls) {found : List String × Issue}
    (reports : (ofMerged ls.merged).Reports found) :
    ∃ is, load given around = .error (.invalid is) ∧ found ∈ is := by
  obtain ⟨is, checked, mem⟩ := Checked.reportsIssues reports
  refine ⟨is, ?_, mem⟩
  rw [load, made]
  dsimp only [bind, Except.bind]
  rw [checked]

end

/-! Names of variables, spelled out. -/

theorem splitPathCons {part : List Char} (single : Single part) (closed : part.getLast? ≠ some '_')
    (rest : List Char) : splitPath (part ++ '_' :: '_' :: rest) = part :: splitPath rest := by
  induction part with
  | nil => rfl
  | cons c part ih =>
    -- An underscore at the end of the part would make a separator with what follows.
    have apart : ∀ more, c = '_' → part ++ '_' :: '_' :: rest = '_' :: more → False := by
      intro more here next
      cases part with
      | nil => exact closed (congrArg some here)
      | cons d part => exact (List.isChain_cons_cons.mp single).1 here (List.cons.inj next).1
    have later : splitPath (part ++ '_' :: '_' :: rest) = part :: splitPath rest := by
      cases part with
      | nil => rfl
      | cons d part => exact ih single.tail (by rwa [List.getLast?_cons_cons] at closed)
    rw [List.cons_append, splitPath, later]
    exact apart

theorem Named.lowerClosed {k : String} (named : Named k) (closed : k.toList.getLast? ≠ some '_') :
    (Text.lower k).toList.getLast? ≠ some '_' := by
  rw [Named.lowerAscii named.ascii, List.getLast?_map]
  intro last
  obtain ⟨c, same, lower⟩ := Option.map_eq_some_iff.mp last
  rw [Named.underscore (named.ascii c (List.mem_of_getLast? same)) lower] at same
  exact closed same

namespace Place

def variableStart : Place → String
  | engine => "DOCKINS_ENGINE__"
  | driver => "DOCKINS_DRIVER__"
  | logging => "DOCKINS_LOGGING__"
  | plugin name => "DOCKINS_PLUGINS__" ++ name ++ "__"

theorem lowerStart {start small k : String} (ascii : ∀ c ∈ start.toList, c.toNat < 0x80)
    (lower : start.toList.map Char.toLower = small.toList) (named : Named k) :
    (Text.lower (start ++ k)).toList = small.toList ++ (Text.lower k).toList := by
  rw [Named.lowerAscii, String.toList_append, List.map_append, lower, Named.lowerAscii named.ascii]
  rw [String.toList_append]
  exact List.forall_mem_append.mpr ⟨ascii, named.ascii⟩

theorem sectionPath (s : Section) (start : String) {k : String}
    (ascii : ∀ c ∈ start.toList, c.toNat < 0x80)
    (lower : start.toList.map Char.toLower = (s.variableName ++ "__").toList) (named : Named k) :
    s.path? (Text.lower (start ++ k)) = some [Text.lower k] := by
  rw [Section.path?, afterSome.mpr (lowerStart ascii lower named), Option.map_some,
    splitPathSingle named.lower.single, List.map_singleton, String.ofList_toList]

theorem pluginPath {p k : String} (plain : Named p) (closed : p.toList.getLast? ≠ some '_')
    (named : Named k) : Section.plugins.path? (Text.lower ("DOCKINS_PLUGINS__" ++ p ++ "__" ++ k)) =
      some [Text.lower p, Text.lower k] := by
  have start : "DOCKINS_PLUGINS__".toList.map Char.toLower = "dockins_plugins__".toList := rfl
  have ascii : ∀ c ∈ ("DOCKINS_PLUGINS__" ++ p ++ "__").toList, c.toNat < 0x80 := by
    simp only [String.toList_append, List.forall_mem_append]
    exact ⟨⟨by simp, plain.ascii⟩, by simp⟩
  have lower : ("DOCKINS_PLUGINS__" ++ p ++ "__").toList.map Char.toLower =
      ("dockins_plugins__" ++ Text.lower p ++ "__").toList := by
    simp only [String.toList_append, List.map_append, Named.lowerAscii plain.ascii, start]
    rfl
  have spelled : (Text.lower ("DOCKINS_PLUGINS__" ++ p ++ "__" ++ k)).toList =
      (Section.plugins.variableName ++ "__").toList ++
        ((Text.lower p).toList ++ '_' :: '_' :: (Text.lower k).toList) := by
    rw [lowerStart ascii lower named]
    simp only [String.toList_append, List.append_assoc]
    rfl
  rw [Section.path?, afterSome.mpr spelled, Option.map_some,
    splitPathCons plain.lower.single (plain.lowerClosed closed), splitPathSingle named.lower.single,
    List.map_cons, List.map_singleton, String.ofList_toList, String.ofList_toList]

theorem variablePath {place : Place} {k : String} (named : Named k)
    (inner : ∀ p ∈ place.inner, Named p ∧ p.toList.getLast? ≠ some '_') :
    place.home.path? (Text.lower (place.variableStart ++ k)) =
      some ((place.inner ++ [k]).map Text.lower) := by
  cases place with
  | engine => exact sectionPath .engine "DOCKINS_ENGINE__" (by simp) rfl named
  | driver => exact sectionPath .driver "DOCKINS_DRIVER__" (by simp) rfl named
  | logging => exact sectionPath .logging "DOCKINS_LOGGING__" (by simp) rfl named
  | plugin p =>
    obtain ⟨plain, closed⟩ := inner p List.mem_cons_self
    exact pluginPath plain closed named

end Place
end ContainerDriver.Settings
