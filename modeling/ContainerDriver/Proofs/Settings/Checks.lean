import ContainerDriver.Proofs.Except
import ContainerDriver.Settings.Load

/-! What is known of settings that passed every check. A field of theirs is what its own check made
of the value below its key. -/
namespace ContainerDriver.Settings

namespace Checked

variable {α β : Type}

theorem andOk {a : Checked α} {b : Checked β} {x : α} {y : β} :
    a.and b = .ok (x, y) ↔ a = .ok x ∧ b = .ok y := by
  cases a <;> cases b <;> simp [and]

theorem mapOk {c : Checked α} {f : α → β} {b : β} :
    c.map f = .ok b ↔ ∃ a, c = .ok a ∧ f a = b := by
  cases c <;> simp [map]

def Reports (found : List String × Issue) : Checked α → Prop
  | .ok _ => False
  | .issues is => found ∈ is

variable {found : List String × Issue}

@[simp] theorem reportsOne {place : List String} {i : Issue} :
    (one place i : Checked α).Reports found ↔ found = (place, i) :=
  List.mem_singleton

@[simp] theorem reportsMap {c : Checked α} {f : α → β} :
    (c.map f).Reports found ↔ c.Reports found := by
  cases c <;> rfl

@[simp] theorem reportsAnd {a : Checked α} {b : Checked β} :
    (a.and b).Reports found ↔ a.Reports found ∨ b.Reports found := by
  cases a <;> cases b <;> simp [and, Reports]

@[simp] theorem reportsAll {cs : List (Checked α)} :
    (all cs).Reports found ↔ ∃ c ∈ cs, c.Reports found := by
  induction cs with
  | nil => simp [all, Reports]
  | cons c rest ih => simp [all, ih]

theorem reportsIssues {c : Checked α} (reports : c.Reports found) :
    ∃ is, c = .issues is ∧ found ∈ is := by
  cases c with
  | ok a => exact reports.elim
  | issues is => exact ⟨is, rfl, reports⟩

end Checked

variable {place : List String} {t : Entries}

theorem strictReports {s : Section} {key : String} (has : key ∈ t.map Prod.fst)
    (undeclared : s.declares key = false) :
    (strict s place t).Reports (place ++ [key], .undeclared) := by
  obtain ⟨e, mem, rfl⟩ := List.mem_map.mp has
  rw [strict, Checked.reportsMap, Checked.reportsAll]
  exact ⟨_, List.mem_map_of_mem (List.mem_filter.mpr ⟨mem, by rw [undeclared]; rfl⟩),
    Checked.reportsOne.mpr rfl⟩

theorem entryReports {α : Type} {key : String} {default : α} {found : List String × Issue}
    {check : List String → Value → Checked α} {v : Value} (has : Table.get? key t = some v)
    (reports : (check (place ++ [key]) v).Reports found) :
    (entry place t key default check).Reports found := by
  rwa [entry, has]

theorem engineParts {e : EngineSettings} : engineOf place t = .ok e ↔
    strict .engine place t = .ok () ∧ entry place t "uri" none uri = .ok e.uri ∧
    entry place t "env" [] texts = .ok e.env ∧
    entry place t "binary" "docker" binary = .ok e.binary ∧
    entry place t "verbose" false flag = .ok e.verbose ∧
    entry place t "tls_verify" false flag = .ok e.tlsVerify ∧
    entry place t "cert_path" none optionalText = .ok e.certPath := by
  unfold engineOf
  rw [Checked.mapOk]
  constructor
  · rintro ⟨⟨⟨⟩, uri, env, binary, verbose, tlsVerify, certPath⟩, parts, rfl⟩
    simpa only [Checked.andOk] using parts
  · intro parts
    refine ⟨((), e.uri, e.env, e.binary, e.verbose, e.tlsVerify, e.certPath), ?_, rfl⟩
    simpa only [Checked.andOk] using parts

theorem driverParts {name : String} : driverOf place t = .ok name ↔
    strict .driver place t = .ok () ∧ entry place t "name" "cli" text = .ok name := by
  unfold driverOf
  rw [Checked.mapOk]
  constructor
  · rintro ⟨⟨⟨⟩, name⟩, parts, rfl⟩
    exact Checked.andOk.mp parts
  · exact fun parts => ⟨((), name), Checked.andOk.mpr parts, rfl⟩

theorem logLevelParts {level : String} : logLevelOf place t = .ok level ↔
    strict .logging place t = .ok () ∧ entry place t "level" "INFO"
      (fun place v => (text place v).map Text.upper) = .ok level := by
  unfold logLevelOf
  rw [Checked.mapOk]
  constructor
  · rintro ⟨⟨⟨⟩, name⟩, parts, rfl⟩
    exact Checked.andOk.mp parts
  · exact fun parts => ⟨((), level), Checked.andOk.mpr parts, rfl⟩

theorem ofMergedParts {s : Settings} : ofMerged t = .ok s ↔
    entry [] t "engine" {} (tableOf engineOf) = .ok s.engine ∧
    entry [] t "driver" "cli" (tableOf driverOf) = .ok s.driver ∧
    entry [] t "logging" "INFO" (tableOf logLevelOf) = .ok s.logLevel ∧
    entry [] t "plugins" [] pluginsOf = .ok s.plugins := by
  unfold ofMerged
  rw [Checked.mapOk]
  constructor
  · rintro ⟨⟨engine, driver, logLevel, plugins⟩, parts, rfl⟩
    simpa only [Checked.andOk] using parts
  · intro parts
    refine ⟨(s.engine, s.driver, s.logLevel, s.plugins), ?_, rfl⟩
    simpa only [Checked.andOk] using parts

theorem entryOk {α : Type} {key : String} {default a : α}
    {check : List String → Value → Checked α} :
    entry place t key default check = .ok a ↔
      (Table.get? key t = none ∧ default = a) ∨
      ∃ v, Table.get? key t = some v ∧ check (place ++ [key]) v = .ok a := by
  unfold entry
  cases Table.get? key t <;> simp

theorem tableOk {α : Type} {check : List String → Entries → Checked α} {v : Value} {a : α} :
    tableOf check place v = .ok a ↔ ∃ t, v = .table t ∧ check place t = .ok a := by
  cases v <;> simp [tableOf, Checked.one]

theorem loadSource {given : Entries} {around : Surroundings} {s : Settings} :
    load given around = .ok s ↔
      ∃ l, layers given around = .ok l ∧ ofMerged l.merged = .ok s := by
  unfold load
  rw [Except.bindOk]
  refine exists_congr fun l => and_congr_right fun _ => ?_
  cases ofMerged l.merged with
  | ok s' => simp [pure, Except.pure]
  | issues is => simp

theorem uriFilled {v : Value} {u : Text} (checked : uri place v = .ok (some u)) :
    ∃ s : String, u = s ∧ Text.blank s = false := by
  obtain ⟨a, -, kept⟩ := Checked.mapOk.mp checked
  obtain ⟨read, filled⟩ := Option.filter_eq_some_iff.mp kept
  obtain ⟨s, -, rfl⟩ := Option.map_eq_some_iff.mp read
  exact ⟨s, rfl, by simpa using filled⟩

theorem engineChecked {s : Settings} (merged : ofMerged t = .ok s) :
    ∃ u, engineOf ["engine"] u = .ok s.engine := by
  obtain ⟨-, engine⟩ | ⟨v, -, engine⟩ := entryOk.mp (ofMergedParts.mp merged).1
  · exact ⟨[], engine ▸ rfl⟩
  · obtain ⟨u, rfl, parts⟩ := tableOk.mp engine
    exact ⟨u, parts⟩

theorem loadUriFilled {given : Entries} {around : Surroundings} {s : Settings} {u : Text}
    (loaded : load given around = .ok s) (has : s.engine.uri = some u) :
    ∃ a : String, u = a ∧ Text.blank a = false := by
  obtain ⟨l, -, merged⟩ := loadSource.mp loaded
  obtain ⟨t, engine⟩ := engineChecked merged
  obtain ⟨-, address, -⟩ := engineParts.mp engine
  rw [has] at address
  obtain ⟨-, none⟩ | ⟨v, -, checked⟩ := entryOk.mp address
  · cases none
  · exact uriFilled checked

end ContainerDriver.Settings
