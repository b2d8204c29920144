import ContainerDriver.Proofs.Settings.Checks
import ContainerDriver.Proofs.Settings.Overlay

/-! Settings of one value each. Such a setting has a key in a section and a check of its own, which
sees nothing but the value below the key; the checks of all else see nothing of it. -/
namespace ContainerDriver.Settings

open Table (without)

inductive Scalar where
  | uri
  | binary
  | verbose
  | tlsVerify
  | certPath
  | driverName
  | logLevel
  deriving DecidableEq, Repr

namespace Scalar

def home : Scalar → Section
  | driverName => .driver
  | logLevel => .logging
  | _ => .engine

def key : Scalar → String
  | uri => "uri"
  | binary => "binary"
  | verbose => "verbose"
  | tlsVerify => "tls_verify"
  | certPath => "cert_path"
  | driverName => "name"
  | logLevel => "level"

def Carrier : Scalar → Type
  | uri => Option Text
  | certPath => Option String
  | verbose | tlsVerify => Bool
  | binary | driverName | logLevel => String

def default : (l : Scalar) → l.Carrier
  | uri => none
  | binary => "docker"
  | verbose => false
  | tlsVerify => false
  | certPath => none
  | driverName => "cli"
  | logLevel => "INFO"

def check : (l : Scalar) → List String → Value → Checked l.Carrier
  | uri => Settings.uri
  | binary => Settings.binary
  | verbose => flag
  | tlsVerify => flag
  | certPath => optionalText
  | driverName => text
  | logLevel => fun place v => (text place v).map Text.upper

def of (s : Settings) : (l : Scalar) → l.Carrier
  | uri => s.engine.uri
  | binary => s.engine.binary
  | verbose => s.engine.verbose
  | tlsVerify => s.engine.tlsVerify
  | certPath => s.engine.certPath
  | driverName => s.driver
  | logLevel => s.logLevel

def settle (l : Scalar) : Option Value → Checked l.Carrier
  | some v => l.check [l.home.name, l.key] v
  | none => .ok l.default

def said (l : Scalar) (t : Entries) : Option Value := Table.get? l.key (inside l.home t)

structure Beside (l : Scalar) (t u : Entries) : Prop where
  others : ∀ s, s ≠ l.home → Table.get? s.name t = Table.get? s.name u
  home : without l.key (inside l.home t) = without l.key (inside l.home u)

theorem checkOverlaid (l : Scalar) (place : List String) (lower : Option Value) (v : Value) :
    l.check place (overlaid lower v) = l.check place v := by
  cases v with
  | table upper =>
    have table : ∃ t, overlaid lower (.table upper) = .table t := by
      unfold overlaid
      split
      · exact ⟨_, rfl⟩
      · exact ⟨_, rfl⟩
    obtain ⟨t, same⟩ := table
    rw [same]
    cases l <;> rfl
  | _ => simp only [overlaid]

end Scalar

section

variable {s : Section} {t u : Entries}

theorem entrySame {α : Type} {key other : String} (same : without key t = without key u)
    (differs : key ≠ other) (place : List String) (default : α)
    (check : List String → Value → Checked α) :
    entry place t other default check = entry place u other default check := by
  have found := congrArg (Table.get? other) same
  rw [Table.getWithout differs, Table.getWithout differs] at found
  rw [entry, entry, found]

theorem strictSame {key : String} (same : without key t = without key u)
    (declared : s.declares key = true) (place : List String) :
    strict s place t = strict s place u := by
  have undeclared (t : Entries) : (t.filter fun e => !s.declares e.1) =
      (without key t).filter fun e => !s.declares e.1 := by
    rw [without, List.filter_filter]
    refine List.filter_congr fun e _ => ?_
    by_cases here : e.1 = key
    · simp [here, declared]
    · simp [here]
  rw [strict, strict, undeclared t, undeclared u, same]

theorem entrySettled (l : Scalar) (t : Entries) :
    entry [l.home.name] t l.key l.default l.check = l.settle (Table.get? l.key t) := by
  unfold entry
  cases Table.get? l.key t <;> rfl

theorem sectionRead {α : Type} {check : List String → Entries → Checked α} {default : α}
    (tabular : Tabular s t) (empty : check [s.name] [] = .ok default) :
    entry [] t s.name default (tableOf check) = check [s.name] (inside s t) := by
  unfold entry
  rcases tabular with none | ⟨inner, has⟩
  · rw [none, insideNone none, empty]
  · rw [has, insideTable has]
    rfl

end

theorem Scalar.keyInjective : ∀ l l' : Scalar, l.home = l'.home → l.key = l'.key → l = l' := by
  intro l l'
  cases l <;> cases l' <;> decide

theorem Scalar.declared (l : Scalar) : l.home.declares l.key = true := by cases l <;> decide

section

variable {l : Scalar} {t u : Entries} (same : without l.key t = without l.key u)
  (settled : l.settle (Table.get? l.key t) = l.settle (Table.get? l.key u))
include same settled

theorem entrySettledSame (l' : Scalar) (home : l.home = l'.home) :
    entry [l.home.name] t l'.key l'.default l'.check =
      entry [l.home.name] u l'.key l'.default l'.check := by
  by_cases alike : l.key = l'.key
  · rw [← Scalar.keyInjective l l' home alike, entrySettled, entrySettled, settled]
  · exact entrySame same alike _ _ _

theorem engineSame (home : l.home = .engine) : engineOf ["engine"] t = engineOf ["engine"] u := by
  have declared := l.declared
  rw [home] at declared
  have each := entrySettledSame same settled
  rw [home] at each
  have uri : entry ["engine"] t "uri" none uri = _ := each .uri rfl
  have binary : entry ["engine"] t "binary" "docker" binary = _ := each .binary rfl
  have verbose : entry ["engine"] t "verbose" false flag = _ := each .verbose rfl
  have tlsVerify : entry ["engine"] t "tls_verify" false flag = _ := each .tlsVerify rfl
  have certPath : entry ["engine"] t "cert_path" none optionalText = _ := each .certPath rfl
  have env : l.key ≠ "env" := by cases l <;> decide
  rw [engineOf, strictSame same declared, entrySame same env, uri, binary, verbose, tlsVerify,
    certPath]
  rfl

theorem driverSame (home : l.home = .driver) : driverOf ["driver"] t = driverOf ["driver"] u := by
  have declared := l.declared
  rw [home] at declared
  have each := entrySettledSame same settled
  rw [home] at each
  have name : entry ["driver"] t "name" "cli" text = _ := each .driverName rfl
  rw [driverOf, strictSame same declared, name]
  rfl

theorem logLevelSame (home : l.home = .logging) :
    logLevelOf ["logging"] t = logLevelOf ["logging"] u := by
  have declared := l.declared
  rw [home] at declared
  have each := entrySettledSame same settled
  rw [home] at each
  have level : entry ["logging"] t "level" "INFO"
      (fun place v => (text place v).map Text.upper) = _ := each .logLevel rfl
  rw [logLevelOf, strictSame same declared, level]
  rfl

end

section

variable {l : Scalar} {t u : Entries} (tabular : Tabular l.home t) (tabular' : Tabular l.home u)
  (beside : l.Beside t u)
include tabular tabular' beside

theorem sectionSame {α : Type} {check : List String → Entries → Checked α} {default : α}
    (s : Section) (empty : check [s.name] [] = .ok default)
    (agree : l.home = s → check [s.name] (inside s t) = check [s.name] (inside s u)) :
    entry [] t s.name default (tableOf check) = entry [] u s.name default (tableOf check) := by
  by_cases home : l.home = s
  · rw [home] at tabular tabular'
    rw [sectionRead tabular empty, sectionRead tabular' empty, agree home]
  · rw [entry, entry, beside.others s (Ne.symm home)]

theorem ofMergedSame (settled : l.settle (l.said t) = l.settle (l.said u)) :
    ofMerged t = ofMerged u := by
  have same := beside.home
  unfold Scalar.said at settled
  have engine : entry [] t "engine" {} (tableOf engineOf) = _ :=
    sectionSame tabular tabular' beside .engine rfl fun home => by
      have checked := engineSame same settled home
      rw [home] at checked
      exact checked
  have driver : entry [] t "driver" "cli" (tableOf driverOf) = _ :=
    sectionSame tabular tabular' beside .driver rfl fun home => by
      have checked := driverSame same settled home
      rw [home] at checked
      exact checked
  have logging : entry [] t "logging" "INFO" (tableOf logLevelOf) = _ :=
    sectionSame tabular tabular' beside .logging rfl fun home => by
      have checked := logLevelSame same settled home
      rw [home] at checked
      exact checked
  have plugins : entry [] t "plugins" [] pluginsOf = entry [] u "plugins" [] pluginsOf := by
    have other : Section.plugins ≠ l.home := by cases l <;> decide
    have found : Table.get? "plugins" t = Table.get? "plugins" u := beside.others _ other
    rw [entry, entry, found]
  rw [ofMerged, engine, driver, logging, plugins]
  rfl

end

theorem ofMergedSettled {t : Entries} {s : Settings} (ok : ofMerged t = .ok s) (l : Scalar)
    (tabular : Tabular l.home t) : l.settle (l.said t) = .ok (l.of s) := by
  obtain ⟨engine, driver, logging, -⟩ := ofMergedParts.mp ok
  rw [Scalar.said, ← entrySettled]
  have ofEngine (home : Tabular .engine t) : engineOf ["engine"] (inside .engine t) = .ok s.engine :=
    (sectionRead home rfl).symm.trans engine
  cases l with
  | driverName => exact (driverParts.mp ((sectionRead tabular rfl).symm.trans driver)).2
  | logLevel => exact (logLevelParts.mp ((sectionRead tabular rfl).symm.trans logging)).2
  | uri => exact (engineParts.mp (ofEngine tabular)).2.1
  | binary => exact (engineParts.mp (ofEngine tabular)).2.2.2.1
  | verbose => exact (engineParts.mp (ofEngine tabular)).2.2.2.2.1
  | tlsVerify => exact (engineParts.mp (ofEngine tabular)).2.2.2.2.2.1
  | certPath => exact (engineParts.mp (ofEngine tabular)).2.2.2.2.2.2

end ContainerDriver.Settings
