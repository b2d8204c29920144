import ContainerDriver.Proofs.Table
import ContainerDriver.Settings.Load

/-! Layers on top of each other, section by section. What a section says after the overlay is the
overlay of what it says in each layer. -/
namespace ContainerDriver.Settings

open Table (Distinct without)

theorem overlayMerge (lower upper : Entries) :
    overlay lower upper = Table.merge overlaid lower upper := by
  induction upper generalizing lower with
  | nil => rw [overlay]; rfl
  | cons e rest ih => rw [overlay, ih]; rfl

theorem overlaidNone (v : Value) : overlaid none v = v := by
  cases v <;> simp [overlaid]

theorem getOverlay {upper : Entries} (distinct : Distinct upper) (lower : Entries) (k : String) :
    Table.get? k (overlay lower upper) =
      match Table.get? k upper with
      | some v => some (overlaid (Table.get? k lower) v)
      | none => Table.get? k lower := by
  rw [overlayMerge, Table.getMerge distinct]
  cases Table.get? k upper <;> rfl

theorem overlayWithout (k : String) (lower upper : Entries) :
    without k (overlay lower upper) = overlay (without k lower) (without k upper) := by
  rw [overlayMerge, overlayMerge, Table.mergeWithout]

theorem overlayDistinct {lower : Entries} (distinct : Distinct lower) (upper : Entries) :
    Distinct (overlay lower upper) := by
  rw [overlayMerge]
  exact distinct.merge overlaid upper

theorem overlayNone {upper : Entries} (distinct : Distinct upper) : overlay [] upper = upper := by
  rw [overlayMerge]
  exact Table.mergeNil overlaidNone distinct

def inside (s : Section) (t : Entries) : Entries :=
  match Table.get? s.name t with
  | some (.table inner) => inner
  | _ => []

def Tabular (s : Section) (t : Entries) : Prop :=
  Table.get? s.name t = none ∨ ∃ inner, Table.get? s.name t = some (.table inner)

theorem insideTable {s : Section} {t inner : Entries}
    (has : Table.get? s.name t = some (.table inner)) : inside s t = inner := by
  rw [inside, has]

theorem insideNone {s : Section} {t : Entries} (none : Table.get? s.name t = none) :
    inside s t = [] := by
  rw [inside, none]

structure Layered (s : Section) (t : Entries) : Prop where
  distinct : Distinct t
  tabular : Tabular s t
  inner : Distinct (inside s t)

section

variable {s : Section} {lower upper : Entries} (low : Tabular s lower) (up : Layered s upper)
include low up

theorem overlayTabular : Tabular s (overlay lower upper) ∧
    inside s (overlay lower upper) = overlay (inside s lower) (inside s upper) := by
  have merged := getOverlay up.distinct lower s.name
  rcases up.tabular with none | ⟨e, has⟩
  · rw [none] at merged
    refine ⟨?_, ?_⟩
    · unfold Tabular
      rwa [merged]
    · rw [insideNone none, inside, merged, overlay]
      rfl
  · rw [has] at merged
    rw [insideTable has]
    have inner := up.inner
    rw [insideTable has] at inner
    rcases low with none | ⟨e', has'⟩
    · rw [none] at merged
      rw [insideNone none, overlayNone inner]
      exact ⟨.inr ⟨e, merged.trans (congrArg some (overlaidNone _))⟩,
        insideTable (merged.trans (congrArg some (overlaidNone _)))⟩
    · rw [has'] at merged
      dsimp only at merged
      rw [overlaid] at merged
      rw [insideTable has']
      exact ⟨.inr ⟨_, merged⟩, insideTable merged⟩

theorem Layered.overlay (distinct : Distinct lower) (inner : Distinct (inside s lower)) :
    Layered s (overlay lower upper) := by
  obtain ⟨tabular, same⟩ := overlayTabular low up
  refine ⟨overlayDistinct distinct _, tabular, ?_⟩
  rw [same]
  exact overlayDistinct inner _

end

end ContainerDriver.Settings
