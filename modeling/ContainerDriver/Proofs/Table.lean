import ContainerDriver.Table
import Mathlib.Data.List.Basic
import Mathlib.Data.List.Nodup

/-! Tables and one of their keys. What lies under a key, and the table without it, make up all that a
table is asked; both are followed through updates. -/
namespace ContainerDriver.Table

variable {κ α : Type} [DecidableEq κ]

def Distinct (t : List (κ × α)) : Prop := (t.map Prod.fst).Nodup

def without (k : κ) (t : List (κ × α)) : List (κ × α) := t.filter fun e => e.1 ≠ k

def merge (mix : Option α → α → α) (lower upper : List (κ × α)) : List (κ × α) :=
  upper.foldl (fun t e => set e.1 (mix (get? e.1 t) e.2) t) lower

variable {t lower upper : List (κ × α)} {k k' : κ} {v : α} {mix : Option α → α → α}

theorem overlayMerge (lower upper : List (κ × α)) :
    overlay lower upper = merge (fun _ v => v) lower upper := rfl

theorem mergeCons (lower : List (κ × α)) (e : κ × α) (rest : List (κ × α)) :
    merge mix lower (e :: rest) = merge mix (set e.1 (mix (get? e.1 lower) e.2) lower) rest := rfl

theorem withoutCons (e : κ × α) (rest : List (κ × α)) : without k (e :: rest) =
    if e.1 = k then without k rest else e :: without k rest := by
  by_cases same : e.1 = k <;> simp [without, same]

theorem getWithout (other : k ≠ k') (t : List (κ × α)) : get? k' (without k t) = get? k' t := by
  induction t with
  | nil => rfl
  | cons e rest ih =>
    rw [withoutCons]
    by_cases same : e.1 = k
    · rw [if_pos same, ih, get?, if_neg (same ▸ other)]
    · rw [if_neg same, get?, get?, ih]

theorem setWithout (k : κ) (v : α) (t : List (κ × α)) : without k (set k v t) = without k t := by
  induction t with
  | nil => simp [set, without]
  | cons e rest ih =>
    rw [set, withoutCons]
    by_cases same : e.1 = k
    · rw [if_pos same, if_pos same, withoutCons, if_pos rfl]
    · rw [if_neg same, if_neg same, withoutCons, if_neg same, ih]

theorem setWithoutOther (other : k ≠ k') (v : α) (t : List (κ × α)) :
    without k (set k' v t) = set k' v (without k t) := by
  induction t with
  | nil => simp [set, without, other.symm]
  | cons e rest ih =>
    rw [set, withoutCons]
    by_cases same : e.1 = k'
    · have kept : e.1 ≠ k := same ▸ other.symm
      rw [if_pos same, if_neg kept, withoutCons, if_neg other.symm, set, if_pos same]
    · rw [if_neg same, withoutCons, ih]
      by_cases gone : e.1 = k
      · rw [if_pos gone, if_pos gone]
      · rw [if_neg gone, if_neg gone, set, if_neg same]

theorem mergeWithout (mix : Option α → α → α) (k : κ) (lower upper : List (κ × α)) :
    without k (merge mix lower upper) = merge mix (without k lower) (without k upper) := by
  induction upper generalizing lower with
  | nil => rfl
  | cons e rest ih =>
    rw [mergeCons, ih, withoutCons]
    by_cases same : e.1 = k
    · rw [if_pos same, same, setWithout]
    · rw [if_neg same, setWithoutOther (Ne.symm same), mergeCons, getWithout (Ne.symm same)]

theorem getMergeAbsent (absent : k ∉ upper.map Prod.fst) (lower : List (κ × α)) :
    get? k (merge mix lower upper) = get? k lower := by
  induction upper generalizing lower with
  | nil => rfl
  | cons e rest ih =>
    rw [List.map_cons, List.mem_cons, not_or] at absent
    rw [mergeCons, ih absent.2, getSet, if_neg (Ne.symm absent.1)]

theorem getMerge (distinct : Distinct upper) (lower : List (κ × α)) :
    get? k (merge mix lower upper) =
      match get? k upper with
      | some v => some (mix (get? k lower) v)
      | none => get? k lower := by
  induction upper generalizing lower with
  | nil => rfl
  | cons e rest ih =>
    obtain ⟨fresh, distinct⟩ := List.nodup_cons.mp distinct
    rw [get?, mergeCons]
    by_cases same : e.1 = k
    · rw [if_pos same, ← same, getMergeAbsent fresh, getSet, if_pos rfl]
    · rw [if_neg same, ih distinct, getSet, if_neg same]

theorem getMergeFold (lower upper : List (κ × α)) : get? k (merge mix lower upper) =
    (upper.filter fun e => e.1 = k).foldl (fun below e => some (mix below e.2)) (get? k lower) := by
  induction upper generalizing lower with
  | nil => rfl
  | cons e rest ih =>
    rw [mergeCons, ih, getSet, List.filter_cons]
    by_cases same : e.1 = k
    · rw [if_pos same, if_pos (decide_eq_true same), List.foldl_cons, same]
    · rw [if_neg same, if_neg (mt of_decide_eq_true same)]

theorem getFilter {p : κ × α → Bool} (kept : ∀ e ∈ t, e.1 = k → p e = true) :
    get? k (t.filter p) = get? k t := by
  induction t with
  | nil => rfl
  | cons e rest ih =>
    obtain ⟨here, later⟩ := List.forall_mem_cons.mp kept
    by_cases keep : p e = true
    · rw [List.filter_cons_of_pos keep, get?, get?, ih later]
    · rw [List.filter_cons_of_neg keep, ih later, get?, if_neg fun same => keep (here same)]

theorem setFresh (fresh : k ∉ t.map Prod.fst) (v : α) : set k v t = t ++ [(k, v)] := by
  induction t with
  | nil => rfl
  | cons e rest ih =>
    rw [List.map_cons, List.mem_cons, not_or] at fresh
    rw [set, if_neg (Ne.symm fresh.1), ih fresh.2]
    rfl

theorem getAppended (t : List (κ × α)) (k k' : κ) (v : α) :
    get? k' (t ++ [(k, v)]) = (get? k' t).or (if k = k' then some v else none) := by
  induction t with
  | nil => rfl
  | cons e rest ih =>
    simp only [List.cons_append, get?]
    split
    · rfl
    · exact ih

theorem getFresh (fresh : k ∉ t.map Prod.fst) : get? k t = none :=
  getAbsent fun _ mem same => fresh (same ▸ List.mem_map_of_mem mem)

theorem mergeDisjoint (alone : ∀ v, mix none v = v) (distinct : Distinct (lower ++ upper)) :
    merge mix lower upper = lower ++ upper := by
  induction upper generalizing lower with
  | nil => exact (List.append_nil lower).symm
  | cons e rest ih =>
    have fresh : e.1 ∉ lower.map Prod.fst := fun mem => by
      unfold Distinct at distinct
      rw [List.map_append, List.map_cons] at distinct
      exact (List.nodup_append.mp distinct).2.2 _ mem _ List.mem_cons_self rfl
    rw [mergeCons, getFresh fresh, alone, setFresh fresh, ih (by simpa using distinct)]
    simp

theorem mergeNil (alone : ∀ v, mix none v = v) (distinct : Distinct upper) :
    merge mix [] upper = upper :=
  mergeDisjoint alone distinct

theorem keysSet (k : κ) (v : α) (t : List (κ × α)) : (set k v t).map Prod.fst =
    if k ∈ t.map Prod.fst then t.map Prod.fst else t.map Prod.fst ++ [k] := by
  induction t with
  | nil => rfl
  | cons e rest ih =>
    rw [set]
    by_cases same : e.1 = k
    · simp [same]
    · have other : k ≠ e.1 := Ne.symm same
      rw [if_neg same, List.map_cons, ih]
      by_cases has : k ∈ rest.map Prod.fst <;> simp [has, other]

theorem Distinct.set (distinct : Distinct t) (k : κ) (v : α) : Distinct (set k v t) := by
  unfold Distinct
  rw [keysSet]
  split
  · exact distinct
  · next fresh => exact List.nodup_append.mpr ⟨distinct, List.nodup_singleton k, by
      rintro a has b member rfl
      exact fresh (List.mem_singleton.mp member ▸ has)⟩

theorem Distinct.merge (distinct : Distinct lower) (mix : Option α → α → α)
    (upper : List (κ × α)) : Distinct (merge mix lower upper) := by
  induction upper generalizing lower with
  | nil => exact distinct
  | cons e rest ih => exact ih (distinct.set e.1 _)

theorem keysMerge {key : κ} (mem : key ∈ (merge mix lower upper).map Prod.fst) :
    key ∈ lower.map Prod.fst ∨ key ∈ upper.map Prod.fst := by
  induction upper generalizing lower with
  | nil => exact .inl mem
  | cons e rest ih =>
    rw [mergeCons] at mem
    rcases ih mem with old | new
    · rw [keysSet] at old
      split at old
      · exact .inl old
      · rcases List.mem_append.mp old with old | here
        · exact .inl old
        · exact .inr (List.mem_singleton.mp here ▸ List.mem_cons_self)
    · exact .inr (List.mem_cons_of_mem _ new)

theorem ofEntriesDistinct (entries : List (κ × α)) : Distinct (ofEntries entries) := by
  have empty : Distinct ([] : List (κ × α)) := List.nodup_nil
  exact empty.merge (fun _ v => v) entries

theorem keysOfEntries {entries : List (κ × α)} {key : κ}
    (mem : key ∈ (ofEntries entries).map Prod.fst) : key ∈ entries.map Prod.fst := by
  rw [ofEntries, overlayMerge] at mem
  exact (keysMerge mem).resolve_left List.not_mem_nil

theorem ofDistinct (distinct : Distinct t) : ofEntries t = t := by
  rw [ofEntries, overlayMerge]
  exact mergeNil (fun _ => rfl) distinct

/-! Entries of one key, and what is known of them through updates. -/

def Holds (k : κ) (P : α → Prop) (t : List (κ × α)) : Prop := ∃ e ∈ t, e.1 = k ∧ P e.2

def Bound (k : κ) (P : α → Prop) (t : List (κ × α)) : Prop := ∀ e ∈ t, e.1 = k → P e.2

variable {P : α → Prop}

theorem getMem (found : get? k t = some v) : (k, v) ∈ t := by
  induction t with
  | nil => cases found
  | cons e rest ih =>
    rw [get?] at found
    split at found
    · next same =>
      cases found
      exact same ▸ List.mem_cons_self
    · exact List.mem_cons_of_mem _ (ih found)

theorem memGet (distinct : Distinct t) {e : κ × α} (mem : e ∈ t) : get? e.1 t = some e.2 := by
  induction t with
  | nil => cases mem
  | cons first rest ih =>
    obtain ⟨fresh, distinct⟩ := List.nodup_cons.mp distinct
    rw [get?]
    rcases List.mem_cons.mp mem with rfl | later
    · rw [if_pos rfl]
    · rw [if_neg fun same : first.1 = e.1 => fresh (same ▸ List.mem_map_of_mem later),
        ih distinct later]

theorem holdsSet (k : κ) (t : List (κ × α)) (has : P v) : Holds k P (set k v t) :=
  ⟨(k, v), getMem ((getSet t k k v).trans (if_pos rfl)), rfl, has⟩

theorem Holds.set (holds : Holds k P t)
    (kept : k' = k → ∀ below, get? k t = some below → P below → P v) : Holds k P (set k' v t) := by
  induction t with
  | nil =>
    obtain ⟨e, mem, -⟩ := holds
    cases mem
  | cons first rest ih =>
    obtain ⟨e, mem, same, has⟩ := holds
    rw [Table.set]
    rcases List.mem_cons.mp mem with rfl | later
    · split
      · next here =>
        have here : k' = k := here.symm.trans same
        refine ⟨_, List.mem_cons_self, here, kept here e.2 ?_ has⟩
        rw [get?, if_pos same]
      · exact ⟨e, List.mem_cons_self, same, has⟩
    · split
      · exact ⟨e, List.mem_cons_of_mem _ later, same, has⟩
      · next other =>
        obtain ⟨e', mem', rest'⟩ := ih ⟨e, later, same, has⟩ fun here below found =>
          kept here below (by rw [get?, if_neg (here ▸ other), found])
        exact ⟨e', List.mem_cons_of_mem _ mem', rest'⟩

theorem Bound.set (bound : Bound k P t) (put : k' = k → P v) : Bound k P (set k' v t) := by
  induction t with
  | nil =>
    rintro e mem same
    cases List.mem_singleton.mp mem
    exact put same
  | cons first rest ih =>
    obtain ⟨here, later⟩ := List.forall_mem_cons.mp bound
    rw [Table.set]
    split
    · exact List.forall_mem_cons.mpr ⟨put, later⟩
    · exact List.forall_mem_cons.mpr ⟨here, ih later⟩

theorem Holds.merge (holds : Holds k P lower)
    (keeps : Bound k (fun v => ∀ below, P below → P (mix (some below) v)) upper) :
    Holds k P (merge mix lower upper) := by
  induction upper generalizing lower with
  | nil => exact holds
  | cons e rest ih =>
    obtain ⟨here, later⟩ := List.forall_mem_cons.mp keeps
    refine ih (holds.set fun same below found has => ?_) later
    rw [same, found]
    exact here same below has

theorem holdsMerge (holds : Holds k (fun v => ∀ below, P (mix below v)) upper)
    (keeps : Bound k (fun v => ∀ below, P below → P (mix (some below) v)) upper)
    (lower : List (κ × α)) : Holds k P (merge mix lower upper) := by
  induction upper generalizing lower with
  | nil =>
    obtain ⟨e, mem, -⟩ := holds
    cases mem
  | cons first rest ih =>
    obtain ⟨-, later⟩ := List.forall_mem_cons.mp keeps
    obtain ⟨e, mem, same, has⟩ := holds
    rcases List.mem_cons.mp mem with rfl | behind
    · rw [mergeCons, same]
      exact (holdsSet k lower (has _)).merge later
    · exact ih ⟨e, behind, same, has⟩ later _

theorem Bound.merge (bound : Bound k P lower)
    (each : Bound k (fun v => P (mix none v) ∧ ∀ below, P below → P (mix (some below) v)) upper) :
    Bound k P (merge mix lower upper) := by
  induction upper generalizing lower with
  | nil => exact bound
  | cons e rest ih =>
    obtain ⟨here, later⟩ := List.forall_mem_cons.mp each
    refine ih (bound.set fun same => ?_) later
    cases found : get? e.1 lower with
    | none => exact (here same).1
    | some below => exact (here same).2 below (bound _ (getMem found) same)

theorem holdsOfEntries {entries : List (κ × α)} (has : k ∈ entries.map Prod.fst) :
    Holds k (fun _ => True) (ofEntries entries) := by
  obtain ⟨e, mem, same⟩ := List.mem_map.mp has
  rw [ofEntries, overlayMerge]
  exact holdsMerge ⟨e, mem, same, fun _ => trivial⟩ (fun _ _ _ _ _ => trivial) []

end ContainerDriver.Table
