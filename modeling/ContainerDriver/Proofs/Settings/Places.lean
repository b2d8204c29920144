import ContainerDriver.Proofs.Settings.Overlay
import ContainerDriver.Proofs.Settings.Paths

/-! Places in nested tables. A path leads from table to table to a value; putting a value at the end
of another path, or laying tables on top of each other, keeps what is at its own place. -/
namespace ContainerDriver.Settings

open Table (Distinct)

def atPath : List String → Value → Option Value
  | [], v => some v
  | k :: path, .table t => (Table.get? k t).bind (atPath path)
  | _ :: _, _ => none

/-- On the way along the path are tables only, as far as it leads, and no key stands twice in them. -/
def Clear : List String → Value → Prop
  | [], _ => True
  | k :: path, .table t => Distinct t ∧ ∀ v ∈ Table.get? k t, Clear path v
  | _ :: _, _ => False

structure Silent (path : List String) (v : Value) : Prop where
  clear : Clear path v
  absent : atPath path v = none

variable {path : List String}

theorem clearTable {k : String} {v : Value} (clear : Clear (k :: path) v) :
    ∃ t, v = .table t ∧ Distinct t ∧ ∀ w ∈ Table.get? k t, Clear path w := by
  cases v <;> first | exact ⟨_, rfl, clear⟩ | exact clear.elim

theorem atPathTable {k : String} {v w : Value} (found : atPath (k :: path) v = some w) :
    ∃ t inner, v = .table t ∧ Table.get? k t = some inner ∧ atPath path inner = some w := by
  cases v <;> first
    | exact (Option.bind_eq_some_iff.mp found).elim fun inner has => ⟨_, inner, rfl, has⟩
    | cases found

theorem atKey (k : String) (t : Entries) : atPath [k] (.table t) = Table.get? k t := by
  rw [atPath]
  cases Table.get? k t <;> rfl

theorem atPathCons (k : String) (path : List String) (v : Value) :
    atPath (k :: path) v = (atPath [k] v).bind (atPath path) := by
  cases v with
  | table t => rw [atKey, atPath]
  | _ => rfl

theorem atOverlaid {upper : Entries} (distinct : Distinct upper) (lower : Option Value) (k : String) :
    atPath [k] (overlaid lower (.table upper)) =
      match Table.get? k upper with
      | some v => some (overlaid (lower.bind (atPath [k])) v)
      | none => lower.bind (atPath [k]) := by
  have alone (below : Option Value) (bare : below.bind (atPath [k]) = none) :
      Table.get? k upper = match Table.get? k upper with
        | some v => some (overlaid (below.bind (atPath [k])) v)
        | none => below.bind (atPath [k]) := by
    rw [bare]
    cases Table.get? k upper with
    | none => rfl
    | some v => exact congrArg some (overlaidNone v).symm
  cases lower with
  | none =>
    rw [overlaidNone, atKey]
    exact alone none rfl
  | some v =>
    cases v with
    | table entries =>
      rw [overlaid, atKey, Option.bind_some, atKey]
      exact getOverlay distinct entries k
    | _ =>
      simp only [overlaid, atKey]
      exact alone _ rfl

section

variable {lower : Option Value} {upper v : Value}

theorem overlaidSilent (silent : Silent path upper) (lower : Option Value) :
    atPath path (overlaid lower upper) = lower.bind (atPath path) := by
  obtain ⟨clear, absent⟩ := silent
  induction path generalizing lower upper with
  | nil => cases absent
  | cons k path ih =>
    obtain ⟨t, rfl, distinct, clear⟩ := clearTable clear
    have through : lower.bind (atPath (k :: path)) = (lower.bind (atPath [k])).bind (atPath path) := by
      rw [Option.bind_assoc]
      exact congrArg lower.bind (funext (atPathCons k path))
    rw [atPathCons, atOverlaid distinct, through]
    rw [atPathCons, atKey] at absent
    cases has : Table.get? k t with
    | none => rfl
    | some w =>
      rw [has] at absent
      exact ih _ (clear w has) absent

theorem overlaidClear {lower : Value} (low : Clear path lower) (up : Clear path upper) :
    Clear path (overlaid (some lower) upper) := by
  induction path generalizing lower upper with
  | nil => trivial
  | cons k path ih =>
    obtain ⟨t, rfl, distinct, clear⟩ := clearTable low
    obtain ⟨u, rfl, distinct', clear'⟩ := clearTable up
    rw [overlaid]
    refine ⟨overlayDistinct distinct u, fun v has => ?_⟩
    rw [getOverlay distinct'] at has
    cases above : Table.get? k u with
    | none =>
      rw [above] at has
      exact clear v has
    | some w =>
      rw [above] at has
      cases has
      cases below : Table.get? k t with
      | none =>
        rw [overlaidNone]
        exact clear' w above
      | some w' => exact ih (clear w' below) (clear' w above)

theorem overlaidDecides (clear : Clear path upper) (has : atPath path upper = some v)
    (leaf : ∀ t, v ≠ .table t) (lower : Option Value) :
    atPath path (overlaid lower upper) = some v := by
  induction path generalizing lower upper with
  | nil =>
    cases has
    cases v <;> first | exact absurd rfl (leaf _) | simp only [overlaid, atPath]
  | cons k path ih =>
    obtain ⟨t, rfl, distinct, clear⟩ := clearTable clear
    rw [atPathCons, atKey] at has
    obtain ⟨w, inner, has⟩ := Option.bind_eq_some_iff.mp has
    rw [atPathCons, atOverlaid distinct, inner]
    exact ih (clear w inner) has _

end

theorem clearEmpty (path : List String) : Clear path (.table []) := by
  cases path with
  | nil => trivial
  | cons k path => exact ⟨List.nodup_nil, fun v mem => by cases mem⟩

theorem atPlaced (k : String) (w : Value) (other : List String) (t : Entries) :
    atPath [k] (.table (place w (k :: other) t)) =
      (placed w other (Table.get? k t)).or (Table.get? k t) := by
  rw [atKey, placeSets]
  cases placed w other (Table.get? k t) with
  | none => rfl
  | some below => exact (Table.getSet t k k below).trans (if_pos rfl)

theorem atElsewhere {k k' : String} (differs : k' ≠ k) (w : Value) (other : List String)
    (t : Entries) : atPath [k] (.table (place w (k' :: other) t)) = Table.get? k t := by
  have elsewhere : (k' :: other).head? ≠ some k := fun head => differs (Option.some.inj head)
  rw [atKey, (placeElsewhere elsewhere w t).2]

section

variable {other : List String} {t : Entries} {v : Value}

theorem prefixTail {k : String} (before : ¬ k :: other <+: k :: path) : ¬ other <+: path :=
  fun more => before (List.cons_prefix_cons.mpr ⟨rfl, more⟩)

theorem placeOwn (w : Value) (nonempty : path ≠ []) (clear : Clear path (.table t)) :
    atPath path (.table (place w path t)) = some w := by
  induction path generalizing t with
  | nil => exact absurd rfl nonempty
  | cons k path ih =>
    rw [atPathCons, atPlaced]
    cases path with
    | nil => rfl
    | cons next path =>
      have nonempty : next :: path ≠ [] := List.cons_ne_nil next path
      cases below : Table.get? k t with
      | none => exact ih nonempty (clearEmpty _)
      | some v =>
        obtain ⟨inner, rfl, clear⟩ := clearTable (clear.2 v below)
        exact ih nonempty clear

theorem placeAside (before : ¬ other <+: path) (after : ¬ path <+: other) (w : Value) (t : Entries) :
    atPath path (.table (place w other t)) = atPath path (.table t) := by
  induction path generalizing other t with
  | nil => exact absurd List.nil_prefix after
  | cons k path ih =>
    cases other with
    | nil => exact absurd List.nil_prefix before
    | cons k' other =>
      rw [atPathCons, atPathCons k path (.table t), atKey k t]
      by_cases same : k' = k
      · subst same
        -- Neither path ends here, and below the common key they are still apart.
        have aside := fun t => ih (prefixTail before) (prefixTail after) t
        rw [atPlaced]
        cases other with
        | nil => exact absurd List.nil_prefix (prefixTail before)
        | cons next other =>
          cases path with
          | nil => exact absurd List.nil_prefix (prefixTail after)
          | cons next' path =>
            cases Table.get? k' t with
            | none => exact aside []
            | some v =>
              cases v with
              | table inner => exact aside inner
              | _ => rfl
      · rw [atElsewhere same]

theorem placeKeeps (before : ¬ other <+: path) (has : atPath path (.table t) = some v)
    (leaf : ∀ t, v ≠ .table t) (w : Value) : atPath path (.table (place w other t)) = some v := by
  -- Nothing is put below a value that is no table.
  induction path generalizing other t with
  | nil => exact absurd (Option.some.inj has).symm (leaf t)
  | cons k path ih =>
    cases other with
    | nil => exact absurd List.nil_prefix before
    | cons k' other =>
      rw [atPathCons]
      rw [atPathCons, atKey] at has
      by_cases same : k' = k
      · subst same
        obtain ⟨inner, below, has⟩ := Option.bind_eq_some_iff.mp has
        rw [atPlaced, below]
        cases other with
        | nil => exact absurd List.nil_prefix (prefixTail before)
        | cons next other =>
          cases inner with
          | table inner => exact ih (prefixTail before) has
          | _ => exact has
      · rwa [atElsewhere same]

theorem placeClear (whole : other <+: path → other = path) (clear : Clear path (.table t))
    (w : Value) : Clear path (.table (place w other t)) := by
  induction path generalizing other t with
  | nil => trivial
  | cons k path ih =>
    refine ⟨placeDistinct clear.1 w, fun v has => ?_⟩
    rw [← atKey] at has
    cases other with
    | nil => exact clear.2 v (atKey k t ▸ has)
    | cons k' other =>
      by_cases same : k' = k
      · subst same
        have whole : other <+: path → other = path := fun more =>
          (List.cons.inj (whole (List.cons_prefix_cons.mpr ⟨rfl, more⟩))).2
        rw [atPlaced] at has
        cases other with
        -- The value is put here, so the path must end here too.
        | nil => exact whole List.nil_prefix ▸ trivial
        | cons next other =>
          cases below : Table.get? k' t with
          | none =>
            rw [below] at has
            cases has
            exact ih whole (clearEmpty path)
          | some v' =>
            have clear := clear.2 v' below
            rw [below] at has
            cases v' with
            | table inner =>
              cases has
              exact ih whole clear
            | _ =>
              cases has
              exact clear
      · rw [atElsewhere same] at has
        exact clear.2 v has

end

end ContainerDriver.Settings
