import ContainerDriver.Proofs.Settings.Mapping

/-! Keys that are present in nested tables. A table that lies on others, or that variables fill one
after the other, has every key of theirs, as long as nothing but tables stands on the way to it. -/
namespace ContainerDriver.Settings

open Table (Distinct Holds Bound)

def Has : List String → Value → Prop
  | [], _ => True
  | k :: path, .table t => Holds k (Has path) t
  | _ :: _, _ => False

def Tabled : List String → Value → Prop
  | [], _ => True
  | k :: path, .table t => Bound k (Tabled path) t
  | _ :: _, _ => False

def Taken : List String → Value → Prop
  | [], _ => True
  | k :: path, .table t => Holds k (Taken path) t
  | _ :: _, _ => True

variable {path : List String} {k : String} {v : Value} {t : Entries}

theorem hasTable (has : Has (k :: path) v) : ∃ t, v = .table t ∧ Holds k (Has path) t := by
  cases v <;> first | exact ⟨_, rfl, has⟩ | exact has.elim

theorem tabledTable (tabled : Tabled (k :: path) v) :
    ∃ t, v = .table t ∧ Bound k (Tabled path) t := by
  cases v <;> first | exact ⟨_, rfl, tabled⟩ | exact tabled.elim

section

variable {lower upper : Value}

theorem overlaidKeeps (tabled : Tabled path upper) (has : Has path lower) :
    Has path (overlaid (some lower) upper) := by
  induction path generalizing lower upper with
  | nil => trivial
  | cons k path ih =>
    obtain ⟨u, rfl, clear⟩ := tabledTable tabled
    obtain ⟨l, rfl, holds⟩ := hasTable has
    rw [overlaid, overlayMerge]
    exact holds.merge fun e mem same below has => ih (clear e mem same) has

theorem overlaidHas (tabled : Tabled path upper) (has : Has path upper) (lower : Option Value) :
    Has path (overlaid lower upper) := by
  induction path generalizing lower upper with
  | nil => trivial
  | cons k path ih =>
    obtain ⟨u, rfl, clear⟩ := tabledTable tabled
    cases lower with
    | none => rwa [overlaidNone]
    | some lower =>
      cases lower with
      | table l =>
        rw [overlaid, overlayMerge]
        obtain ⟨e, mem, same, has⟩ := has
        exact Table.holdsMerge ⟨e, mem, same, fun below => ih (clear e mem same) has below⟩
          (fun e mem same below has => overlaidKeeps (clear e mem same) has) l
      | _ => simpa only [overlaid] using has

theorem overlaidTabled (low : Tabled path lower) (up : Tabled path upper) :
    Tabled path (overlaid (some lower) upper) := by
  induction path generalizing lower upper with
  | nil => trivial
  | cons k path ih =>
    obtain ⟨l, rfl, low⟩ := tabledTable low
    obtain ⟨u, rfl, up⟩ := tabledTable up
    rw [overlaid, overlayMerge]
    refine Bound.merge low fun e mem same => ⟨?_, fun below tabled => ih tabled (up e mem same)⟩
    rw [overlaidNone]
    exact up e mem same

end

theorem overlayTaken {upper : Entries} (distinct : Distinct upper) (short : path.length ≤ 1)
    (taken : Taken (k :: path) (.table upper)) (lower : Entries)
    (tabled : Tabled (k :: path) (.table (overlay lower upper))) :
    Has (k :: path) (.table (overlay lower upper)) := by
  obtain ⟨e, mem, rfl, taken⟩ := taken
  have found := getOverlay distinct lower e.1
  rw [Table.memGet distinct mem] at found
  have mem := Table.getMem found
  refine ⟨_, mem, rfl, ?_⟩
  match path, short with
  | [], _ => trivial
  | [key], _ =>
    obtain ⟨u, same, -⟩ := tabledTable (tabled _ mem rfl)
    cases upper : e.2 with
    | table w =>
      rw [upper] at taken
      have tabled : Tabled [key] (.table w) := fun _ _ _ => trivial
      exact overlaidHas tabled taken _
    | _ =>
      rw [upper] at same
      simp only [overlaid, reduceCtorEq] at same

/-! One variable after the other, with one path in view. -/

theorem placeTaken (w : Value) (nonempty : path ≠ []) (t : Entries) :
    Taken path (.table (place w path t)) := by
  induction path generalizing t with
  | nil => exact absurd rfl nonempty
  | cons k path ih =>
    rw [placeSets]
    cases path with
    | nil => exact Table.holdsSet k t trivial
    | cons next path =>
      have deeper := ih (List.cons_ne_nil next path)
      cases below : Table.get? k t with
      | none => exact Table.holdsSet k t (deeper [])
      | some inner =>
        cases inner with
        | table inner => exact Table.holdsSet k t (deeper inner)
        | _ => exact ⟨_, Table.getMem below, rfl, trivial⟩

theorem placeKeepsTaken {other : List String} (whole : other <+: path → other = path)
    (taken : Taken path (.table t)) (w : Value) : Taken path (.table (place w other t)) := by
  induction path generalizing other t with
  | nil => trivial
  | cons k path ih =>
    cases other with
    | nil => exact taken
    | cons h other =>
      rw [placeSets]
      cases put : placed w other (Table.get? h t) with
      | none => exact taken
      | some below =>
        refine Holds.set taken fun same v found has => ?_
        subst same
        have whole : other <+: path → other = path := fun more =>
          (List.cons.inj (whole (List.cons_prefix_cons.mpr ⟨rfl, more⟩))).2
        rw [found] at put
        cases other with
        | nil => exact whole List.nil_prefix ▸ trivial
        | cons next other =>
          cases v with
          | table inner =>
            cases put
            exact ih whole has
          | _ => cases put

namespace Section

variable {s : Section} {vars : Variables} {u : Entries}

theorem putNamed {b : String × Option String} (named : s.path? b.1 = some path)
    (made : s.put t b = .ok u) : ∃ v, u = place v path t := by
  unfold put at made
  rw [named] at made
  dsimp only at made
  cases read : (s.decoding path).read b.2 with
  | error e =>
    rw [read] at made
    cases made
  | ok v =>
    rw [read] at made
    exact ⟨v, (Except.ok.inj made).symm⟩

def Off (s : Section) (path : List String) (name : String) : Prop :=
  ∀ other, s.path? name = some other → other <+: path → other = path

theorem foldKeepsTaken (off : ∀ b ∈ vars, s.Off path b.1) (made : vars.foldlM s.put t = .ok u)
    (taken : Taken path (.table t)) : Taken path (.table u) := by
  induction vars generalizing t with
  | nil =>
    cases made
    exact taken
  | cons b rest ih =>
    obtain ⟨here, later⟩ := List.forall_mem_cons.mp off
    obtain ⟨t', first, made⟩ := Except.bindOk.mp made
    refine ih later made ?_
    obtain rfl | ⟨other, v, named, -, rfl⟩ := putSource first
    · exact taken
    · exact placeKeepsTaken (here other named) taken v

theorem foldTaken (named : ∃ b ∈ vars, s.path? b.1 = some path)
    (last : vars.Pairwise fun b c => s.path? b.1 = some path → s.Off path c.1)
    (made : vars.foldlM s.put t = .ok u) : Taken path (.table u) := by
  induction vars generalizing t with
  | nil =>
    obtain ⟨b, mem, -⟩ := named
    cases mem
  | cons first rest ih =>
    obtain ⟨b, mem, named⟩ := named
    obtain ⟨here, later⟩ := List.pairwise_cons.mp last
    obtain ⟨t', put, made⟩ := Except.bindOk.mp made
    rcases List.mem_cons.mp mem with rfl | behind
    · obtain ⟨v, rfl⟩ := putNamed named put
      exact foldKeepsTaken (fun c mem => here c mem named) made
        (placeTaken v (pathSpelled named).1 t)
    · exact ih ⟨b, behind, named⟩ later made

/-- How variables come to say something of a section, or nothing. -/
inductive Says (s : Section) (vars : Variables) : Option Value → Prop where
  | null {text : String} (whole : Table.get? s.variableName vars = some (some text))
      (json : Json.read? text = some .null) : Says s vars none
  | table {text : String} {t u : Entries}
      (whole : Table.get? s.variableName vars = some (some text))
      (json : Json.read? text = some (.table t)) (nested : s.nested vars = .ok u) :
      Says s vars (some (.table (s.canonicalEntries (overlay t u))))
  | other {text : String} {v : Value} (whole : Table.get? s.variableName vars = some (some text))
      (json : Json.read? text = some v) (bare : ∀ t, v ≠ .table t) : Says s vars (some v)
  | parts {u : Entries} (nested : s.nested vars = .ok u) :
      Says s vars (if u.isEmpty then none else some (.table (s.canonicalEntries u)))

theorem ofVariablesSays {said : Option Value} (read : s.ofVariables vars = .ok said) :
    s.Says vars said := by
  unfold ofVariables at read
  split at read
  · next text whole =>
    obtain ⟨v, json, read⟩ := Except.bindOk.mp read
    have json : Json.read? text = some v := by
      unfold Settings.json at json
      split at json
      · next w parsed => exact parsed.trans (congrArg some (Except.ok.inj json))
      · cases json
    split at read
    · cases read
      exact .null whole json
    · obtain ⟨u, nested, read⟩ := Except.bindOk.mp read
      cases read
      exact .table whole json nested
    · next _ bare =>
      cases read
      exact .other whole json bare
  · obtain ⟨u, nested, read⟩ := Except.bindOk.mp read
    cases read
    exact .parts nested

end Section
end ContainerDriver.Settings
