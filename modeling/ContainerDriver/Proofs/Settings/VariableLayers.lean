import ContainerDriver.Proofs.Except
import ContainerDriver.Proofs.Settings.Paths
import ContainerDriver.Proofs.Settings.Scalar
import ContainerDriver.Proofs.Text.Casing

/-! The layer that variables make, with one setting in view. Only the variable that is named after the
setting says what it is; everything else in the layer comes from the other variables. -/
namespace ContainerDriver.Settings

open Table (Distinct without)

def Section.path? (s : Section) (name : String) : Option (List String) :=
  (after? (s.variableName ++ "__") name).map fun rest => (splitPath rest).map String.ofList

def Section.put (s : Section) (t : Entries) (b : String × Option String) :
    Except VariableFlaw Entries :=
  match s.path? b.1 with
  | none => .ok t
  | some path => ((s.decoding path).read b.2).map fun v => place v path t

theorem nestedFolds (s : Section) (vars : Variables) : s.nested vars = vars.foldlM s.put [] := by
  unfold Section.nested
  congr 1
  funext t b
  obtain ⟨name, text⟩ := b
  unfold Section.put Section.path?
  dsimp only
  cases after? (s.variableName ++ "__") name with
  | none => rfl
  | some rest =>
    dsimp only [Option.map_some]
    cases (s.decoding ((splitPath rest).map String.ofList)).read text <;> rfl

namespace Scalar

def variableName (l : Scalar) : String := l.home.variableName ++ "__" ++ l.key

def textOf : Option String → Value
  | some text => .text text
  | none => .null

theorem pathOwn (l : Scalar) : l.home.path? l.variableName = some [l.key] := by cases l <;> decide

theorem pathForeign (l : Scalar) (s : Section) (other : s ≠ l.home) : s.path? l.variableName = none := by
  revert other
  cases l <;> cases s <;> decide

theorem plainRead (text : Option String) : Decoding.plain.read text = .ok (textOf text) := by
  cases text with
  | none => rfl
  | some text => by_cases empty : text = "" <;> simp [Decoding.read, textOf, empty]

theorem putOwn (l : Scalar) {b : String × Option String} (own : b.1 = l.variableName)
    (t : Entries) : l.home.put t b = .ok (Table.set l.key (textOf b.2) t) := by
  have plain : l.home.decoding [l.key] = .plain := by cases l <;> decide
  simp only [Section.put, own, pathOwn, plain, plainRead]
  rfl

def Shallow (l : Scalar) (vars : Variables) : Prop :=
  ∀ b ∈ vars, after? (l.variableName ++ "__") b.1 = none

theorem pathHead (l : Scalar) {name : String} {path : List String}
    (shallow : after? (l.variableName ++ "__") name = none) (has : l.home.path? name = some path)
    (head : path.head? = some l.key) : name = l.variableName := by
  obtain ⟨rest, after, rfl⟩ := Option.map_eq_some_iff.mp has
  have spelled := afterSome.mp after
  rw [List.head?_map] at head
  obtain ⟨part, first, own⟩ := Option.map_eq_some_iff.mp head
  have own : part = l.key.toList := by rw [← own, String.toList_ofList]
  obtain ⟨parts, same⟩ := List.head?_eq_some_iff.mp first
  rw [own] at same
  cases parts with
  | nil =>
    apply String.toList_injective
    rw [spelled, splitPathOne same, ← String.toList_append]
    rfl
  | cons next parts =>
    refine absurd ?_ (afterNone.mp shallow)
    obtain ⟨deeper, further⟩ := splitPathMore same
    rw [spelled, ← further, variableName]
    exact ⟨deeper, by simp [String.toList_append]⟩

theorem putOther (l : Scalar) {b : String × Option String}
    (shallow : after? (l.variableName ++ "__") b.1 = none) (other : b.1 ≠ l.variableName)
    (t : Entries) :
    l.home.put (without l.key t) b = (l.home.put t b).map (without l.key) ∧
    ∀ u, l.home.put t b = .ok u → Table.get? l.key u = Table.get? l.key t := by
  unfold Section.put
  cases has : l.home.path? b.1 with
  | none => exact ⟨rfl, fun u ok => by cases ok; rfl⟩
  | some path =>
    have elsewhere : path.head? ≠ some l.key := fun head => other (l.pathHead shallow has head)
    dsimp only
    cases (l.home.decoding path).read b.2 with
    | error e => exact ⟨rfl, fun u ok => by cases ok⟩
    | ok v =>
      obtain ⟨kept, same⟩ := placeElsewhere elsewhere v t
      refine ⟨congrArg Except.ok kept.symm, fun u ok => ?_⟩
      cases ok
      exact same

variable {l : Scalar} {vars : Variables} (shallow : l.Shallow vars)
include shallow

theorem foldWithout (t : Entries) :
    (without l.variableName vars).foldlM l.home.put (without l.key t) =
      (vars.foldlM l.home.put t).map (without l.key) := by
  induction vars generalizing t with
  | nil => rfl
  | cons b rest ih =>
    obtain ⟨here, later⟩ := List.forall_mem_cons.mp shallow
    rw [Table.withoutCons]
    -- The setting's own variable cannot fail and leaves no trace outside of its key.
    by_cases own : b.1 = l.variableName
    · rw [if_pos own, List.foldlM_cons, l.putOwn own, ← Table.setWithout l.key (textOf b.2) t,
        ih later]
      rfl
    · rw [if_neg own, List.foldlM_cons, List.foldlM_cons, (l.putOther here own t).1]
      cases l.home.put t b with
      | error e => rfl
      | ok u => exact ih later u

theorem foldSaid (distinct : Distinct vars) {t u : Entries}
    (made : vars.foldlM l.home.put t = .ok u) : Table.get? l.key u =
      ((Table.get? l.variableName vars).map textOf).or (Table.get? l.key t) := by
  induction vars generalizing t with
  | nil =>
    cases made
    rfl
  | cons b rest ih =>
    obtain ⟨here, later⟩ := List.forall_mem_cons.mp shallow
    obtain ⟨fresh, distinct⟩ := List.nodup_cons.mp distinct
    rw [List.foldlM_cons] at made
    obtain ⟨t', first, made⟩ := Except.bindOk.mp made
    rw [ih later distinct made]
    by_cases own : b.1 = l.variableName
    · rw [l.putOwn own] at first
      cases first
      rw [own] at fresh
      rw [Table.getFresh fresh, Table.getSet, if_pos rfl, Table.get?, if_pos own]
      rfl
    · rw [(l.putOther here own t).2 t' first, Table.get?, if_neg own]

end Scalar

def SmallKeys {α : Type} (t : List (String × α)) : Prop :=
  ∀ key ∈ t.map Prod.fst, ∀ c ∈ key.toList, Text.Casing.Small c

structure Lowered (vars : Variables) : Prop where
  distinct : Distinct vars
  small : SmallKeys vars

theorem ofBindingsLowered (bs : List (String × Option String)) :
    Lowered (Variables.ofBindings bs) := by
  refine ⟨Table.ofEntriesDistinct _, fun key mem => ?_⟩
  have named := Table.keysOfEntries mem
  rw [List.map_map] at named
  obtain ⟨b, -, rfl⟩ := List.mem_map.mp named
  exact Text.lowerSmall b.1

namespace Section

variable {s : Section} {vars : Variables} {t u : Entries}

theorem pathSmall {name : String} {path : List String} (has : s.path? name = some path)
    (small : ∀ c ∈ name.toList, Text.Casing.Small c) {key : String}
    (head : path.head? = some key) : ∀ c ∈ key.toList, Text.Casing.Small c := by
  obtain ⟨rest, after, rfl⟩ := Option.map_eq_some_iff.mp has
  rw [List.head?_map] at head
  obtain ⟨part, first, rfl⟩ := Option.map_eq_some_iff.mp head
  rw [String.toList_ofList]
  intro c mem
  refine small c ?_
  rw [afterSome.mp after]
  exact List.mem_append_right _ ((splitPathHead rest part first).mem mem)

theorem putFormed {b : String × Option String} (small : ∀ c ∈ b.1.toList, Text.Casing.Small c)
    (made : s.put t b = .ok u) (distinct : Distinct t) (keys : SmallKeys t) :
    Distinct u ∧ SmallKeys u := by
  unfold put at made
  cases has : s.path? b.1 with
  | none =>
    rw [has] at made
    cases made
    exact ⟨distinct, keys⟩
  | some path =>
    rw [has] at made
    dsimp only at made
    cases read : (s.decoding path).read b.2 with
    | error e =>
      rw [read] at made
      cases made
    | ok v =>
      rw [read] at made
      cases made
      refine ⟨placeDistinct distinct v, fun key mem => ?_⟩
      rcases placeKeys mem with head | old
      · exact pathSmall has small head
      · exact keys key old

theorem foldFormed (small : SmallKeys vars) (made : vars.foldlM s.put t = .ok u)
    (distinct : Distinct t) (keys : SmallKeys t) : Distinct u ∧ SmallKeys u := by
  induction vars generalizing t with
  | nil =>
    cases made
    exact ⟨distinct, keys⟩
  | cons b rest ih =>
    obtain ⟨here, later⟩ := List.forall_mem_cons.mp small
    obtain ⟨t', first, made⟩ := Except.bindOk.mp made
    obtain ⟨distinct, keys⟩ := putFormed here first distinct keys
    exact ih later made distinct keys

theorem nestedFormed (small : SmallKeys vars) (made : s.nested vars = .ok u) :
    Distinct u ∧ SmallKeys u := by
  rw [nestedFolds] at made
  exact foldFormed small made List.nodup_nil (by simp [SmallKeys])

theorem keysFirm (s : Section) : ∀ k ∈ s.keys, ∀ c ∈ k.1.toList, Text.Casing.Firm c := by
  cases s <;> simp [keys, Text.Casing.Firm]

theorem canonicalSmall (s : Section) {key : String}
    (small : ∀ c ∈ key.toList, Text.Casing.Small c) : s.canonical key = key := by
  unfold canonical
  cases found : s.keys.find? fun k => k.1 = Text.lower key with
  | none => rfl
  | some k =>
    have same : k.1 = Text.lower key := by simpa using List.find?_some found
    have firm := s.keysFirm k (List.mem_of_find?_eq_some found)
    exact (Text.lowerFirm small firm same.symm).symm

theorem canonicalEntriesSame (s : Section) (distinct : Distinct t) (small : SmallKeys t) :
    s.canonicalEntries t = t := by
  have same : (t.map fun e => (s.canonical e.1, e.2)) = t := by
    refine (List.map_congr_left fun e mem => ?_).trans (List.map_id t)
    rw [s.canonicalSmall (small e.1 (List.mem_map_of_mem mem))]
    rfl
  cases s with
  | plugins => rfl
  | _ => exact (congrArg Table.ofEntries same).trans (Table.ofDistinct distinct)

def table? (t : Entries) : Option Value := if t.isEmpty then none else some (.table t)

theorem ofVariablesOpen (lowered : Lowered vars)
    (partial' : Table.get? s.variableName vars = none) :
    s.ofVariables vars = (s.nested vars).map table? := by
  unfold ofVariables
  rw [partial']
  cases made : s.nested vars with
  | error e => rfl
  | ok t =>
    obtain ⟨distinct, small⟩ := nestedFormed lowered.small made
    dsimp only [bind, Except.bind]
    rw [s.canonicalEntriesSame distinct small]
    rfl

theorem nestedForeign {l : Scalar} (other : s ≠ l.home) (vars : Variables) :
    s.nested (without l.variableName vars) = s.nested vars := by
  rw [nestedFolds, nestedFolds]
  generalize ([] : Entries) = t
  induction vars generalizing t with
  | nil => rfl
  | cons b rest ih =>
    rw [Table.withoutCons, List.foldlM_cons]
    by_cases own : b.1 = l.variableName
    · have skipped : s.put t b = .ok t := by rw [put, own, l.pathForeign s other]
      rw [if_pos own, skipped, ih]
      rfl
    · rw [if_neg own, List.foldlM_cons]
      exact congrArg (s.put t b >>= ·) (funext ih)

theorem ofVariablesForeign {l : Scalar} (other : s ≠ l.home) (vars : Variables) :
    s.ofVariables (without l.variableName vars) = s.ofVariables vars := by
  have whole : Table.get? s.variableName (without l.variableName vars) =
      Table.get? s.variableName vars :=
    Table.getWithout (by cases l <;> cases s <;> decide) vars
  unfold ofVariables
  rw [whole, nestedForeign other]

end Section

def gather (f : Section → Option Value) : Entries :=
  Section.all.filterMap fun s => (f s).map fun v => (s.name, v)

theorem getGather (f : Section → Option Value) (s : Section) :
    Table.get? s.name (gather f) = f s := by
  unfold gather Section.all
  cases s <;>
    cases engine : f .engine <;> cases driver : f .driver <;> cases logging : f .logging <;>
      cases plugins : f .plugins <;> simp [engine, driver, logging, plugins, Table.get?, Section.name]

theorem gatherDistinct (f : Section → Option Value) : Distinct (gather f) := by
  unfold gather Section.all Distinct
  cases engine : f .engine <;> cases driver : f .driver <;> cases logging : f .logging <;>
    cases plugins : f .plugins <;> simp [engine, driver, logging, plugins, Section.name]

theorem layerSource {vars : Variables} {t : Entries} : vars.layer = .ok t ↔
    ∃ f : Section → Option Value, (∀ s : Section, s.ofVariables vars = .ok (f s)) ∧
      t = gather f := by
  have member (s : Section) : s ∈ Section.all := by cases s <;> decide
  have gathered {f : Section → Option Value} (reads : ∀ s : Section, s.ofVariables vars = .ok (f s)) :
      vars.layer = .ok (gather f) := by
    have each (s : Section) (_ : s ∈ Section.all) :
        (do return (← s.ofVariables vars).map fun v => (s.name, v)) =
          Except.ok ((f s).map fun v => (s.name, v)) := by
      rw [reads s]
      rfl
    unfold Variables.layer
    rw [Except.mapMOk each, gather, ← Function.id_comp fun s => (f s).map fun v => (s.name, v),
      ← List.filterMap_map]
    rfl
  constructor
  · intro made
    have all (s : Section) : ∃ v, s.ofVariables vars = .ok v := by
      obtain ⟨found, read, -⟩ := Except.bindOk.mp made
      obtain ⟨named, read⟩ := Except.mapMParts read s (member s)
      obtain ⟨v, read, -⟩ := Except.bindOk.mp read
      exact ⟨v, read⟩
    choose f reads using all
    exact ⟨f, reads, Except.ok.inj (made.symm.trans (gathered reads))⟩
  · rintro ⟨f, reads, rfl⟩
    exact gathered reads

theorem insideGather {f : Section → Option Value} {s : Section} {u : Entries}
    (table : f s = Section.table? u) : Tabular s (gather f) ∧ inside s (gather f) = u := by
  have found := (getGather f s).trans table
  unfold Section.table? at found
  split at found
  · next empty => exact ⟨.inl found, (insideNone found).trans (List.isEmpty_iff.mp empty).symm⟩
  · exact ⟨.inr ⟨u, found⟩, insideTable found⟩

namespace Scalar

/-- Variables of which only the one named after the setting has to do with it: none stands for the
whole section, and none goes on below the setting. -/
structure Plain (l : Scalar) (vars : Variables) : Prop where
  opened : Table.get? l.home.variableName vars = none
  shallow : l.Shallow vars

variable {l : Scalar} {vars vars' : Variables} {t : Entries} (lowered : Lowered vars)
include lowered

theorem layerReads (plain : l.Plain vars) (made : vars.layer = .ok t) :
    Layered l.home t ∧ l.said t = (Table.get? l.variableName vars).map textOf := by
  obtain ⟨f, reads, rfl⟩ := layerSource.mp made
  have home := reads l.home
  rw [Section.ofVariablesOpen lowered plain.opened] at home
  cases nested : l.home.nested vars with
  | error e =>
    rw [nested] at home
    cases home
  | ok u =>
    rw [nested] at home
    obtain ⟨tabular, same⟩ := insideGather (Except.ok.inj home).symm
    refine ⟨⟨gatherDistinct f, tabular, ?_⟩, ?_⟩
    · rw [same]
      exact (Section.nestedFormed lowered.small nested).1
    · rw [nestedFolds] at nested
      rw [said, same, foldSaid plain.shallow lowered.distinct nested]
      exact Option.or_none

theorem layerFollows (lowered' : Lowered vars') (plain : l.Plain vars) (plain' : l.Plain vars')
    (same : without l.variableName vars = without l.variableName vars')
    (made : vars.layer = .ok t) : ∃ t', vars'.layer = .ok t' ∧ l.Beside t t' := by
  obtain ⟨f, reads, rfl⟩ := layerSource.mp made
  have home := reads l.home
  rw [Section.ofVariablesOpen lowered plain.opened] at home
  have folded := foldWithout plain.shallow []
  rw [same, foldWithout plain'.shallow [], ← nestedFolds, ← nestedFolds] at folded
  cases nested : l.home.nested vars with
  | error e =>
    rw [nested] at home
    cases home
  | ok u =>
    rw [nested] at home folded
    cases nested' : l.home.nested vars' with
    | error e =>
      rw [nested'] at folded
      cases folded
    | ok u' =>
      rw [nested'] at folded
      have beside : without l.key u' = without l.key u := Except.ok.inj folded
      -- The home section is read anew; the others do not see the setting's variable.
      let f' (s : Section) : Option Value := if s = l.home then Section.table? u' else f s
      have reads' (s : Section) : s.ofVariables vars' = .ok (f' s) := by
        by_cases own : s = l.home
        · rw [own, Section.ofVariablesOpen lowered' plain'.opened, nested']
          exact congrArg Except.ok (if_pos rfl).symm
        · rw [← Section.ofVariablesForeign own vars', ← same, Section.ofVariablesForeign own, reads]
          exact congrArg Except.ok (if_neg own).symm
      refine ⟨gather f', layerSource.mpr ⟨f', reads', rfl⟩, ?_, ?_⟩
      · intro s other
        rw [getGather, getGather]
        exact (if_neg other).symm
      · rw [(insideGather (Except.ok.inj home).symm).2,
          (insideGather (f := f') (if_pos rfl)).2, beside]

end Scalar
end ContainerDriver.Settings
