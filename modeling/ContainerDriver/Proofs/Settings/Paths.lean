import ContainerDriver.Proofs.Table
import ContainerDriver.Settings.Variables

/-! Paths in names of variables. A name is its prefix and the parts of its path with two underscores
between them, and nothing is put anywhere but below the first part. -/
namespace ContainerDriver.Settings

open Table (Distinct without)

theorem afterSome {start s : String} {rest : List Char} :
    after? start s = some rest ↔ s.toList = start.toList ++ rest := by
  unfold after?
  constructor
  · intro found
    split at found
    · next starts =>
      obtain ⟨more, same⟩ := List.isPrefixOf_iff_prefix.mp starts
      rw [← same, ← String.length_toList, List.drop_left] at found
      rw [← same, Option.some.inj found]
    · cases found
  · intro same
    rw [if_pos (List.isPrefixOf_iff_prefix.mpr ⟨rest, same.symm⟩), same, ← String.length_toList,
      List.drop_left]

theorem afterNone {start s : String} : after? start s = none ↔ ¬ start.toList <+: s.toList := by
  rw [← Option.not_isSome_iff_eq_none, Option.isSome_iff_exists]
  simp only [afterSome]
  exact not_congr (exists_congr fun _ => eq_comm)

theorem splitPathNeNil (cs : List Char) : splitPath cs ≠ [] := by
  fun_induction splitPath cs <;> simp

theorem splitPathJoins (cs : List Char) : ['_', '_'].intercalate (splitPath cs) = cs := by
  fun_induction splitPath cs with
  | case1 rest ih =>
    obtain ⟨part, parts, some'⟩ := List.exists_cons_of_ne_nil (splitPathNeNil rest)
    rw [some', List.intercalate_cons_cons, ← some', ih]
    rfl
  | case2 c rest _ none _ => exact absurd none (splitPathNeNil rest)
  | case3 c rest _ part parts some' ih =>
    rw [some'] at ih
    cases parts with
    | nil =>
      rw [List.intercalate_singleton] at ih ⊢
      rw [ih]
    | cons next parts =>
      rw [List.intercalate_cons_cons] at ih ⊢
      rw [List.cons_append, List.cons_append, ih]
  | case4 => rfl

theorem splitPathOne {cs part : List Char} (one : splitPath cs = [part]) : cs = part := by
  rw [← splitPathJoins cs, one, List.intercalate_singleton]

theorem splitPathMore {cs part next : List Char} {parts : List (List Char)}
    (more : splitPath cs = part :: next :: parts) : part ++ ['_', '_'] <+: cs := by
  have joined := splitPathJoins cs
  rw [more, List.intercalate_cons_cons] at joined
  exact ⟨_, joined⟩

theorem splitPathHead (cs : List Char) : ∀ part ∈ (splitPath cs).head?, part <+: cs := by
  intro part first
  obtain ⟨more, same⟩ := List.head?_eq_some_iff.mp first
  cases more with
  | nil => exact splitPathOne same ▸ List.prefix_refl part
  | cons next more => exact (List.prefix_append part _).trans (splitPathMore same)

def placed (v : Value) : List String → Option Value → Option Value
  | [], _ => some v
  | path, none => some (.table (place v path []))
  | path, some (.table inner) => some (.table (place v path inner))
  | _, some _ => none

theorem placeSets (v : Value) (h : String) (path : List String) (t : Entries) :
    place v (h :: path) t =
      ((placed v path (Table.get? h t)).map fun below => Table.set h below t).getD t := by
  cases path with
  | nil => rfl
  | cons next path =>
    rw [place]
    · cases Table.get? h t with
      | none => rfl
      | some below => cases below <;> rfl
    · simp

section

variable {k : String} {path : List String}

theorem placeElsewhere (elsewhere : path.head? ≠ some k) (v : Value) (t : Entries) :
    without k (place v path t) = place v path (without k t) ∧
    Table.get? k (place v path t) = Table.get? k t := by
  cases path with
  | nil => exact ⟨rfl, rfl⟩
  | cons h path =>
    have other : k ≠ h := fun same => elsewhere (congrArg some same.symm)
    rw [placeSets, placeSets, Table.getWithout other]
    cases placed v path (Table.get? h t) with
    | none => exact ⟨rfl, rfl⟩
    | some below =>
      exact ⟨Table.setWithoutOther other below t, (Table.getSet t h k below).trans (if_neg other.symm)⟩

theorem placeDistinct {t : Entries} (distinct : Distinct t) (v : Value) :
    Distinct (place v path t) := by
  cases path with
  | nil => exact distinct
  | cons h path =>
    rw [placeSets]
    cases placed v path (Table.get? h t) with
    | none => exact distinct
    | some below => exact distinct.set h below

theorem placeKeys {t : Entries} {v : Value} {key : String}
    (mem : key ∈ (place v path t).map Prod.fst) :
    path.head? = some key ∨ key ∈ t.map Prod.fst := by
  cases path with
  | nil => exact .inr mem
  | cons h path =>
    rw [placeSets] at mem
    cases below : placed v path (Table.get? h t) with
    | none =>
      rw [below] at mem
      exact .inr mem
    | some v' =>
      rw [below, Option.map_some, Option.getD_some, Table.keysSet] at mem
      split at mem
      · exact .inr mem
      · rcases List.mem_append.mp mem with old | new
        · exact .inr old
        · exact .inl (congrArg some (List.mem_singleton.mp new).symm)

end

end ContainerDriver.Settings
