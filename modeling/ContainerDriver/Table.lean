/-! Ordered tables as lists of entries. A later entry of a key replaces the value and keeps the
first position; a look-up finds the first entry. -/
namespace ContainerDriver.Table

variable {κ α : Type} [DecidableEq κ]

def set (k : κ) (v : α) : List (κ × α) → List (κ × α)
  | [] => [(k, v)]
  | (k', v') :: rest => if k' = k then (k, v) :: rest else (k', v') :: set k v rest

def overlay (lower upper : List (κ × α)) : List (κ × α) :=
  upper.foldl (fun t e => set e.1 e.2 t) lower

def ofEntries (entries : List (κ × α)) : List (κ × α) := overlay [] entries

def get? (k : κ) : List (κ × α) → Option α
  | [] => none
  | (k', v) :: rest => if k' = k then some v else get? k rest

def has (k : κ) (t : List (κ × α)) : Bool := (get? k t).isSome

theorem getSet (t : List (κ × α)) (k k' : κ) (v : α) :
    get? k' (set k v t) = if k = k' then some v else get? k' t := by
  induction t with
  | nil => simp [set, get?]
  | cons e rest ih =>
    by_cases h : e.1 = k
    · by_cases h' : k = k' <;> simp [set, get?, h, h']
    · by_cases h' : e.1 = k'
      · subst h'
        simp [set, get?, h, Ne.symm h]
      · simp [set, get?, h, h', ih]

theorem getAbsent {t : List (κ × α)} {k : κ} (absent : ∀ e ∈ t, e.1 ≠ k) : get? k t = none := by
  induction t with
  | nil => rfl
  | cons e rest ih =>
    have head : e.1 ≠ k := absent e List.mem_cons_self
    rw [get?, if_neg head, ih fun e mem => absent e (List.mem_cons_of_mem _ mem)]

end ContainerDriver.Table
