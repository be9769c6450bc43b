/-
# Table — finite maps

A `Table` is the list of its bindings.  `insert` drops what the key was bound to
before, so a lookup reads the value written last and a key is bound at most once
in a table built by `insert` and `erase`.

The view of a table is `find?`: every operation is described by what it does to
`find?` (`find?_insert`, `find?_erase`), and no later proof looks at the list.
-/
namespace ShaderBundle

set_option autoImplicit false

/-- A finite map from `κ` to `ν`. -/
structure Table (κ ν : Type) where
  entries : List (κ × ν)
deriving DecidableEq

namespace Table

variable {κ ν : Type} [DecidableEq κ]

def empty : Table κ ν := ⟨[]⟩

instance : Inhabited (Table κ ν) := ⟨empty⟩

def find? (t : Table κ ν) (k : κ) : Option ν :=
  (t.entries.find? fun e => e.1 = k).map (·.2)

def contains (t : Table κ ν) (k : κ) : Bool := (t.find? k).isSome

/-- The table without the binding of a key. -/
def erase (t : Table κ ν) (k : κ) : Table κ ν := ⟨t.entries.filter fun e => e.1 ≠ k⟩

/-- Binds a key; the value written last wins. -/
def insert (t : Table κ ν) (k : κ) (v : ν) : Table κ ν := ⟨(k, v) :: (t.erase k).entries⟩

/-- Binds the pairs of a list in order, so of two pairs with one key the later wins. -/
def ofList (es : List (κ × ν)) : Table κ ν := es.foldl (fun t e => t.insert e.1 e.2) empty

def keys (t : Table κ ν) : List κ := t.entries.map (·.1)

@[simp] theorem find?_empty (k : κ) : (empty : Table κ ν).find? k = none := rfl

theorem mem_keys_of_find?_eq_some {t : Table κ ν} {k : κ} {v : ν} (found : t.find? k = some v) :
    k ∈ t.keys := by
  obtain ⟨e, first, -⟩ := Option.map_eq_some_iff.mp found
  have own : e.1 = k := by simpa using List.find?_some first
  exact own ▸ List.mem_map_of_mem (List.mem_of_find?_eq_some first)

theorem ofList_concat (es : List (κ × ν)) (e : κ × ν) :
    ofList (es ++ [e]) = (ofList es).insert e.1 e.2 := by
  simp [ofList]

theorem find?_erase (t : Table κ ν) (k j : κ) :
    (t.erase k).find? j = if j = k then none else t.find? j := by
  obtain ⟨es⟩ := t
  simp only [find?, erase]
  induction es with
  | nil => simp
  | cons e es ih =>
    by_cases hk : e.1 = k
    · simp only [hk, ne_eq, not_true_eq_false, decide_false, Bool.false_eq_true,
        not_false_eq_true, List.filter_cons_of_neg, ih]
      by_cases hj : j = k
      · simp [hj]
      · have : ¬ e.1 = j := fun h => hj (by rw [← h, hk])
        simp [hj, this]
    · by_cases hej : e.1 = j
      · have hjk : ¬ j = k := fun h => hk (by rw [hej, h])
        simp [hej, hjk]
      · simp only [ne_eq, hk, not_false_eq_true, decide_true, List.filter_cons_of_pos,
          List.find?_cons, hej, decide_false, ih]

@[simp] theorem find?_insert (t : Table κ ν) (k j : κ) (v : ν) :
    (t.insert k v).find? j = if j = k then some v else t.find? j := by
  by_cases h : j = k
  · simp [insert, find?, h]
  · have hk : ¬ k = j := fun e => h e.symm
    have := find?_erase t k j
    simp only [if_neg h] at this ⊢
    rw [← this]
    simp [insert, find?, hk]

theorem contains_insert (t : Table κ ν) (k j : κ) (v : ν) :
    (t.insert k v).contains j = (decide (j = k) || t.contains j) := by
  by_cases h : j = k <;> simp [contains, h]

end Table

end ShaderBundle
