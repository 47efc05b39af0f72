/-!
# Dictionaries in order of insertion

Manifests, reference maps and stores file values under keys. `BlobRemote.Dict` is a list of pairs in
which every key occurs once. A new key goes to the end, a key that is there keeps its place. The
view of a dictionary is the look-up function `BlobRemote.Dict.get?`, and each operation says in one
lemma what it does to that view.
-/

namespace BlobRemote

/-- A list of pairs with distinct keys. -/
structure Dict (κ ν : Type) where
  /-- The pairs, the first inserted first. -/
  entries : List (κ × ν)
  /-- Every key occurs once. -/
  nodup : (entries.map Prod.fst).Nodup

namespace Dict

variable {κ ν : Type} [DecidableEq κ]

/-- The dictionary without pairs. -/
def empty : Dict κ ν := ⟨[], List.nodup_nil⟩

instance : EmptyCollection (Dict κ ν) := ⟨empty⟩

instance : Inhabited (Dict κ ν) := ⟨empty⟩

/-- The keys, in order of insertion. -/
def keys (d : Dict κ ν) : List κ := d.entries.map Prod.fst

/-- The number of pairs. -/
def size (d : Dict κ ν) : Nat := d.entries.length

/-- What a list of pairs files under a key. -/
def find (k : κ) : List (κ × ν) → Option ν
  | [] => none
  | (a, v) :: rest => if a = k then some v else find k rest

/-- What is filed under a key. -/
def get? (d : Dict κ ν) (k : κ) : Option ν := find k d.entries

/-- Whether a key is there. -/
def contains (d : Dict κ ν) (k : κ) : Bool := (d.get? k).isSome

/-! ### Filing a value -/

/-- The pairs with a value filed under `k`, in the place of the old one if there is one. -/
def put (k : κ) (v : ν) : List (κ × ν) → List (κ × ν)
  | [] => [(k, v)]
  | (a, w) :: rest => if a = k then (a, v) :: rest else (a, w) :: put k v rest

theorem find_put (k a : κ) (v : ν) (l : List (κ × ν)) :
    find a (put k v l) = if k = a then some v else find a l := by
  induction l with
  | nil => rfl
  | cons p rest ih =>
    obtain ⟨b, w⟩ := p
    rw [put]
    split
    · next h => subst h; by_cases h : b = a <;> simp [find, h]
    · next h => by_cases hb : b = a <;> by_cases hk : k = a <;> simp_all [find]

theorem mem_keys_put {k a : κ} {v : ν} {l : List (κ × ν)} (h : a ∈ (put k v l).map Prod.fst) :
    a = k ∨ a ∈ l.map Prod.fst := by
  induction l with
  | nil => simpa [put] using h
  | cons p rest ih =>
    obtain ⟨b, w⟩ := p
    rw [put] at h
    split at h
    · next hb => exact Or.inr (by simpa using h)
    · next hb =>
      rw [List.map_cons, List.mem_cons] at h
      rcases h with h | h
      · exact Or.inr (by simp [h])
      · exact (ih h).imp id fun h => by simp [h]

theorem nodup_put {k : κ} {v : ν} {l : List (κ × ν)} (h : (l.map Prod.fst).Nodup) :
    ((put k v l).map Prod.fst).Nodup := by
  induction l with
  | nil => simp [put]
  | cons p rest ih =>
    obtain ⟨b, w⟩ := p
    rw [List.map_cons, List.nodup_cons] at h
    rw [put]
    split
    · rw [List.map_cons, List.nodup_cons]
      exact h
    · next hb =>
      rw [List.map_cons, List.nodup_cons]
      refine ⟨fun hm => ?_, ih h.2⟩
      rcases mem_keys_put hm with hm | hm
      · exact hb hm
      · exact h.1 hm

/-- The dictionary with a value filed under `k`. -/
def insert (d : Dict κ ν) (k : κ) (v : ν) : Dict κ ν := ⟨put k v d.entries, nodup_put d.nodup⟩

/-- **Filing a value** changes the look-up of its key only. -/
theorem get?_insert (d : Dict κ ν) (k a : κ) (v : ν) :
    (d.insert k v).get? a = if k = a then some v else d.get? a :=
  find_put k a v d.entries

/-! ### Removing a key -/

theorem find_filter (k a : κ) (l : List (κ × ν)) :
    find a (l.filter fun p => p.1 ≠ k) = if k = a then none else find a l := by
  induction l with
  | nil => simp [find]
  | cons p rest ih =>
    obtain ⟨b, w⟩ := p
    by_cases hb : b = k
    · subst hb
      rw [List.filter_cons_of_neg (by simp), ih]
      by_cases ha : b = a <;> simp [find, ha]
    · rw [List.filter_cons_of_pos (by simpa using hb), find, ih]
      by_cases ha : b = a
      · subst ha
        simp [find, Ne.symm hb]
      · simp [find, ha]

/-- The dictionary without the key `k`. -/
def erase (d : Dict κ ν) (k : κ) : Dict κ ν :=
  ⟨d.entries.filter fun p => p.1 ≠ k, d.nodup.sublist (List.filter_sublist.map _)⟩

/-- **Removing a key** changes its look-up only. -/
theorem get?_erase (d : Dict κ ν) (k a : κ) :
    (d.erase k).get? a = if k = a then none else d.get? a :=
  find_filter k a d.entries

/-! ### Many pairs at once -/

/-- The dictionary with the pairs of a list filed one after another: a later pair wins. -/
def insertMany (d : Dict κ ν) (pairs : List (κ × ν)) : Dict κ ν :=
  pairs.foldl (fun d p => d.insert p.1 p.2) d

/-- The dictionary of a list of pairs, in which a later pair wins. -/
def ofList (pairs : List (κ × ν)) : Dict κ ν := empty.insertMany pairs

/-- The dictionary overlaid with another one. -/
def overlay (d other : Dict κ ν) : Dict κ ν := d.insertMany other.entries

@[simp] theorem get?_empty (k : κ) : (empty : Dict κ ν).get? k = none := rfl

theorem find_eq_none_iff {k : κ} {l : List (κ × ν)} : find k l = none ↔ k ∉ l.map Prod.fst := by
  induction l with
  | nil => simp [find]
  | cons p rest ih =>
    obtain ⟨b, w⟩ := p
    by_cases hb : b = k
    · simp [find, hb]
    · simp [find, hb, ih, Ne.symm hb]

/-- **Filing pairs with distinct keys**: a look-up finds the new pair, or else the old one. -/
theorem get?_insertMany_of_nodup {pairs : List (κ × ν)} (h : (pairs.map Prod.fst).Nodup)
    (d : Dict κ ν) (k : κ) : (d.insertMany pairs).get? k = (find k pairs).or (d.get? k) := by
  induction pairs generalizing d with
  | nil => rfl
  | cons p rest ih =>
    obtain ⟨b, w⟩ := p
    rw [List.map_cons, List.nodup_cons] at h
    have step : (d.insertMany ((b, w) :: rest)) = (d.insert b w).insertMany rest := rfl
    rw [step, ih h.2, get?_insert]
    by_cases hb : b = k
    · subst hb
      have : find b rest = none := find_eq_none_iff.2 h.1
      simp [this, find]
    · simp [find, hb]

/-- **Overlaying**: a look-up asks the upper dictionary first. -/
theorem get?_overlay (d other : Dict κ ν) (k : κ) :
    (d.overlay other).get? k = (other.get? k).or (d.get? k) :=
  get?_insertMany_of_nodup other.nodup d k

/-! ### Ascending order -/

/-- The pairs in ascending order of their keys. -/
def sorted [LT κ] [DecidableLT κ] (d : Dict κ ν) : List (κ × ν) :=
  d.entries.mergeSort fun p q => decide (¬ q.1 < p.1)

omit [DecidableEq κ] in
/-- **Sorting keeps the pairs.** -/
theorem sorted_perm [LT κ] [DecidableLT κ] (d : Dict κ ν) : d.sorted.Perm d.entries :=
  List.mergeSort_perm _ _

/-- The dictionary of the same pairs in ascending order. -/
def sort [LT κ] [DecidableLT κ] (d : Dict κ ν) : Dict κ ν :=
  ⟨d.sorted, (d.sorted_perm.map Prod.fst).nodup_iff.2 d.nodup⟩

end Dict

end BlobRemote
