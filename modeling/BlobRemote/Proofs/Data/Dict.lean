import Mathlib
import BlobRemote.Data.Dict

/-!
# What a dictionary holds

A dictionary is looked up by key, written out as a list of pairs, sorted, and read back. The
statements here connect these views: a value is found under a key exactly if the pair is in the list
(`BlobRemote.Dict.find_eq_some_iff`), so the order of the pairs does not matter to a look-up, and a
dictionary that is sorted, listed and filed again holds what it held
(`BlobRemote.Dict.get?_ofList_sorted`).
-/

namespace BlobRemote

namespace Dict

variable {κ ν : Type} [DecidableEq κ]

/-- **A value is found exactly if its pair is there.** -/
theorem find_eq_some_iff {k : κ} {v : ν} {l : List (κ × ν)} (h : (l.map Prod.fst).Nodup) :
    find k l = some v ↔ (k, v) ∈ l := by
  induction l with
  | nil => simp [find]
  | cons p rest ih =>
    obtain ⟨a, w⟩ := p
    rw [List.map_cons, List.nodup_cons] at h
    rw [find]
    split
    · next ha =>
      subst ha
      have hn : (a, v) ∉ rest := fun hm => h.1 (List.mem_map.2 ⟨(a, v), hm, rfl⟩)
      simp [hn, eq_comm]
    · next ha =>
      rw [ih h.2]
      simp [Ne.symm ha]

theorem mem_keys_iff {d : Dict κ ν} {k : κ} : k ∈ d.keys ↔ d.get? k ≠ none := by
  rw [keys, get?, Ne, find_eq_none_iff, not_not]

theorem find_perm {l l' : List (κ × ν)} (hp : l.Perm l') (h : (l.map Prod.fst).Nodup) (k : κ) :
    find k l = find k l' := by
  have h' : (l'.map Prod.fst).Nodup := (hp.map Prod.fst).nodup_iff.1 h
  refine Option.ext fun v => ?_
  rw [find_eq_some_iff h, find_eq_some_iff h']
  exact hp.mem_iff

/-- Values that are changed one by one are found changed. -/
theorem find_map {μ : Type} (f : κ × ν → μ) (l : List (κ × ν)) (k : κ) :
    find k (l.map fun p => (p.1, f p)) = (find k l).map fun v => f (k, v) := by
  induction l with
  | nil => rfl
  | cons p rest ih =>
    obtain ⟨a, w⟩ := p
    rw [List.map_cons, find, find, ih]
    split
    · next ha =>
      obtain rfl : a = k := ha
      rfl
    · rfl

theorem get?_ofList {pairs : List (κ × ν)} (h : (pairs.map Prod.fst).Nodup) (k : κ) :
    (ofList pairs).get? k = find k pairs := by
  rw [ofList, get?_insertMany_of_nodup h, get?_empty, Option.or_none]

section Sorted

variable [LT κ] [DecidableLT κ]

omit [DecidableEq κ] in
theorem nodup_sorted (d : Dict κ ν) : (d.sorted.map Prod.fst).Nodup := d.sort.nodup

/-- **Sorting does not change a look-up.** -/
@[simp] theorem get?_sort (d : Dict κ ν) (k : κ) : d.sort.get? k = d.get? k :=
  find_perm d.sorted_perm d.nodup_sorted k

theorem mem_sorted_iff {d : Dict κ ν} {p : κ × ν} : p ∈ d.sorted ↔ d.get? p.1 = some p.2 := by
  rw [← get?_sort]
  exact (find_eq_some_iff d.nodup_sorted).symm

/-- **Listing the pairs in ascending order and filing them again** does not change a look-up. -/
theorem get?_ofList_sorted (d : Dict κ ν) (k : κ) : (ofList d.sorted).get? k = d.get? k := by
  rw [get?_ofList d.nodup_sorted]
  exact get?_sort d k

end Sorted

/-- **A dictionary that is sorted** has its keys in strictly ascending order. -/
theorem pairwise_keys_sort {ν : Type} (d : Dict (List UInt8) ν) :
    d.sort.keys.Pairwise (· < ·) := by
  have hle : d.sorted.Pairwise fun p q => ¬ q.1 < p.1 := by
    refine (List.pairwise_mergeSort ?_ ?_ d.entries).imp of_decide_eq_true
    · intro p q r hpq hqr
      have htrans : ¬ r.1 < p.1 := List.le_trans (of_decide_eq_true hpq) (of_decide_eq_true hqr)
      exact decide_eq_true htrans
    · intro p q
      rw [Bool.or_eq_true, decide_eq_true_iff, decide_eq_true_iff]
      exact List.le_total p.1 q.1
  have hne : d.sorted.Pairwise fun p q => p.1 ≠ q.1 := List.pairwise_map.1 d.nodup_sorted
  refine List.pairwise_map.2 ((hle.and hne).imp ?_)
  rintro p q ⟨hpq, hpq'⟩
  rcases List.le_iff_lt_or_eq.1 hpq with h | h
  · exact h
  · exact absurd h hpq'

end Dict

end BlobRemote
