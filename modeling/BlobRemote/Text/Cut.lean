/-!
# Cutting a list at a mark

Keys are cut at slashes, property files and reference files at line feeds, URLs at `@`, `:`, `?` and
`#`. All of these are the same three cuts of a list at an element: at every occurrence
(`BlobRemote.Cut.fields`), at the first one (`BlobRemote.Cut.atFirst`) and at the last one
(`BlobRemote.Cut.atLast`). They are written over `List`, so that they serve characters and bytes
alike, and each one says in a lemma how its pieces make up the list again.
-/

namespace BlobRemote

namespace Cut

variable {α : Type} [DecidableEq α]

/-! ### At every occurrence -/

/-- The pieces between the occurrences of `a`, empty ones included: one more than there are
occurrences. -/
def fields (a : α) : List α → List (List α)
  | [] => [[]]
  | x :: xs =>
    if x = a then [] :: fields a xs
    else
      match fields a xs with
      | [] => [[x]]
      | f :: fs => (x :: f) :: fs

theorem fields_ne_nil (a : α) (l : List α) : fields a l ≠ [] := by
  cases l with
  | nil => simp [fields]
  | cons x xs =>
    rw [fields]
    split
    · simp
    · split <;> simp

theorem fields_cons_eq (a : α) (l : List α) : fields a (a :: l) = [] :: fields a l := by
  simp [fields]

/-- **A piece holds no mark**: a list without the mark is a single piece. -/
theorem fields_eq_singleton {a : α} {l : List α} (h : a ∉ l) : fields a l = [l] := by
  induction l with
  | nil => rfl
  | cons x xs ih =>
    simp only [List.mem_cons, not_or] at h
    rw [fields, if_neg (Ne.symm h.1), ih h.2]

/-- **Cutting an appended list**: up to the first mark the pieces are those of the two parts. -/
theorem fields_append_cons {a : α} {l : List α} (h : a ∉ l) (r : List α) :
    fields a (l ++ a :: r) = l :: fields a r := by
  induction l with
  | nil => exact fields_cons_eq a r
  | cons x xs ih =>
    simp only [List.mem_cons, not_or] at h
    rw [List.cons_append, fields, if_neg (Ne.symm h.1), ih h.2]

/-- **The pieces make up the list again**, with a mark between any two of them. -/
theorem intercalate_fields (a : α) (l : List α) : [a].intercalate (fields a l) = l := by
  have hcons : ∀ (f : List α) (fs : List (List α)), fs ≠ [] →
      [a].intercalate (f :: fs) = f ++ a :: [a].intercalate fs := by
    intro f fs hfs
    cases fs with
    | nil => exact absurd rfl hfs
    | cons g gs => simp [List.intercalate]
  induction l with
  | nil => rfl
  | cons x xs ih =>
    rw [fields]
    split
    · next hx => rw [hcons _ _ (fields_ne_nil a xs), ih, hx, List.nil_append]
    · split
      · next hnil => exact absurd hnil (fields_ne_nil a xs)
      · next f fs hfs =>
        rw [hfs] at ih
        rw [← ih]
        cases fs with
        | nil => simp [List.intercalate]
        | cons g gs => rw [hcons _ _ (List.cons_ne_nil g gs), hcons _ _ (List.cons_ne_nil g gs)]; rfl

/-- **No piece holds the mark.** -/
theorem notMem_of_mem_fields {a : α} {l f : List α} (h : f ∈ fields a l) : a ∉ f := by
  induction l generalizing f with
  | nil => simp_all [fields]
  | cons x xs ih =>
    rw [fields] at h
    split at h
    · rcases List.mem_cons.1 h with rfl | h
      · exact List.not_mem_nil
      · exact ih h
    · next hx =>
      split at h
      · next hnil => exact absurd hnil (fields_ne_nil a xs)
      · next g gs hfs =>
        rw [hfs] at ih
        rcases List.mem_cons.1 h with rfl | h
        · rw [List.mem_cons, not_or]
          exact ⟨Ne.symm hx, ih List.mem_cons_self⟩
        · exact ih (List.mem_cons_of_mem g h)

/-- **Two pieces** are what stands on the two sides of the only mark. -/
theorem fields_eq_pair_iff {a : α} {l x y : List α} :
    fields a l = [x, y] ↔ l = x ++ a :: y ∧ a ∉ x ∧ a ∉ y := by
  constructor
  · intro h
    have hl := intercalate_fields a l
    have hx : x ∈ fields a l := by simp [h]
    have hy : y ∈ fields a l := by simp [h]
    rw [h] at hl
    exact ⟨by simpa [List.intercalate] using hl.symm, notMem_of_mem_fields hx,
      notMem_of_mem_fields hy⟩
  · rintro ⟨rfl, hx, hy⟩
    rw [fields_append_cons hx, fields_eq_singleton hy]

/-! ### At the first and at the last occurrence -/

/-- What stands before the first `a` and what stands after it. -/
def atFirst (a : α) : List α → Option (List α × List α)
  | [] => none
  | x :: xs => if x = a then some ([], xs) else (atFirst a xs).map fun p => (x :: p.1, p.2)

/-- What stands before the last `a` and what stands after it. -/
def atLast (a : α) : List α → Option (List α × List α)
  | [] => none
  | x :: xs =>
    match atLast a xs with
    | some p => some (x :: p.1, p.2)
    | none => if x = a then some ([], xs) else none

theorem eq_of_atFirst {a : α} {l b r : List α} (h : atFirst a l = some (b, r)) :
    l = b ++ a :: r ∧ a ∉ b := by
  induction l generalizing b with
  | nil => simp [atFirst] at h
  | cons x xs ih =>
    rw [atFirst] at h
    split at h
    · next hx =>
      simp only [Option.some.injEq, Prod.mk.injEq] at h
      obtain ⟨rfl, rfl⟩ := h
      simp [hx]
    · next hx =>
      obtain ⟨⟨b', r'⟩, hp, he⟩ := Option.map_eq_some_iff.1 h
      simp only [Prod.mk.injEq] at he
      obtain ⟨rfl, rfl⟩ := he
      obtain ⟨rfl, hn⟩ := ih hp
      exact ⟨rfl, by simp [hn, Ne.symm hx]⟩

theorem atFirst_eq_none_iff {a : α} {l : List α} : atFirst a l = none ↔ a ∉ l := by
  induction l with
  | nil => simp [atFirst]
  | cons x xs ih =>
    rw [atFirst]
    split
    · next hx => simp [hx]
    · next hx => simp [ih, Ne.symm hx]

theorem atFirst_append_cons {a : α} {b : List α} (h : a ∉ b) (r : List α) :
    atFirst a (b ++ a :: r) = some (b, r) := by
  induction b with
  | nil => rw [List.nil_append, atFirst, if_pos rfl]
  | cons x xs ih =>
    simp only [List.mem_cons, not_or] at h
    rw [List.cons_append, atFirst, if_neg (Ne.symm h.1), ih h.2]
    rfl

theorem atLast_eq_none_iff {a : α} {l : List α} : atLast a l = none ↔ a ∉ l := by
  induction l with
  | nil => simp [atLast]
  | cons x xs ih =>
    rw [atLast]
    split
    · next p hp =>
      have : a ∈ xs := Decidable.not_not.1 fun hn => by simp [ih.2 hn] at hp
      simp [this]
    · next hp =>
      split
      · next hx => simp [hx]
      · next hx => simp [ih.1 hp, Ne.symm hx]

theorem atLast_append_cons {a : α} {r : List α} (h : a ∉ r) (b : List α) :
    atLast a (b ++ a :: r) = some (b, r) := by
  induction b with
  | nil => rw [List.nil_append, atLast, atLast_eq_none_iff.2 h, if_pos rfl]
  | cons x xs ih => rw [List.cons_append, atLast, ih]

theorem eq_of_atLast {a : α} {l b r : List α} (h : atLast a l = some (b, r)) :
    l = b ++ a :: r ∧ a ∉ r := by
  induction l generalizing b with
  | nil => simp [atLast] at h
  | cons x xs ih =>
    rw [atLast] at h
    split at h
    · next p hp =>
      simp only [Option.some.injEq, Prod.mk.injEq] at h
      obtain ⟨rfl, rfl⟩ := h
      obtain ⟨he, hn⟩ := ih (b := p.1) (by rw [hp])
      exact ⟨by rw [he]; rfl, hn⟩
    · next hp =>
      split at h
      · next hx =>
        simp only [Option.some.injEq, Prod.mk.injEq] at h
        obtain ⟨rfl, rfl⟩ := h
        exact ⟨by simp [hx], atLast_eq_none_iff.1 hp⟩
      · simp at h

end Cut

/-! ### At the end -/

/-- A list without the longest run at its end that satisfies `p`. -/
def dropEndWhile {α : Type} (p : α → Bool) (l : List α) : List α :=
  (l.reverse.dropWhile p).reverse

theorem dropWhile_append_of_all {α : Type} {p : α → Bool} {l r : List α}
    (h : ∀ x ∈ l, p x = true) : (l ++ r).dropWhile p = r.dropWhile p := by
  induction l with
  | nil => rfl
  | cons x xs ih =>
    rw [List.cons_append, List.dropWhile_cons, if_pos (h x (by simp))]
    exact ih fun y hy => h y (by simp [hy])

theorem dropEndWhile_append_of_all {α : Type} {p : α → Bool} {l r : List α}
    (h : ∀ x ∈ r, p x = true) : dropEndWhile p (l ++ r) = dropEndWhile p l := by
  rw [dropEndWhile, dropEndWhile, List.reverse_append,
    dropWhile_append_of_all fun x hx => h x (List.mem_reverse.1 hx)]

/-- **What is dropped at the end** satisfies `p`. -/
theorem exists_append_dropEndWhile {α : Type} (p : α → Bool) (l : List α) :
    ∃ r, (∀ x ∈ r, p x = true) ∧ l = dropEndWhile p l ++ r := by
  refine ⟨(l.reverse.takeWhile p).reverse, fun x hx => ?_, ?_⟩
  · exact List.all_eq_true.1 List.all_takeWhile x (List.mem_reverse.1 hx)
  · rw [dropEndWhile, ← List.reverse_append, List.takeWhile_append_dropWhile, List.reverse_reverse]

/-- **What ends with something else** is not shortened. -/
theorem dropEndWhile_eq_self {α : Type} {p : α → Bool} {l : List α}
    (h : ∀ a, l.getLast? = some a → p a = false) : dropEndWhile p l = l := by
  rw [dropEndWhile]
  cases hrev : l.reverse with
  | nil => rw [List.reverse_eq_nil_iff.1 hrev]; rfl
  | cons a rest =>
    have hlast : l.getLast? = some a := by rw [← List.head?_reverse, hrev]; rfl
    rw [List.dropWhile_cons, h a hlast, if_neg (by decide), ← hrev, List.reverse_reverse]

/-- **The run at the end** begins behind everything that does not belong to it. -/
theorem dropEndWhile_append_cons {α : Type} {p : α → Bool} {a : α} (h : p a = false)
    (l r : List α) : dropEndWhile p (l ++ a :: r) = l ++ a :: dropEndWhile p r := by
  have ha : (a :: l.reverse).dropWhile p = a :: l.reverse := by
    rw [List.dropWhile_cons, if_neg (by simp [h])]
  simp only [dropEndWhile, List.reverse_append, List.reverse_cons, List.append_assoc,
    List.singleton_append, List.dropWhile_append, ha]
  split
  · next hr => simp [List.isEmpty_iff.1 hr]
  · simp

end BlobRemote
