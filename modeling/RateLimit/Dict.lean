import Mathlib

/-!
# Python `dict`s

`_parse_usage_from_comments` returns a `dict` of `dict`s and `check_code_review` sums
over its `values()`. A `dict` is its item list in insertion order, with the keys
distinct as a field of the structure (`PyDict`), so no reachable snapshot repeats a
key. `d[k] = v` (`insert`) replaces the value in place, or appends the item.

The lemmas are the ones the snapshot proofs read a `dict` through: `get?` after an
`insert` (`get?_insert_self`, `get?_insert_ne`), and the sums over `values()`
(`sum_values_of_single`, and `sum_values_congr`: a sum over `values()` depends only on
what `get?` returns).
-/

namespace RateLimit

/-- A Python `dict`: items in insertion order, keys distinct. -/
structure PyDict (κ ν : Type) where
  items : List (κ × ν)
  nodup : (items.map Prod.fst).Nodup

namespace PyDict

variable {κ ν : Type} [DecidableEq κ]

/-- `{}`. -/
instance : EmptyCollection (PyDict κ ν) := ⟨⟨[], List.nodup_nil⟩⟩

/-- `d.get(k)`, `none` for a missing key. -/
def get? (d : PyDict κ ν) (k : κ) : Option ν := d.items.lookup k

/-- `k in d`. -/
def contains (d : PyDict κ ν) (k : κ) : Bool := (d.get? k).isSome

/-- `d.values()`. -/
def values (d : PyDict κ ν) : List ν := d.items.map Prod.snd

/-- `d[k] = v` on the item list: the item of `k` keeps its place, a new key goes last. -/
def setItem (k : κ) (v : ν) : List (κ × ν) → List (κ × ν)
  | [] => [(k, v)]
  | (k', v') :: rest => if k' = k then (k, v) :: rest else (k', v') :: setItem k v rest

/-- `List.lookup` one item at a time, with `=` for `==`. -/
theorem lookup_cons_eq (j k : κ) (w : ν) (rest : List (κ × ν)) :
    ((j, w) :: rest).lookup k = if k = j then some w else rest.lookup k := by
  rw [List.lookup_cons]
  by_cases h : k = j
  · simp [h]
  · simp [h, beq_false_of_ne h]

theorem keys_setItem (k : κ) (v : ν) (items : List (κ × ν)) :
    (setItem k v items).map Prod.fst =
      if k ∈ items.map Prod.fst then items.map Prod.fst else items.map Prod.fst ++ [k] := by
  induction items with
  | nil => simp [setItem]
  | cons item rest ih =>
    obtain ⟨k', v'⟩ := item
    by_cases hk : k' = k
    · simp [setItem, hk]
    · by_cases hr : k ∈ rest.map Prod.fst <;>
        simp_all [setItem, Ne.symm hk]

theorem nodup_setItem (k : κ) (v : ν) {items : List (κ × ν)}
    (h : (items.map Prod.fst).Nodup) : ((setItem k v items).map Prod.fst).Nodup := by
  rw [keys_setItem]
  split
  · exact h
  · rename_i hk
    exact List.Nodup.append h (List.nodup_singleton k) (List.disjoint_singleton.mpr hk)

/-- `d[k] = v`. -/
def insert (d : PyDict κ ν) (k : κ) (v : ν) : PyDict κ ν :=
  ⟨setItem k v d.items, nodup_setItem k v d.nodup⟩

@[simp] theorem get?_empty (k : κ) : (∅ : PyDict κ ν).get? k = none := rfl

theorem lookup_setItem (k k' : κ) (v : ν) (items : List (κ × ν)) :
    (setItem k v items).lookup k' = if k' = k then some v else items.lookup k' := by
  induction items with
  | nil => simp [setItem, lookup_cons_eq]
  | cons item rest ih =>
    obtain ⟨j, w⟩ := item
    by_cases hj : j = k
    · subst hj
      by_cases hk : k' = j <;> simp [setItem, lookup_cons_eq, hk]
    · simp only [setItem, if_neg hj, lookup_cons_eq, ih]
      by_cases hk : k' = j
      · subst hk
        simp [hj]
      · simp [hk]

theorem get?_insert (d : PyDict κ ν) (k k' : κ) (v : ν) :
    (d.insert k v).get? k' = if k' = k then some v else d.get? k' :=
  lookup_setItem k k' v d.items

@[simp] theorem get?_insert_self (d : PyDict κ ν) (k : κ) (v : ν) :
    (d.insert k v).get? k = some v := by
  simp [get?_insert]

theorem get?_insert_ne (d : PyDict κ ν) {k k' : κ} (v : ν) (h : k' ≠ k) :
    (d.insert k v).get? k' = d.get? k' := by
  simp [get?_insert, h]

/-- A sum over `values()` in which only the value at `k` can be nonzero. -/
theorem sum_values_of_single (d : PyDict κ ν) (k : κ) (f : ν → Int)
    (h : ∀ k' v, k' ≠ k → d.get? k' = some v → f v = 0) :
    (d.values.map f).sum = ((d.get? k).map f).getD 0 := by
  obtain ⟨items, hnd⟩ := d
  simp only [values, get?] at h ⊢
  induction items with
  | nil => simp
  | cons item rest ih =>
    obtain ⟨j, w⟩ := item
    simp only [List.map_cons, List.nodup_cons] at hnd
    have hfresh : rest.lookup j = none := List.lookup_eq_none_iff.mpr fun p hp => by
      simpa using fun h : j = p.1 => hnd.1 (by rw [h]; exact List.mem_map_of_mem Prod.fst hp)
    have hrest : ∀ k' v, k' ≠ k → rest.lookup k' = some v → f v = 0 := fun k' v hk hv => by
      by_cases hkj : k' = j
      · simp [hkj, hfresh] at hv
      · exact h k' v hk (by simpa [lookup_cons_eq, hkj] using hv)
    by_cases hj : j = k
    · subst hj
      have hzero : (rest.map Prod.snd |>.map f).sum = 0 := by
        rw [ih hnd.2 hrest, hfresh]
        rfl
      simp only [List.map_cons, List.sum_cons, hzero, lookup_cons_eq, if_pos rfl]
      simp
    · have hw : f w = 0 := h j w hj (by simp [lookup_cons_eq])
      simp only [List.map_cons, List.sum_cons, hw, lookup_cons_eq, if_neg (Ne.symm hj),
        ih hnd.2 hrest]
      simp

theorem get?_eq_none_of_not_mem (d : PyDict κ ν) {k : κ} (h : k ∉ d.items.map Prod.fst) :
    d.get? k = none :=
  List.lookup_eq_none_iff.mpr fun p hp => by
    simpa using fun hk : k = p.1 => h (hk ▸ List.mem_map_of_mem Prod.fst hp)

/-- A sum over `values()` is a sum over the keys. -/
theorem sum_values_eq_sum_keys (d : PyDict κ ν) (f : ν → Int) :
    (d.values.map f).sum = ((d.items.map Prod.fst).map fun k => ((d.get? k).map f).getD 0).sum := by
  obtain ⟨items, hnd⟩ := d
  simp only [values, get?]
  induction items with
  | nil => rfl
  | cons item rest ih =>
    obtain ⟨j, w⟩ := item
    simp only [List.map_cons, List.nodup_cons] at hnd ⊢
    have hrest : (rest.map Prod.fst).map (fun k => ((((j, w) :: rest).lookup k).map f).getD 0) =
        (rest.map Prod.fst).map fun k => ((rest.lookup k).map f).getD 0 :=
      List.map_congr_left fun k hk => by
        rw [lookup_cons_eq, if_neg fun h : k = j => hnd.1 (h ▸ hk)]
    rw [List.sum_cons, List.sum_cons, hrest, ← ih hnd.2, lookup_cons_eq, if_pos rfl]
    rfl

/-- A sum over `values()` is a sum over any finite set of keys that holds the `dict`'s. -/
theorem sum_values_eq_finset_sum (d : PyDict κ ν) (f : ν → Int) (keys : Finset κ)
    (hkeys : ∀ k ∈ d.items.map Prod.fst, k ∈ keys) :
    (d.values.map f).sum = ∑ k ∈ keys, ((d.get? k).map f).getD 0 := by
  rw [sum_values_eq_sum_keys, ← List.sum_toFinset _ d.nodup]
  refine Finset.sum_subset (fun k hk => hkeys k (List.mem_toFinset.mp hk)) fun k _ hk => ?_
  rw [get?_eq_none_of_not_mem d (fun h => hk (List.mem_toFinset.mpr h))]
  rfl

/-- A sum over `values()` depends only on what each key's value contributes, missing
keys contributing `0`. -/
theorem sum_values_congr (d₁ d₂ : PyDict κ ν) (f : ν → Int)
    (h : ∀ k, ((d₁.get? k).map f).getD 0 = ((d₂.get? k).map f).getD 0) :
    (d₁.values.map f).sum = (d₂.values.map f).sum := by
  let keys := (d₁.items.map Prod.fst).toFinset ∪ (d₂.items.map Prod.fst).toFinset
  rw [sum_values_eq_finset_sum d₁ f keys (by simp [keys]; tauto),
    sum_values_eq_finset_sum d₂ f keys (by simp [keys]; tauto)]
  exact Finset.sum_congr rfl fun k _ => h k

end PyDict

end RateLimit
