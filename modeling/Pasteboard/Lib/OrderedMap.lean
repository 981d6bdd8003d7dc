/-
  Pasteboard.Lib.OrderedMap
  ─────────────────────────
  **ORDERED MAPS, USED THE WAY `std::map` IS.**

  `find`, then `erase`, then `insert` replaces an entry (`getElem?_replace`);
  inserting the rows of a table gives a map that answers with the first row of
  a key (`getElem?_ofTable`); going through a map and doing something for every
  entry does, under one key, what its entry asks for and nothing else
  (`flatMap_toList_at_key`).
-/
import Mathlib.Data.List.Basic

namespace Pasteboard.Lib.OrderedMap

variable {K V : Type}

/-! ## §1. Lists of entries with distinct keys. -/

/-- A list with distinct keys that has the entry `(u, a)`. -/
theorem flatMap_of_mem [DecidableEq K] {β : Type} (g : V → List β) (u : K)
    {a : V} :
    ∀ l : List (K × V), l.Pairwise (fun x y => x.1 ≠ y.1) → (u, a) ∈ l →
      (l.flatMap fun x => if x.1 = u then g x.2 else []) = g a
  | [], _, ha => by cases ha
  | x :: l, h, ha => by
      obtain ⟨hx, hl⟩ := List.pairwise_cons.mp h
      rw [List.flatMap_cons]
      rcases List.mem_cons.mp ha with ha | ha
      · -- the entry is in front: no other has its key
        subst ha
        have hrest : (l.flatMap fun x => if x.1 = u then g x.2 else []) = [] := by
          rw [List.flatMap_eq_nil_iff]
          intro y hy
          exact if_neg fun he => hx y hy he.symm
        rw [if_pos rfl, hrest, List.append_nil]
      · rw [if_neg (hx (u, a) ha), List.nil_append,
          flatMap_of_mem g u l hl ha]

/-- A list of entries in strict order ends in the one that no other is
above. -/
theorem getLast?_of_greatest (lt : K → K → Prop) {u : K} {a : V} :
    ∀ l : List (K × V), l.Pairwise (fun x y => lt x.1 y.1) → (u, a) ∈ l →
      (∀ x ∈ l, ¬ lt u x.1) → l.getLast? = some (u, a) := by
  intro l hl hmem hmax
  rcases List.eq_nil_or_concat l with h | ⟨pre, x, h⟩
  · subst h
    cases hmem
  · rw [List.concat_eq_append] at h
    subst h
    rw [List.getLast?_concat]
    rcases List.mem_append.mp hmem with hpre | hlast
    · -- an entry in front of the last one would be below it
      have hlt := (List.pairwise_append.mp hl).2.2 (u, a) hpre x
        List.mem_cons_self
      exact absurd hlt (hmax x (by simp))
    · rw [List.mem_singleton.mp hlast]

/-! ## §2. Looking up. -/

variable [Ord K] [Std.TransOrd K] [Std.LawfulEqOrd K]
variable (m : Std.TreeMap K V)

section Lookup

variable [DecidableEq K]

theorem getElem?_erase_eq (u v : K) :
    (m.erase u)[v]? = if u = v then none else m[v]? := by
  rw [Std.TreeMap.getElem?_erase]
  simp only [Std.LawfulEqCmp.compare_eq_iff_eq]

theorem getElem?_insert_eq (u v : K) (a : V) :
    (m.insert u a)[v]? = if u = v then some a else m[v]? := by
  rw [Std.TreeMap.getElem?_insert]
  simp only [Std.LawfulEqCmp.compare_eq_iff_eq]

/-- Erasing where there is something to erase. -/
theorem getElem?_erase_if_contains (u v : K) :
    (if m.contains u then m.erase u else m)[v]?
      = if u = v then none else m[v]? := by
  by_cases hc : m.contains u = true
  · rw [if_pos hc, getElem?_erase_eq]
  · rw [if_neg hc]
    by_cases huv : u = v
    · subst huv
      rw [if_pos rfl]
      rw [Std.TreeMap.contains_eq_isSome_getElem?] at hc
      simpa using hc
    · rw [if_neg huv]

/-- Erasing and inserting anew replaces the entry. -/
theorem getElem?_replace (u v : K) (a : V) :
    ((if m.contains u then m.erase u else m).insertIfNew u a)[v]?
      = if u = v then some a else m[v]? := by
  have herase := getElem?_erase_if_contains m u
  rw [Std.TreeMap.getElem?_insertIfNew, herase v]
  by_cases huv : u = v
  · subst huv
    have hnew : u ∉ (if m.contains u then m.erase u else m) := by
      intro hmem
      rw [Std.TreeMap.mem_iff_isSome_getElem?, herase u, if_pos rfl] at hmem
      cases hmem
    have heq : compare u u = Ordering.eq := Std.LawfulEqCmp.compare_eq_iff_eq.mpr rfl
    rw [if_pos ⟨heq, hnew⟩, if_pos rfl]
  · have hne : ¬ compare u v = Ordering.eq :=
      fun h => huv (Std.LawfulEqCmp.compare_eq_iff_eq.mp h)
    rw [if_neg fun h => hne h.1, if_neg huv, if_neg huv]

/-- Insert the rows of a table, one after the other. -/
def insertTable (m : Std.TreeMap K V) (table : List (K × V)) :
    Std.TreeMap K V :=
  table.foldl (fun m row => m.insertIfNew row.1 row.2) m

/-- The map of a table. -/
def ofTable (table : List (K × V)) : Std.TreeMap K V := insertTable {} table

/-- What is in the map already stays; else the first row of the key counts. -/
theorem getElem?_insertTable (k : K) :
    ∀ (table : List (K × V)) (m : Std.TreeMap K V),
      (insertTable m table)[k]? = m[k]?.or (table.lookup k) := by
  intro table
  induction table with
  | nil =>
      intro m
      show m[k]? = _
      rw [List.lookup_nil, Option.or_none]
  | cons row table ih =>
      intro m
      show (insertTable (m.insertIfNew row.1 row.2) table)[k]? = _
      rw [ih, Std.TreeMap.getElem?_insertIfNew, List.lookup_cons]
      simp only [Std.LawfulEqCmp.compare_eq_iff_eq,
        Std.TreeMap.mem_iff_isSome_getElem?]
      by_cases hk : row.1 = k
      · subst hk
        cases m[row.1]? <;> simp
      · have hne : (k == row.1) = false :=
          beq_false_of_ne fun h => hk h.symm
        rw [hne]
        simp [hk]

/-- **The map of a table answers with the first row of a key.** -/
theorem getElem?_ofTable (table : List (K × V)) (k : K) :
    (ofTable table)[k]? = table.lookup k := by
  unfold ofTable
  rw [getElem?_insertTable, Std.TreeMap.getElem?_emptyc, Option.none_or]

end Lookup

/-! ## §3. Going through a map. -/

section Traversal

variable [DecidableEq K] {β : Type} (g : V → List β) (u : K)

/-- **Going through a map, under one key**: what its entry asks for. -/
theorem flatMap_toList_at_key :
    (m.toList.flatMap fun x => if x.1 = u then g x.2 else [])
      = (m[u]?.map g).getD [] := by
  have hkeys : m.toList.Pairwise fun x y => x.1 ≠ y.1 := by
    refine (Std.TreeMap.distinct_keys_toList (t := m)).imp ?_
    intro x y hxy he
    exact hxy (Std.LawfulEqCmp.compare_eq_iff_eq.mpr he)
  cases hu : m[u]? with
  | some a =>
      refine flatMap_of_mem g u m.toList hkeys ?_
      exact Std.TreeMap.mem_toList_iff_getElem?_eq_some.mpr hu
  | none =>
      show _ = []
      rw [List.flatMap_eq_nil_iff]
      intro x hx
      refine if_neg fun he => ?_
      subst he
      rw [Std.TreeMap.mem_toList_iff_getElem?_eq_some.mp hx] at hu
      cases hu

end Traversal

/-- The last entry of a map is one of its entries. -/
theorem getElem?_of_getLast? {u : K} {a : V}
    (h : m.toList.getLast? = some (u, a)) : m[u]? = some a :=
  Std.TreeMap.mem_toList_iff_getElem?_eq_some.mp (List.mem_of_getLast? h)

/-- A map without a last entry has no entries. -/
theorem getElem?_of_getLast?_eq_none (h : m.toList.getLast? = none) (u : K) :
    m[u]? = none := by
  cases hu : m[u]? with
  | none => rfl
  | some a =>
      have hmem := Std.TreeMap.mem_toList_iff_getElem?_eq_some.mpr hu
      rw [List.getLast?_eq_none_iff.mp h] at hmem
      cases hmem

/-- **The last entry of a map** is that of a key no other key is above. -/
theorem getLast?_toList {u : K} {a : V} (hu : m[u]? = some a)
    (hmax : ∀ v ∈ m.keys, compare u v ≠ .lt) :
    m.toList.getLast? = some (u, a) := by
  refine getLast?_of_greatest (fun x y => compare x y = .lt) m.toList
    Std.TreeMap.ordered_keys_toList
    (Std.TreeMap.mem_toList_iff_getElem?_eq_some.mpr hu) ?_
  intro x hx
  apply hmax
  rw [← Std.TreeMap.map_fst_toList_eq_keys]
  exact List.mem_map_of_mem hx

theorem mem_keys_iff (v : K) : v ∈ m.keys ↔ ∃ a, m[v]? = some a := by
  rw [Std.TreeMap.mem_keys, Std.TreeMap.mem_iff_isSome_getElem?,
    Option.isSome_iff_exists]

end Pasteboard.Lib.OrderedMap
