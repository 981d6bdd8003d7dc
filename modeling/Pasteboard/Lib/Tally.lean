/-
  Pasteboard.Lib.Tally
  ────────────────────
  **COUNTING WITH `int`s.**

  A counter of 32 bits that starts at 0 and is incremented `n` times shows
  `int32 n`: the number itself below 2 to the 31, and not from there on
  (`int32_eq_iff`).  A map that keeps such a counter for every key it has seen
  shows how often it has seen it (`getElem?_foldl_tally`), and its keys are
  those it has seen (`keys_foldl_tally_perm`).  What counts is what came since
  the counters were last cleared (`sinceLast`).  Where every item is counted in
  one cell of a table, the cells add up to the items (`sum_countP_cells`).
-/
import Mathlib.Algebra.BigOperators.Group.Finset.Basic
import Mathlib.Algebra.BigOperators.Group.Finset.Piecewise
import Mathlib.Data.List.Dedup
import Mathlib.Data.List.Induction
import Pasteboard.Lib.OrderedMap

namespace Pasteboard.Lib

/-! ## §1. One counter. -/

/-- `++` on an `int`, which wraps around. -/
@[irreducible] def increment (n : Int) : Int := (n + 1).bmod 4294967296

/-- What a counter shows after `n` increments. -/
@[irreducible] def int32 (n : Nat) : Int := (n : Int).bmod 4294967296

theorem int32_zero : int32 0 = 0 := by
  unfold int32
  rfl

theorem increment_int32 (n : Nat) : increment (int32 n) = int32 (n + 1) := by
  unfold increment int32
  rw [Int.bmod_add_bmod]
  rfl

/-- **A counter is right below 2 to the 31 only.** -/
theorem int32_eq_iff (n : Nat) : int32 n = n ↔ n < 2147483648 := by
  unfold int32
  rw [Int.bmod_def]
  split <;> omega

theorem int32_lt (n : Nat) : int32 n < 2147483648 := by
  unfold int32
  rw [Int.bmod_def]
  split <;> omega

/-- Two numbers that each show as the other are equal, and shown right. -/
theorem int32_swap_iff (m n : Nat) :
    (int32 m = n ∧ int32 n = m) ↔ m = n ∧ n < 2147483648 := by
  constructor
  · intro hyp
    obtain ⟨hm, hn⟩ := hyp
    have hlt : n < 2147483648 := by
      have hbound := int32_lt m
      omega
    have hshow := (int32_eq_iff n).mpr hlt
    omega
  · intro hyp
    obtain ⟨heq, hlt⟩ := hyp
    subst heq
    have hshow := (int32_eq_iff m).mpr hlt
    exact ⟨hshow, hshow⟩

theorem int32_one : int32 1 = 1 := (int32_eq_iff 1).mpr (by decide)

/-- An increment is always seen. -/
theorem increment_ne (n : Int) : increment n ≠ n := by
  unfold increment
  rw [Int.bmod_def]
  split <;> omega

/-! ## §2. A counter for every key. -/

variable {K : Type} [Ord K]

/-- Count one more of `k`: `find`, then `++` or `insert`. -/
def tally (m : Std.TreeMap K Int) (k : K) : Std.TreeMap K Int :=
  match m[k]? with
  | some n => m.insert k (increment n)
  | none => m.insertIfNew k 1

variable [Std.TransOrd K] [Std.LawfulEqOrd K] [DecidableEq K]

/-- One more of `k`, and no other. -/
theorem getElem?_tally (m : Std.TreeMap K Int) (k k' : K) :
    (tally m k)[k']?
      = if k = k' then some ((m[k]?.map increment).getD 1) else m[k']? := by
  unfold tally
  cases hk : m[k]? with
  | some n =>
      show (m.insert k _)[k']? = _
      rw [OrderedMap.getElem?_insert_eq]
      rfl
  | none =>
      show (m.insertIfNew k 1)[k']? = _
      have hnew : ¬ k ∈ m := by
        rw [Std.TreeMap.mem_iff_isSome_getElem?, hk]
        nofun
      rw [Std.TreeMap.getElem?_insertIfNew]
      simp only [Std.LawfulEqCmp.compare_eq_iff_eq, hnew, not_false_eq_true,
        and_true]
      rfl

/-- **A tally shows how often each key was counted.** -/
theorem getElem?_foldl_tally (ks : List K) (k : K) :
    (ks.foldl tally ({} : Std.TreeMap K Int))[k]?
      = if k ∈ ks then some (int32 (ks.count k)) else none := by
  induction ks using List.reverseRecOn with
  | nil =>
      rw [if_neg List.not_mem_nil]
      exact Std.TreeMap.getElem?_emptyc
  | append_singleton ks k₁ ih =>
      rw [List.foldl_append]
      show (tally _ k₁)[k]? = _
      rw [getElem?_tally]
      by_cases hk : k₁ = k
      · subst hk
        have hin : k₁ ∈ ks ++ [k₁] := by simp
        rw [if_pos rfl, ih, List.count_append, List.count_singleton_self,
          if_pos hin]
        by_cases hmem : k₁ ∈ ks
        · rw [if_pos hmem, ← increment_int32, Option.map_some,
            Option.getD_some]
        · rw [if_neg hmem, List.count_eq_zero_of_not_mem hmem, Nat.zero_add,
            int32_one, Option.map_none, Option.getD_none]
      · have hne : ¬ k = k₁ := fun h => hk h.symm
        rw [if_neg hk, ih, List.count_append]
        simp [hk, hne]

/-- The entries of a tally. -/
theorem mem_toList_foldl_tally (ks : List K) (k : K) (n : Int) :
    (k, n) ∈ (ks.foldl tally ({} : Std.TreeMap K Int)).toList
      ↔ k ∈ ks ∧ n = int32 (ks.count k) := by
  rw [Std.TreeMap.mem_toList_iff_getElem?_eq_some, getElem?_foldl_tally]
  by_cases hk : k ∈ ks
  · rw [if_pos hk, Option.some.injEq]
    exact ⟨fun h => ⟨hk, h.symm⟩, fun h => h.2.symm⟩
  · rw [if_neg hk]
    exact iff_of_false nofun fun h => hk h.1

/-- **The keys of a tally are the keys counted**, each once. -/
theorem keys_foldl_tally_perm (ks : List K) :
    ((ks.foldl tally ({} : Std.TreeMap K Int)).toList.map Prod.fst).Perm
      ks.dedup := by
  have hnodup : ((ks.foldl tally ({} : Std.TreeMap K Int)).toList.map
      Prod.fst).Nodup := by
    rw [List.Nodup, List.pairwise_map]
    refine Std.TreeMap.distinct_keys_toList.imp ?_
    intro x y hxy he
    exact hxy (Std.LawfulEqCmp.compare_eq_iff_eq.mpr he)
  rw [List.perm_ext_iff_of_nodup hnodup (List.nodup_dedup ks)]
  intro k
  rw [List.mem_dedup, List.mem_map]
  constructor
  · intro hyp
    obtain ⟨⟨k', n⟩, hmem, hk⟩ := hyp
    subst hk
    exact ((mem_toList_foldl_tally ks k' n).mp hmem).1
  · intro hk
    exact ⟨(k, _), (mem_toList_foldl_tally ks k _).mpr ⟨hk, rfl⟩, rfl⟩

/-! ## §3. Since the counters were cleared. -/

variable {ι α : Type}

/-- The items of a run since the last input without one. -/
def sinceLast (item : ι → Option α) (is : List ι) : List α :=
  is.foldl (fun items i => (item i).elim [] fun a => items ++ [a]) []

theorem sinceLast_concat (item : ι → Option α) (is : List ι) (i : ι) :
    sinceLast item (is ++ [i])
      = (item i).elim [] fun a => sinceLast item is ++ [a] := by
  unfold sinceLast
  rw [List.foldl_append]
  rfl

/-- Two histories side by side: what is left of the log since it was last
cleared, read through `f`, is what is left of the inputs. -/
def Tracks {γ : Type} (item : ι → Option α) (f : γ → Option α)
    (log : List (Option γ)) (is : List ι) : Prop :=
  sinceLast item is = (sinceLast id log).filterMap f

section Tracks

variable {γ : Type} {item : ι → Option α} {f : γ → Option α}
  {log : List (Option γ)} {is : List ι}

theorem Tracks.nil : Tracks item f [] [] := rfl

/-- An entry of the log is an input, or none. -/
theorem Tracks.entry (h : Tracks item f log is) {m : α → ι}
    (hm : ∀ a, item (m a) = some a) (g : γ) :
    Tracks item f (log ++ [some g]) (is ++ (f g).toList.map m) := by
  unfold Tracks at *
  rw [sinceLast_concat]
  show _ = (sinceLast id log ++ [g]).filterMap f
  rw [List.filterMap_append, ← h]
  cases hg : f g with
  | none => simp [hg]
  | some a =>
      show sinceLast item (is ++ [m a]) = _
      rw [sinceLast_concat, hm]
      simp [hg]

/-- Both are cleared. -/
theorem Tracks.clear {i : ι} (hi : item i = none) :
    Tracks item f (log ++ [none]) (is ++ [i]) := by
  unfold Tracks
  rw [sinceLast_concat, sinceLast_concat, hi]
  rfl

end Tracks

/-! ## §4. A table of counters. -/

/-- **The cells of a table add up** to the number of items, where every item
has its cell in the table. -/
theorem sum_countP_cells (m n : Nat) (row col : α → Nat) (xs : List α)
    (h : ∀ x ∈ xs, row x < m ∧ col x < n) :
    ∑ i ∈ Finset.range m, ∑ j ∈ Finset.range n,
        xs.countP (fun x => decide (row x = i ∧ col x = j)) = xs.length := by
  induction xs with
  | nil => simp
  | cons x xs ih =>
      have hrest := ih fun x' hx' => h x' (List.mem_cons_of_mem x hx')
      obtain ⟨hrow, hcol⟩ := h x List.mem_cons_self
      -- the new item is in the cell of its row and column, and in no other
      have hcell : ∑ i ∈ Finset.range m, ∑ j ∈ Finset.range n,
          (if row x = i ∧ col x = j then 1 else 0) = 1 := by
        simp only [ite_and, Finset.sum_ite_irrel, Finset.sum_const_zero,
          Finset.sum_ite_eq, Finset.mem_range, hrow, hcol, if_true]
      simp only [List.countP_cons, decide_eq_true_eq, Finset.sum_add_distrib,
        hcell, hrest, List.length_cons]

end Pasteboard.Lib
