/-
  Pasteboard.Lib.Capped
  ─────────────────────
  **INSERTION INTO A CAPPED LIST.**

  `pushFront cap xs a` puts `a` in front of `xs` and drops ONE entry from the
  back when the result is longer than `cap`; `pushBack cap xs a` puts `a`
  behind `xs` and drops one entry from the front when `xs` has exactly `cap`
  of them.  Started within the cap, a run of either keeps the newest `cap`
  entries (`foldl_pushFront`, `foldl_pushBack`).
-/
import Mathlib.Data.List.Basic
import Mathlib.Data.List.DropRight
import Mathlib.Data.List.Induction

namespace Pasteboard.Lib

variable {α β : Type}

/-! ## §1. In front. -/

/-- Insert in front; over the cap, one entry goes from the back. -/
def pushFront (cap : Nat) (xs : List α) (a : α) : List α :=
  if (a :: xs).length > cap then (a :: xs).dropLast else a :: xs

theorem pushFront_eq_take {cap : Nat} {xs : List α} (h : xs.length ≤ cap)
    (a : α) : pushFront cap xs a = (a :: xs).take cap := by
  unfold pushFront
  split
  · next hlt =>
      have hlen : xs.length = cap := by
        simp only [List.length_cons] at hlt
        omega
      rw [List.dropLast_eq_take, List.length_cons, hlen, Nat.add_sub_cancel]
  · next hle => rw [List.take_of_length_le (by omega)]

/-- Entries are mapped one by one. -/
theorem map_pushFront (f : α → β) (cap : Nat) (xs : List α) (a : α) :
    (pushFront cap xs a).map f = pushFront cap (xs.map f) (f a) := by
  unfold pushFront
  simp only [List.length_cons, List.length_map]
  split
  · rw [List.map_dropLast, List.map_cons]
  · rfl

theorem length_pushFront_le {cap : Nat} {xs : List α} (h : xs.length ≤ cap)
    (a : α) : (pushFront cap xs a).length ≤ cap := by
  rw [pushFront_eq_take h, List.length_take]
  exact Nat.min_le_left _ _

/-- The new entry is in front, also of a list that is full. -/
theorem head?_pushFront {cap : Nat} (hcap : 0 < cap) (xs : List α) (a : α) :
    (pushFront cap xs a).head? = some a := by
  unfold pushFront
  split
  · next hlt =>
      cases xs with
      | nil =>
          simp only [List.length_cons, List.length_nil] at hlt
          omega
      | cons x xs => rfl
  · rfl

theorem dropLast_cons_eq_self_iff {a : α} {xs : List α} :
    (a :: xs).dropLast = xs ↔ ∀ x ∈ xs, x = a := by
  induction xs generalizing a with
  | nil => simp
  | cons x xs ih =>
      rw [List.dropLast_cons_cons, List.cons.injEq, ih, List.forall_mem_cons]
      constructor
      · intro hyp
        obtain ⟨hx, hxs⟩ := hyp
        subst hx
        exact ⟨rfl, hxs⟩
      · intro hyp
        obtain ⟨hx, hxs⟩ := hyp
        subst hx
        exact ⟨rfl, hxs⟩

/-- **When an insertion changes nothing**: the list is full of the entry. -/
theorem pushFront_eq_self_iff {cap : Nat} {xs : List α} {a : α} :
    pushFront cap xs a = xs ↔ cap ≤ xs.length ∧ ∀ x ∈ xs, x = a := by
  unfold pushFront
  rw [List.length_cons]
  by_cases hfull : cap ≤ xs.length
  · rw [if_pos (by omega), dropLast_cons_eq_self_iff]
    exact (and_iff_right hfull).symm
  · rw [if_neg (by omega)]
    constructor
    · intro h
      have hlen := congrArg List.length h
      rw [List.length_cons] at hlen
      omega
    · intro hyp
      exact absurd hyp.1 hfull

/-- Every entry after an insertion is the new one or an old one. -/
theorem mem_pushFront {cap : Nat} {xs : List α} {a x : α}
    (h : x ∈ pushFront cap xs a) : x = a ∨ x ∈ xs := by
  unfold pushFront at h
  split at h
  · exact List.mem_cons.mp (List.dropLast_subset _ h)
  · exact List.mem_cons.mp h

/-- **A run of insertions keeps the newest `cap` entries, newest first.** -/
theorem foldl_pushFront (cap : Nat) :
    ∀ (as xs : List α), xs.length ≤ cap →
      as.foldl (pushFront cap) xs = (as.reverse ++ xs).take cap
  | [], xs, h => by
      rw [List.foldl_nil, List.reverse_nil, List.nil_append,
        List.take_of_length_le h]
  | a :: as, xs, h => by
      rw [List.foldl_cons,
        foldl_pushFront cap as _ (length_pushFront_le h a),
        pushFront_eq_take h, List.reverse_cons, List.append_assoc,
        List.singleton_append, List.take_append, List.take_append,
        List.take_take]
      congr 2
      omega

/-! ## §2. Behind. -/

/-- Insert behind; a list of `cap` entries loses its first one before. -/
def pushBack (cap : Nat) (xs : List α) (a : α) : List α :=
  (if xs.length = cap then xs.tail else xs) ++ [a]

/-- The equality test is enough as long as the cap is kept. -/
theorem pushBack_eq_rtake {cap : Nat} (hcap : 0 < cap) {xs : List α}
    (h : xs.length ≤ cap) (a : α) :
    pushBack cap xs a = (xs ++ [a]).rtake cap := by
  obtain ⟨n, rfl⟩ : ∃ n, cap = n + 1 := ⟨cap - 1, by omega⟩
  rw [List.rtake_concat_succ]
  unfold pushBack List.rtake
  by_cases hfull : xs.length = n + 1
  · rw [if_pos hfull, hfull, Nat.add_sub_cancel_left, List.drop_one]
  · have hle : xs.length - n = 0 := by omega
    rw [if_neg hfull, hle, List.drop_zero]

theorem length_rtake (xs : List α) (n : Nat) :
    (xs.rtake n).length = min n xs.length := by
  unfold List.rtake
  rw [List.length_drop]
  omega

/-- The last entries of the last `cap` entries and one more. -/
theorem rtake_rtake_concat (cap : Nat) (xs : List α) (a : α) :
    (xs.rtake cap ++ [a]).rtake cap = (xs ++ [a]).rtake cap := by
  cases cap with
  | zero => rw [List.rtake_zero, List.rtake_zero]
  | succ n =>
      rw [List.rtake_concat_succ, List.rtake_concat_succ,
        List.rtake_eq_reverse_take_reverse, List.rtake_eq_reverse_take_reverse,
        List.rtake_eq_reverse_take_reverse, List.reverse_reverse,
        List.take_take, Nat.min_eq_left (Nat.le_succ n)]

/-- **A run of insertions keeps the newest `cap` entries, in order.** -/
theorem foldl_pushBack {cap : Nat} (hcap : 0 < cap) (as : List α) :
    as.foldl (pushBack cap) [] = as.rtake cap := by
  induction as using List.reverseRecOn with
  | nil => rw [List.foldl_nil, List.rtake_nil]
  | append_singleton as a ih =>
      have hle : (as.rtake cap).length ≤ cap := by
        rw [length_rtake]
        exact Nat.min_le_left _ _
      rw [List.foldl_append, ih]
      show pushBack cap (as.rtake cap) a = _
      rw [pushBack_eq_rtake hcap hle, rtake_rtake_concat]

end Pasteboard.Lib
