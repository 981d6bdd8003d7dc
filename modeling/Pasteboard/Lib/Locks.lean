/-
  Pasteboard.Lib.Locks
  ────────────────────
  **THREADS AND THEIR MUTEXES.**

  A table has the holder of every mutex and the local state of every thread;
  `holds l m` says that a thread in the local state `l` is between taking and
  releasing `m`.  A turn of one thread takes at most one mutex, which must be
  free, and releases at most one.  If every turn takes and releases what the
  local states before and after it say, then

    • a thread that is in a critical section is the holder (`Owned`),
    • at most one is (`Owned.unique`),
    • nobody else's turn takes a held mutex away (`Owned.holder_turn`).
-/
import Mathlib.Data.List.Basic

namespace Pasteboard.Lib.Locks

/-- The holder of each mutex, and the local state of each thread. -/
structure Table (M L : Type) where
  holder : M → Option Nat := fun _ => none
  threads : List L := []

variable {M L : Type} [DecidableEq M]

namespace Table

/-- A new thread. -/
def spawn (t : Table M L) (l : L) : Table M L :=
  { t with threads := t.threads ++ [l] }

/-- Taking the mutex would have to wait. -/
def blocked (t : Table M L) : Option M → Bool
  | none => false
  | some m => (t.holder m).isSome

/-- The turn of thread `i`, after which its local state is `l`.  It waits for
the mutex it takes. -/
def turn (t : Table M L) (i : Nat) (l : L) (acquire release : Option M) :
    Option (Table M L) :=
  if t.blocked acquire then none
  else some
    { holder := fun m =>
        if acquire = some m then some i
        else if release = some m then none else t.holder m
      threads := t.threads.set i l }

end Table

variable {t t' : Table M L} {i j : Nat} {l l' : L} {m : M}
  {acquire release : Option M}

/-! ## §1. What a turn does. -/

theorem turn_threads (h : t.turn i l acquire release = some t') :
    t'.threads = t.threads.set i l := by
  unfold Table.turn at h
  split at h
  · cases h
  · injection h with h
    rw [← h]

theorem turn_holder (h : t.turn i l acquire release = some t') (m : M) :
    t'.holder m
      = if acquire = some m then some i
        else if release = some m then none else t.holder m := by
  unfold Table.turn at h
  split at h
  · cases h
  · injection h with h
    rw [← h]

/-- A mutex that is taken was free. -/
theorem free_of_turn (h : t.turn i l (some m) release = some t') :
    t.holder m = none := by
  unfold Table.turn at h
  split at h
  · cases h
  · next hfree =>
      have hfree' : ¬ (t.holder m).isSome = true := hfree
      simpa using hfree'

/-- A turn that takes a free mutex, or none, is possible. -/
theorem turn_of_free (h : t.blocked acquire = false) :
    t.turn i l acquire release = some
      { holder := fun m =>
          if acquire = some m then some i
          else if release = some m then none else t.holder m
        threads := t.threads.set i l } := by
  unfold Table.turn
  rw [if_neg (by rw [h]; decide)]

/-- The threads after one of them had its turn. -/
theorem getElem?_turn (h : t.turn i l acquire release = some t')
    (hj : t'.threads[j]? = some l') :
    (i = j ∧ l' = l) ∨ (i ≠ j ∧ t.threads[j]? = some l') := by
  rw [turn_threads h, List.getElem?_set] at hj
  split at hj
  · next hij =>
      split at hj
      · injection hj with hj
        exact Or.inl ⟨hij, hj.symm⟩
      · cases hj
  · next hij => exact Or.inr ⟨hij, hj⟩

theorem getElem?_turn_self (h : t.turn i l acquire release = some t')
    (hi : t.threads[i]? = some l') : t'.threads[i]? = some l := by
  obtain ⟨hlt, _⟩ := List.getElem?_eq_some_iff.mp hi
  rw [turn_threads h, List.getElem?_set_self hlt]

theorem getElem?_turn_of_ne (h : t.turn i l acquire release = some t')
    (hij : i ≠ j) : t'.threads[j]? = t.threads[j]? := by
  rw [turn_threads h, List.getElem?_set_ne hij]

omit [DecidableEq M] in
/-- The threads after one more is spawned. -/
theorem getElem?_spawn (hj : (t.spawn l).threads[j]? = some l') :
    t.threads[j]? = some l' ∨ l' = l := by
  have hj' : (t.threads ++ [l])[j]? = some l' := hj
  rw [List.getElem?_append] at hj'
  split at hj'
  · exact Or.inl hj'
  · have hmem := List.mem_of_getElem? hj'
    rw [List.mem_singleton] at hmem
    exact Or.inr hmem

omit [DecidableEq M] in
theorem getElem?_spawn_of (l : L) (hj : t.threads[j]? = some l') :
    (t.spawn l).threads[j]? = some l' := by
  obtain ⟨hlt, _⟩ := List.getElem?_eq_some_iff.mp hj
  show (t.threads ++ [l])[j]? = _
  rw [List.getElem?_append_left hlt, hj]

/-! ## §2. Ownership. -/

/-- Whoever is in a critical section holds its mutex. -/
def Owned (holds : L → M → Prop) (t : Table M L) : Prop :=
  ∀ (i : Nat) l, t.threads[i]? = some l → ∀ m, holds l m → t.holder m = some i

/-- The local states before and after a turn say what it takes and
releases. -/
structure Honest (holds : L → M → Prop) (l l' : L)
    (acquire release : Option M) : Prop where
  after : ∀ m, holds l' m →
    (holds l m ∧ release ≠ some m) ∨ acquire = some m
  released : ∀ m, release = some m → holds l m

variable {holds : L → M → Prop}

omit [DecidableEq M] in
/-- A turn that takes and releases nothing. -/
theorem Honest.quiet (h : ∀ m, holds l' m → holds l m) :
    Honest holds l l' none none where
  after m hm := Or.inl ⟨h m hm, nofun⟩
  released := nofun

omit [DecidableEq M] in
/-- A turn that takes `m`. -/
theorem Honest.take (h : ∀ m', holds l' m' → holds l m' ∨ m' = m) :
    Honest holds l l' (some m) none where
  after m' hm' := by
    rcases h m' hm' with hold | heq
    · exact Or.inl ⟨hold, nofun⟩
    · exact Or.inr (by rw [heq])
  released := nofun

omit [DecidableEq M] in
/-- A turn that releases `m`. -/
theorem Honest.drop (hm : holds l m)
    (h : ∀ m', holds l' m' → holds l m' ∧ m' ≠ m) :
    Honest holds l l' none (some m) where
  after m' hm' := by
    obtain ⟨hold, hne⟩ := h m' hm'
    refine Or.inl ⟨hold, ?_⟩
    intro heq
    injection heq with heq
    exact hne heq.symm
  released m' hm' := by
    injection hm' with hm'
    rw [← hm']
    exact hm

omit [DecidableEq M] in
theorem owned_empty : Owned holds ({} : Table M L) := by
  intro i l hl
  cases hl

omit [DecidableEq M] in
/-- **Mutual exclusion.** -/
theorem Owned.unique (h : Owned holds t) (hi : t.threads[i]? = some l)
    (hj : t.threads[j]? = some l') (hl : holds l m) (hl' : holds l' m) :
    i = j := by
  have hi' := h i l hi m hl
  have hj' := h j l' hj m hl'
  rw [hi'] at hj'
  injection hj'

omit [DecidableEq M] in
/-- A new thread outside all critical sections. -/
theorem Owned.spawn (h : Owned holds t) (hl : ∀ m, ¬ holds l m) :
    Owned holds (t.spawn l) := by
  intro i l₁ hi m hm
  rcases getElem?_spawn hi with hi | hi
  · exact h i l₁ hi m hm
  · subst hi
    exact absurd hm (hl m)

/-- **An honest turn keeps ownership.** -/
theorem Owned.turn (h : Owned holds t) (hi : t.threads[i]? = some l)
    (hturn : t.turn i l' acquire release = some t')
    (hon : Honest holds l l' acquire release) : Owned holds t' := by
  intro j l₁ hj m hm
  rw [turn_threads hturn, List.getElem?_set] at hj
  rw [turn_holder hturn m]
  by_cases hij : i = j
  · -- the thread whose turn it is
    subst hij
    rw [if_pos rfl] at hj
    split at hj
    · injection hj with hj
      subst hj
      rcases hon.after m hm with ⟨hold, hkeep⟩ | hacq
      · rw [if_neg hkeep, h i l hi m hold, ite_self]
      · rw [if_pos hacq]
    · cases hj
  · -- another thread: its mutex was not free, and is not released
    rw [if_neg hij] at hj
    have hheld := h j l₁ hj m hm
    have hacq : acquire ≠ some m := by
      intro hacq
      subst hacq
      rw [free_of_turn hturn] at hheld
      cases hheld
    have hrel : release ≠ some m := by
      intro hrel
      exact hij (h.unique hi hj (hon.released m hrel) hm)
    rw [if_neg hacq, if_neg hrel, hheld]

/-- **Nobody else's turn takes a mutex away.** -/
theorem Owned.holder_turn (h : Owned holds t) (hi : t.threads[i]? = some l)
    (hturn : t.turn i l' acquire release = some t')
    (hon : Honest holds l l' acquire release) (hm : t.holder m = some j)
    (hij : i ≠ j) : t'.holder m = some j := by
  rw [turn_holder hturn m]
  have hacq : acquire ≠ some m := by
    intro hacq
    subst hacq
    rw [free_of_turn hturn] at hm
    cases hm
  have hrel : release ≠ some m := by
    intro hrel
    have hheld := h i l hi m (hon.released m hrel)
    rw [hheld] at hm
    injection hm with hm
    exact hij hm
  rw [if_neg hacq, if_neg hrel, hm]

end Pasteboard.Lib.Locks
