/-
  Pasteboard.Lib.Compose
  ──────────────────────
  **MACHINES SIDE BY SIDE, AND ONE FEEDING ANOTHER.**

    • `Machine.par`  — two machines, each with inputs and outputs of its own,
                       in any order; `run_par` takes a run apart,
    • `Machine.feed` — every output of the first machine is delivered, as
                       inputs, to the second; `run_feed` takes a run apart.

  So what is known of the runs of the parts is known of the whole.
-/
import Pasteboard.Lib.Linearize

namespace Pasteboard.Lib

/-! ## §1. The two sides of a list. -/

section Sides

variable {α β : Type}

/-- What stands on the left in a list, and on the right, in order. -/
def lefts (xs : List (α ⊕ β)) : List α := xs.filterMap Sum.getLeft?
def rights (xs : List (α ⊕ β)) : List β := xs.filterMap Sum.getRight?

@[simp] theorem lefts_nil : lefts ([] : List (α ⊕ β)) = [] := rfl
@[simp] theorem rights_nil : rights ([] : List (α ⊕ β)) = [] := rfl

@[simp] theorem lefts_append (xs ys : List (α ⊕ β)) :
    lefts (xs ++ ys) = lefts xs ++ lefts ys := List.filterMap_append ..

@[simp] theorem rights_append (xs ys : List (α ⊕ β)) :
    rights (xs ++ ys) = rights xs ++ rights ys := List.filterMap_append ..

@[simp] theorem lefts_inl (a : α) (xs : List (α ⊕ β)) :
    lefts (.inl a :: xs) = a :: lefts xs := rfl

@[simp] theorem lefts_inr (b : β) (xs : List (α ⊕ β)) :
    lefts (.inr b :: xs) = lefts xs := rfl

@[simp] theorem rights_inl (a : α) (xs : List (α ⊕ β)) :
    rights (.inl a :: xs) = rights xs := rfl

@[simp] theorem rights_inr (b : β) (xs : List (α ⊕ β)) :
    rights (.inr b :: xs) = b :: rights xs := rfl

@[simp] theorem lefts_map_inl (as : List α) :
    lefts (as.map (.inl : α → α ⊕ β)) = as := by
  induction as with
  | nil => rfl
  | cons a as ih => rw [List.map_cons, lefts_inl, ih]

@[simp] theorem rights_map_inl (as : List α) :
    rights (as.map (.inl : α → α ⊕ β)) = [] := by
  induction as with
  | nil => rfl
  | cons a as ih => rw [List.map_cons, rights_inl, ih]

@[simp] theorem lefts_map_inr (bs : List β) :
    lefts (bs.map (.inr : β → α ⊕ β)) = [] := by
  induction bs with
  | nil => rfl
  | cons b bs ih => rw [List.map_cons, lefts_inr, ih]

@[simp] theorem rights_map_inr (bs : List β) :
    rights (bs.map (.inr : β → α ⊕ β)) = bs := by
  induction bs with
  | nil => rfl
  | cons b bs ih => rw [List.map_cons, rights_inr, ih]

end Sides

namespace Machine

variable {σ τ ι κ ω ο : Type}

/-! ## §2. Side by side. -/

/-- Each input goes to the machine it is for. -/
def par (M : Machine σ ι ω) (N : Machine τ κ ο) :
    Machine (σ × τ) (ι ⊕ κ) (ω ⊕ ο) where
  step x
    | .inl i => (M.step x.1 i).map fun y => ((y.1, x.2), y.2.map .inl)
    | .inr k => (N.step x.2 k).map fun y => ((x.1, y.1), y.2.map .inr)

variable {M : Machine σ ι ω} {N : Machine τ κ ο}

/-- **What a step side by side is.** -/
theorem par_step {x x' : σ × τ} {i : ι ⊕ κ} {os : List (ω ⊕ ο)}
    (h : (M.par N).step x i = some (x', os)) :
    (∃ j os', i = .inl j ∧ M.step x.1 j = some (x'.1, os') ∧ x'.2 = x.2
        ∧ os = os'.map .inl)
      ∨ ∃ k os', i = .inr k ∧ N.step x.2 k = some (x'.2, os') ∧ x'.1 = x.1
        ∧ os = os'.map .inr := by
  cases i with
  | inl j =>
      obtain ⟨y, hy, heq⟩ := Option.map_eq_some_iff.mp h
      injection heq with hx hos
      subst hx hos
      exact Or.inl ⟨j, y.2, rfl, hy, rfl, rfl⟩
  | inr k =>
      obtain ⟨y, hy, heq⟩ := Option.map_eq_some_iff.mp h
      injection heq with hx hos
      subst hx hos
      exact Or.inr ⟨k, y.2, rfl, hy, rfl, rfl⟩

/-- **A run side by side is a run of each.** -/
theorem run_par {is : List (ι ⊕ κ)} {s s' : σ} {t t' : τ}
    {os : List (ω ⊕ ο)}
    (h : (M.par N).run (s, t) is = some ((s', t'), os)) :
    M.run s (lefts is) = some (s', lefts os)
      ∧ N.run t (rights is) = some (t', rights os) := by
  induction is generalizing s t os with
  | nil =>
      obtain ⟨hx, hos⟩ := (M.par N).run_nil_iff.mp h
      injection hx with hs ht
      subst hs ht hos
      exact ⟨rfl, rfl⟩
  | cons i is ih =>
      obtain ⟨⟨s₁, t₁⟩, os₁, os₂, hstep, hrest, rfl⟩ := (M.par N).run_cons.mp h
      obtain ⟨hM, hN⟩ := ih hrest
      rw [lefts_append, rights_append]
      rcases par_step hstep with ⟨j, os', rfl, hj, ht, rfl⟩ |
        ⟨k, os', rfl, hk, hs, rfl⟩
      · simp only [lefts_inl, rights_inl, lefts_map_inl, rights_map_inl,
          List.nil_append]
        have ht' : t₁ = t := ht
        rw [← ht']
        exact ⟨M.run_cons.mpr ⟨s₁, os', _, hj, hM, rfl⟩, hN⟩
      · simp only [lefts_inr, rights_inr, lefts_map_inr, rights_map_inr,
          List.nil_append]
        have hs' : s₁ = s := hs
        rw [← hs']
        exact ⟨hM, N.run_cons.mpr ⟨t₁, os', _, hk, hN, rfl⟩⟩

/-! ## §3. One feeding another. -/

/-- The outputs of a step of `M` go to `N` before the next step. -/
def feed (M : Machine σ ι ω) (deliver : ω → List κ) (N : Machine τ κ ο) :
    Machine (σ × τ) ι (ω ⊕ ο) where
  step x i :=
    (M.step x.1 i).bind fun y =>
      (N.run x.2 (y.2.flatMap deliver)).map fun z =>
        ((y.1, z.1), y.2.map .inl ++ z.2.map .inr)

variable {deliver : ω → List κ}

/-- **What a step of the whole is.** -/
theorem feed_step {x x' : σ × τ} {i : ι} {os : List (ω ⊕ ο)}
    (h : (M.feed deliver N).step x i = some (x', os)) :
    ∃ os₁ os₂, M.step x.1 i = some (x'.1, os₁)
      ∧ N.run x.2 (os₁.flatMap deliver) = some (x'.2, os₂)
      ∧ os = os₁.map .inl ++ os₂.map .inr := by
  obtain ⟨y, hy, h⟩ := Option.bind_eq_some_iff.mp h
  obtain ⟨z, hz, h⟩ := Option.map_eq_some_iff.mp h
  injection h with hx hos
  subst hx hos
  exact ⟨y.2, z.2, hy, hz, rfl⟩

/-- **A run of the whole is a run of the first machine, and a run of the
second on what the first has put out.** -/
theorem run_feed {is : List ι} {s s' : σ} {t t' : τ} {os : List (ω ⊕ ο)}
    (h : (M.feed deliver N).run (s, t) is = some ((s', t'), os)) :
    M.run s is = some (s', lefts os)
      ∧ N.run t ((lefts os).flatMap deliver) = some (t', rights os) := by
  induction is generalizing s t os with
  | nil =>
      obtain ⟨hx, hos⟩ := (M.feed deliver N).run_nil_iff.mp h
      injection hx with hs ht
      subst hs ht hos
      exact ⟨rfl, rfl⟩
  | cons i is ih =>
      obtain ⟨⟨s₁, t₁⟩, os₁, os₂, hstep, hrest, rfl⟩ :=
        (M.feed deliver N).run_cons.mp h
      obtain ⟨hM, hN⟩ := ih hrest
      obtain ⟨os₃, os₄, hi, hfeed, rfl⟩ := feed_step hstep
      simp only [lefts_append, rights_append, lefts_map_inl, rights_map_inl,
        lefts_map_inr, rights_map_inr, List.append_nil, List.nil_append,
        List.flatMap_append]
      exact ⟨M.run_cons.mpr ⟨s₁, os₃, lefts os₂, hi, hM, rfl⟩,
        N.run_append.mpr ⟨t₁, os₄, rights os₂, hfeed, hN, rfl⟩⟩

/-- A condition on the first machine's steps, over a run of the whole. -/
theorem allSteps_feed {G : σ → ι → Prop} {is : List ι} {s s' : σ} {t t' : τ}
    {os : List (ω ⊕ ο)}
    (h : (M.feed deliver N).run (s, t) is = some ((s', t'), os))
    (hall : (M.feed deliver N).AllSteps (fun x i => G x.1 i) (s, t) is) :
    M.AllSteps G s is := by
  intro pre i post s₁ os₁ heq hpre
  subst heq
  obtain ⟨⟨s₂, t₂⟩, os₂, _, hpre', _, _⟩ := (M.feed deliver N).run_append.mp h
  obtain ⟨hs, _⟩ := M.run_det (run_feed hpre').1 hpre
  subst hs
  exact hall pre i post (s₂, t₂) os₂ rfl hpre'

end Machine

end Pasteboard.Lib
