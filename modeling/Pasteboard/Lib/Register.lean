/-
  Pasteboard.Lib.Register
  ───────────────────────
  **KEYED REGISTERS.**

  The abstract view of a keyed store: inputs assign to single keys (`none`
  empties the key) or do nothing.  After a run from the empty store a key holds
  the value of the LAST input that assigned to it (`contents_eq_some_iff`), and
  inputs that do not assign to it do not matter (`foldl_assign_of_untouched`).
-/
import Mathlib.Data.List.Induction

namespace Pasteboard.Lib.Register

variable {K V ι : Type} [DecidableEq K]

/-- The effect of one input: `eff i` is the key it assigns to, and the value. -/
def assign (eff : ι → Option (K × Option V)) (m : K → Option V) (i : ι) :
    K → Option V :=
  match eff i with
  | none => m
  | some (k, v) => Function.update m k v

/-- What a run of inputs leaves in an empty store. -/
def contents (eff : ι → Option (K × Option V)) (is : List ι) : K → Option V :=
  is.foldl (assign eff) fun _ => none

variable {eff : ι → Option (K × Option V)}

/-- An input with no effect. -/
theorem assign_none {m : K → Option V} {i : ι} (h : eff i = none) :
    assign eff m i = m := by
  unfold assign
  rw [h]

/-- An input that assigns, seen from any key. -/
theorem assign_apply {m : K → Option V} {i : ι} {k : K} {v : Option V}
    (h : eff i = some (k, v)) (k' : K) :
    assign eff m i k' = if k = k' then v else m k' := by
  unfold assign
  rw [h]
  show Function.update m k v k' = _
  rw [Function.update_apply]
  by_cases hk : k = k'
  · rw [if_pos hk, if_pos hk.symm]
  · rw [if_neg hk, if_neg fun he => hk he.symm]

theorem assign_of_eq {m : K → Option V} {i : ι} {k : K} {v : Option V}
    (h : eff i = some (k, v)) : assign eff m i k = v := by
  rw [assign_apply h, if_pos rfl]

/-- The frame: keys an input does not assign to keep their value. -/
theorem assign_of_ne {m : K → Option V} {i : ι} {k : K}
    (h : ∀ v, eff i ≠ some (k, v)) : assign eff m i k = m k := by
  cases hi : eff i with
  | none => rw [assign_none hi]
  | some x =>
      have hne : x.1 ≠ k := by
        intro hk
        subst hk
        exact h x.2 hi
      rw [assign_apply hi, if_neg hne]

/-- What a key holds afterwards depends on what it held before only. -/
theorem assign_congr {m m' : K → Option V} {k : K} (h : m k = m' k) (i : ι) :
    assign eff m i k = assign eff m' i k := by
  cases hi : eff i with
  | none => rw [assign_none hi, assign_none hi, h]
  | some x => rw [assign_apply hi, assign_apply hi, h]

/-- An input leaves a key alone, or it is what the key holds now. -/
theorem assign_cases (eff : ι → Option (K × Option V)) (m : K → Option V)
    (i : ι) (k : K) :
    assign eff m i k = m k ∨ eff i = some (k, assign eff m i k) := by
  by_cases h : ∃ v, eff i = some (k, v)
  · obtain ⟨v, hv⟩ := h
    rw [assign_of_eq hv]
    exact Or.inr hv
  · exact Or.inl (assign_of_ne fun v hv => h ⟨v, hv⟩)

theorem foldl_assign_of_untouched {k : K} :
    ∀ (is : List ι) (m : K → Option V), (∀ i ∈ is, ∀ v, eff i ≠ some (k, v)) →
      is.foldl (assign eff) m k = m k
  | [], _, _ => rfl
  | i :: is, m, h => by
      rw [List.foldl_cons,
        foldl_assign_of_untouched is _ fun j hj => h j (List.mem_cons_of_mem _ hj),
        assign_of_ne (h i List.mem_cons_self)]

theorem contents_of_untouched {is : List ι} {k : K}
    (h : ∀ i ∈ is, ∀ v, eff i ≠ some (k, v)) : contents eff is k = none :=
  foldl_assign_of_untouched is _ h

/-- **The contents of a key** are the value of the last input that assigned
to it. -/
theorem contents_eq_some_iff {is : List ι} {k : K} {v : V} :
    contents eff is k = some v ↔
      ∃ pre i post, is = pre ++ i :: post ∧ eff i = some (k, some v)
        ∧ ∀ j ∈ post, ∀ w, eff j ≠ some (k, w) := by
  constructor
  · intro h
    induction is using List.reverseRecOn with
    | nil => cases h
    | append_singleton is i ih =>
        unfold contents at h
        rw [List.foldl_append] at h
        by_cases htouch : ∃ w, eff i = some (k, w)
        · -- the last input is the one that assigned
          obtain ⟨w, hw⟩ := htouch
          have hv : w = some v := by
            rw [← h]
            exact (assign_of_eq hw).symm
          subst hv
          refine ⟨is, i, [], rfl, hw, ?_⟩
          intro j hj
          cases hj
        · -- the last input left the key alone: look further back
          have hne : ∀ w, eff i ≠ some (k, w) := fun w hw => htouch ⟨w, hw⟩
          have hv : contents eff is k = some v := by
            rw [← h]
            exact (assign_of_ne hne).symm
          obtain ⟨pre, j, post, heq, hj, hpost⟩ := ih hv
          refine ⟨pre, j, post ++ [i], ?_, hj, ?_⟩
          · rw [heq, List.append_assoc]
            rfl
          · intro l hl
            rcases List.mem_append.mp hl with hl | hl
            · exact hpost l hl
            · rw [List.mem_singleton.mp hl]
              exact hne
  · intro hyp
    obtain ⟨pre, i, post, heq, hi, hpost⟩ := hyp
    unfold contents
    rw [heq, List.foldl_append, List.foldl_cons,
      foldl_assign_of_untouched post _ hpost]
    exact assign_of_eq hi

/-- A key that only its own value is assigned to keeps it. -/
theorem foldl_assign_of_stays {k : K} {v : Option V} :
    ∀ (is : List ι) (m : K → Option V), m k = v →
      (∀ i ∈ is, ∀ w, eff i = some (k, w) → w = v) →
      is.foldl (assign eff) m k = v := by
  intro is
  induction is with
  | nil =>
      intro m hm _
      exact hm
  | cons i is ih =>
      intro m hm h
      rw [List.foldl_cons]
      refine ih _ ?_ fun j hj => h j (List.mem_cons_of_mem _ hj)
      rcases assign_cases eff m i k with hold | hnew
      · rw [hold, hm]
      · exact h i List.mem_cons_self _ hnew

/-- **The contents of a key**, from any input that assigned them and was not
undone. -/
theorem contents_eq_some_iff_stays {is : List ι} {k : K} {v : V} :
    contents eff is k = some v ↔
      ∃ pre i post, is = pre ++ i :: post ∧ eff i = some (k, some v)
        ∧ ∀ j ∈ post, ∀ w, eff j = some (k, w) → w = some v := by
  constructor
  · intro h
    obtain ⟨pre, i, post, heq, hi, hpost⟩ := contents_eq_some_iff.mp h
    refine ⟨pre, i, post, heq, hi, ?_⟩
    intro j hj w hw
    exact absurd hw (hpost j hj w)
  · intro hyp
    obtain ⟨pre, i, post, heq, hi, hpost⟩ := hyp
    unfold contents
    rw [heq, List.foldl_append, List.foldl_cons]
    exact foldl_assign_of_stays post _ (assign_of_eq hi) hpost

end Pasteboard.Lib.Register
