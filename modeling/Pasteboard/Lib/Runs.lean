/-
  Pasteboard.Lib.Runs
  ───────────────────
  **RUNS OF STATE MACHINES, AND THE INDUCTIONS OVER THEM.**

  A `Machine` takes inputs one at a time; a step gives the next state and a
  list of outputs, or `none` where the machine cannot take it.  Each induction
  over a run is made here once, from what one step does:

    • `run_keeps`      — an invariant every step keeps holds at the end,
    • `run_isSome_iff` — a run is possible exactly when its inputs are,
    • `run_total`      — where every step is possible and puts out what it
                         should, so is and does every run,
    • `run_abs`        — a view of the state every step updates by a function
                         is updated by the fold of that function,
    • `history_always_iff` — a guard on the inputs that decides whether every
                         state of a run is good,
    • `run_refines`    — a machine whose steps an abstraction carries to those
                         of another machine runs as that machine does,
    • `run_translate`  — a machine that translates its inputs runs as the
                         machine it translates them for,
    • `run_purge`      — steps of others that leave an observer's view alone
                         can be deleted from the run,
    • `foldl_keeps_iff`— for total steps: an invariant that a step keeps
                         exactly under a guard holds in every state of a run
                         exactly when every step meets the guard.
-/
import Mathlib.Data.List.Induction

namespace Pasteboard.Lib

/-- A machine with inputs `ι` and outputs `ω`. -/
structure Machine (σ ι ω : Type) where
  step : σ → ι → Option (σ × List ω)

namespace Machine

variable {σ ι ω : Type} (M : Machine σ ι ω)

/-! ## §1. Runs. -/

/-- The last state of a run, and all its outputs in order. -/
def run : σ → List ι → Option (σ × List ω)
  | s, [] => some (s, [])
  | s, i :: is =>
      (M.step s i).bind fun x =>
        (run x.1 is).map fun y => (y.1, x.2 ++ y.2)

@[simp] theorem run_nil (s : σ) : M.run s [] = some (s, []) := rfl

theorem run_nil_iff {s s' : σ} {os : List ω} :
    M.run s [] = some (s', os) ↔ s = s' ∧ [] = os := by
  rw [run_nil, Option.some.injEq, Prod.mk.injEq]

/-- A step has one outcome. -/
theorem step_det {s s₁ s₂ : σ} {i : ι} {os₁ os₂ : List ω}
    (h₁ : M.step s i = some (s₁, os₁)) (h₂ : M.step s i = some (s₂, os₂)) :
    s₁ = s₂ ∧ os₁ = os₂ := by
  rw [h₁, Option.some.injEq, Prod.mk.injEq] at h₂
  exact h₂

/-- So has a run. -/
theorem run_det {s s₁ s₂ : σ} {is : List ι} {os₁ os₂ : List ω}
    (h₁ : M.run s is = some (s₁, os₁)) (h₂ : M.run s is = some (s₂, os₂)) :
    s₁ = s₂ ∧ os₁ = os₂ := by
  rw [h₁, Option.some.injEq, Prod.mk.injEq] at h₂
  exact h₂

/-- **A run taken apart at its first step.** -/
theorem run_cons {s s' : σ} {i : ι} {is : List ι} {os : List ω} :
    M.run s (i :: is) = some (s', os) ↔
      ∃ s₁ os₁ os₂, M.step s i = some (s₁, os₁)
        ∧ M.run s₁ is = some (s', os₂) ∧ os = os₁ ++ os₂ := by
  show (M.step s i).bind _ = _ ↔ _
  constructor
  · intro h
    obtain ⟨⟨s₁, os₁⟩, hstep, h⟩ := Option.bind_eq_some_iff.mp h
    obtain ⟨⟨s₂, os₂⟩, hrun, h⟩ := Option.map_eq_some_iff.mp h
    injection h with hs hos
    subst hs
    exact ⟨s₁, os₁, os₂, hstep, hrun, hos.symm⟩
  · intro hyp
    obtain ⟨s₁, os₁, os₂, hstep, hrun, rfl⟩ := hyp
    rw [hstep]
    show (M.run s₁ is).map _ = _
    rw [hrun]
    rfl

/-- **A run taken apart between two lists of inputs.** -/
theorem run_append {s s' : σ} {is js : List ι} {os : List ω} :
    M.run s (is ++ js) = some (s', os) ↔
      ∃ s₁ os₁ os₂, M.run s is = some (s₁, os₁)
        ∧ M.run s₁ js = some (s', os₂) ∧ os = os₁ ++ os₂ := by
  induction is generalizing s os with
  | nil =>
      constructor
      · intro h
        exact ⟨s, [], os, rfl, h, rfl⟩
      · intro hyp
        obtain ⟨s₁, os₁, os₂, h, h', rfl⟩ := hyp
        obtain ⟨hs, hos⟩ := M.run_nil_iff.mp h
        subst hs hos
        exact h'
  | cons i is ih =>
      rw [List.cons_append, run_cons]
      constructor
      · intro hyp
        obtain ⟨s₁, os₁, os₂, hstep, hrun, rfl⟩ := hyp
        obtain ⟨s₂, os₃, os₄, h, h', rfl⟩ := ih.mp hrun
        refine ⟨s₂, os₁ ++ os₃, os₄, ?_, h', (List.append_assoc ..).symm⟩
        exact M.run_cons.mpr ⟨s₁, os₁, os₃, hstep, h, rfl⟩
      · intro hyp
        obtain ⟨s₂, os₃, os₄, h, h', rfl⟩ := hyp
        obtain ⟨s₁, os₁, os₅, hstep, hrun, rfl⟩ := M.run_cons.mp h
        refine ⟨s₁, os₁, os₅ ++ os₄, hstep, ?_, List.append_assoc ..⟩
        exact ih.mpr ⟨s₂, os₅, os₄, hrun, h', rfl⟩

/-- Some run leads from `s` to `s'` and puts out `os`. -/
def Reaches (s s' : σ) (os : List ω) : Prop :=
  ∃ is, M.run s is = some (s', os)

variable {M}

theorem Reaches.of_step {s s' : σ} {i : ι} {os : List ω}
    (h : M.step s i = some (s', os)) : M.Reaches s s' os :=
  ⟨[i], M.run_cons.mpr ⟨s', os, [], h, rfl, (List.append_nil os).symm⟩⟩

theorem Reaches.trans {s s₁ s' : σ} {os os₁ : List ω}
    (h : M.Reaches s s₁ os) (h₁ : M.Reaches s₁ s' os₁) :
    M.Reaches s s' (os ++ os₁) := by
  obtain ⟨is, hrun⟩ := h
  obtain ⟨is₁, hrun₁⟩ := h₁
  exact ⟨is ++ is₁, M.run_append.mpr ⟨s₁, os, os₁, hrun, hrun₁, rfl⟩⟩

variable (M)

/-! ## §2. Invariants and views. -/

/-- Every step the machine takes keeps `Inv`. -/
def Keeps (Inv : σ → Prop) : Prop :=
  ∀ s i s' os, Inv s → M.step s i = some (s', os) → Inv s'

/-- **What every step keeps, every run keeps.** -/
theorem run_keeps {Inv : σ → Prop} (h : M.Keeps Inv) :
    ∀ (is : List ι) {s s' : σ} {os : List ω}, Inv s →
      M.run s is = some (s', os) → Inv s'
  | [], s, s', os, hs, hrun => by
      obtain ⟨hs', _⟩ := M.run_nil_iff.mp hrun
      subst hs'
      exact hs
  | i :: is, s, s', os, hs, hrun => by
      obtain ⟨s₁, os₁, os₂, hstep, hrun, _⟩ := M.run_cons.mp hrun
      exact run_keeps h is (h s i s₁ os₁ hs hstep) hrun

/-- **A run is possible exactly when its inputs are**, for a machine whose
invariant makes the inputs of `ok` the possible ones. -/
theorem run_isSome_iff {Inv : σ → Prop} {ok : ι → Prop} (h : M.Keeps Inv)
    (hok : ∀ s i, Inv s → ((M.step s i).isSome = true ↔ ok i)) :
    ∀ (is : List ι) {s : σ}, Inv s →
      ((∃ s' os, M.run s is = some (s', os)) ↔ ∀ i ∈ is, ok i)
  | [], s, _ => by
      refine iff_of_true ⟨s, [], rfl⟩ ?_
      intro i hi
      cases hi
  | i :: is, s, hs => by
      constructor
      · intro hyp j hj
        obtain ⟨s', os, hrun⟩ := hyp
        obtain ⟨s₁, os₁, os₂, hstep, hrest, _⟩ := M.run_cons.mp hrun
        have hs₁ : Inv s₁ := h s i s₁ os₁ hs hstep
        rcases List.mem_cons.mp hj with hj | hj
        · subst hj
          exact (hok s j hs).mp (by rw [hstep]; rfl)
        · exact (run_isSome_iff h hok is hs₁).mp ⟨s', os₂, hrest⟩ j hj
      · intro hall
        have hi : ok i := hall i List.mem_cons_self
        obtain ⟨⟨s₁, os₁⟩, hstep⟩ :=
          Option.isSome_iff_exists.mp ((hok s i hs).mpr hi)
        have hs₁ : Inv s₁ := h s i s₁ os₁ hs hstep
        obtain ⟨s', os₂, hrest⟩ := (run_isSome_iff h hok is hs₁).mpr
          fun j hj => hall j (List.mem_cons_of_mem _ hj)
        refine ⟨s', os₁ ++ os₂, ?_⟩
        exact M.run_cons.mpr ⟨s₁, os₁, os₂, hstep, hrest, rfl⟩

/-- **Where every step is possible, every run is**, with the outputs of its
steps. -/
theorem run_total {Inv : σ → Prop} {P : ω → Prop}
    (h : ∀ s i, Inv s →
      ∃ s' os, M.step s i = some (s', os) ∧ Inv s' ∧ ∀ o ∈ os, P o) :
    ∀ (is : List ι) {s : σ}, Inv s →
      ∃ s' os, M.run s is = some (s', os) ∧ Inv s' ∧ ∀ o ∈ os, P o
  | [], s, hs => by
      refine ⟨s, [], rfl, hs, ?_⟩
      intro o ho
      cases ho
  | i :: is, s, hs => by
      obtain ⟨s₁, os₁, hstep, hs₁, hos₁⟩ := h s i hs
      obtain ⟨s₂, os₂, hrun, hs₂, hos₂⟩ := run_total h is hs₁
      refine ⟨s₂, os₁ ++ os₂, ?_, hs₂, ?_⟩
      · exact M.run_cons.mpr ⟨s₁, os₁, os₂, hstep, hrun, rfl⟩
      · intro o ho
        rcases List.mem_append.mp ho with ho | ho
        · exact hos₁ o ho
        · exact hos₂ o ho

/-- **A view that each step updates by `eff` is updated by the run's fold.** -/
theorem run_abs {α : Type} (abs : σ → α) (eff : α → ι → α)
    (h : ∀ s i s' os, M.step s i = some (s', os) → abs s' = eff (abs s) i) :
    ∀ (is : List ι) {s s' : σ} {os : List ω},
      M.run s is = some (s', os) → abs s' = is.foldl eff (abs s)
  | [], s, s', os, hrun => by
      obtain ⟨hs', _⟩ := M.run_nil_iff.mp hrun
      subst hs'
      rfl
  | i :: is, s, s', os, hrun => by
      obtain ⟨s₁, os₁, os₂, hstep, hrun, _⟩ := M.run_cons.mp hrun
      rw [List.foldl_cons, ← h s i s₁ os₁ hstep]
      exact run_abs abs eff h is hrun

/-- **A machine that an abstraction of the state carries to another**, in the
states of an invariant, runs as the other does: the same inputs are possible,
with the same outputs. -/
theorem run_refines {τ : Type} {M' : Machine τ ι ω} (abs : σ → τ)
    (Inv : σ → Prop)
    (hkeep : ∀ s i s' os, Inv s → M.step s i = some (s', os) → Inv s')
    (hstep : ∀ s i, Inv s →
      (M.step s i).map (fun x => (abs x.1, x.2)) = M'.step (abs s) i) :
    ∀ (is : List ι) {s : σ}, Inv s →
      (M.run s is).map (fun x => (abs x.1, x.2)) = M'.run (abs s) is := by
  intro is
  induction is with
  | nil =>
      intro s _
      rfl
  | cons i is ih =>
      intro s hs
      show ((M.step s i).bind _).map _ = (M'.step (abs s) i).bind _
      rw [← hstep s i hs]
      cases hx : M.step s i with
      | none => rfl
      | some x =>
          have hrest := ih (hkeep s i x.1 x.2 hs hx)
          show ((M.run x.1 is).map _).map _ = (M'.run (abs x.1) is).map _
          rw [← hrest, Option.map_map, Option.map_map]
          rfl

/-- The step of an input, if there is one. -/
def stepOption (s : σ) : Option ι → Option (σ × List ω)
  | none => some (s, [])
  | some i => M.step s i

/-- **A machine that translates its inputs** runs as the other machine does on
the translated inputs.  An input without a translation is skipped. -/
theorem run_translate {κ : Type} {M' : Machine σ κ ω} {tr : κ → Option ι}
    (h : ∀ s k, M'.step s k = M.stepOption s (tr k)) :
    ∀ (ks : List κ) (s : σ), M'.run s ks = M.run s (ks.filterMap tr) := by
  intro ks
  induction ks with
  | nil =>
      intro s
      rfl
  | cons k ks ih =>
      intro s
      show (M'.step s k).bind _ = _
      rw [h s k]
      cases hk : tr k with
      | none =>
          rw [List.filterMap_cons_none hk]
          show (M'.run s ks).map _ = _
          rw [ih s]
          exact Option.map_id'
      | some i =>
          rw [List.filterMap_cons_some hk]
          show (M.step s i).bind _ = (M.step s i).bind _
          congr 1
          funext x
          rw [ih x.1]

/-- In every step of the run, the state before it and its input satisfy `G`. -/
def AllSteps (G : σ → ι → Prop) (s : σ) (is : List ι) : Prop :=
  ∀ pre i post s₁ os₁, is = pre ++ i :: post →
    M.run s pre = some (s₁, os₁) → G s₁ i

theorem allSteps_nil (G : σ → ι → Prop) (s : σ) : M.AllSteps G s [] := by
  intro pre i post s₁ os₁ h _
  cases pre <;> cases h

variable {M} in
theorem AllSteps.left {G : σ → ι → Prop} {s : σ} {is js : List ι}
    (h : M.AllSteps G s (is ++ js)) : M.AllSteps G s is := by
  intro pre i post s₁ os₁ heq hrun
  refine h pre i (post ++ js) s₁ os₁ ?_ hrun
  simp [heq]

/-- **`AllSteps` taken apart at the first step.** -/
theorem allSteps_cons {G : σ → ι → Prop} {s s₁ : σ} {i : ι} {is : List ι}
    {os₁ : List ω} (hstep : M.step s i = some (s₁, os₁)) :
    M.AllSteps G s (i :: is) ↔ G s i ∧ M.AllSteps G s₁ is := by
  constructor
  · intro h
    refine ⟨h [] i is s [] rfl rfl, ?_⟩
    intro pre j post s₂ os₂ heq hrun
    refine h (i :: pre) j post s₂ (os₁ ++ os₂) (by rw [heq]; rfl) ?_
    exact M.run_cons.mpr ⟨s₁, os₁, os₂, hstep, hrun, rfl⟩
  · intro hyp pre j post s₂ os₂ heq hrun
    obtain ⟨hi, h⟩ := hyp
    cases pre with
    | nil =>
        injection heq with hij _
        obtain ⟨hs', _⟩ := M.run_nil_iff.mp hrun
        subst hij hs'
        exact hi
    | cons i' pre =>
        injection heq with hij heq
        subst hij
        obtain ⟨s₃, os₃, os₄, hstep', hrun, _⟩ := M.run_cons.mp hrun
        obtain ⟨hs₁, _⟩ := M.step_det hstep hstep'
        subst hs₁
        exact h pre j post s₂ os₄ heq hrun

/-- Behind a step that cannot be taken there is no other. -/
theorem allSteps_stuck {G : σ → ι → Prop} {s : σ} {i : ι} {is : List ι}
    (hstep : M.step s i = none) : M.AllSteps G s (i :: is) ↔ G s i := by
  constructor
  · intro h
    exact h [] i is s [] rfl rfl
  · intro hi pre j post s₂ os₂ heq hrun
    cases pre with
    | nil =>
        injection heq with hij _
        obtain ⟨hs', _⟩ := M.run_nil_iff.mp hrun
        subst hij hs'
        exact hi
    | cons i' pre =>
        injection heq with hij heq
        subst hij
        obtain ⟨s₃, os₃, os₄, hstep', _⟩ := M.run_cons.mp hrun
        rw [hstep] at hstep'
        cases hstep'

/-- `AllSteps` is decided step by step. -/
instance decidableAllSteps {G : σ → ι → Prop} [∀ s i, Decidable (G s i)] :
    (s : σ) → (is : List ι) → Decidable (M.AllSteps G s is)
  | s, [] => .isTrue (M.allSteps_nil G s)
  | s, i :: is =>
      match hstep : M.step s i with
      | none => decidable_of_iff (G s i) (M.allSteps_stuck hstep).symm
      | some (s₁, _) =>
          have : Decidable (M.AllSteps G s₁ is) := decidableAllSteps s₁ is
          decidable_of_iff (G s i ∧ M.AllSteps G s₁ is)
            (M.allSteps_cons hstep).symm

/-- Every step of a possible run is possible. -/
theorem step_of_run {s s' s₁ : σ} {i : ι} {pre post : List ι} {os os₁ : List ω}
    (hrun : M.run s (pre ++ i :: post) = some (s', os))
    (hpre : M.run s pre = some (s₁, os₁)) :
    ∃ s₂ os₂, M.step s₁ i = some (s₂, os₂) := by
  obtain ⟨s₃, _, _, hpre', hrest, _⟩ := M.run_append.mp hrun
  obtain ⟨hs, _⟩ := M.run_det hpre hpre'
  subst hs
  obtain ⟨s₂, os₂, _, hstep, _, _⟩ := M.run_cons.mp hrest
  exact ⟨s₂, os₂, hstep⟩

/-- A condition on the inputs alone. -/
theorem allSteps_iff_forall {G : ι → Prop} :
    ∀ (is : List ι) {s s' : σ} {os : List ω}, M.run s is = some (s', os) →
      (M.AllSteps (fun _ => G) s is ↔ ∀ i ∈ is, G i)
  | [], s, s', os, _ => iff_of_true (M.allSteps_nil _ s) nofun
  | i :: is, s, s', os, hrun => by
      obtain ⟨s₁, os₁, os₂, hstep, hrest, _⟩ := M.run_cons.mp hrun
      rw [M.allSteps_cons hstep, List.forall_mem_cons,
        allSteps_iff_forall is hrest]

/-- Over a possible run, conditions that agree on possible steps agree. -/
theorem allSteps_congr {G G' : σ → ι → Prop} {s s' : σ} {is : List ι}
    {os : List ω} (hrun : M.run s is = some (s', os))
    (h : ∀ s₁ i s₂ os₂, M.step s₁ i = some (s₂, os₂) → (G s₁ i ↔ G' s₁ i)) :
    M.AllSteps G s is ↔ M.AllSteps G' s is := by
  constructor
  · intro hall pre i post s₁ os₁ heq hpre
    subst heq
    obtain ⟨s₂, os₂, hstep⟩ := M.step_of_run hrun hpre
    exact (h s₁ i s₂ os₂ hstep).mp (hall pre i post s₁ os₁ rfl hpre)
  · intro hall pre i post s₁ os₁ heq hpre
    subst heq
    obtain ⟨s₂, os₂, hstep⟩ := M.step_of_run hrun hpre
    exact (h s₁ i s₂ os₂ hstep).mpr (hall pre i post s₁ os₁ rfl hpre)

/-- **What steps that meet `G` meet besides**, under an invariant they keep. -/
theorem allSteps_of_inv (Inv : σ → Prop) {G Q : σ → ι → Prop}
    (hkeep : ∀ s i s' os, Inv s → G s i → M.step s i = some (s', os) → Inv s')
    (himp : ∀ s i s' os, Inv s → G s i → M.step s i = some (s', os) → Q s i) :
    ∀ (is : List ι) {s s' : σ} {os : List ω}, Inv s →
      M.run s is = some (s', os) → M.AllSteps G s is → M.AllSteps Q s is
  | [], s, s', os, _, _, _ => M.allSteps_nil Q s
  | i :: is, s, s', os, hs, hrun, hall => by
      obtain ⟨s₁, os₁, os₂, hstep, hrest, _⟩ := M.run_cons.mp hrun
      obtain ⟨hi, hall⟩ := (M.allSteps_cons hstep).mp hall
      have hs₁ : Inv s₁ := hkeep s i s₁ os₁ hs hi hstep
      exact (M.allSteps_cons hstep).mpr ⟨himp s i s₁ os₁ hs hi hstep,
        allSteps_of_inv Inv hkeep himp is hs₁ hrest hall⟩

/-- **Conditions that agree where an invariant holds.** -/
theorem allSteps_iff_of_inv (Inv : σ → Prop) {G Q : σ → ι → Prop}
    (hkeep : ∀ s i s' os, Inv s → G s i → M.step s i = some (s', os) → Inv s')
    (hiff : ∀ s i s' os, Inv s → M.step s i = some (s', os) →
      (Q s i ↔ G s i))
    (is : List ι) {s s' : σ} {os : List ω} (hs : Inv s)
    (hrun : M.run s is = some (s', os)) :
    M.AllSteps Q s is ↔ M.AllSteps G s is := by
  constructor
  · refine M.allSteps_of_inv Inv ?_ ?_ is hs hrun
    · intro s i s' os hinv hq hstep
      exact hkeep s i s' os hinv ((hiff s i s' os hinv hstep).mp hq) hstep
    · intro s i s' os hinv hq hstep
      exact (hiff s i s' os hinv hstep).mp hq
  · refine M.allSteps_of_inv Inv hkeep ?_ is hs hrun
    intro s i s' os hinv hg hstep
    exact (hiff s i s' os hinv hstep).mpr hg

/-- **An invariant of the inputs so far and the state**, over a run whose
steps meet `G`. -/
theorem history_of_allSteps (Inv : List ι → σ → Prop) {G : σ → ι → Prop}
    {s : σ} (hstart : Inv [] s)
    (hstep : ∀ is s i s' os, Inv is s → G s i → M.step s i = some (s', os) →
      Inv (is ++ [i]) s') :
    ∀ (is : List ι) {s' : σ} {os : List ω}, M.run s is = some (s', os) →
      M.AllSteps G s is → Inv is s' := by
  intro is
  induction is using List.reverseRecOn with
  | nil =>
      intro s' os hrun _
      obtain ⟨hs', _⟩ := M.run_nil_iff.mp hrun
      subst hs'
      exact hstart
  | append_singleton is i ih =>
      intro s' os hrun hall
      obtain ⟨s₁, os₁, os₂, hpre, hlast, _⟩ := M.run_append.mp hrun
      obtain ⟨s₂, os₃, os₄, hi, hnil, _⟩ := M.run_cons.mp hlast
      obtain ⟨hs', _⟩ := M.run_nil_iff.mp hnil
      subst hs'
      have hinv : Inv is s₁ := ih hpre hall.left
      exact hstep is s₁ i s₂ os₃ hinv (hall is i [] s₁ os₁ rfl hpre) hi

/-- Every state of the run, the first and the last included, is `Good`. -/
def Always (Good : σ → Prop) (s : σ) (is : List ι) : Prop :=
  ∀ pre post s₁ os₁, is = pre ++ post → M.run s pre = some (s₁, os₁) → Good s₁

theorem always_nil {Good : σ → Prop} {s : σ} :
    M.Always Good s [] ↔ Good s := by
  constructor
  · intro h
    exact h [] [] s [] rfl rfl
  · intro hs pre post s₁ os₁ heq hrun
    cases pre with
    | nil =>
        obtain ⟨hs', _⟩ := M.run_nil_iff.mp hrun
        subst hs'
        exact hs
    | cons i pre => cases heq

/-- **`Always` taken apart at the first step.** -/
theorem always_cons {Good : σ → Prop} {s s₁ : σ} {i : ι} {is : List ι}
    {os₁ : List ω} (hstep : M.step s i = some (s₁, os₁)) :
    M.Always Good s (i :: is) ↔ Good s ∧ M.Always Good s₁ is := by
  constructor
  · intro h
    refine ⟨h [] (i :: is) s [] rfl rfl, ?_⟩
    intro pre post s₂ os₂ heq hrun
    refine h (i :: pre) post s₂ (os₁ ++ os₂) (by rw [heq]; rfl) ?_
    exact M.run_cons.mpr ⟨s₁, os₁, os₂, hstep, hrun, rfl⟩
  · intro hyp pre post s₂ os₂ heq hrun
    obtain ⟨hs, h⟩ := hyp
    cases pre with
    | nil =>
        obtain ⟨hs', _⟩ := M.run_nil_iff.mp hrun
        subst hs'
        exact hs
    | cons i' pre =>
        injection heq with hij heq
        subst hij
        obtain ⟨s₃, os₃, os₄, hstep', hrun, _⟩ := M.run_cons.mp hrun
        obtain ⟨hs₁, _⟩ := M.step_det hstep hstep'
        subst hs₁
        exact h pre post s₂ os₄ heq hrun

/-- **Steps that meet `G` keep every state of a run good**, where they keep an
invariant whose states are good. -/
theorem always_of_allSteps (Inv : σ → Prop) {Good : σ → Prop}
    {G : σ → ι → Prop}
    (hkeep : ∀ s i s' os, Inv s → G s i → M.step s i = some (s', os) → Inv s')
    (hgood : ∀ s, Inv s → Good s) :
    ∀ (is : List ι) {s s' : σ} {os : List ω}, Inv s →
      M.run s is = some (s', os) → M.AllSteps G s is → M.Always Good s is := by
  intro is
  induction is with
  | nil =>
      intro s s' os hs _ _
      exact M.always_nil.mpr (hgood s hs)
  | cons i is ih =>
      intro s s' os hs hrun hall
      obtain ⟨s₁, os₁, os₂, hstep, hrest, _⟩ := M.run_cons.mp hrun
      obtain ⟨hi, hall⟩ := (M.allSteps_cons hstep).mp hall
      have hs₁ : Inv s₁ := hkeep s i s₁ os₁ hs hi hstep
      exact (M.always_cons hstep).mpr ⟨hgood s hs, ih hs₁ hrest hall⟩

/-- **A guard that decides a run.**  Steps that meet `G` keep `Inv`, whose
states are good; the state after a step that does not is bad.  Then every state
of a run is good exactly when every step meets `G`. -/
theorem always_iff_allSteps (Inv : σ → Prop) {Good : σ → Prop}
    {G : σ → ι → Prop}
    (hkeep : ∀ s i s' os, Inv s → G s i → M.step s i = some (s', os) → Inv s')
    (hgood : ∀ s, Inv s → Good s)
    (hbad : ∀ s i s' os, Inv s → M.step s i = some (s', os) → Good s' → G s i) :
    ∀ (is : List ι) {s s' : σ} {os : List ω}, Inv s →
      M.run s is = some (s', os) →
      (M.Always Good s is ↔ M.AllSteps G s is) := by
  intro is s s' os hs hrun
  refine ⟨?_, M.always_of_allSteps Inv hkeep hgood is hs hrun⟩
  induction is generalizing s os with
  | nil =>
      intro _
      exact M.allSteps_nil G s
  | cons i is ih =>
      intro hall
      obtain ⟨s₁, os₁, os₂, hstep, hrest, _⟩ := M.run_cons.mp hrun
      obtain ⟨_, hall⟩ := (M.always_cons hstep).mp hall
      -- the state after the step is good, so the step met the guard
      have hs₁ : Good s₁ := hall [] is s₁ [] rfl rfl
      have hi : G s i := hbad s i s₁ os₁ hs hstep hs₁
      exact (M.allSteps_cons hstep).mpr
        ⟨hi, ih (hkeep s i s₁ os₁ hs hi hstep) hrest hall⟩

/-- A run and one step more. -/
theorem run_concat {s s₁ s₂ : σ} {is : List ι} {i : ι} {os os₁ : List ω}
    (hrun : M.run s is = some (s₁, os)) (hstep : M.step s₁ i = some (s₂, os₁)) :
    M.run s (is ++ [i]) = some (s₂, os ++ os₁) := by
  refine M.run_append.mpr ⟨s₁, os, os₁, hrun, ?_, rfl⟩
  exact M.run_cons.mpr ⟨s₂, os₁, [], hstep, rfl, (List.append_nil os₁).symm⟩

/-- **An invariant of the inputs so far, the state, and the outputs so far.** -/
theorem run_history (Inv : List ι → σ → List ω → Prop) {s : σ}
    (hstart : Inv [] s [])
    (hstep : ∀ is s os i s' os', Inv is s os → M.step s i = some (s', os') →
      Inv (is ++ [i]) s' (os ++ os')) :
    ∀ (is : List ι) {s' : σ} {os : List ω}, M.run s is = some (s', os) →
      Inv is s' os := by
  intro is
  induction is using List.reverseRecOn with
  | nil =>
      intro s' os hrun
      obtain ⟨hs', hos⟩ := M.run_nil_iff.mp hrun
      subst hs' hos
      exact hstart
  | append_singleton is i ih =>
      intro s' os hrun
      obtain ⟨s₁, os₁, os₂, hpre, hlast, rfl⟩ := M.run_append.mp hrun
      obtain ⟨s₂, os₃, os₄, hi, hnil, rfl⟩ := M.run_cons.mp hlast
      obtain ⟨hs', hos⟩ := M.run_nil_iff.mp hnil
      subst hs' hos
      rw [List.append_nil]
      exact hstep is s₁ os₁ i s₂ os₃ (ih hpre) hi

/-- **An invariant of the state and the outputs so far**, over a run whose
steps meet `G`. -/
theorem outputs_of_allSteps (Inv : σ → List ω → Prop) {G : σ → ι → Prop}
    {s : σ} (hstart : Inv s [])
    (hstep : ∀ s₁ os i s₂ os', Inv s₁ os → G s₁ i →
      M.step s₁ i = some (s₂, os') → Inv s₂ (os ++ os')) :
    ∀ (is : List ι) {s' : σ} {os : List ω}, M.run s is = some (s', os) →
      M.AllSteps G s is → Inv s' os := by
  intro is
  induction is using List.reverseRecOn with
  | nil =>
      intro s' os hrun _
      obtain ⟨hs', hos⟩ := M.run_nil_iff.mp hrun
      subst hs' hos
      exact hstart
  | append_singleton is i ih =>
      intro s' os hrun hall
      obtain ⟨s₁, os₁, os₂, hpre, hlast, rfl⟩ := M.run_append.mp hrun
      obtain ⟨s₂, os₃, os₄, hi, hnil, rfl⟩ := M.run_cons.mp hlast
      obtain ⟨hs', hos⟩ := M.run_nil_iff.mp hnil
      subst hs' hos
      rw [List.append_nil]
      have hinv : Inv s₁ os₁ := ih hpre hall.left
      exact hstep s₁ os₁ i s₂ os₃ hinv (hall is i [] s₁ os₁ rfl hpre) hi

/-- **An invariant of the inputs so far and the state**, in every state of a
run whose steps meet a guard on the inputs. -/
theorem history_of_guard (Inv : List ι → σ → Prop) (G : List ι → ι → Prop)
    {s : σ} (hstart : Inv [] s)
    (hkeep : ∀ is s i s' os, Inv is s → G is i →
      M.step s i = some (s', os) → Inv (is ++ [i]) s')
    {is : List ι}
    (hguard : ∀ pre i post s₁ os₁ s₂ os₂, is = pre ++ i :: post →
      Inv pre s₁ → M.run s pre = some (s₁, os₁) →
      M.step s₁ i = some (s₂, os₂) → G pre i) :
    ∀ pre post s₁ os₁, is = pre ++ post →
      M.run s pre = some (s₁, os₁) → Inv pre s₁ := by
  intro pre
  induction pre using List.reverseRecOn with
  | nil =>
      intro post s₁ os₁ _ hpre
      obtain ⟨hs, _⟩ := M.run_nil_iff.mp hpre
      subst hs
      exact hstart
  | append_singleton pre i ih =>
      intro post s₂ os₂ heq hpre
      obtain ⟨s₁, os₁, os₃, hrun, hlast, _⟩ := M.run_append.mp hpre
      obtain ⟨s₃, os₄, os₅, hstep, hnil, _⟩ := M.run_cons.mp hlast
      obtain ⟨hs, _⟩ := M.run_nil_iff.mp hnil
      subst hs
      have heq' : is = pre ++ i :: post := by
        rw [heq, List.append_assoc]
        rfl
      have hinv : Inv pre s₁ := ih (i :: post) s₁ os₁ heq' hrun
      exact hkeep pre s₁ i s₃ os₄ hinv
        (hguard pre i post s₁ os₁ s₃ os₄ heq' hinv hrun hstep) hstep

/-- **A guard on the inputs so far that decides a run.**  Steps that meet `G`
keep `Inv`, which is good; what a step that does not leaves is bad.  Then every
state of a run is good, for the inputs that led to it, exactly when every step
meets `G`. -/
theorem history_always_iff (Inv Good : List ι → σ → Prop)
    (G : List ι → ι → Prop) {s : σ} (hstart : Inv [] s)
    (hkeep : ∀ is s i s' os, Inv is s → G is i →
      M.step s i = some (s', os) → Inv (is ++ [i]) s')
    (hgood : ∀ is s, Inv is s → Good is s)
    (hbad : ∀ is s i s' os, Inv is s → M.step s i = some (s', os) →
      Good (is ++ [i]) s' → G is i)
    {is : List ι} {s' : σ} {os : List ω}
    (hrun : M.run s is = some (s', os)) :
    (∀ pre post s₁ os₁, is = pre ++ post → M.run s pre = some (s₁, os₁) →
        Good pre s₁)
      ↔ ∀ pre i post, is = pre ++ i :: post → G pre i := by
  constructor
  · intro hall
    -- the state after a step is good, so the step met the guard
    have hguard : ∀ pre i post s₁ os₁ s₂ os₂, is = pre ++ i :: post →
        Inv pre s₁ → M.run s pre = some (s₁, os₁) →
        M.step s₁ i = some (s₂, os₂) → G pre i := by
      intro pre i post s₁ os₁ s₂ os₂ heq hinv hpre hstep
      refine hbad pre s₁ i s₂ os₂ hinv hstep ?_
      refine hall (pre ++ [i]) post s₂ _ ?_ (M.run_concat hpre hstep)
      rw [heq, List.append_assoc]
      rfl
    intro pre i post heq
    subst heq
    obtain ⟨s₁, os₁, os₂, hpre, hrest, _⟩ := M.run_append.mp hrun
    obtain ⟨s₂, os₃, os₄, hstep, _, _⟩ := M.run_cons.mp hrest
    have hinv : Inv pre s₁ :=
      M.history_of_guard Inv G hstart hkeep hguard pre _ s₁ os₁ rfl hpre
    exact hguard pre i post s₁ os₁ s₂ os₃ rfl hinv hpre hstep
  · intro hall pre post s₁ os₁ heq hpre
    refine hgood pre s₁ ?_
    refine M.history_of_guard Inv G hstart hkeep ?_ pre post s₁ os₁ heq hpre
    intro pre i post _ _ _ _ heq _ _ _
    exact hall pre i post heq

/-! ## §3. Deleting the steps of others.

`own` marks the inputs of one observer, `see` the outputs it can see, and `R`
relates states that look the same to it. -/

/-- The observer's own steps do the same in states that look the same; the
steps of others do not change how the state looks. -/
structure Unwinding (own : ι → Bool) (see : ω → Bool) (R : σ → σ → Prop) :
    Prop where
  own_step : ∀ {s t i s' os}, R s t → own i = true →
    M.step s i = some (s', os) →
      ∃ t' os', M.step t i = some (t', os') ∧ R s' t'
        ∧ os.filter see = os'.filter see
  other_step : ∀ {s t i s' os}, R s t → own i = false →
    M.step s i = some (s', os) → R s' t

/-- A step of another input shows the observer nothing. -/
def Quiet (own : ι → Bool) (see : ω → Bool) (s : σ) (i : ι) : Prop :=
  own i = false → ∀ s' os, M.step s i = some (s', os) → os.filter see = []

/-- **Purging.**  The run without the inputs of others is possible and shows
the observer no more than the full run; it shows the same if and only if no
step of others showed anything. -/
theorem run_purge {own : ι → Bool} {see : ω → Bool} {R : σ → σ → Prop}
    (U : M.Unwinding own see R) :
    ∀ (is : List ι) {s t s' : σ} {os : List ω}, R s t →
      M.run s is = some (s', os) →
      ∃ t' os', M.run t (is.filter own) = some (t', os') ∧ R s' t'
        ∧ (os'.filter see).length ≤ (os.filter see).length
        ∧ (os.filter see = os'.filter see
            ↔ M.AllSteps (M.Quiet own see) s is)
  | [], s, t, s', os, hR, hrun => by
      obtain ⟨hs', hos⟩ := M.run_nil_iff.mp hrun
      subst hs' hos
      refine ⟨t, [], rfl, hR, Nat.le_refl _, ?_⟩
      exact ⟨fun _ => M.allSteps_nil _ s, fun _ => rfl⟩
  | i :: is, s, t, s', os, hR, hrun => by
      obtain ⟨s₁, os₁, os₂, hstep, hrest, rfl⟩ := M.run_cons.mp hrun
      rw [M.allSteps_cons hstep, List.filter_append]
      cases ho : own i with
      | true =>
          -- an own step is kept: both runs take it and show the same
          obtain ⟨t₁, os₁', hstep', hR₁, hsee⟩ := U.own_step hR ho hstep
          obtain ⟨t', os₂', hrun', hR', hle, hiff⟩ :=
            run_purge U is hR₁ hrest
          refine ⟨t', os₁' ++ os₂', ?_, hR', ?_, ?_⟩
          · rw [List.filter_cons_of_pos ho]
            exact M.run_cons.mpr ⟨t₁, os₁', os₂', hstep', hrun', rfl⟩
          · rw [List.filter_append, List.length_append, List.length_append,
              hsee]
            omega
          · rw [List.filter_append, hsee, List.append_cancel_left_eq, hiff]
            have hquiet : M.Quiet own see s i := by
              intro hfalse
              rw [ho] at hfalse
              cases hfalse
            exact ⟨fun h => ⟨hquiet, h⟩, fun h => h.2⟩
      | false =>
          -- another's step is deleted: only the full run takes it
          have hR₁ : R s₁ t := U.other_step hR ho hstep
          obtain ⟨t', os₂', hrun', hR', hle, hiff⟩ :=
            run_purge U is hR₁ hrest
          refine ⟨t', os₂', ?_, hR', ?_, ?_⟩
          · rw [List.filter_cons_of_neg (by rw [ho]; decide)]
            exact hrun'
          · rw [List.length_append]
            omega
          · constructor
            · intro h
              -- lengths: nothing can have been shown by the deleted step
              have hlen := congrArg List.length h
              rw [List.length_append] at hlen
              have hnil : os₁.filter see = [] := by
                apply List.eq_nil_of_length_eq_zero
                omega
              rw [hnil, List.nil_append] at h
              refine ⟨?_, hiff.mp h⟩
              intro _ s₁' os₁' hstep'
              rw [← (M.step_det hstep hstep').2]
              exact hnil
            · intro hyp
              obtain ⟨hquiet, h⟩ := hyp
              rw [hquiet ho s₁ os₁ hstep, List.nil_append]
              exact hiff.mpr h

end Machine

/-! ## §4. Total steps. -/

/-- **An invariant that a step keeps exactly under the guard `G`** holds in
every state of a run exactly when every step of the run meets `G`. -/
theorem foldl_keeps_iff {σ ι : Type} (f : σ → ι → σ) (Inv : σ → Prop)
    (G : σ → ι → Prop) (h : ∀ s i, Inv s → (Inv (f s i) ↔ G s i)) {s : σ}
    (hs : Inv s) (is : List ι) :
    (∀ pre post, is = pre ++ post → Inv (pre.foldl f s))
      ↔ ∀ pre i post, is = pre ++ i :: post → G (pre.foldl f s) i := by
  constructor
  · intro hall pre i post heq
    have hpre : Inv (pre.foldl f s) := hall pre (i :: post) heq
    have hnext : Inv ((pre ++ [i]).foldl f s) :=
      hall (pre ++ [i]) post (by rw [heq, List.append_assoc]; rfl)
    rw [List.foldl_append] at hnext
    exact (h _ i hpre).mp hnext
  · intro hall pre
    -- from the last step of the prefix backwards
    induction pre using List.reverseRecOn with
    | nil =>
        intro post _
        exact hs
    | append_singleton pre i ih =>
        intro post heq
        have heq' : is = pre ++ i :: post := by
          rw [heq, List.append_assoc]
          rfl
        rw [List.foldl_append]
        exact (h _ i (ih (i :: post) heq')).mpr (hall pre i post heq')

end Pasteboard.Lib
