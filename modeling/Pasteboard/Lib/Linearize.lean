/-
  Pasteboard.Lib.Linearize
  ────────────────────────
  **CONCURRENT REQUESTS IN A SEQUENTIAL ORDER.**

  A fine machine `C` serves each request in several steps, those of different
  requests interleaved.  An atomic machine `A` serves a request in one step.
  `log s i` says which requests take effect in the step of the input `i`, and
  what they are answered; `CommitRule` says what every such step must do.  From
  it, for every run:

    • `CommitRule.run`   — the atomic machine serves the same requests, in the
                           order of their effects, with the same answers; and
                           each request takes effect once,
    • `CommitRule.order` — a request that has taken effect before another is
                           made comes before it in that order.
-/
import Pasteboard.Lib.Runs

namespace Pasteboard.Lib

/-- The effect of request `id`: what was asked, and what is answered. -/
structure Commit (κ ρ : Type) where
  id : Nat
  op : κ
  answer : ρ
  deriving DecidableEq, Repr

namespace Machine

variable {σ ι ω γ : Type} (M : Machine σ ι ω)

/-! ## §1. What a run leaves in a log. -/

/-- The entries `log` makes along a run. -/
def logged (log : σ → ι → List γ) : σ → List ι → List γ
  | _, [] => []
  | s, i :: is =>
      match M.step s i with
      | none => []
      | some x => log s i ++ logged log x.1 is

variable {M} {log : σ → ι → List γ}

theorem logged_cons {s s₁ : σ} {i : ι} {is : List ι} {os : List ω}
    (h : M.step s i = some (s₁, os)) :
    M.logged log s (i :: is) = log s i ++ M.logged log s₁ is := by
  rw [logged, h]

/-- **The log of a run in two parts.** -/
theorem logged_append {is js : List ι} :
    ∀ {s s₁ : σ} {os : List ω}, M.run s is = some (s₁, os) →
      M.logged log s (is ++ js)
        = M.logged log s is ++ M.logged log s₁ js := by
  induction is with
  | nil =>
      intro s s₁ os h
      obtain ⟨hs, _⟩ := M.run_nil_iff.mp h
      subst hs
      rfl
  | cons i is ih =>
      intro s s₁ os h
      obtain ⟨s₂, os₁, os₂, hstep, hrest, _⟩ := M.run_cons.mp h
      rw [List.cons_append, logged_cons hstep, logged_cons hstep, ih hrest,
        List.append_assoc]

/-- And with one step more. -/
theorem logged_concat {is : List ι} {i : ι} {s s₁ s₂ : σ} {os os₁ : List ω}
    (h : M.run s is = some (s₁, os)) (hstep : M.step s₁ i = some (s₂, os₁)) :
    M.logged log s (is ++ [i]) = M.logged log s is ++ log s₁ i := by
  rw [logged_append h, logged_cons hstep, logged, List.append_nil]

variable (log) in
/-- **An invariant of the log, the state and the outputs** that every step
keeps holds after every run. -/
theorem run_logged (Inv : List γ → σ → List ω → Prop) {s : σ}
    (hstart : Inv [] s [])
    (hstep : ∀ entries s₁ os₁ i s₂ os₂, Inv entries s₁ os₁ →
      M.step s₁ i = some (s₂, os₂) →
      Inv (entries ++ log s₁ i) s₂ (os₁ ++ os₂))
    {is : List ι} {s' : σ} {os : List ω} (hrun : M.run s is = some (s', os)) :
    Inv (M.logged log s is) s' os := by
  have hinv := M.run_history
    (fun is s' os => M.run s is = some (s', os)
      ∧ Inv (M.logged log s is) s' os)
    ⟨rfl, hstart⟩ ?_ is hrun
  · exact hinv.2
  · intro is s₁ os₁ i s₂ os₂ hyp hlast
    obtain ⟨hpre, hinv⟩ := hyp
    refine ⟨M.run_concat hpre hlast, ?_⟩
    rw [logged_concat hpre hlast]
    exact hstep _ s₁ os₁ i s₂ os₂ hinv hlast

end Machine

/-! ## §2. The rule for one step. -/

variable {σ τ ι ω κ ρ : Type}

/-- What a step of the fine machine `C` in the state `s` must do, where the
atomic machine `A` is in a state that `R` relates to `s`, and `Done s` are the
requests that have taken effect. -/
structure CommitRule (C : Machine σ ι ω) (A : Machine τ κ ρ)
    (log : σ → ι → List (Commit κ ρ)) (R : τ → σ → Prop)
    (Done : σ → Nat → Prop) : Prop where
  /-- What takes effect is what the atomic machine does. -/
  effect : ∀ {t s i s' os}, R t s → C.step s i = some (s', os) →
    ∃ t', A.run t ((log s i).map (·.op))
        = some (t', (log s i).map (·.answer)) ∧ R t' s'
  /-- Nothing takes effect twice. -/
  once : ∀ {t s i s' os}, R t s → C.step s i = some (s', os) →
    ((log s i).map (·.id)).Nodup
      ∧ ∀ n ∈ (log s i).map (·.id), ¬ Done s n
  /-- What has taken effect. -/
  mark : ∀ {t s i s' os}, R t s → C.step s i = some (s', os) →
    ∀ n, Done s' n ↔ Done s n ∨ n ∈ (log s i).map (·.id)

namespace CommitRule

variable {C : Machine σ ι ω} {A : Machine τ κ ρ}
  {log : σ → ι → List (Commit κ ρ)} {R : τ → σ → Prop}
  {Done : σ → Nat → Prop}

/-! ## §3. Runs. -/

/-- What holds after a run that began where nothing had taken effect. -/
structure Served (A : Machine τ κ ρ) (R : τ → σ → Prop)
    (Done : σ → Nat → Prop) (t : τ) (s : σ)
    (commits : List (Commit κ ρ)) : Prop where
  atomic : ∃ t', A.run t (commits.map (·.op))
      = some (t', commits.map (·.answer)) ∧ R t' s
  nodup : (commits.map (·.id)).Nodup
  done : ∀ n, n ∈ commits.map (·.id) ↔ Done s n

theorem Served.nil {t : τ} {s : σ} (hR : R t s) (hnone : ∀ n, ¬ Done s n) :
    Served A R Done t s [] where
  atomic := ⟨t, rfl, hR⟩
  nodup := List.nodup_nil
  done n := iff_of_false List.not_mem_nil (hnone n)

/-- One step more. -/
theorem Served.step (h : CommitRule C A log R Done) {t : τ} {s s' : σ} {i : ι}
    {os : List ω} {commits : List (Commit κ ρ)}
    (hs : Served A R Done t s commits) (hstep : C.step s i = some (s', os)) :
    Served A R Done t s' (commits ++ log s i) := by
  obtain ⟨t₁, hrun, hR⟩ := hs.atomic
  obtain ⟨t', hrun', hR'⟩ := h.effect hR hstep
  obtain ⟨hnodup, hfresh⟩ := h.once hR hstep
  constructor
  · refine ⟨t', ?_, hR'⟩
    rw [List.map_append, List.map_append]
    exact A.run_append.mpr ⟨t₁, _, _, hrun, hrun', rfl⟩
  · rw [List.map_append, List.nodup_append]
    refine ⟨hs.nodup, hnodup, ?_⟩
    intro n hn n' hn' heq
    subst heq
    exact hfresh n hn' ((hs.done n).mp hn)
  · intro n
    rw [List.map_append, List.mem_append, hs.done n, h.mark hR hstep n]

/-- **Every run is served as the atomic machine would.** -/
theorem run (h : CommitRule C A log R Done) {t : τ} {s : σ} (hR : R t s)
    (hnone : ∀ n, ¬ Done s n) {is : List ι} {s' : σ} {os : List ω}
    (hrun : C.run s is = some (s', os)) :
    Served A R Done t s' (C.logged log s is) :=
  Machine.run_logged log (fun commits s' _ => Served A R Done t s' commits)
    (.nil hR hnone)
    (fun _ _ _ _ _ _ hserved hstep => hserved.step h hstep) hrun

/-- **The order of effects respects time**: at any moment of a run, what has
taken effect comes before what has not. -/
theorem order (h : CommitRule C A log R Done) {t : τ} {s : σ} (hR : R t s)
    (hnone : ∀ n, ¬ Done s n) {pre post : List ι} {s₁ s' : σ}
    {os₁ os : List ω} (hpre : C.run s pre = some (s₁, os₁))
    (hrun : C.run s (pre ++ post) = some (s', os)) :
    ∃ before after,
      C.logged log s (pre ++ post) = before ++ after
        ∧ (∀ n, n ∈ before.map (·.id) ↔ Done s₁ n)
        ∧ ∀ n ∈ after.map (·.id), ¬ Done s₁ n := by
  have hdone := (h.run hR hnone hpre).done
  have hnodup := (h.run hR hnone hrun).nodup
  rw [Machine.logged_append hpre, List.map_append, List.nodup_append]
    at hnodup
  refine ⟨_, _, Machine.logged_append hpre, hdone, ?_⟩
  intro n hn hn'
  exact hnodup.2.2 n ((hdone n).mpr hn') n hn rfl

end CommitRule

end Pasteboard.Lib
