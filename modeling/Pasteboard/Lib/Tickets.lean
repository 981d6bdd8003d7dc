/-
  Pasteboard.Lib.Tickets
  ──────────────────────
  **TICKETS THAT ARE ANSWERED ONCE.**

  A ticket is issued, is pending, and is closed with an answer.  `Tickets` says
  that the ledger of a run is right: a pending ticket has no answer yet, one
  that was issued and is pending no longer has exactly one, and nothing else
  has any.  It is kept by issuing a new ticket and by closing a pending one.
-/
import Mathlib.Data.List.Nodup

namespace Pasteboard.Lib

variable {κ ω : Type} [DecidableEq κ]

/-- The answers to `k` among all that were given, in order. -/
def answers (closed : List (κ × ω)) (k : κ) : List ω :=
  (closed.filter fun c => c.1 = k).map (·.2)

theorem answers_concat (closed : List (κ × ω)) (k k' : κ) (x : ω) :
    answers (closed ++ [(k, x)]) k'
      = answers closed k' ++ if k = k' then [x] else [] := by
  unfold answers
  rw [List.filter_append, List.map_append]
  by_cases hk : k = k' <;> simp [hk]

theorem mem_answers {closed : List (κ × ω)} {k : κ} {x : ω} :
    x ∈ answers closed k ↔ (k, x) ∈ closed := by
  unfold answers
  simp

/-- **The ledger is right.** -/
structure Tickets (issued : List κ) (pending : κ → Prop)
    (closed : List (κ × ω)) : Prop where
  nodup : issued.Nodup
  waiting : ∀ k, pending k → k ∈ issued ∧ answers closed k = []
  done : ∀ k, k ∈ issued → ¬ pending k → ∃ x, answers closed k = [x]
  stranger : ∀ k, k ∉ issued → answers closed k = []

namespace Tickets

variable {issued : List κ} {pending pending' : κ → Prop}
  {closed : List (κ × ω)}

theorem empty (h : ∀ k, ¬ pending k) :
    Tickets ([] : List κ) pending ([] : List (κ × ω)) where
  nodup := List.nodup_nil
  waiting k hk := absurd hk (h k)
  done _ hk := absurd hk List.not_mem_nil
  stranger _ _ := rfl

theorem congr (t : Tickets issued pending closed)
    (h : ∀ k, pending' k ↔ pending k) : Tickets issued pending' closed where
  nodup := t.nodup
  waiting k hk := t.waiting k ((h k).mp hk)
  done k hk hno := t.done k hk fun hp => hno ((h k).mpr hp)
  stranger := t.stranger

/-- A new ticket is issued. -/
theorem issue (t : Tickets issued pending closed) {k : κ} (hnew : k ∉ issued)
    (h : ∀ k', pending' k' ↔ k' = k ∨ pending k') :
    Tickets (issued ++ [k]) pending' closed where
  nodup := by
    rw [List.nodup_append]
    refine ⟨t.nodup, List.nodup_singleton k, ?_⟩
    intro k' hk' k'' hk'' heq
    rw [List.mem_singleton] at hk''
    rw [heq, hk''] at hk'
    exact hnew hk'
  waiting k' hk' := by
    rcases (h k').mp hk' with heq | hold
    · subst heq
      exact ⟨List.mem_append_right _ (List.mem_singleton.mpr rfl),
        t.stranger _ hnew⟩
    · obtain ⟨hmem, hnone⟩ := t.waiting k' hold
      exact ⟨List.mem_append_left _ hmem, hnone⟩
  done k' hk' hno := by
    rcases List.mem_append.mp hk' with hk' | hk'
    · exact t.done k' hk' fun hp => hno ((h k').mpr (Or.inr hp))
    · exact absurd ((h k').mpr (Or.inl (List.mem_singleton.mp hk'))) hno
  stranger k' hk' := t.stranger k' fun hmem =>
    hk' (List.mem_append_left _ hmem)

/-- A pending ticket is closed. -/
theorem close (t : Tickets issued pending closed) {k : κ} (hk : pending k)
    (x : ω) (h : ∀ k', pending' k' ↔ k' ≠ k ∧ pending k') :
    Tickets issued pending' (closed ++ [(k, x)]) where
  nodup := t.nodup
  waiting k' hk' := by
    obtain ⟨hne, hp⟩ := (h k').mp hk'
    obtain ⟨hmem, hnone⟩ := t.waiting k' hp
    refine ⟨hmem, ?_⟩
    rw [answers_concat, hnone, if_neg fun heq => hne heq.symm]
    rfl
  done k' hmem hno := by
    rw [answers_concat]
    by_cases heq : k = k'
    · subst heq
      exact ⟨x, by rw [(t.waiting k hk).2, if_pos rfl]; rfl⟩
    · obtain ⟨y, hy⟩ := t.done k' hmem fun hp =>
        hno ((h k').mpr ⟨fun hk' => heq hk'.symm, hp⟩)
      exact ⟨y, by rw [hy, if_neg heq]; rfl⟩
  stranger k' hk' := by
    have hne : k ≠ k' := by
      intro heq
      subst heq
      exact hk' (t.waiting k hk).1
    rw [answers_concat, t.stranger k' hk', if_neg hne]
    rfl

end Tickets

end Pasteboard.Lib
