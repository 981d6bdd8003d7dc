/-
  Pasteboard.Client.Recovery
  ──────────────────────────
  **AFTER THE DEATH OF THE SERVICE.**

    • `recovers_iff`: a run never uses an instance of whose death the client
      has been told exactly when it is never told of the death of the instance
      its proxy refers to.
    • `told_is_stale`: where connecting never fails half-way, that is the only
      death it is ever told of, so it recovers from none
      (`recovers_iff_not_told`).
-/
import Pasteboard.Client.Connection

namespace Pasteboard

open Lib

variable {Uri Want : Type}

/-! ## §1. Recovery. -/

/-- The proxy refers to no instance of whose death the client has been told. -/
def ClientState.Fresh (s : ClientState) : Prop :=
  ∀ i ∈ s.told, s.pasteboardServiceProxy ≠ some i

/-- The client has been told of the death of the instance its proxy refers to,
if that is dead. -/
def ClientState.UpToDate (s : ClientState) : Prop :=
  ∀ i, s.pasteboardServiceProxy = some i → s.registered ≠ some i → i ∈ s.told

/-- What an operation asks for, it asks the registered instance for. -/
def SentToLive (s : ClientState) (l : ClientLabel Uri Want)
    (calls : List (ProxyCall Uri Want)) : Prop :=
  ∀ op c a k, l = .call op c a → a.Succeed → s.registered = some k →
    s.UpToDate → calls = (op.request c).toList.map fun r => ⟨k, r⟩

/-- **Recovery.**  After the step no instance of whose death the client has
been told is referred to, and an operation goes to the live instance. -/
def Recovers (s : ClientState) (l : ClientLabel Uri Want) : Prop :=
  ∀ s' calls, clientMachine.step s l = some (s', calls) →
    s'.Fresh ∧ SentToLive s l calls

/-- The client is not told of the death of the instance it refers to. -/
def NotStale (s : ClientState) (l : ClientLabel Uri Want) : Prop :=
  ∀ i a, l = .remoteDied i a → s.pasteboardServiceProxy ≠ some i

/-- Instances come one after the other, and the dead ones stay dead. -/
structure ClientState.WellFormed (s : ClientState) : Prop where
  registered_lt : ∀ k, s.registered = some k → k < s.started
  proxy_lt : ∀ i, s.pasteboardServiceProxy = some i → i < s.started
  recipients_lt : ∀ i ∈ s.deathRecipients, i < s.started
  told_lt : ∀ i ∈ s.told, i < s.started
  told_dead : ∀ i ∈ s.told, s.registered ≠ some i

theorem wellFormed_empty : ({} : ClientState).WellFormed where
  registered_lt := nofun
  proxy_lt := nofun
  recipients_lt := nofun
  told_lt := nofun
  told_dead := nofun

section Connecting

variable {s s' : ClientState}

theorem ClientState.WellFormed.connects (h : s.WellFormed)
    (hc : Connects s s') : s'.WellFormed where
  registered_lt k hk := by
    rw [hc.registered] at hk
    rw [hc.started]
    exact h.registered_lt k hk
  proxy_lt i hi := by
    rw [hc.started]
    rcases hc.proxy with hp | ⟨_, hp⟩
    · exact h.proxy_lt i (hp.symm.trans hi)
    · exact h.registered_lt i (hp.symm.trans hi)
  recipients_lt i hi := by
    rw [hc.started]
    rcases hc.deathRecipients i hi with hi | hi
    · exact h.recipients_lt i hi
    · exact h.registered_lt i hi
  told_lt i hi := by
    rw [hc.told] at hi
    rw [hc.started]
    exact h.told_lt i hi
  told_dead i hi := by
    rw [hc.told] at hi
    rw [hc.registered]
    exact h.told_dead i hi

/-- A connect goes to no instance of whose death the client has been told. -/
theorem ClientState.Fresh.connects (hfresh : s.Fresh) (h : s.WellFormed)
    (hc : Connects s s') : s'.Fresh := by
  intro i hi
  rw [hc.told] at hi
  rcases hc.proxy with hp | ⟨_, hp⟩
  · -- no connect was made
    rw [hp]
    exact hfresh i hi
  · rw [hp]
    exact h.told_dead i hi

theorem ClientState.WellFormed.tell {i : Nat} (h : s.WellFormed)
    (hi : i ∈ s.deathRecipients) (hdead : s.registered ≠ some i) :
    (s.tell i).WellFormed where
  registered_lt := h.registered_lt
  proxy_lt := h.proxy_lt
  recipients_lt j hj := h.recipients_lt j (List.mem_of_mem_erase hj)
  told_lt j hj := by
    rcases List.mem_cons.mp hj with hj | hj
    · rw [hj]
      exact h.recipients_lt i hi
    · exact h.told_lt j hj
  told_dead j hj := by
    rcases List.mem_cons.mp hj with hj | hj
    · rw [hj]
      exact hdead
    · exact h.told_dead j hj

theorem ClientState.Fresh.tell {i : Nat} (hfresh : s.Fresh)
    (hi : s.pasteboardServiceProxy ≠ some i) : (s.tell i).Fresh := by
  intro j hj
  rcases List.mem_cons.mp hj with hj | hj
  · rw [hj]
    exact hi
  · exact hfresh j hj

end Connecting

section Steps

variable {s s' : ClientState} {l : ClientLabel Uri Want}
  {calls : List (ProxyCall Uri Want)}

theorem ClientState.WellFormed.step (h : s.WellFormed)
    (hstep : clientMachine.step s l = some (s', calls)) : s'.WellFormed := by
  cases clientStep_of_step hstep with
  | call op c a => exact h.connects (op.exec_connects c a s)
  | saStarts _ =>
      -- the new instance is none of those before it
      refine ⟨?_, ?_, ?_, ?_, ?_⟩
      · intro k hk
        injection hk with hk
        rw [← hk]
        exact Nat.lt_succ_self s.started
      · intro i hi
        exact Nat.lt_succ_of_lt (h.proxy_lt i hi)
      · intro i hi
        exact Nat.lt_succ_of_lt (h.recipients_lt i hi)
      · intro i hi
        exact Nat.lt_succ_of_lt (h.told_lt i hi)
      · -- its name is fresh, so it has not been told dead
        intro i hi hreg
        injection hreg with hreg
        have hlt := h.told_lt i hi
        omega
  | saDies =>
      exact ⟨nofun, h.proxy_lt, h.recipients_lt, h.told_lt, fun _ _ => nofun⟩
  | remoteDied a hi hdead =>
      have hconnects := PasteboardClient.connectService_connects a
      exact (h.tell hi hdead).connects (hconnects _)

/-- **Only a stale proxy loses freshness.** -/
theorem ClientState.Fresh.step (hfresh : s.Fresh) (h : s.WellFormed)
    (hl : NotStale s l) (hstep : clientMachine.step s l = some (s', calls)) :
    s'.Fresh := by
  cases clientStep_of_step hstep with
  | call op c a => exact hfresh.connects h (op.exec_connects c a s)
  | saStarts _ => exact hfresh
  | saDies => exact hfresh
  | @remoteDied i a hi hdead =>
      have hconnects := PasteboardClient.connectService_connects a (s.tell i)
      exact (hfresh.tell (hl i a rfl)).connects (h.tell hi hdead) hconnects

/-- **A stale proxy stays**: `ConnectService` keeps it. -/
theorem not_fresh_of_stale {i : Nat} {a : Answers}
    (hp : s.pasteboardServiceProxy = some i)
    (hstep : clientMachine.step s (.remoteDied i a : ClientLabel Uri Want)
      = some (s', calls)) : ¬ s'.Fresh := by
  intro hfresh
  have hp' := keeps_proxy i s _ s' calls hp hstep
  cases clientStep_of_step hstep with
  | remoteDied _ hi hdead =>
      refine hfresh i ?_ hp'
      rw [show (PasteboardClient.onRemoteSaDied a (s.tell i)).told = _ from
        (PasteboardClient.connectService_connects a (s.tell i)).told]
      exact List.mem_cons_self

/-- **A fresh client asks the live instance.** -/
theorem ClientState.Fresh.sentToLive (hfresh : s.Fresh)
    (hstep : clientMachine.step s l = some (s', calls)) :
    SentToLive s l calls := by
  intro op c a k heq ha hk hup
  subst heq
  have hcalls : (op.exec c a s).2 = calls := by
    injection hstep with hstep
    exact congrArg Prod.snd hstep
  rw [← hcalls, ClientOp.exec_eq]
  cases op.request c with
  | none => rfl
  | some r =>
      show (PasteboardClient.call r a s).2 = [⟨k, r⟩]
      cases hp : s.pasteboardServiceProxy with
      | none => exact PasteboardClient.call_of_succeed r ha hp hk
      | some i =>
          rw [PasteboardClient.call_of_proxy r a hp]
          -- the instance is live, or the client would have been told
          by_cases hki : k = i
          · rw [hki]
          · have hdead : s.registered ≠ some i := by
              intro hi
              rw [hk] at hi
              injection hi with hi
              exact hki hi
            exact absurd hp (hfresh i (hup i hp hdead))

end Steps

/-- **A run recovers from every death the client is told of** exactly when it
is never told of the death of the instance its proxy refers to. -/
theorem recovers_iff (ls : List (ClientLabel Uri Want)) (s : ClientState)
    (calls : List (ProxyCall Uri Want))
    (hrun : clientMachine.run {} ls = some (s, calls)) :
    clientMachine.AllSteps Recovers {} ls
      ↔ clientMachine.AllSteps NotStale {} ls := by
  have hempty : ({} : ClientState).Fresh := nofun
  refine Machine.allSteps_iff_of_inv _
    (fun s : ClientState => s.WellFormed ∧ s.Fresh) ?_ ?_ ls
    ⟨wellFormed_empty, hempty⟩ hrun
  · intro s l s' calls hyp hl hstep
    obtain ⟨hwf, hfresh⟩ := hyp
    exact ⟨hwf.step hstep, hfresh.step hwf hl hstep⟩
  · intro s l s' calls hyp hstep
    obtain ⟨hwf, hfresh⟩ := hyp
    constructor
    · intro hrec i a heq hp
      subst heq
      exact not_fresh_of_stale hp hstep (hrec s' calls hstep).1
    · intro hl s₁ calls₁ hstep₁
      exact ⟨hfresh.step hwf hl hstep₁, hfresh.sentToLive hstep₁⟩

/-! ## §2. Where nothing fails. -/

/-- No connect of this step fails. -/
def ClientLabel.Succeed : ClientLabel Uri Want → Prop
  | .call _ _ a => a.Succeed
  | .remoteDied _ a => a.Succeed
  | _ => True

/-- The only death recipient is that of the instance the proxy refers to. -/
def ClientState.OneRecipient (s : ClientState) : Prop :=
  ∀ i ∈ s.deathRecipients, s.pasteboardServiceProxy = some i

theorem ClientState.OneRecipient.connectService {s : ClientState}
    {a : Answers} (h : s.OneRecipient) (ha : a.Succeed) :
    (PasteboardClient.connectService a s).OneRecipient := by
  cases hp : s.pasteboardServiceProxy with
  | some i =>
      rw [PasteboardClient.connectService_of_proxy a hp]
      exact h
  | none =>
      intro i hi
      have hc := PasteboardClient.connectService_connects a s
      rcases hc.deathRecipients i hi with hi | hi
      · -- there was no recipient, as there was no proxy
        have hpi := h i hi
        rw [hp] at hpi
        cases hpi
      · exact PasteboardClient.connectService_of_succeed ha hp hi

theorem ClientState.OneRecipient.exec {s : ClientState} {a : Answers}
    (h : s.OneRecipient) (ha : a.Succeed) (c : Caller)
    (op : ClientOp Uri Want) : (op.exec c a s).1.OneRecipient := by
  rw [ClientOp.exec_eq]
  cases op.request c with
  | none => exact h
  | some r =>
      have hconnect : (if s.pasteboardServiceProxy = none then
          PasteboardClient.connectService a s else s).OneRecipient := by
        split
        · exact h.connectService ha
        · exact h
      show (PasteboardClient.call r a s).1.OneRecipient
      unfold PasteboardClient.call
      dsimp only
      split <;> exact hconnect

theorem ClientState.OneRecipient.step {s s' : ClientState}
    {l : ClientLabel Uri Want} {calls : List (ProxyCall Uri Want)}
    (h : s.OneRecipient) (hl : l.Succeed)
    (hstep : clientMachine.step s l = some (s', calls)) : s'.OneRecipient := by
  cases clientStep_of_step hstep with
  | call op c a => exact h.exec hl c op
  | saStarts _ => exact h
  | saDies => exact h
  | @remoteDied i a _ _ =>
      have htell : (s.tell i).OneRecipient :=
        fun j hj => h j (List.mem_of_mem_erase hj)
      exact htell.connectService hl

/-- **The only death the client is told of is that of the instance its proxy
refers to.** -/
theorem told_is_stale {ls : List (ClientLabel Uri Want)} {s : ClientState}
    {calls : List (ProxyCall Uri Want)}
    (hrun : clientMachine.run {} ls = some (s, calls))
    (hall : ∀ l ∈ ls, l.Succeed) :
    clientMachine.AllSteps
      (fun s l => ∀ i a, l = .remoteDied i a →
        s.pasteboardServiceProxy = some i) {} ls := by
  have hempty : ({} : ClientState).OneRecipient := nofun
  have hsucceed := (clientMachine.allSteps_iff_forall ls hrun).mpr hall
  refine clientMachine.allSteps_of_inv _ ?_ ?_ ls hempty hrun hsucceed
  · intro s l s' calls hone hl hstep
    exact hone.step hl hstep
  · intro s l s' calls hone _ hstep i a heq
    subst heq
    cases clientStep_of_step hstep with
    | remoteDied _ hi _ => exact hone i hi

/-- **So it recovers from no death it is told of.** -/
theorem recovers_iff_not_told {ls : List (ClientLabel Uri Want)}
    {s : ClientState} {calls : List (ProxyCall Uri Want)}
    (hrun : clientMachine.run {} ls = some (s, calls))
    (hall : ∀ l ∈ ls, l.Succeed) :
    clientMachine.AllSteps NotStale {} ls
      ↔ ∀ i a, ClientLabel.remoteDied i a ∉ ls := by
  constructor
  · intro hfresh i a hmem
    obtain ⟨pre, post, heq⟩ := List.append_of_mem hmem
    have hrun' := heq ▸ hrun
    obtain ⟨s₁, calls₁, _, hpre, _, _⟩ := clientMachine.run_append.mp hrun'
    exact hfresh pre _ post s₁ calls₁ heq hpre i a rfl
      (told_is_stale hrun hall pre _ post s₁ calls₁ heq hpre i a rfl)
  · intro hnone pre l post s₁ calls₁ heq _ i a hl
    subst hl
    exact absurd (by rw [heq]; exact List.mem_append_right _ (.head _))
      (hnone i a)

/-! ## §3. A death and a restart. -/

/-- The service starts, the client clears the pasteboard, the service dies, the
client is told, the service starts again, and the client asks for the paste
data. -/
def restartRun : List (ClientLabel String String) :=
  [.saStarts, .call .clear callerOf100 {}, .saDies, .remoteDied 0 {},
    .saStarts, .call .hasPasteData callerOf100 {}]

/-- The client's first `iface_cast` fails: it has a death recipient but no
proxy, and is told of the death when the next instance is there. -/
def castFailsRun : List (ClientLabel String String) :=
  [.saStarts, .call .clear callerOf100 { ifaceCast := false }, .saDies,
    .saStarts, .remoteDied 0 {}, .call .hasPasteData callerOf100 {}]

theorem recovers_sample : clientMachine.AllSteps Recovers {} castFailsRun := by
  refine (recovers_iff castFailsRun _ _ rfl).mpr ?_
  refine (clientMachine.allSteps_cons rfl).mpr ⟨nofun, ?_⟩
  refine (clientMachine.allSteps_cons rfl).mpr ⟨nofun, ?_⟩
  refine (clientMachine.allSteps_cons rfl).mpr ⟨nofun, ?_⟩
  refine (clientMachine.allSteps_cons rfl).mpr ⟨nofun, ?_⟩
  refine (clientMachine.allSteps_cons rfl).mpr ⟨?_, ?_⟩
  · intro i a _
    nofun
  · exact (clientMachine.allSteps_cons rfl).mpr
      ⟨nofun, clientMachine.allSteps_nil _ _⟩

/-- The restarted service is not asked; the dead instance is. -/
example : clientMachine.run {} restartRun
    = some (⟨2, some 1, some 0, [], [0]⟩,
        [⟨0, .clear callerOf100⟩, ⟨0, .hasPasteData callerOf100⟩]) := rfl

/-- **The client keeps the proxy of an instance whose death it is told of**,
though no connect fails. -/
theorem client_keeps_dead_proxy :
    ¬ ∀ (ls : List (ClientLabel String String)) (s : ClientState)
        (calls : List (ProxyCall String String)),
      clientMachine.run {} ls = some (s, calls) → (∀ l ∈ ls, l.Succeed) →
        clientMachine.AllSteps Recovers {} ls := by
  intro h
  have hsucceed : ∀ l ∈ restartRun, l.Succeed := by
    simp [restartRun, ClientLabel.Succeed, Answers.Succeed]
  have htold := h restartRun _ _ rfl hsucceed
    [.saStarts, .call .clear callerOf100 {}, .saDies] (.remoteDied 0 {}) _ _ _
    rfl rfl
  exact (htold _ _ rfl).1 0 List.mem_cons_self rfl

end Pasteboard
