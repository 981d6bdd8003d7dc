/-
  Pasteboard.Client.Connection
  ────────────────────────────
  **THE CLIENT AND THE INSTANCES OF THE SERVICE** (`pasteboard_client.cpp`).

  A client connects on its first request and keeps the proxy it got.  When the
  service dies, its death recipient calls `OnRemoteSaDied`, which calls
  `ConnectService` again; `ConnectService` returns at once where there is a
  proxy, and nothing ever resets it.

    • `Connects`: what a connect leaves alone, and where the proxy may point
      after it.
    • `keeps_proxy`: a proxy, once there, refers to the same instance in every
      later state.
-/
import Pasteboard.Service.Ops

namespace Pasteboard

open Lib

variable {Uri Want : Type}

/-! ## §1. What surrounds the client. -/

/-- What the calls made while connecting answer.  `CheckSystemAbility` is not
among them: it answers the registered instance. -/
structure Answers where
  /-- `GetSystemAbilityManager` is not null. -/
  systemAbilityManager : Bool := true
  isProxyObject : Bool := true
  addDeathRecipient : Bool := true
  /-- The `iface_cast` to `IPasteboardService` is not null. -/
  ifaceCast : Bool := true

/-- Nothing fails. -/
def Answers.Succeed (a : Answers) : Prop :=
  a.systemAbilityManager = true ∧ a.addDeathRecipient = true
    ∧ a.ifaceCast = true

/-- A client, and what it can know of the service.  An instance of the service
is named by the number of instances started before it; it is registered from
its start to its death. -/
structure ClientState where
  started : Nat := 0
  registered : Option Nat := none
  pasteboardServiceProxy : Option Nat := none
  /-- The instances with a death recipient that has not been called. -/
  deathRecipients : List Nat := []
  /-- The instances whose death `OnRemoteSaDied` has been called for. -/
  told : List Nat := []

/-- A call of an operation on the proxy of an instance. -/
structure ProxyCall (Uri Want : Type) where
  target : Nat
  op : ServiceOp Uri Want

/-! ## §2. The client's functions. -/

namespace PasteboardClient

def connectService (a : Answers) (s : ClientState) : ClientState :=
  -- also where the proxy refers to a dead instance
  if s.pasteboardServiceProxy ≠ none then s
  else if a.systemAbilityManager = false then
    { s with pasteboardServiceProxy := none }
  else
    match s.registered with
    | none => s
    | some remoteObject =>
        if a.isProxyObject && !a.addDeathRecipient then s
        else
          { s with
            deathRecipients :=
              if a.isProxyObject then remoteObject :: s.deathRecipients
              else s.deathRecipients
            -- a failed cast leaves the death recipient behind
            pasteboardServiceProxy :=
              if a.ifaceCast then some remoteObject else none }

def onRemoteSaDied (a : Answers) (s : ClientState) : ClientState :=
  connectService a s

/-- What the operations share: connect if there is no proxy, and make the call
if there is one then. -/
def call (op : ServiceOp Uri Want) (a : Answers) (s : ClientState) :
    ClientState × List (ProxyCall Uri Want) :=
  let s := if s.pasteboardServiceProxy = none then connectService a s else s
  match s.pasteboardServiceProxy with
  | none => (s, [])
  | some i => (s, [⟨i, op⟩])

def clear (c : Caller) (a : Answers) (s : ClientState) :
    ClientState × List (ProxyCall Uri Want) :=
  call (.clear c) a s

def getPasteData (c : Caller) (pasteData : PasteData Uri Want) (a : Answers)
    (s : ClientState) : ClientState × List (ProxyCall Uri Want) :=
  call (.getPasteData c pasteData) a s

def hasPasteData (c : Caller) (a : Answers) (s : ClientState) :
    ClientState × List (ProxyCall Uri Want) :=
  call (.hasPasteData c) a s

def setPasteData (c : Caller) (pasteData : PasteData Uri Want) (a : Answers)
    (s : ClientState) : ClientState × List (ProxyCall Uri Want) :=
  call (.setPasteData c pasteData) a s

/-- A callback is given by its remote object.  With a null one there is no
request. -/
def addPasteboardChangedObserver (c : Caller) (callback : Option RemoteObject)
    (a : Answers) (s : ClientState) :
    ClientState × List (ProxyCall Uri Want) :=
  match callback with
  | none => (s, [])
  | some o => call (.addPasteboardChangedObserver c (some o)) a s

/-- A null callback stands for all. -/
def removePasteboardChangedObserver (c : Caller)
    (callback : Option RemoteObject) (a : Answers) (s : ClientState) :
    ClientState × List (ProxyCall Uri Want) :=
  match callback with
  | none => call (.removeAllChangedObserver c) a s
  | some o => call (.removePasteboardChangedObserver c (some o)) a s

end PasteboardClient

/-- A call of a public operation of the client. -/
inductive ClientOp (Uri Want : Type) where
  | clear
  | getPasteData (pasteData : PasteData Uri Want)
  | hasPasteData
  | setPasteData (pasteData : PasteData Uri Want)
  | addPasteboardChangedObserver (callback : Option RemoteObject)
  | removePasteboardChangedObserver (callback : Option RemoteObject)

namespace ClientOp

def exec (c : Caller) (a : Answers) (s : ClientState) :
    ClientOp Uri Want → ClientState × List (ProxyCall Uri Want)
  | .clear => PasteboardClient.clear c a s
  | .getPasteData d => PasteboardClient.getPasteData c d a s
  | .hasPasteData => PasteboardClient.hasPasteData c a s
  | .setPasteData d => PasteboardClient.setPasteData c d a s
  | .addPasteboardChangedObserver o =>
      PasteboardClient.addPasteboardChangedObserver c o a s
  | .removePasteboardChangedObserver o =>
      PasteboardClient.removePasteboardChangedObserver c o a s

/-- What the operation asks the service for. -/
def request (c : Caller) : ClientOp Uri Want → Option (ServiceOp Uri Want)
  | .clear => some (.clear c)
  | .getPasteData d => some (.getPasteData c d)
  | .hasPasteData => some (.hasPasteData c)
  | .setPasteData d => some (.setPasteData c d)
  | .addPasteboardChangedObserver o =>
      o.map fun o => .addPasteboardChangedObserver c (some o)
  | .removePasteboardChangedObserver none => some (.removeAllChangedObserver c)
  | .removePasteboardChangedObserver (some o) =>
      some (.removePasteboardChangedObserver c (some o))

/-- **An operation is the call of what it asks for.** -/
theorem exec_eq (c : Caller) (a : Answers) (s : ClientState)
    (op : ClientOp Uri Want) :
    op.exec c a s = match op.request c with
      | none => (s, [])
      | some r => PasteboardClient.call r a s := by
  cases op with
  | addPasteboardChangedObserver o => cases o <;> rfl
  | removePasteboardChangedObserver o => cases o <;> rfl
  | _ => rfl

end ClientOp

/-! ## §3. Runs. -/

inductive ClientLabel (Uri Want : Type) where
  /-- The client makes an operation. -/
  | call (op : ClientOp Uri Want) (c : Caller) (a : Answers)
  | saStarts
  | saDies
  /-- The death recipient of the instance `i` is called. -/
  | remoteDied (i : Nat) (a : Answers)

namespace ClientState

/-- A new instance starts where none is registered. -/
def saStarts (s : ClientState) : Option ClientState :=
  match s.registered with
  | some _ => none
  | none =>
      some { s with registered := some s.started, started := s.started + 1 }

def saDies (s : ClientState) : Option ClientState :=
  match s.registered with
  | some _ => some { s with registered := none }
  | none => none

/-- The death recipient of `i` is being called. -/
def tell (i : Nat) (s : ClientState) : ClientState :=
  { s with deathRecipients := s.deathRecipients.erase i, told := i :: s.told }

def remoteDied (i : Nat) (a : Answers) (s : ClientState) :
    Option ClientState :=
  if i ∈ s.deathRecipients ∧ s.registered ≠ some i then
    some (PasteboardClient.onRemoteSaDied a (s.tell i))
  else none

def next (s : ClientState) : ClientLabel Uri Want →
    Option (ClientState × List (ProxyCall Uri Want))
  | .call op c a => some (op.exec c a s)
  | .saStarts => s.saStarts.map fun s => (s, [])
  | .saDies => s.saDies.map fun s => (s, [])
  | .remoteDied i a => (s.remoteDied i a).map fun s => (s, [])

end ClientState

def clientMachine :
    Machine ClientState (ClientLabel Uri Want) (ProxyCall Uri Want) where
  step := ClientState.next

/-! ## §4. What a step does to the connection. -/

/-- `s'` is `s` after at most one connect. -/
structure Connects (s s' : ClientState) : Prop where
  started : s'.started = s.started
  registered : s'.registered = s.registered
  told : s'.told = s.told
  proxy : s'.pasteboardServiceProxy = s.pasteboardServiceProxy
    ∨ s.pasteboardServiceProxy = none
      ∧ s'.pasteboardServiceProxy = s.registered
  deathRecipients : ∀ i ∈ s'.deathRecipients,
    i ∈ s.deathRecipients ∨ s.registered = some i

theorem Connects.refl (s : ClientState) : Connects s s :=
  ⟨rfl, rfl, rfl, Or.inl rfl, fun _ => Or.inl⟩

namespace PasteboardClient

/-- **`ConnectService` does nothing where there is a proxy.** -/
theorem connectService_of_proxy {s : ClientState} (a : Answers) {i : Nat}
    (h : s.pasteboardServiceProxy = some i) : connectService a s = s := by
  unfold connectService
  rw [if_pos (by rw [h]; nofun)]

theorem connectService_connects (a : Answers) (s : ClientState) :
    Connects s (connectService a s) := by
  cases hp : s.pasteboardServiceProxy with
  | some i =>
      rw [connectService_of_proxy a hp]
      exact .refl s
  | none =>
      have hnone : { s with pasteboardServiceProxy := none } = s := by
        rw [← hp]
      unfold connectService
      -- the ways it can fail: no manager, no remote object, no recipient
      rw [if_neg (by rw [hp]; nofun), hnone]
      split
      · exact .refl s
      · split
        · exact .refl s
        · next k hk =>
            split
            · exact .refl s
            · refine ⟨rfl, rfl, rfl, ?_, ?_⟩
              · show (if a.ifaceCast then some k else none) = _ ∨ _
                split
                · exact Or.inr ⟨hp, hk.symm⟩
                · exact Or.inl hp.symm
              · intro i hi
                have hi' : i ∈ (if a.isProxyObject then k :: s.deathRecipients
                    else s.deathRecipients) := hi
                split at hi'
                · rcases List.mem_cons.mp hi' with hik | hi'
                  · exact Or.inr (hik ▸ hk)
                  · exact Or.inl hi'
                · exact Or.inl hi'

/-- **A connect where nothing fails.** -/
theorem connectService_of_succeed {s : ClientState} {a : Answers} {k : Nat}
    (ha : a.Succeed) (hp : s.pasteboardServiceProxy = none)
    (hk : s.registered = some k) :
    (connectService a s).pasteboardServiceProxy = some k := by
  obtain ⟨hsam, hadd, hcast⟩ := ha
  unfold connectService
  rw [if_neg (by rw [hp]; nofun), if_neg (by rw [hsam]; nofun), hk]
  dsimp only
  rw [hadd, Bool.not_true, Bool.and_false, if_neg nofun, hcast]
  rfl

theorem call_connects (op : ServiceOp Uri Want) (a : Answers)
    (s : ClientState) : Connects s (call op a s).1 := by
  have hconnect : Connects s
      (if s.pasteboardServiceProxy = none then connectService a s else s) := by
    split
    · exact connectService_connects a s
    · exact .refl s
  unfold call
  dsimp only
  split <;> exact hconnect

/-- A call where there is a proxy. -/
theorem call_of_proxy (op : ServiceOp Uri Want) (a : Answers) {s : ClientState}
    {i : Nat} (h : s.pasteboardServiceProxy = some i) :
    call op a s = (s, [⟨i, op⟩]) := by
  unfold call
  rw [if_neg (by rw [h]; nofun)]
  dsimp only
  rw [h]

/-- A call that has to connect first, and can. -/
theorem call_of_succeed (op : ServiceOp Uri Want) {a : Answers}
    {s : ClientState} {k : Nat} (ha : a.Succeed)
    (hp : s.pasteboardServiceProxy = none) (hk : s.registered = some k) :
    (call op a s).2 = [⟨k, op⟩] := by
  unfold call
  rw [if_pos hp]
  dsimp only
  rw [connectService_of_succeed ha hp hk]

end PasteboardClient

theorem ClientOp.exec_connects (c : Caller) (a : Answers) (s : ClientState)
    (op : ClientOp Uri Want) : Connects s (op.exec c a s).1 := by
  rw [exec_eq]
  split
  · exact .refl s
  · exact PasteboardClient.call_connects _ a s

/-- What one step can be. -/
inductive ClientStep (s : ClientState) :
    ClientLabel Uri Want → ClientState → Prop where
  | call (op : ClientOp Uri Want) (c : Caller) (a : Answers) :
      ClientStep s (.call op c a) (op.exec c a s).1
  | saStarts : s.registered = none →
      ClientStep s .saStarts
        { s with registered := some s.started, started := s.started + 1 }
  | saDies : ClientStep s .saDies { s with registered := none }
  | remoteDied {i : Nat} (a : Answers) :
      i ∈ s.deathRecipients → s.registered ≠ some i →
      ClientStep s (.remoteDied i a)
        (PasteboardClient.onRemoteSaDied a (s.tell i))

theorem clientStep_of_step {s s' : ClientState} {l : ClientLabel Uri Want}
    {calls : List (ProxyCall Uri Want)}
    (h : clientMachine.step s l = some (s', calls)) : ClientStep s l s' := by
  cases l with
  | call op c a =>
      injection h with h
      have hs : (op.exec c a s).1 = s' := congrArg Prod.fst h
      rw [← hs]
      exact .call op c a
  | saStarts =>
      obtain ⟨s₁, h₁, h⟩ := Option.map_eq_some_iff.mp h
      injection h with hs _
      subst hs
      unfold ClientState.saStarts at h₁
      split at h₁
      · cases h₁
      · next hnone =>
          injection h₁ with h₁
          subst h₁
          exact .saStarts hnone
  | saDies =>
      obtain ⟨s₁, h₁, h⟩ := Option.map_eq_some_iff.mp h
      injection h with hs _
      subst hs
      unfold ClientState.saDies at h₁
      split at h₁
      · injection h₁ with h₁
        subst h₁
        exact .saDies
      · cases h₁
  | remoteDied i a =>
      obtain ⟨s₁, h₁, h⟩ := Option.map_eq_some_iff.mp h
      injection h with hs _
      subst hs
      unfold ClientState.remoteDied at h₁
      split at h₁
      · next hi =>
          injection h₁ with h₁
          subst h₁
          exact .remoteDied a hi.1 hi.2
      · cases h₁

/-- **A proxy refers to the same instance for ever.** -/
theorem keeps_proxy (i : Nat) :
    (clientMachine : Machine _ (ClientLabel Uri Want) _).Keeps
      fun s => s.pasteboardServiceProxy = some i := by
  intro s l s' calls hs hstep
  cases clientStep_of_step hstep with
  | call op c a =>
      rcases (op.exec_connects c a s).proxy with hp | ⟨hp, _⟩
      · rw [hp, hs]
      · rw [hs] at hp
        cases hp
  | saStarts _ => exact hs
  | saDies => exact hs
  | @remoteDied j a _ _ =>
      have hs' : (s.tell j).pasteboardServiceProxy = some i := hs
      unfold PasteboardClient.onRemoteSaDied
      rw [PasteboardClient.connectService_of_proxy a hs']
      exact hs'

end Pasteboard
