/-
  Pasteboard.Service.Ops
  ──────────────────────
  **WHAT ONE OPERATION DOES** to the clips, to the registered observers, and
  to the observers it calls.

    • `StepSpec` says once what a step does: the clips change as a keyed
      register (a resolved `SetPasteData` assigns the caller's key, a resolved
      `Clear` empties it, nothing else assigns); the registry of a user
      changes by that user's operations only; the observers called are those
      of ALL users, or none.  `exec_spec` proves it, one case per operation.
    • Only the data of a `SetPasteData` can make an operation fail, in a
      service whose clips all have a size (`exec_isSome_iff`).
-/
import Pasteboard.Service.State
import Pasteboard.Lib.Runs
import Pasteboard.Lib.Register
import Pasteboard.Lib.OrderedMap

namespace Pasteboard

open Lib

variable {Uri Want : Type}

/-! ## §1. Operations as inputs of a machine. -/

/-- A call of a public operation of the service. -/
inductive ServiceOp (Uri Want : Type) where
  | setPasteData (c : Caller) (pasteData : PasteData Uri Want)
  | getPasteData (c : Caller) (data : PasteData Uri Want)
  | hasPasteData (c : Caller)
  | clear (c : Caller)
  | addPasteboardChangedObserver (c : Caller) (observer : Option RemoteObject)
  | removePasteboardChangedObserver (c : Caller)
      (observer : Option RemoteObject)
  | removeAllChangedObserver (c : Caller)

/-- The step of an operation: what it returns, forgotten. -/
def Outcome.step {α : Type} (o : Outcome Uri Want α) :
    PasteboardService Uri Want × List Event :=
  (o.service, o.events)

theorem Outcome.of_step {α : Type} {o : Outcome Uri Want α}
    {s' : PasteboardService Uri Want} {os : List Event}
    (h : some o.step = some (s', os)) : o.service = s' ∧ o.events = os := by
  injection h with h
  injection h with hs hos
  exact ⟨hs, hos⟩

theorem Outcome.of_map_step {α : Type} {x : Option (Outcome Uri Want α)}
    {s' : PasteboardService Uri Want} {os : List Event}
    (h : x.map (·.step) = some (s', os)) :
    ∃ o, x = some o ∧ o.service = s' ∧ o.events = os := by
  obtain ⟨o, ho, hx⟩ := Option.map_eq_some_iff.mp h
  exact ⟨o, ho, Outcome.of_step (congrArg some hx)⟩

namespace ServiceOp

def caller : ServiceOp Uri Want → Caller
  | .setPasteData c _ => c
  | .getPasteData c _ => c
  | .hasPasteData c => c
  | .clear c => c
  | .addPasteboardChangedObserver c _ => c
  | .removePasteboardChangedObserver c _ => c
  | .removeAllChangedObserver c => c

/-- The user the operation is made for. -/
def userId (P : Platform) (op : ServiceOp Uri Want) : Int :=
  P.getUserId op.caller.uid

def exec [ToString Uri] (P : Platform) (s : PasteboardService Uri Want) :
    ServiceOp Uri Want → Option (PasteboardService Uri Want × List Event)
  | .setPasteData c pasteData => (s.setPasteData P c pasteData).map (·.step)
  | .getPasteData c data => (s.getPasteData P c data).map (·.step)
  | .hasPasteData c => some (s.hasPasteData P c).step
  | .clear c => some (s.clear P c).step
  | .addPasteboardChangedObserver c observer =>
      some (s.addPasteboardChangedObserver P c observer).step
  | .removePasteboardChangedObserver c observer =>
      some (s.removePasteboardChangedObserver P c observer).step
  | .removeAllChangedObserver c => some (s.removeAllChangedObserver P c).step

end ServiceOp

/-- The service as a machine over the operations. -/
def serviceMachine [ToString Uri] (P : Platform) :
    Machine (PasteboardService Uri Want) (ServiceOp Uri Want) Event where
  step := ServiceOp.exec P

/-! ## §2. Operation by operation. -/

namespace PasteboardService

@[simp] theorem setPasteboardHistory_clips (P : Platform) (uid : Int)
    (state time : String) (s : PasteboardService Uri Want) :
    (s.setPasteboardHistory P uid state time).clips = s.clips := rfl

@[simp] theorem setPasteboardHistory_observerMap (P : Platform) (uid : Int)
    (state time : String) (s : PasteboardService Uri Want) :
    (s.setPasteboardHistory P uid state time).observerMap = s.observerMap := rfl

/-- The observers called depend on the registries only. -/
theorem notifyObservers_congr {s t : PasteboardService Uri Want}
    (h : s.observerMap = t.observerMap) :
    s.notifyObservers = t.notifyObservers := by
  unfold notifyObservers
  rw [h]

/-- **What `Clear` does.** -/
theorem clear_cases (P : Platform) (c : Caller)
    (s : PasteboardService Uri Want) :
    (¬ (P.getUserId c.uid ≠ ERROR_USERID
          ∧ s.clips.contains (P.getUserId c.uid) = true)
        ∧ (s.clear P c).service = s ∧ (s.clear P c).events = [])
      ∨ ((P.getUserId c.uid ≠ ERROR_USERID
          ∧ s.clips.contains (P.getUserId c.uid) = true)
        ∧ (s.clear P c).service.observerMap = s.observerMap
        ∧ (s.clear P c).events = s.notifyObservers) := by
  unfold clear
  dsimp only
  split
  · next hu => exact Or.inl ⟨fun h => h.1 hu, rfl, rfl⟩
  · next hu =>
      split
      · next hc => exact Or.inr ⟨⟨hu, hc⟩, rfl, rfl⟩
      · next hc => exact Or.inl ⟨fun h => hc h.2, rfl, rfl⟩

theorem clear_clips (P : Platform) (c : Caller)
    (s : PasteboardService Uri Want) (v : Int) :
    (s.clear P c).service.clips[v]?
      = if P.getUserId c.uid ≠ ERROR_USERID ∧ P.getUserId c.uid = v then none
        else s.clips[v]? := by
  unfold clear
  dsimp only
  by_cases hu : P.getUserId c.uid = ERROR_USERID
  · rw [if_pos hu, if_neg fun h => h.1 hu]
  · rw [if_neg hu]
    have herase :=
      OrderedMap.getElem?_erase_if_contains s.clips (P.getUserId c.uid) v
    by_cases hc : s.clips.contains (P.getUserId c.uid) = true
    · rw [if_pos hc] at herase ⊢
      show (s.clips.erase _)[v]? = _
      rw [herase]
      simp only [ne_eq, hu, not_false_eq_true, true_and]
    · rw [if_neg hc] at herase ⊢
      show s.clips[v]? = _
      simp only [ne_eq, hu, not_false_eq_true, true_and]
      exact herase

theorem hasPasteData_service (P : Platform) (c : Caller)
    (s : PasteboardService Uri Want) :
    (s.hasPasteData P c).step = (s, []) := by
  unfold hasPasteData
  dsimp only
  split <;> rfl

/-! ## §3. The operations on the registries. -/

/-- What an operation on the registries leaves alone, and what it makes of the
registry of its user. -/
structure OnlyRegistry (P : Platform) (c : Caller) (f : Option Registry → Option Registry)
    (s : PasteboardService Uri Want) (o : Outcome Uri Want Unit) : Prop where
  clips : o.service.clips = s.clips
  events : o.events = []
  registry : ∀ v, o.service.observerMap[v]?
    = if P.getUserId c.uid ≠ ERROR_USERID ∧ P.getUserId c.uid = v
      then f s.observerMap[v]? else s.observerMap[v]?

/-- Doing nothing is such an operation, where the registry stays. -/
theorem OnlyRegistry.of_same {P : Platform} {c : Caller}
    {f : Option Registry → Option Registry}
    {s : PasteboardService Uri Want}
    (h : P.getUserId c.uid ≠ ERROR_USERID →
      f s.observerMap[P.getUserId c.uid]?
        = s.observerMap[P.getUserId c.uid]?) :
    OnlyRegistry P c f s ⟨(), s, []⟩ where
  clips := rfl
  events := rfl
  registry v := by
    split
    · next hv =>
        obtain ⟨hu, hv⟩ := hv
        subst hv
        exact (h hu).symm
    · rfl

/-- So is storing a registry for the user. -/
theorem OnlyRegistry.of_insert {P : Platform} {c : Caller}
    {f : Option Registry → Option Registry}
    {s : PasteboardService Uri Want} {r : Std.TreeSet RemoteObject}
    (hu : P.getUserId c.uid ≠ ERROR_USERID)
    (h : f s.observerMap[P.getUserId c.uid]? = some r) :
    OnlyRegistry P c f s ⟨(),
      { s with observerMap := s.observerMap.insert (P.getUserId c.uid) r },
      []⟩ where
  clips := rfl
  events := rfl
  registry v := by
    show (s.observerMap.insert (P.getUserId c.uid) r)[v]? = _
    rw [OrderedMap.getElem?_insert_eq]
    by_cases hv : P.getUserId c.uid = v
    · subst hv
      rw [if_pos rfl, if_pos ⟨hu, rfl⟩, h]
    · rw [if_neg hv, if_neg fun hand => hv hand.2]

/-- So is erasing the registry of the user. -/
theorem OnlyRegistry.of_erase {P : Platform} {c : Caller}
    {s : PasteboardService Uri Want} (hu : P.getUserId c.uid ≠ ERROR_USERID) :
    OnlyRegistry P c (fun _ => none) s ⟨(), { s with
      observerMap := s.observerMap.erase (P.getUserId c.uid) }, []⟩ where
  clips := rfl
  events := rfl
  registry v := by
    show (s.observerMap.erase (P.getUserId c.uid))[v]? = _
    rw [OrderedMap.getElem?_erase_eq]
    by_cases hv : P.getUserId c.uid = v
    · rw [if_pos hv, if_pos ⟨hu, hv⟩]
    · rw [if_neg hv, if_neg fun hand => hv hand.2]

/-- **What `AddPasteboardChangedObserver` does.** -/
theorem addPasteboardChangedObserver_spec (P : Platform) (c : Caller)
    (o : RemoteObject) (s : PasteboardService Uri Want) :
    OnlyRegistry P c (fun r => some ((r.getD {}).insert o)) s
      (s.addPasteboardChangedObserver P c (some o)) := by
  unfold addPasteboardChangedObserver
  dsimp only
  split
  · next hu => exact OnlyRegistry.of_same fun hne => absurd hu hne
  · next hu => exact OnlyRegistry.of_insert hu rfl

/-- **What `RemovePasteboardChangedObserver` does.** -/
theorem removePasteboardChangedObserver_spec (P : Platform) (c : Caller)
    (o : RemoteObject) (s : PasteboardService Uri Want) :
    OnlyRegistry P c (fun r => r.map (·.erase o)) s
      (s.removePasteboardChangedObserver P c (some o)) := by
  unfold removePasteboardChangedObserver
  dsimp only
  split
  · next hu => exact OnlyRegistry.of_same fun hne => absurd hu hne
  · next hu =>
      split
      · next hnone =>
          refine OnlyRegistry.of_same fun _ => ?_
          rw [hnone]
          rfl
      · next observers hsome =>
          refine OnlyRegistry.of_insert hu ?_
          rw [hsome]
          rfl

/-- **What `RemoveAllChangedObserver` does.** -/
theorem removeAllChangedObserver_spec (P : Platform) (c : Caller)
    (s : PasteboardService Uri Want) :
    OnlyRegistry P c (fun _ => none) s (s.removeAllChangedObserver P c) := by
  unfold removeAllChangedObserver
  dsimp only
  split
  · next hu => exact OnlyRegistry.of_same fun hne => absurd hu hne
  · next hu =>
      split
      · next hnone => exact OnlyRegistry.of_same fun _ => hnone.symm
      · exact OnlyRegistry.of_erase hu

/-! ## §4. The operations that report. -/

variable [ToString Uri] {P : Platform} {c : Caller}
  {s : PasteboardService Uri Want}

/-- Reports are not calls of observers. -/
def Reports (os : List Event) : Prop :=
  ∀ e ∈ os, ∀ u o, e ≠ .onPasteboardChanged u o

theorem reports_pair (n : Int) (name : String) (size : Nat) (m : Int) :
    Reports [.pasteboardBehaviour n name, .timeConsuming size m] := by
  intro e he u o hcall
  subst hcall
  simp at he

/-- **What the report of a `SetPasteData` does**: neither clips nor observers
change, and it can fail on the size of the data only. -/
theorem setPasteDataDot_cases {d : PasteData Uri Want}
    {x : PasteboardService Uri Want × List Event}
    (h : s.setPasteDataDot P c d = some x) :
    (∃ size, getDataSize d = some size) ∧ x.1.clips = s.clips
      ∧ x.1.observerMap = s.observerMap ∧ Reports x.2 := by
  obtain ⟨size, hsize, hx⟩ := Option.map_eq_some_iff.mp h
  subst hx
  exact ⟨⟨size, hsize⟩, rfl, rfl, reports_pair _ _ _ _⟩

theorem setPasteDataDot_isSome (d : PasteData Uri Want) :
    (s.setPasteDataDot P c d).isSome = (getDataSize d).isSome := by
  unfold setPasteDataDot
  rw [Option.isSome_map]

/-- **What the report of a `GetPasteData` does.** -/
theorem getPasteDataDot_cases {x : PasteboardService Uri Want × List Event}
    (h : s.getPasteDataDot P c = some x) :
    x.1.clips = s.clips ∧ x.1.observerMap = s.observerMap ∧ Reports x.2 := by
  unfold getPasteDataDot at h
  dsimp only at h
  split at h
  · injection h with h
    subst h
    refine ⟨rfl, rfl, ?_⟩
    intro e he u o hcall
    subst hcall
    simp at he
  · obtain ⟨size, _, hx⟩ := Option.map_eq_some_iff.mp h
    subst hx
    exact ⟨rfl, rfl, reports_pair _ _ _ _⟩

omit [ToString Uri] in
/-- A service that has just started has no clips. -/
theorem not_clip_empty {u : Int} {d : PasteData Uri Want} :
    ({} : PasteboardService Uri Want).clips[u]? ≠ some d := by
  rw [show ({} : PasteboardService Uri Want).clips[u]? = none from
    Std.TreeMap.getElem?_emptyc]
  nofun

/-- Every stored clip has a size: its last record, if any, is not null. -/
def Measurable (s : PasteboardService Uri Want) : Prop :=
  ∀ (u : Int) d, s.clips[u]? = some d → (getDataSize d).isSome = true

theorem measurable_empty : ({} : PasteboardService Uri Want).Measurable := by
  intro u d h
  exact absurd h not_clip_empty

theorem Measurable.getPasteDataDot_isSome (h : s.Measurable) (P : Platform)
    (c : Caller) : (s.getPasteDataDot P c).isSome = true := by
  unfold getPasteDataDot
  dsimp only
  split
  · rfl
  · next d hd =>
      -- the last clip is a stored clip
      rw [Option.isSome_map]
      obtain ⟨⟨u, d'⟩, hlast, hd'⟩ := Option.map_eq_some_iff.mp hd
      subst hd'
      exact h u d' (OrderedMap.getElem?_of_getLast? _ hlast)

/-- **What `SetPasteData` does.** -/
theorem setPasteData_cases {d : PasteData Uri Want}
    {o : Outcome Uri Want Unit} (h : s.setPasteData P c d = some o) :
    (getDataSize d).isSome = true ∧ o.service.observerMap = s.observerMap
      ∧ ∃ reports, Reports reports
        ∧ ((P.getUserId c.uid = ERROR_USERID ∧ o.service.clips = s.clips
              ∧ o.events = reports)
          ∨ (P.getUserId c.uid ≠ ERROR_USERID
              ∧ (∀ v, o.service.clips[v]?
                  = if P.getUserId c.uid = v then some d else s.clips[v]?)
              ∧ o.events = reports ++ s.notifyObservers)) := by
  obtain ⟨x, hx, ho⟩ := Option.map_eq_some_iff.mp h
  obtain ⟨⟨size, hsize⟩, hclips, hobs, hrep⟩ := setPasteDataDot_cases hx
  subst ho
  refine ⟨by rw [hsize]; rfl, ?_, x.2, hrep, ?_⟩
  · split <;> exact hobs
  · by_cases hu : P.getUserId c.uid = ERROR_USERID
    · rw [if_pos hu]
      exact Or.inl ⟨hu, hclips, rfl⟩
    · -- erase and insert is an assignment at the caller's key
      rw [if_neg hu]
      refine Or.inr ⟨hu, ?_, ?_⟩
      · intro v
        show (Std.TreeMap.insertIfNew (if x.1.clips.contains _ then _ else _)
          _ _)[v]? = _
        rw [OrderedMap.getElem?_replace, hclips]
      · show x.2 ++ _ = x.2 ++ _
        exact congrArg (x.2 ++ ·) (notifyObservers_congr hobs)

/-- **What `GetPasteData` does.** -/
theorem getPasteData_cases {data : PasteData Uri Want}
    {o : Outcome Uri Want (Bool × PasteData Uri Want)}
    (h : s.getPasteData P c data = some o) :
    o.service.clips = s.clips ∧ o.service.observerMap = s.observerMap
      ∧ Reports o.events
      ∧ o.value
        = if P.getUserId c.uid = ERROR_USERID then (false, data)
          else
            match s.clips[P.getUserId c.uid]? with
            | some it => (true, it)
            | none => (false, data) := by
  obtain ⟨x, hx, ho⟩ := Option.map_eq_some_iff.mp h
  obtain ⟨hclips, hobs, hrep⟩ := getPasteDataDot_cases hx
  subst ho
  rw [← hclips]
  by_cases hu : P.getUserId c.uid = ERROR_USERID
  · rw [if_pos hu, if_pos hu]
    exact ⟨rfl, hobs, hrep, rfl⟩
  · rw [if_neg hu, if_neg hu]
    cases x.1.clips[P.getUserId c.uid]? with
    | none => exact ⟨rfl, hobs, hrep, rfl⟩
    | some it => exact ⟨rfl, hobs, hrep, rfl⟩

end PasteboardService

/-! ## §5. One step of the machine. -/

namespace ServiceOp

/-- The clip an operation assigns: the caller's, unless the caller has no
user id. -/
def clipEffect (P : Platform) (op : ServiceOp Uri Want) :
    Option (Int × Option (PasteData Uri Want)) :=
  if op.userId P = ERROR_USERID then none
  else
    match op with
    | .setPasteData _ pasteData => some (op.userId P, some pasteData)
    | .clear _ => some (op.userId P, none)
    | _ => none

/-- The operations that say what a user's clip is. -/
def Assigns : ServiceOp Uri Want → Prop
  | .setPasteData _ _ => True
  | .clear _ => True
  | _ => False

/-- What an operation by a resolved user makes of that user's registry. -/
def registryAfter (r : Option Registry) : ServiceOp Uri Want → Option Registry
  | .addPasteboardChangedObserver _ (some o) => some ((r.getD {}).insert o)
  | .removePasteboardChangedObserver _ (some o) => r.map (·.erase o)
  | .removeAllChangedObserver _ => none
  | _ => r

/-- The operation calls the observers: a `SetPasteData` by a resolved user, or
a `Clear` that finds a clip. -/
def Notifies (P : Platform) (s : PasteboardService Uri Want) :
    ServiceOp Uri Want → Prop
  | .setPasteData c _ => P.getUserId c.uid ≠ ERROR_USERID
  | .clear c => P.getUserId c.uid ≠ ERROR_USERID
      ∧ s.clips.contains (P.getUserId c.uid) = true
  | _ => False

instance (P : Platform) (s : PasteboardService Uri Want) :
    ∀ op : ServiceOp Uri Want, Decidable (op.Notifies P s)
  | .setPasteData _ _ => inferInstanceAs (Decidable (_ ≠ _))
  | .clear _ => inferInstanceAs (Decidable (_ ∧ _))
  | .getPasteData _ _ => inferInstanceAs (Decidable False)
  | .hasPasteData _ => inferInstanceAs (Decidable False)
  | .addPasteboardChangedObserver _ _ => inferInstanceAs (Decidable False)
  | .removePasteboardChangedObserver _ _ => inferInstanceAs (Decidable False)
  | .removeAllChangedObserver _ => inferInstanceAs (Decidable False)

/-- The data of a `SetPasteData` has a size. -/
def HasSize [ToString Uri] : ServiceOp Uri Want → Prop
  | .setPasteData _ pasteData =>
      (PasteboardService.getDataSize pasteData).isSome = true
  | _ => True

/-- `Clear` as an effect on the register of clips. -/
theorem clear_clips_assign {P : Platform} {c : Caller}
    {s : PasteboardService Uri Want} (v : Int) :
    (s.clear P c).service.clips[v]?
      = Register.assign (clipEffect P) (fun u => s.clips[u]?) (clear c) v := by
  rw [PasteboardService.clear_clips]
  by_cases hu : P.getUserId c.uid = ERROR_USERID
  · have hnone : clipEffect P (clear c : ServiceOp Uri Want) = none :=
      if_pos hu
    rw [if_neg fun h => h.1 hu, Register.assign_none hnone]
  · have heff : clipEffect P (clear c : ServiceOp Uri Want)
        = some (P.getUserId c.uid, none) := if_neg hu
    rw [Register.assign_apply heff]
    simp only [ne_eq, hu, not_false_eq_true, true_and]

/-- **What a step does**, whatever the operation. -/
structure StepSpec [ToString Uri] (P : Platform) (op : ServiceOp Uri Want)
    (s s' : PasteboardService Uri Want) (os : List Event) : Prop where
  /-- Only data with a size is taken. -/
  hasSize : op.HasSize
  /-- The clips change as a keyed register. -/
  clips : ∀ v, s'.clips[v]?
    = Register.assign (clipEffect P) (fun u => s.clips[u]?) op v
  /-- A registry changes by the operations of its own user only. -/
  registry : ∀ v, s'.observerMap[v]?
    = if op.userId P ≠ ERROR_USERID ∧ op.userId P = v
      then op.registryAfter s.observerMap[v]? else s.observerMap[v]?
  /-- The observers called are those of all users, or none. -/
  calls : ∃ reports, PasteboardService.Reports reports
    ∧ os = reports ++ if op.Notifies P s then s.notifyObservers else []

/-- Who assigns a clip, and which. -/
theorem clipEffect_eq_some {P : Platform} {op : ServiceOp Uri Want} {k : Int}
    {w : Option (PasteData Uri Want)} (h : op.clipEffect P = some (k, w)) :
    op.userId P = k ∧ k ≠ ERROR_USERID
      ∧ ((∃ c d, op = setPasteData c d ∧ w = some d)
        ∨ ∃ c, op = clear c ∧ w = none) := by
  unfold clipEffect at h
  split at h
  · cases h
  · next hu =>
      cases op with
      | setPasteData c d =>
          injection h with h
          injection h with hk hw
          subst hk hw
          exact ⟨rfl, hu, Or.inl ⟨c, d, rfl, rfl⟩⟩
      | clear c =>
          injection h with h
          injection h with hk hw
          subst hk hw
          exact ⟨rfl, hu, Or.inr ⟨c, rfl, rfl⟩⟩
      | _ => cases h

theorem clipEffect_unresolved {P : Platform} {op : ServiceOp Uri Want}
    (h : op.userId P = ERROR_USERID) : op.clipEffect P = none :=
  if_pos h

/-- An operation that keeps its registry keeps all. -/
theorem registry_of_same (P : Platform) (op : ServiceOp Uri Want)
    {s s' : PasteboardService Uri Want} (hobs : s'.observerMap = s.observerMap)
    (hop : ∀ r, op.registryAfter r = r) (v : Int) :
    s'.observerMap[v]?
      = if op.userId P ≠ ERROR_USERID ∧ op.userId P = v
        then op.registryAfter s.observerMap[v]? else s.observerMap[v]? := by
  rw [hop, ite_self, hobs]

variable [ToString Uri] {P : Platform} {s s' : PasteboardService Uri Want}
  {os : List Event}

/-- The step of an operation that assigns no clip and calls nobody. -/
theorem StepSpec.of_quiet {op : ServiceOp Uri Want} (hsize : op.HasSize)
    (heff : op.clipEffect P = none) (hclips : s'.clips = s.clips)
    (hreg : ∀ v, s'.observerMap[v]?
      = if op.userId P ≠ ERROR_USERID ∧ op.userId P = v
        then op.registryAfter s.observerMap[v]? else s.observerMap[v]?)
    (hcalls : ¬ op.Notifies P s) (hos : PasteboardService.Reports os) :
    StepSpec P op s s' os where
  hasSize := hsize
  clips v := by rw [Register.assign_none heff, hclips]
  registry := hreg
  calls := ⟨os, hos, by rw [if_neg hcalls, List.append_nil]⟩

theorem reports_nil : PasteboardService.Reports [] := by
  intro e he
  cases he

/-- The step of an operation on the registries. -/
theorem StepSpec.of_onlyRegistry {op : ServiceOp Uri Want}
    {o : Outcome Uri Want Unit} (hsize : op.HasSize)
    (heff : op.clipEffect P = none) (hcalls : ¬ op.Notifies P s)
    (hspec : PasteboardService.OnlyRegistry P op.caller op.registryAfter s o) :
    StepSpec P op s o.service o.events := by
  refine StepSpec.of_quiet hsize heff hspec.clips hspec.registry hcalls ?_
  rw [hspec.events]
  exact reports_nil

/-- A `SetPasteData` assigns the caller's clip and calls the observers, unless
the caller has no user id. -/
theorem setPasteData_spec {c : Caller} {d : PasteData Uri Want}
    {o : Outcome Uri Want Unit} (ho : s.setPasteData P c d = some o) :
    StepSpec P (setPasteData c d) s o.service o.events := by
  obtain ⟨hsize, hobs, reports, hrep, hcase⟩ :=
    PasteboardService.setPasteData_cases ho
  have hreg := registry_of_same P (setPasteData c d) hobs fun _ => rfl
  rcases hcase with ⟨hu, hclips, hos⟩ | ⟨hu, hclips, hos⟩
  · refine StepSpec.of_quiet hsize (clipEffect_unresolved hu) hclips hreg
      (fun hn => hn hu) ?_
    rw [hos]
    exact hrep
  · have heff : (setPasteData c d).clipEffect P
        = some (P.getUserId c.uid, some d) := if_neg hu
    have hcalls : (setPasteData c d).Notifies P s := hu
    refine ⟨hsize, ?_, hreg, reports, hrep, ?_⟩
    · intro v
      rw [hclips v, Register.assign_apply heff]
    · rw [if_pos hcalls, hos]

/-- A `Clear` empties the caller's clip, and calls the observers where there
was one. -/
theorem clear_spec (c : Caller) :
    StepSpec P (clear c) s (s.clear P c).service (s.clear P c).events := by
  rcases PasteboardService.clear_cases P c s with
    ⟨hno, hs, hos⟩ | ⟨hyes, hobs, hos⟩
  · -- no user, or no clip: nothing happens
    have hcalls : ¬ (clear c : ServiceOp Uri Want).Notifies P s := hno
    refine ⟨trivial, clear_clips_assign, ?_, [], reports_nil, ?_⟩
    · exact registry_of_same P (clear c) (by rw [hs]) fun _ => rfl
    · rw [if_neg hcalls, hos]
      rfl
  · have hcalls : (clear c : ServiceOp Uri Want).Notifies P s := hyes
    refine ⟨trivial, clear_clips_assign, ?_, [], reports_nil, ?_⟩
    · exact registry_of_same P (clear c) hobs fun _ => rfl
    · rw [if_pos hcalls, hos]
      rfl

/-- **Every step does what `StepSpec` says**, one case per operation. -/
theorem exec_spec {op : ServiceOp Uri Want}
    (h : op.exec P s = some (s', os)) : StepSpec P op s s' os := by
  cases op with
  | setPasteData c d =>
      obtain ⟨o, ho, hs, hos⟩ := Outcome.of_map_step h
      subst hs hos
      exact setPasteData_spec ho
  | clear c =>
      obtain ⟨hs, hos⟩ := Outcome.of_step h
      subst hs hos
      exact clear_spec c
  | getPasteData c data =>
      obtain ⟨o, ho, hs, hos⟩ := Outcome.of_map_step h
      subst hs hos
      obtain ⟨hclips, hobs, hrep, _⟩ := PasteboardService.getPasteData_cases ho
      exact StepSpec.of_quiet trivial (ite_self none) hclips
        (registry_of_same P _ hobs fun _ => rfl) (fun hn => hn) hrep
  | hasPasteData c =>
      injection h with h
      rw [PasteboardService.hasPasteData_service] at h
      injection h with hs hos
      subst hs hos
      exact StepSpec.of_quiet trivial (ite_self none) rfl
        (registry_of_same P _ rfl fun _ => rfl) (fun hn => hn) reports_nil
  | addPasteboardChangedObserver c o =>
      obtain ⟨hs, hos⟩ := Outcome.of_step h
      subst hs hos
      cases o with
      | none =>
          exact StepSpec.of_quiet trivial (ite_self none) rfl
            (registry_of_same P _ rfl fun _ => rfl) (fun hn => hn) reports_nil
      | some o =>
          exact StepSpec.of_onlyRegistry trivial (ite_self none)
            (fun hn => hn) (s.addPasteboardChangedObserver_spec P c o)
  | removePasteboardChangedObserver c o =>
      obtain ⟨hs, hos⟩ := Outcome.of_step h
      subst hs hos
      cases o with
      | none =>
          exact StepSpec.of_quiet trivial (ite_self none) rfl
            (registry_of_same P _ rfl fun _ => rfl) (fun hn => hn) reports_nil
      | some o =>
          exact StepSpec.of_onlyRegistry trivial (ite_self none)
            (fun hn => hn) (s.removePasteboardChangedObserver_spec P c o)
  | removeAllChangedObserver c =>
      obtain ⟨hs, hos⟩ := Outcome.of_step h
      subst hs hos
      exact StepSpec.of_onlyRegistry trivial (ite_self none)
        (fun hn => hn) (s.removeAllChangedObserver_spec P c)

/-! ## §6. When a step is possible. -/

/-- In a service whose clips all have a size, only the data of a
`SetPasteData` can make an operation fail. -/
theorem exec_isSome_iff (hm : s.Measurable) (op : ServiceOp Uri Want) :
    (op.exec P s).isSome = true ↔ op.HasSize := by
  cases op with
  | setPasteData c d =>
      show ((s.setPasteData P c d).map _).isSome = true ↔ _
      rw [Option.isSome_map]
      show ((s.setPasteDataDot P c d).map _).isSome = true ↔ _
      rw [Option.isSome_map, PasteboardService.setPasteDataDot_isSome]
      exact Iff.rfl
  | getPasteData c data =>
      refine iff_of_true ?_ trivial
      show ((s.getPasteData P c data).map _).isSome = true
      rw [Option.isSome_map]
      show ((s.getPasteDataDot P c).map _).isSome = true
      rw [Option.isSome_map]
      exact hm.getPasteDataDot_isSome P c
  | hasPasteData c => exact iff_of_true rfl trivial
  | clear c => exact iff_of_true rfl trivial
  | addPasteboardChangedObserver c o => exact iff_of_true rfl trivial
  | removePasteboardChangedObserver c o => exact iff_of_true rfl trivial
  | removeAllChangedObserver c => exact iff_of_true rfl trivial

/-- A step stores only the data of a `SetPasteData`, under the user id of its
caller. -/
theorem StepSpec.clips_cases {op : ServiceOp Uri Want}
    (h : StepSpec P op s s' os) {v : Int} {d : PasteData Uri Want}
    (hd : s'.clips[v]? = some d) :
    s.clips[v]? = some d
      ∨ v ≠ ERROR_USERID ∧ op.userId P = v ∧ ∃ c, op = setPasteData c d := by
  rw [h.clips v] at hd
  rcases Register.assign_cases (clipEffect P) (fun u => s.clips[u]?) op v with
    hold | hnew
  · rw [hold] at hd
    exact Or.inl hd
  · rw [hd] at hnew
    obtain ⟨huser, hne, ⟨c, d', hop, hw⟩ | ⟨c, hop, hw⟩⟩ :=
      clipEffect_eq_some hnew
    · injection hw with hw
      subst hw
      exact Or.inr ⟨hne, huser, c, hop⟩
    · cases hw

/-- **Measurability is kept by every step.** -/
theorem keeps_measurable :
    (serviceMachine P).Keeps
      (PasteboardService.Measurable : PasteboardService Uri Want → Prop) := by
  intro s op s' os hm hstep u d hd
  have hspec := exec_spec hstep
  rcases hspec.clips_cases hd with hold | ⟨_, _, c, hop⟩
  · exact hm u d hold
  · subst hop
    exact hspec.hasSize

end ServiceOp

end Pasteboard
