/-
  Pasteboard.Service.Notifications
  ────────────────────────────────
  **EVERY REGISTRATION IS CALLED ONCE.**

  A registration is a user and a remote object.  `RegisteredBy` says of a run,
  without any state, that it is in force: the user has added the object, and
  has not removed it, or all, since.  The service refines this over every run
  (`mem_registered_iff`), and a step that announces a change calls every
  registration in force exactly once, and nothing else (`calls_registrations`).

  An OBSERVER is called once per registration it has.  So the observers of a
  user hear of the user's change exactly once if and only if none of them is
  registered under another user too (`notifiesOnce_iff`).
-/
import Mathlib.Data.List.Count
import Mathlib.Data.List.Nodup
import Pasteboard.Service.Isolation

namespace Pasteboard

open Lib

variable {Uri Want : Type}

/-! ## §1. Registrations of a run. -/

/-- The operation takes `o` out of its user's registry, if it is there. -/
def ServiceOp.Removes (o : RemoteObject) : ServiceOp Uri Want → Prop
  | .removePasteboardChangedObserver _ (some o') => o' = o
  | .removeAllChangedObserver _ => True
  | _ => False

/-- The user `u` has added `o`, and has not removed it since. -/
def RegisteredBy (P : Platform) (u : Int) (o : RemoteObject)
    (ops : List (ServiceOp Uri Want)) : Prop :=
  u ≠ ERROR_USERID
    ∧ ∃ pre c post, ops = pre ++ .addPasteboardChangedObserver c (some o) :: post
      ∧ P.getUserId c.uid = u
      ∧ ∀ op ∈ post, op.userId P = u → ¬ op.Removes o

/-- The operation `op`, made after `ops`, announces a change: a `SetPasteData`
by a resolved user, or a `Clear` by a user that has a clip. -/
def ServiceOp.Announces (P : Platform) (ops : List (ServiceOp Uri Want)) :
    ServiceOp Uri Want → Prop
  | .setPasteData c _ => P.getUserId c.uid ≠ ERROR_USERID
  | .clear c => ∃ d, LastSet P (P.getUserId c.uid) ops d
  | _ => False

/-- What an operation makes of the registration of `o` under `u`. -/
def ServiceOp.registrationEffect (P : Platform) (u : Int) (o : RemoteObject)
    (op : ServiceOp Uri Want) : Option (Unit × Option Unit) :=
  if u ≠ ERROR_USERID ∧ op.userId P = u then
    match op with
    | .addPasteboardChangedObserver _ (some o') =>
        if o' = o then some ((), some ()) else none
    | .removePasteboardChangedObserver _ (some o') =>
        if o' = o then some ((), none) else none
    | .removeAllChangedObserver _ => some ((), none)
    | _ => none
  else none

namespace ServiceOp

variable {P : Platform} {u : Int} {o : RemoteObject}

theorem registrationEffect_add {op : ServiceOp Uri Want} :
    op.registrationEffect P u o = some ((), some ())
      ↔ u ≠ ERROR_USERID ∧ op.userId P = u
        ∧ ∃ c, op = addPasteboardChangedObserver c (some o) := by
  unfold registrationEffect
  split
  · next hu =>
      simp only [hu, ne_eq, not_false_eq_true, true_and]
      cases op with
      | addPasteboardChangedObserver c o' => cases o' <;> simp
      | removePasteboardChangedObserver c o' => cases o' <;> simp
      | _ => simp
  · next hu =>
      refine iff_of_false nofun ?_
      intro h
      exact hu ⟨h.1, h.2.1⟩

theorem registrationEffect_remove {op : ServiceOp Uri Want} :
    op.registrationEffect P u o = some ((), none)
      ↔ u ≠ ERROR_USERID ∧ op.userId P = u ∧ op.Removes o := by
  unfold registrationEffect
  split
  · next hu =>
      simp only [hu, ne_eq, not_false_eq_true, true_and]
      cases op with
      | addPasteboardChangedObserver c o' => cases o' <;> simp [Removes]
      | removePasteboardChangedObserver c o' => cases o' <;> simp [Removes]
      | _ => simp [Removes]
  · next hu =>
      refine iff_of_false nofun ?_
      intro h
      exact hu ⟨h.1, h.2.1⟩

end ServiceOp

/-- **`RegisteredBy` is the content of a register.** -/
theorem registeredBy_iff {P : Platform} {u : Int} {o : RemoteObject}
    {ops : List (ServiceOp Uri Want)} :
    RegisteredBy P u o ops
      ↔ Register.contents (ServiceOp.registrationEffect P u o) ops ()
          = some () := by
  rw [Register.contents_eq_some_iff_stays]
  constructor
  · intro hyp
    obtain ⟨hu, pre, c, post, heq, hc, hpost⟩ := hyp
    refine ⟨pre, _, post, heq, ?_, ?_⟩
    · exact ServiceOp.registrationEffect_add.mpr ⟨hu, hc, c, rfl⟩
    · intro op hop w hw
      cases w with
      | some _ => rfl
      | none =>
          obtain ⟨_, hop', hrem⟩ := ServiceOp.registrationEffect_remove.mp hw
          exact absurd hrem (hpost op hop hop')
  · intro hyp
    obtain ⟨pre, op, post, heq, hop, hpost⟩ := hyp
    obtain ⟨hu, huser, c, h⟩ := ServiceOp.registrationEffect_add.mp hop
    subst h
    refine ⟨hu, pre, c, post, heq, huser, ?_⟩
    intro op' hop' huser' hrem
    have hnone := hpost op' hop' none
      (ServiceOp.registrationEffect_remove.mpr ⟨hu, huser', hrem⟩)
    cases hnone

/-! ## §2. The service keeps them. -/

namespace PasteboardService

/-- What is registered for a user is what its registry holds. -/
theorem mem_registered {s : PasteboardService Uri Want} {u : Int}
    {o : RemoteObject} :
    o ∈ s.registered u ↔ ∃ r, s.observerMap[u]? = some r ∧ o ∈ r := by
  unfold registered
  cases s.observerMap[u]? with
  | none => simp
  | some r => simp

/-- A registry lists no observer twice. -/
theorem nodup_registered (s : PasteboardService Uri Want) (u : Int) :
    (s.registered u).Nodup := by
  unfold registered
  cases s.observerMap[u]? with
  | none => exact List.nodup_nil
  | some r =>
      refine (Std.TreeSet.distinct_toList (t := r)).imp ?_
      intro x y hxy he
      exact hxy (Std.LawfulEqCmp.compare_eq_iff_eq.mpr he)

end PasteboardService

/-- What an operation makes of a registry, seen from one observer. -/
theorem ServiceOp.mem_registryAfter (op : ServiceOp Uri Want)
    (r : Option Registry) (o : RemoteObject) :
    (∃ r', op.registryAfter r = some r' ∧ o ∈ r')
      ↔ (∃ c, op = addPasteboardChangedObserver c (some o))
        ∨ (∃ r', r = some r' ∧ o ∈ r') ∧ ¬ op.Removes o := by
  cases op with
  | addPasteboardChangedObserver c o' =>
      cases o' with
      | none => simp [registryAfter, Removes]
      | some o' =>
          cases r with
          | none => simp [registryAfter, Removes, Std.TreeSet.mem_insert]
          | some r => simp [registryAfter, Removes, Std.TreeSet.mem_insert]
  | removePasteboardChangedObserver c o' =>
      cases o' with
      | none => simp [registryAfter, Removes]
      | some o' =>
          cases r with
          | none => simp [registryAfter, Removes]
          | some r =>
              simp [registryAfter, Removes, Std.TreeSet.mem_erase, and_comm]
  | removeAllChangedObserver c => simp [registryAfter, Removes]
  | _ => simp [registryAfter, Removes]

variable [ToString Uri] {P : Platform}

/-- **Who is registered after a step.** -/
theorem ServiceOp.StepSpec.mem_registered {op : ServiceOp Uri Want}
    {s s' : PasteboardService Uri Want} {os : List Event}
    (h : StepSpec P op s s' os) (u : Int) (o : RemoteObject) :
    o ∈ s'.registered u
      ↔ if u ≠ ERROR_USERID ∧ op.userId P = u then
          (∃ c, op = addPasteboardChangedObserver c (some o))
            ∨ o ∈ s.registered u ∧ ¬ op.Removes o
        else o ∈ s.registered u := by
  rw [PasteboardService.mem_registered, PasteboardService.mem_registered,
    h.registry u]
  by_cases hu : op.userId P = u
  · subst hu
    by_cases hne : op.userId P = ERROR_USERID
    · simp only [hne, ne_eq, not_true_eq_false, false_and, if_false]
    · simp only [hne, ne_eq, not_false_eq_true, and_self, if_true]
      exact op.mem_registryAfter _ o
  · simp only [hu, and_false, if_false]

/-- Whether `o` is registered under `u`, as the content of a register. -/
def registration (u : Int) (o : RemoteObject) (s : PasteboardService Uri Want) :
    Unit → Option Unit :=
  fun _ => if o ∈ s.registered u then some () else none

omit [ToString Uri] in
theorem registration_eq_some {u : Int} {o : RemoteObject}
    {s : PasteboardService Uri Want} :
    registration u o s () = some () ↔ o ∈ s.registered u := by
  unfold registration
  split <;> simp_all

/-- A step without an effect on the registration of `o` under `u` leaves it as
it is. -/
theorem ServiceOp.StepSpec.mem_registered_of_none {op : ServiceOp Uri Want}
    {s s' : PasteboardService Uri Want} {os : List Event}
    (h : StepSpec P op s s' os) {u : Int} {o : RemoteObject}
    (heff : op.registrationEffect P u o = none) :
    o ∈ s'.registered u ↔ o ∈ s.registered u := by
  have hmem := h.mem_registered u o
  by_cases hu : u ≠ ERROR_USERID ∧ op.userId P = u
  · -- neither an add nor a removal: either would have an effect
    rw [if_pos hu] at hmem
    have hnoadd : ¬ ∃ c, op = addPasteboardChangedObserver c (some o) := by
      intro hadd
      rw [registrationEffect_add.mpr ⟨hu.1, hu.2, hadd⟩] at heff
      cases heff
    have hnorem : ¬ op.Removes o := by
      intro hrem
      rw [registrationEffect_remove.mpr ⟨hu.1, hu.2, hrem⟩] at heff
      cases heff
    rw [hmem]
    simp [hnoadd, hnorem]
  · rw [if_neg hu] at hmem
    exact hmem

/-- A step updates the register of every registration. -/
theorem ServiceOp.StepSpec.registration {op : ServiceOp Uri Want}
    {s s' : PasteboardService Uri Want} {os : List Event}
    (h : StepSpec P op s s' os) (u : Int) (o : RemoteObject) :
    Pasteboard.registration u o s'
      = Register.assign (registrationEffect P u o)
          (Pasteboard.registration u o s) op := by
  funext _
  have hmem := h.mem_registered u o
  cases heff : op.registrationEffect P u o with
  | some x =>
      rw [Register.assign_of_eq heff]
      cases hx : x.2 with
      | some _ =>
          -- an add of `o` by `u`
          have hadd : op.registrationEffect P u o = some ((), some ()) := by
            rw [heff, ← hx]
          obtain ⟨hu, huser, c, hop⟩ := registrationEffect_add.mp hadd
          rw [if_pos ⟨hu, huser⟩] at hmem
          exact registration_eq_some.mpr (hmem.mpr (Or.inl ⟨c, hop⟩))
      | none =>
          -- a removal of `o`, or of all, by `u`
          have hrem : op.registrationEffect P u o = some ((), none) := by
            rw [heff, ← hx]
          obtain ⟨hu, huser, hrem⟩ := registrationEffect_remove.mp hrem
          rw [if_pos ⟨hu, huser⟩] at hmem
          refine if_neg fun hin => ?_
          rcases hmem.mp hin with ⟨c, hop⟩ | ⟨_, hno⟩
          · subst hop
            exact hrem
          · exact hno hrem
  | none =>
      rw [Register.assign_none heff]
      unfold Pasteboard.registration
      simp only [h.mem_registered_of_none heff]

/-- **The registries after a run** hold the registrations in force. -/
theorem mem_registered_iff {ops : List (ServiceOp Uri Want)}
    {s : PasteboardService Uri Want} {os : List Event}
    (hrun : (serviceMachine P).run {} ops = some (s, os)) (u : Int)
    (o : RemoteObject) : o ∈ s.registered u ↔ RegisteredBy P u o ops := by
  have habs := (serviceMachine P).run_abs (registration u o)
    (Register.assign (ServiceOp.registrationEffect P u o))
    (fun s op s' os' hstep => (ServiceOp.exec_spec hstep).registration u o)
    ops hrun
  rw [registeredBy_iff, ← registration_eq_some, congrFun habs ()]
  exact Iff.rfl

/-- What an operation announces is seen from the state it is made in. -/
theorem announces_iff {ops : List (ServiceOp Uri Want)}
    {s : PasteboardService Uri Want} {os : List Event}
    (hrun : (serviceMachine P).run {} ops = some (s, os))
    (op : ServiceOp Uri Want) : op.Announces P ops ↔ op.Notifies P s := by
  cases op with
  | clear c =>
      show (∃ d, LastSet P _ ops d) ↔ _ ∧ _ = true
      rw [Std.TreeMap.contains_eq_isSome_getElem?, run_clips hrun,
        Option.isSome_iff_exists]
      constructor
      · intro h
        obtain ⟨d, hd⟩ := h
        exact ⟨hd.1, d, lastSet_iff.mp hd⟩
      · intro h
        obtain ⟨_, d, hd⟩ := h
        exact ⟨d, lastSet_iff.mpr hd⟩
  | _ => exact Iff.rfl

/-! ## §3. The calls of one step. -/

/-- The event is a call of the remote object `o`, in whatever registry. -/
def Event.callsObserver (o : RemoteObject) : Event → Bool
  | .onPasteboardChanged _ o' => o == o'
  | _ => false

/-- **The calls of one registration in one step.** -/
theorem ServiceOp.StepSpec.count_calls {op : ServiceOp Uri Want}
    {s s' : PasteboardService Uri Want} {os : List Event}
    (h : StepSpec P op s s' os) (v : Int) (o : RemoteObject) :
    os.count (.onPasteboardChanged v o)
      = if op.Notifies P s ∧ o ∈ s.registered v then 1 else 0 := by
  have hown : Event.callsUser v (.onPasteboardChanged v o) = true :=
    beq_self_eq_true v
  have hinj : Function.Injective (Event.onPasteboardChanged v) := by
    intro x y hxy
    injection hxy
  rw [← List.count_filter hown, h.filter_calls v]
  by_cases hn : op.Notifies P s
  · -- the registry, which has no observer twice
    rw [if_pos hn, List.count_map_of_injective _ _ hinj,
      (s.nodup_registered v).count]
    simp only [hn, true_and]
  · rw [if_neg hn]
    simp [hn]

/-- Every registration in force is called once where a change is announced;
nothing else is called, and nothing where none is. -/
structure CallsRegistrations (P : Platform) (ops : List (ServiceOp Uri Want))
    (op : ServiceOp Uri Want) (os : List Event) : Prop where
  once : op.Announces P ops → ∀ v o, RegisteredBy P v o ops →
    os.count (.onPasteboardChanged v o) = 1
  inForce : ∀ v o, .onPasteboardChanged v o ∈ os → RegisteredBy P v o ops
  quiet : ¬ op.Announces P ops → ∀ v o, .onPasteboardChanged v o ∉ os

/-- **EVERY REGISTRATION IS CALLED ONCE**, in every step of every run. -/
theorem calls_registrations {ops : List (ServiceOp Uri Want)}
    {s s' : PasteboardService Uri Want} {os os' : List Event}
    {op : ServiceOp Uri Want}
    (hrun : (serviceMachine P).run {} ops = some (s, os))
    (hstep : (serviceMachine P).step s op = some (s', os')) :
    CallsRegistrations P ops op os' := by
  have hspec := ServiceOp.exec_spec hstep
  have hcalled : ∀ v o, .onPasteboardChanged v o ∈ os' →
      op.Announces P ops ∧ RegisteredBy P v o ops := by
    intro v o hmem
    have hpos := List.count_pos_iff.mpr hmem
    rw [hspec.count_calls v o] at hpos
    rw [announces_iff hrun, ← mem_registered_iff hrun]
    by_contra hno
    rw [if_neg hno] at hpos
    omega
  constructor
  · intro hann v o hreg
    rw [hspec.count_calls v o, if_pos]
    exact ⟨(announces_iff hrun op).mp hann, (mem_registered_iff hrun v o).mpr hreg⟩
  · intro v o hmem
    exact (hcalled v o hmem).2
  · intro hno v o hmem
    exact hno (hcalled v o hmem).1

/-! ## §4. The calls of an observer. -/

/-- Every observer registered under the user of the operation is called
exactly once where the operation announces a change; no call goes to a
registration that is not in force, and none is made otherwise. -/
structure NotifiesOnce (P : Platform) (ops : List (ServiceOp Uri Want))
    (op : ServiceOp Uri Want) (os : List Event) : Prop where
  once : op.Announces P ops → ∀ o, RegisteredBy P (op.userId P) o ops →
    os.countP (·.callsObserver o) = 1
  inForce : ∀ v o, .onPasteboardChanged v o ∈ os → RegisteredBy P v o ops
  quiet : ¬ op.Announces P ops → ∀ v o, .onPasteboardChanged v o ∉ os

/-- Where a change is announced, no observer of the user is registered under
another user too. -/
def Unshared (P : Platform) (ops : List (ServiceOp Uri Want))
    (op : ServiceOp Uri Want) : Prop :=
  op.Announces P ops → ∀ o, RegisteredBy P (op.userId P) o ops →
    ∀ v, RegisteredBy P v o ops → v = op.userId P

omit [ToString Uri] in
/-- An observer is called once where each of its registrations is, exactly if
it has one. -/
theorem notifiesOnce_step {ops : List (ServiceOp Uri Want)}
    {op : ServiceOp Uri Want} {os : List Event}
    (h : CallsRegistrations P ops op os) :
    NotifiesOnce P ops op os ↔ Unshared P ops op := by
  constructor
  · intro hall hann o hreg v hv
    -- both calls are in a list of one call
    have hone := hall.once hann o hreg
    rw [List.countP_eq_length_filter] at hone
    obtain ⟨e, he⟩ := List.length_eq_one_iff.mp hone
    have hin : ∀ w, RegisteredBy P w o ops →
        Event.onPasteboardChanged w o = e := by
      intro w hw
      have hmem : Event.onPasteboardChanged w o ∈ os := by
        apply List.count_pos_iff.mp
        rw [h.once hann w o hw]
        omega
      have hfilter : Event.onPasteboardChanged w o
          ∈ os.filter (·.callsObserver o) :=
        List.mem_filter.mpr ⟨hmem, beq_self_eq_true o⟩
      rw [he] at hfilter
      exact List.mem_singleton.mp hfilter
    have heq := (hin v hv).trans (hin _ hreg).symm
    injection heq
  · intro hun
    refine ⟨?_, h.inForce, h.quiet⟩
    intro hann o hreg
    -- the calls of `o` are those of its one registration
    rw [← h.once hann _ o hreg]
    unfold List.count
    refine List.countP_congr fun e he => ?_
    cases e with
    | onPasteboardChanged v o' =>
        show (o == o') = true ↔ _
        rw [beq_iff_eq, beq_iff_eq]
        constructor
        · intro ho
          subst ho
          rw [hun hann o hreg v (h.inForce v o he)]
        · intro heq
          injection heq with _ ho
          exact ho.symm
    | pasteboardBehaviour n name => exact iff_of_false nofun nofun
    | timeConsuming n m => exact iff_of_false nofun nofun

/-- **EXACTLY-ONCE NOTIFICATION.**  In a run, every step calls every
registration in force exactly once, or none.  So every step calls the
observers of its user exactly once, if and only if no step announces a change
by a user of whose observers one is registered under another user too. -/
theorem notifiesOnce_iff (P : Platform) (ops : List (ServiceOp Uri Want))
    (s : PasteboardService Uri Want) (os : List Event)
    (hrun : (serviceMachine P).run {} ops = some (s, os)) :
    (∀ pre op post s₁ os₁ s₂ os₂, ops = pre ++ op :: post →
        (serviceMachine P).run {} pre = some (s₁, os₁) →
        (serviceMachine P).step s₁ op = some (s₂, os₂) →
          CallsRegistrations P pre op os₂)
      ∧ ((∀ pre op post s₁ os₁ s₂ os₂, ops = pre ++ op :: post →
            (serviceMachine P).run {} pre = some (s₁, os₁) →
            (serviceMachine P).step s₁ op = some (s₂, os₂) →
              NotifiesOnce P pre op os₂)
          ↔ ∀ pre op post, ops = pre ++ op :: post → Unshared P pre op) := by
  refine ⟨?_, ?_, ?_⟩
  · intro pre op post s₁ os₁ s₂ os₂ _ hpre hstep
    exact calls_registrations hpre hstep
  · intro hall pre op post heq
    subst heq
    obtain ⟨s₁, os₁, _, hpre, _, _⟩ := (serviceMachine P).run_append.mp hrun
    obtain ⟨s₂, os₂, hstep⟩ := (serviceMachine P).step_of_run hrun hpre
    have honce := hall pre op post s₁ os₁ s₂ os₂ rfl hpre hstep
    exact (notifiesOnce_step (calls_registrations hpre hstep)).mp honce
  · intro hall pre op post s₁ os₁ s₂ os₂ heq hpre hstep
    exact (notifiesOnce_step (calls_registrations hpre hstep)).mpr
      (hall pre op post heq)

/-! ## §5. An observer of two users. -/

/-- Users 100 and 101 register the same observer, and user 100 copies. -/
def sharedObserverRun : List (ServiceOp String String) :=
  [.addPasteboardChangedObserver callerOf100 (some 7),
    .addPasteboardChangedObserver callerOf101 (some 7),
    .setPasteData callerOf100 {}]

/-- User 100 alone, registering its observer twice. -/
def ownObserverRun : List (ServiceOp String String) :=
  [.addPasteboardChangedObserver callerOf100 (some 7),
    .addPasteboardChangedObserver callerOf100 (some 7),
    .setPasteData callerOf100 {}]

theorem notifiesOnce_own :
    ∃ s os, (serviceMachine samplePlatform).run {} ownObserverRun = some (s, os)
      ∧ ((∀ pre op post s₁ os₁ s₂ os₂, ownObserverRun = pre ++ op :: post →
            (serviceMachine samplePlatform).run {} pre = some (s₁, os₁) →
            (serviceMachine samplePlatform).step s₁ op = some (s₂, os₂) →
              NotifiesOnce samplePlatform pre op os₂)
          ↔ ∀ pre op post, ownObserverRun = pre ++ op :: post →
              Unshared samplePlatform pre op) := by
  refine ⟨_, _, rfl, ?_⟩
  exact (notifiesOnce_iff samplePlatform ownObserverRun _ _ rfl).2

/-- **The observer of both is called twice** by the copy of user 100. -/
theorem notifiesOnce_shared :
    ¬ ∀ (P : Platform) (ops : List (ServiceOp String String))
        (op : ServiceOp String String) (s s' : PasteboardService String String)
        (os os' : List Event),
      (serviceMachine P).run {} ops = some (s, os) →
        (serviceMachine P).step s op = some (s', os') →
          NotifiesOnce P ops op os' := by
  intro h
  have hresolved : samplePlatform.getUserId callerOf100.uid ≠ ERROR_USERID := by
    decide
  have honce := (h samplePlatform (sharedObserverRun.take 2)
    (.setPasteData callerOf100 {}) _ _ _ _ rfl rfl).once hresolved 7
    ⟨hresolved, [], callerOf100,
      [.addPasteboardChangedObserver callerOf101 (some 7)], rfl, rfl, ?_⟩
  · revert honce
    decide
  · intro op hop _ hrem
    rw [List.mem_singleton.mp hop] at hrem
    exact hrem

end Pasteboard
