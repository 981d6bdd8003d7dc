/-
  Pasteboard.Napi.Posting
  ───────────────────────
  **WHICH CHANGES ARE DUE**, and what one step of the service makes of an
  observer.

    • `notify_eq`, `count_posted`: what the calls of one step leave in the
      queues of the programs.
    • `Due`: what a history of `on`s and requests says of a later change.
    • `count_calls_step`, `mem_registered_step`: an observer that nobody else
      can name, in one step of the service.
-/
import Mathlib.Data.List.Count
import Pasteboard.Napi.Observing

namespace Pasteboard

open Lib

variable {Uri Want Fn App : Type} {E : Ipc Uri Want}

/-! ## §1. The calls of one step. -/

namespace ObservingSystem

variable [DecidableEq App] {s : ObservingSystem Uri Want Fn App}

/-- What the calls of `observers` queue for the program `a`. -/
def posted (s : ObservingSystem Uri Want Fn App)
    (observers : List RemoteObject) (a : App) : List PasteboardDataWorker :=
  observers.filterMap fun o =>
    s.instances[o]?.bind fun x =>
      if x.1 = a then some (SystemPasteboardNapi.worker s.moment x.2) else none

/-- What the call of the one observer `o` queues for it. -/
def workOf (s : ObservingSystem Uri Want Fn App) (a : App)
    (o : RemoteObject) : Option PasteboardDataWorker :=
  s.instances[o]?.bind fun x =>
    if x.1 = a then some (SystemPasteboardNapi.worker s.moment x.2) else none

theorem posted_eq (s : ObservingSystem Uri Want Fn App)
    (observers : List RemoteObject) (a : App) :
    s.posted observers a = observers.filterMap (s.workOf a) := rfl

/-- The state after them. -/
def post (s : ObservingSystem Uri Want Fn App)
    (observers : List RemoteObject) : ObservingSystem Uri Want Fn App :=
  { s with apps := fun a =>
      { s.apps a with queue := (s.apps a).queue ++ s.posted observers a } }

theorem post_nil (s : ObservingSystem Uri Want Fn App) : s.post [] = s := by
  unfold post posted
  simp

theorem post_cons (s : ObservingSystem Uri Want Fn App) (o : RemoteObject)
    (observers : List RemoteObject) :
    s.post (o :: observers) = (s.onPasteboardChanged o).post observers := by
  unfold onPasteboardChanged
  cases hx : s.instances[o]? with
  | none =>
      unfold post posted
      simp [hx]
  | some x =>
      unfold post posted setApp
      congr 1
      funext a
      rw [List.filterMap_cons, hx, Option.bind_some]
      by_cases ha : x.1 = a
      · subst ha
        simp [ObservingApp.queueWork]
      · rw [if_neg ha]
        simp [Function.update_of_ne (Ne.symm ha)]

variable (T : E.Faithful) (L : E.Lossless) (J : JsHost E App)

include T L in
/-- **What the calls of a step leave**: a work for each instance that is
called. -/
theorem notify_eq (x : PasteboardService Uri Want × List Event) :
    s.notify J x = { s with service := x.1 }.post
      (x.2.filterMap SystemPasteboardNapi.change.observerOf) := by
  have hfold : ∀ (observers : List RemoteObject)
      (s : ObservingSystem Uri Want Fn App),
      observers.foldl (call J) s = s.post observers := by
    intro observers
    induction observers with
    | nil =>
        intro s
        exact s.post_nil.symm
    | cons o observers ih =>
        intro s
        rw [List.foldl_cons, ih, post_cons]
        congr 1
        exact PasteboardObserverProxy.onPasteboardChanged_eq T L _ _ s
  exact hfold _ _

/-- No two instances of a program have the same reference. -/
def Distinct (s : ObservingSystem Uri Want Fn App) : Prop :=
  ∀ (o o' : RemoteObject) a (x x' : PasteboardObserverInstance),
    s.instances[o]? = some (a, x) → s.instances[o']? = some (a, x') →
    x.ref = x'.ref → o = o'

/-- The work is that of an instance of the program. -/
theorem workOf_eq_some {a : App} {o : RemoteObject} {w : PasteboardDataWorker}
    (h : s.workOf a o = some w) :
    ∃ x, s.instances[o]? = some (a, x)
      ∧ SystemPasteboardNapi.worker s.moment x = w := by
  obtain ⟨y, hy, hw⟩ := Option.bind_eq_some_iff.mp h
  split at hw
  · next ha =>
      injection hw with hw
      exact ⟨y.2, by rw [hy, ← ha], hw⟩
  · cases hw

/-- The call of `o'` queues the work of the instance `o` if it is `o`. -/
theorem workOf_eq_iff (hs : s.Distinct)
    {a : App} {ref : NapiRef} {o : RemoteObject}
    (ho : s.instances[o]? = some (a, { ref := ref })) (k : Nat)
    (o' : RemoteObject) :
    s.workOf a o' = some ⟨ref, false, k⟩ ↔ k = s.moment ∧ o' = o := by
  constructor
  · intro hyp
    obtain ⟨x, hx, hw⟩ := workOf_eq_some hyp
    injection hw with href _ hk
    -- the reference is that of one instance alone
    exact ⟨hk.symm, hs o' o a x _ hx ho href⟩
  · intro hyp
    obtain ⟨hk, heq⟩ := hyp
    unfold workOf
    rw [heq, ho, hk, Option.bind_some, if_pos rfl]
    rfl

/-- **How often the calls of a step queue a work for an instance.** -/
theorem count_posted (hs : s.Distinct)
    {a : App} {ref : NapiRef} {o : RemoteObject}
    (ho : s.instances[o]? = some (a, { ref := ref })) (k : Nat)
    (observers : List RemoteObject) :
    (s.posted observers a).count ⟨ref, false, k⟩
      = if k = s.moment then observers.count o else 0 := by
  rw [posted_eq]
  unfold List.count
  rw [List.countP_filterMap]
  -- a work is counted where its observer is `o`
  have hcounted : ∀ o' : RemoteObject,
      ((s.workOf a o').map (· == ⟨ref, false, k⟩)).getD false = true
        ↔ k = s.moment ∧ o' = o := by
    intro o'
    rw [← workOf_eq_iff hs ho k o']
    cases s.workOf a o' <;> simp
  split
  · next hk =>
      refine List.countP_congr fun o' _ => ?_
      rw [hcounted o', beq_iff_eq]
      exact and_iff_right hk
  · next hk =>
      refine List.countP_eq_zero.mpr fun o' _ => ?_
      rw [hcounted o']
      exact fun h => hk h.1

/-- What is queued is queued by an instance of the program. -/
theorem mem_posted {observers : List RemoteObject} {a : App}
    {w : PasteboardDataWorker} (h : w ∈ s.posted observers a) :
    ∃ (o : RemoteObject) (x : PasteboardObserverInstance),
      s.instances[o]? = some (a, x)
        ∧ SystemPasteboardNapi.worker s.moment x = w := by
  rw [posted_eq] at h
  obtain ⟨o, _, hw⟩ := List.mem_filterMap.mp h
  exact ⟨o, workOf_eq_some hw⟩

end ObservingSystem

/-! ## §2. What a history says. -/

/-- The operation of the service that an input makes.  `off` makes none: it
finds no instance. -/
def ObservingInput.op (J : JsHost E App) :
    ObservingInput E Fn App → Option (ServiceOp Uri Want)
  | .on a type _ _ observer clock found =>
      if SystemPasteboardNapi.checkType J.napi type && found then
        some (.addPasteboardChangedObserver (JsSystem.caller J a clock)
          (some observer))
      else none
  | .request r => r.op J.toHost
  | _ => none

section History

variable (J : JsHost E App) (is : List (ObservingInput E Fn App))

/-- The `n`-th input turns `callback` on in the program `a`; `found` tells
whether the client finds the service. -/
def OnAt (n : Nat) (a : App) (callback : Fn) (ref : NapiRef)
    (observer : RemoteObject) (found : Bool) : Prop :=
  ∃ type clock, is[n]? = some (.on a type callback ref observer clock found)
    ∧ SystemPasteboardNapi.checkType J.napi type = true

/-- The `k`-th input announces a change. -/
def AnnouncedAt (k : Nat) : Prop :=
  ∃ i op, is[k]? = some i ∧ i.op J = some op
    ∧ op.Announces J.toPlatform ((is.take k).filterMap (·.op J))

/-- No process of the user `u` has removed all observers after the `n`-th
input. -/
def Lasts (n : Nat) (u : Int) : Prop :=
  ∀ i ∈ is.drop (n + 1), ∀ c, i.op J = some (.removeAllChangedObserver c) →
    J.getUserId c.uid ≠ u

/-- What the `n`-th input has turned on for a program of `u` is registered. -/
def Lives (n : Nat) (u : Int) (found : Bool) : Prop :=
  found = true ∧ u ≠ ERROR_USERID ∧ Lasts J is n u

/-- A call is due for the change of the `k`-th input. -/
def Due (n : Nat) (u : Int) (found : Bool) (k : Nat) : Prop :=
  n < k ∧ AnnouncedAt J is k ∧ Lives J (is.take k) n u found

variable {J is} {i : ObservingInput E Fn App} {n k : Nat} {u : Int}
  {found : Bool}

theorem OnAt.lt {a : App} {callback : Fn} {ref : NapiRef}
    {observer : RemoteObject}
    (h : OnAt J is n a callback ref observer found) : n < is.length := by
  obtain ⟨type, clock, hi, _⟩ := h
  exact (List.getElem?_eq_some_iff.mp hi).1

theorem onAt_concat {a : App} {callback : Fn} {ref : NapiRef}
    {observer : RemoteObject} :
    OnAt J (is ++ [i]) n a callback ref observer found
      ↔ OnAt J is n a callback ref observer found
        ∨ n = is.length ∧ ∃ type clock,
          i = .on a type callback ref observer clock found
            ∧ SystemPasteboardNapi.checkType J.napi type = true := by
  unfold OnAt
  rcases Nat.lt_trichotomy n is.length with hlt | heq | hgt
  · rw [List.getElem?_append_left hlt]
    have hne : n ≠ is.length := by omega
    simp only [hne, false_and, or_false]
  · subst heq
    rw [List.getElem?_concat_length, List.getElem?_eq_none (Nat.le_refl _)]
    simp
  · rw [List.getElem?_eq_none (by simp; omega),
      List.getElem?_eq_none (Nat.le_of_lt hgt)]
    have hne : n ≠ is.length := by omega
    simp [hne]

theorem lives_concat (hn : n < is.length) :
    Lives J (is ++ [i]) n u found
      ↔ Lives J is n u found
        ∧ ∀ c, i.op J = some (.removeAllChangedObserver c) →
          J.getUserId c.uid ≠ u := by
  unfold Lives Lasts
  rw [List.drop_append_of_le_length (by omega)]
  simp only [List.mem_append, List.mem_singleton, or_imp, forall_and,
    forall_eq, and_assoc]

theorem lives_length :
    Lives J (is ++ [i]) is.length u found
      ↔ found = true ∧ u ≠ ERROR_USERID := by
  unfold Lives Lasts
  rw [List.drop_of_length_le (by simp)]
  simp

theorem announcedAt_concat_of_lt (hk : k < is.length) :
    AnnouncedAt J (is ++ [i]) k ↔ AnnouncedAt J is k := by
  unfold AnnouncedAt
  rw [List.getElem?_append_left hk, List.take_append_of_le_length hk.le]

theorem announcedAt_length :
    AnnouncedAt J (is ++ [i]) is.length
      ↔ ∃ op, i.op J = some op
        ∧ op.Announces J.toPlatform (is.filterMap (·.op J)) := by
  unfold AnnouncedAt
  rw [List.getElem?_concat_length, List.take_left]
  simp

theorem AnnouncedAt.lt (h : AnnouncedAt J is k) : k < is.length := by
  obtain ⟨i, _, hi, _⟩ := h
  exact (List.getElem?_eq_some_iff.mp hi).1

/-- One input more. -/
theorem due_concat :
    Due J (is ++ [i]) n u found k
      ↔ Due J is n u found k
        ∨ k = is.length ∧ n < is.length ∧ Lives J is n u found
          ∧ ∃ op, i.op J = some op
            ∧ op.Announces J.toPlatform (is.filterMap (·.op J)) := by
  -- a change of before, the one of this input, or none yet
  rcases Nat.lt_trichotomy k is.length with hlt | heq | hgt
  · unfold Due
    rw [announcedAt_concat_of_lt hlt, List.take_append_of_le_length hlt.le]
    have hne : k ≠ is.length := by omega
    simp only [hne, false_and, or_false]
  · subst heq
    unfold Due
    rw [announcedAt_length, List.take_left]
    constructor
    · intro h
      exact Or.inr ⟨rfl, h.1, h.2.2, h.2.1⟩
    · intro h
      rcases h with ⟨_, hann, _⟩ | ⟨_, hn, hlives, hann⟩
      · exact absurd hann.lt (by omega)
      · exact ⟨hn, hann, hlives⟩
  · have hne : k ≠ is.length := by omega
    refine iff_of_false ?_ ?_
    · intro h
      have hlt := h.2.1.lt
      rw [List.length_append, List.length_singleton] at hlt
      omega
    · intro h
      rcases h with h | h
      · exact absurd h.2.1.lt (by omega)
      · exact hne h.1

end History

/-! ## §3. The service in one step. -/

/-- The events that call `o`, as calls. -/
theorem count_observers (es : List Event) (o : RemoteObject) :
    (es.filterMap SystemPasteboardNapi.change.observerOf).count o
      = es.countP (·.callsObserver o) := by
  unfold List.count
  rw [List.countP_filterMap]
  refine List.countP_congr fun e _ => ?_
  cases e with
  | onPasteboardChanged v o' =>
      show (o' == o) = true ↔ (o == o') = true
      rw [beq_iff_eq, beq_iff_eq]
      exact eq_comm
  | pasteboardBehaviour n name => exact Iff.rfl
  | timeConsuming n m => exact Iff.rfl

section Service

variable [ToString Uri] {P : Platform} {s s' : PasteboardService Uri Want}
  {op : Option (ServiceOp Uri Want)} {es : List Event} {o : RemoteObject}
  {u : Int}

/-- **An observer of one user alone** is called where its user's registration
is. -/
theorem ServiceOp.StepSpec.countP_callsObserver {op : ServiceOp Uri Want}
    (h : ServiceOp.StepSpec P op s s' es)
    (hu : ∀ v, o ∈ s.registered v → v = u) :
    es.countP (·.callsObserver o) = es.count (.onPasteboardChanged u o) := by
  unfold List.count
  refine List.countP_congr fun e he => ?_
  cases e with
  | onPasteboardChanged v o' =>
      show (o == o') = true ↔ _
      rw [beq_iff_eq, beq_iff_eq]
      constructor
      · intro ho
        subst ho
        -- a call goes to a registration
        have hpos := List.count_pos_iff.mpr he
        rw [h.count_calls v o] at hpos
        by_cases hreg : op.Notifies P s ∧ o ∈ s.registered v
        · rw [hu v hreg.2]
        · rw [if_neg hreg] at hpos
          omega
      · intro heq
        injection heq with _ ho
        exact ho.symm
  | pasteboardBehaviour n name => exact iff_of_false nofun nofun
  | timeConsuming n m => exact iff_of_false nofun nofun

variable (hstep : (serviceMachine P).stepOption s op = some (s', es))

include hstep

/-- **How often an observer of one user alone is called.** -/
theorem count_calls_step (hu : ∀ v, o ∈ s.registered v → v = u) :
    (es.filterMap SystemPasteboardNapi.change.observerOf).count o
      = if (∃ op', op = some op' ∧ op'.Notifies P s) ∧ o ∈ s.registered u
        then 1 else 0 := by
  rw [count_observers]
  cases op with
  | none =>
      injection hstep with hstep
      injection hstep with _ hes
      rw [← hes, if_neg (by simp)]
      rfl
  | some op =>
      have hspec := ServiceOp.exec_spec hstep
      rw [hspec.countP_callsObserver hu, hspec.count_calls u o]
      simp

/-- **A registration that nobody else can touch** stays until all observers of
its user are removed. -/
theorem mem_registered_step
    (hcarry : ∀ op', op = some op' → op'.observer ≠ some o)
    (herror : o ∉ s.registered ERROR_USERID) (v : Int) :
    o ∈ s'.registered v
      ↔ o ∈ s.registered v
        ∧ ∀ c, op = some (.removeAllChangedObserver c) →
          P.getUserId c.uid ≠ v := by
  cases op with
  | none =>
      injection hstep with hstep
      injection hstep with hs' _
      rw [← hs']
      simp
  | some op =>
      have hcarry := hcarry op rfl
      rw [(ServiceOp.exec_spec hstep).mem_registered v o]
      have hnoadd : ¬ ∃ c, op = .addPasteboardChangedObserver c (some o) := by
        intro hadd
        obtain ⟨c, hop⟩ := hadd
        rw [hop] at hcarry
        exact hcarry rfl
      -- of what removes observers, only `RemoveAllChangedObserver` can reach it
      have hrem : op.Removes o ↔ ∃ c, op = .removeAllChangedObserver c := by
        cases op with
        | removePasteboardChangedObserver c o' =>
            cases o' with
            | none => simp [ServiceOp.Removes]
            | some o' =>
                have hne : o' ≠ o := fun heq => hcarry (congrArg some heq)
                simp [ServiceOp.Removes, hne]
        | _ => simp [ServiceOp.Removes]
      by_cases hv : v ≠ ERROR_USERID ∧ op.userId P = v
      · rw [if_pos hv]
        simp only [hnoadd, false_or, hrem]
        refine and_congr_right fun _ => ?_
        constructor
        · intro hno c hop
          injection hop with hop
          exact absurd ⟨c, hop⟩ hno
        · intro hno hyes
          obtain ⟨c, hop⟩ := hyes
          refine hno c (congrArg some hop) ?_
          rw [← hv.2, hop]
          rfl
      · rw [if_neg hv]
        refine (and_iff_left_of_imp ?_).symm
        -- an operation of another user leaves the registry of `v` alone
        intro hin c hop huser
        injection hop with hop
        refine hv ⟨?_, ?_⟩
        · intro heq
          rw [heq] at hin
          exact herror hin
        · rw [hop]
          exact huser

/-- The registration of an observer that nobody has registered. -/
theorem mem_registered_new {c : Caller} {found : Bool}
    (hop : op = if found then
        some (.addPasteboardChangedObserver c (some o)) else none)
    (hnew : ∀ v, o ∉ s.registered v) (v : Int) :
    o ∈ s'.registered v
      ↔ v = P.getUserId c.uid ∧ found = true ∧ v ≠ ERROR_USERID := by
  cases found with
  | false =>
      subst hop
      injection hstep with hstep
      injection hstep with hs' _
      rw [← hs']
      simp [hnew v]
  | true =>
      subst hop
      have hexec : (ServiceOp.addPasteboardChangedObserver c (some o)).exec P s
          = some (s', es) := hstep
      rw [(ServiceOp.exec_spec hexec).mem_registered v o]
      have huser : (ServiceOp.addPasteboardChangedObserver c (some o) :
          ServiceOp Uri Want).userId P = P.getUserId c.uid := rfl
      rw [huser]
      split
      · next hv =>
          refine iff_of_true (Or.inl ⟨c, rfl⟩) ⟨hv.2.symm, rfl, hv.1⟩
      · next hv =>
          refine iff_of_false (hnew v) ?_
          intro hyes
          exact hv ⟨hyes.2.2, hyes.1.symm⟩

end Service

/-- The client's observer functions over a good transport. -/
theorem overProxy_observer [ToString Uri] (T : E.Faithful) (L : E.Lossless)
    {H : Host E} (hcast : ∀ o, H.ifaceCast o = some o) (c : Caller)
    {op : ClientOp Uri Want} (hop : op.OnObservers)
    (s : PasteboardService Uri Want) :
    op.overProxy H c s
      = (serviceMachine H.toPlatform).stepOption s (op.request c) := by
  have hproxy := overProxy_eq H s (c, op)
  have hsends := sends_op T L hcast c hop
  rw [← hsends]
  refine hproxy.trans ?_
  show (stubMachine H).stepOption s (op.sends E c) = _
  cases op.sends E c with
  | none => rfl
  | some r =>
      refine (Request.exec_request H r s).trans ?_
      show _ = (serviceMachine H.toPlatform).stepOption s (r.op H)
      cases r.op H <;> rfl

end Pasteboard
