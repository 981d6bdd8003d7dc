/-
  Pasteboard.Napi.Delivery
  ────────────────────────
  **EVERY CHANGE REACHES EVERY FUNCTION ONCE** (`changes_delivered`).

  A function that a program has turned on is called, or is about to be, exactly
  once for each change that is announced after it: by whatever program or
  process, of whatever user, until a process of the program's own user removes
  all observers.  Turning it off does not count.

    • `Watched`: what every run keeps of one `on`.
    • `ObservingInv.after`: one step, whatever is done in it.
-/
import Pasteboard.Napi.Posting

namespace Pasteboard

open Lib

variable {Uri Want Fn App : Type} {E : Ipc Uri Want}

/-! ## §1. What every run keeps. -/

/-- A call through the reference `ref` for the change at `k`. -/
def ObservingOutput.callsAt [DecidableEq App] (a : App) (ref : NapiRef)
    (k : Nat) : ObservingOutput Fn App → Bool
  | .called a' ref' _ k' => a' == a && ref' == ref && k' == k
  | .error _ _ => false

section Invariant

variable [DecidableEq App]

/-- The calls through a reference for one change, made or queued. -/
def ObservingSystem.calls (s : ObservingSystem Uri Want Fn App)
    (os : List (ObservingOutput Fn App)) (a : App) (ref : NapiRef) (k : Nat) :
    Nat :=
  os.countP (·.callsAt a ref k) + (s.apps a).queue.count ⟨ref, false, k⟩

variable (J : JsHost E App) (is : List (ObservingInput E Fn App))
  (s : ObservingSystem Uri Want Fn App) (os : List (ObservingOutput Fn App))

/-- The `n`-th input has turned `callback` on: its instance is there and
refers to it, it is registered for the program's user alone, and each change
is called for once. -/
structure Watched (n : Nat) (a : App) (callback : Fn) (ref : NapiRef)
    (observer : RemoteObject) (found : Bool) : Prop where
  made : s.instances[observer]? = some (a, { ref := ref })
  callback : (s.apps a).refs[ref]? = some callback
  registered : ∀ v, observer ∈ s.service.registered v
    ↔ v = J.getUserId (J.uid a) ∧ Lives J is n v found
  once : ∀ k, Due J is n (J.getUserId (J.uid a)) found k →
    s.calls os a ref k = 1
  quiet : ∀ k, ¬ Due J is n (J.getUserId (J.uid a)) found k →
    s.calls os a ref k = 0

/-- No instance is ever turned off, no reference is ever deleted, and whatever
is queued or called goes back to an `on`. -/
structure ObservingInv [ToString Uri] : Prop where
  moment : s.moment = is.length
  service : ∃ es, (serviceMachine J.toPlatform).run {}
    (is.filterMap (·.op J)) = some (s.service, es)
  keys : ∀ a, ∀ ref ∈ (s.apps a).observers, ref ∈ (s.apps a).refs
  origin : ∀ (o : RemoteObject) a x, s.instances[o]? = some (a, x) →
    x.isOff = false ∧ ∃ n callback found, OnAt J is n a callback x.ref o found
  distinct : s.Distinct
  waiting : ∀ a, ∀ w ∈ (s.apps a).queue,
    w.isOff = false ∧ ∃ n callback o found, OnAt J is n a callback w.ref o found
  called : ∀ a ref callback k, .called a ref callback k ∈ os →
    ∃ n o found, OnAt J is n a callback ref o found
  watched : ∀ n a callback ref o found,
    OnAt J is n a callback ref o found →
      Watched J is s os n a callback ref o found

/-! ## §2. One step. -/

namespace ObservingSystem

/-- The state after the service has made the step `x` and its calls. -/
def after (s : ObservingSystem Uri Want Fn App)
    (x : PasteboardService Uri Want × List Event) :
    ObservingSystem Uri Want Fn App :=
  { { s with service := x.1 }.post
      (x.2.filterMap SystemPasteboardNapi.change.observerOf) with
    moment := s.moment + 1 }

variable {s s₁ : ObservingSystem Uri Want Fn App}
  {os os₁ : List (ObservingOutput Fn App)}
  {x : PasteboardService Uri Want × List Event}

/-- **What the calls of a step add** to those of an instance. -/
theorem calls_after (hs : s.Distinct) {a : App} {ref : NapiRef}
    {o : RemoteObject} (ho : s.instances[o]? = some (a, { ref := ref }))
    (k : Nat) :
    (s.after x).calls os a ref k
      = s.calls os a ref k
        + if k = s.moment then
            (x.2.filterMap SystemPasteboardNapi.change.observerOf).count o
          else 0 := by
  have hcount := count_posted hs ho k
    (x.2.filterMap SystemPasteboardNapi.change.observerOf)
  unfold calls
  rw [← hcount, Nat.add_assoc, ← List.count_append]
  rfl

/-- What is done before the service makes its step: nothing is lost, and no
call is made or forgotten. -/
structure Unmoved (s s₁ : ObservingSystem Uri Want Fn App)
    (os os₁ : List (ObservingOutput Fn App)) : Prop where
  service : s₁.service = s.service
  moment : s₁.moment = s.moment
  instances : ∀ (o : RemoteObject) y, s.instances[o]? = some y →
    s₁.instances[o]? = some y
  refs : ∀ a (ref : NapiRef) callback,
    (s.apps a).refs[ref]? = some callback →
      (s₁.apps a).refs[ref]? = some callback
  calls : ∀ a ref k, ref ∈ (s.apps a).refs →
    s₁.calls os₁ a ref k = s.calls os a ref k

theorem Unmoved.refl (s : ObservingSystem Uri Want Fn App)
    (os : List (ObservingOutput Fn App)) : s.Unmoved s os os :=
  ⟨rfl, rfl, fun _ _ h => h, fun _ _ _ h => h, fun _ _ _ _ => rfl⟩

end ObservingSystem

section Steps

variable [ToString Uri] {J : JsHost E App}
  {is : List (ObservingInput E Fn App)} {i : ObservingInput E Fn App}
  {s s₁ : ObservingSystem Uri Want Fn App}
  {os os₁ : List (ObservingOutput Fn App)}
  {x : PasteboardService Uri Want × List Event}

omit [ToString Uri] in
theorem Watched.ref_mem {n : Nat} {a : App} {callback : Fn} {ref : NapiRef}
    {o : RemoteObject} {found : Bool}
    (h : Watched J is s os n a callback ref o found) :
    ref ∈ (s.apps a).refs := by
  rw [Std.TreeMap.mem_iff_isSome_getElem?, h.callback]
  rfl

/-- **A step keeps what is turned on**: it calls the function if it announces a
change, and takes the registration away if it removes all observers. -/
theorem ObservingInv.watched_after (h : ObservingInv J is s os)
    (hmove : s.Unmoved s₁ os os₁) (hs₁ : s₁.Distinct)
    (hstep : (serviceMachine J.toPlatform).stepOption s.service (i.op J)
      = some x)
    {n : Nat} {a : App} {callback : Fn} {ref : NapiRef} {o : RemoteObject}
    {found : Bool} (hon : OnAt J is n a callback ref o found)
    (hcarry : ∀ op, i.op J = some op → op.observer ≠ some o) :
    Watched J (is ++ [i]) (s₁.after x) os₁ n a callback ref o found := by
  have hw := h.watched n a callback ref o found hon
  obtain ⟨es, hrun⟩ := h.service
  have hlt := hon.lt
  have hmade := hmove.instances _ _ hw.made
  -- the calls of this step are due where the function is registered
  have hregistered : ∀ v, o ∈ s.service.registered v →
      v = J.getUserId (J.uid a) := fun v hv => ((hw.registered v).mp hv).1
  have hcalls : ∀ k, (s₁.after x).calls os₁ a ref k
      = s.calls os a ref k
        + if k = is.length then
            if (∃ op, i.op J = some op ∧ op.Notifies J.toPlatform s.service)
              ∧ o ∈ s.service.registered (J.getUserId (J.uid a))
            then 1 else 0
          else 0 := by
    intro k
    rw [ObservingSystem.calls_after hs₁ hmade, hmove.calls a ref k hw.ref_mem,
      hmove.moment, h.moment, count_calls_step hstep hregistered]
  have hdue : ∀ k, Due J (is ++ [i]) n (J.getUserId (J.uid a)) found k
      ↔ Due J is n (J.getUserId (J.uid a)) found k
        ∨ k = is.length
          ∧ (∃ op, i.op J = some op ∧ op.Notifies J.toPlatform s.service)
          ∧ o ∈ s.service.registered (J.getUserId (J.uid a)) := by
    intro k
    rw [due_concat, hw.registered]
    simp only [hlt, true_and, announces_iff hrun]
    refine or_congr Iff.rfl (and_congr_right fun _ => and_comm)
  constructor
  · exact hmade
  · exact hmove.refs _ _ _ hw.callback
  · intro v
    have hnoerror : o ∉ s.service.registered ERROR_USERID := by
      intro hin
      exact ((hw.registered _).mp hin).2.2.1 rfl
    show o ∈ x.1.registered v ↔ _
    rw [mem_registered_step hstep hcarry hnoerror v, hw.registered v,
      lives_concat hlt, and_assoc]
  · intro k hk
    rw [hcalls k]
    rcases (hdue k).mp hk with hold | ⟨heq, hyes⟩
    · have hne : k ≠ is.length := by
        have := hold.2.1.lt
        omega
      rw [hw.once k hold, if_neg hne]
    · have hold : ¬ Due J is n (J.getUserId (J.uid a)) found k := by
        intro hold
        have := hold.2.1.lt
        omega
      rw [hw.quiet k hold, if_pos heq, if_pos hyes]
  · intro k hk
    have hnot := fun hyes => hk ((hdue k).mpr hyes)
    rw [hcalls k, hw.quiet k fun hold => hnot (Or.inl hold)]
    split
    · next heq => rw [if_neg fun hyes => hnot (Or.inr ⟨heq, hyes⟩)]
    · rfl

omit [ToString Uri] [DecidableEq App] in
theorem OnAt.concat {n : Nat} {a : App} {callback : Fn} {ref : NapiRef}
    {o : RemoteObject} {found : Bool}
    (h : OnAt J is n a callback ref o found) :
    OnAt J (is ++ [i]) n a callback ref o found :=
  onAt_concat.mpr (Or.inl h)

/-- **One step**, but for what its own `on` turns on. -/
theorem ObservingInv.after (h : ObservingInv J is s os)
    (hmove : s.Unmoved s₁ os os₁) (hs₁ : s₁.Distinct)
    (hstep : (serviceMachine J.toPlatform).stepOption s.service (i.op J)
      = some x)
    (hcarry : ∀ op, i.op J = some op →
      ∀ o, o ∈ s.instances → op.observer ≠ some o)
    (hkeys : ∀ a, ∀ ref ∈ (s₁.apps a).observers, ref ∈ (s₁.apps a).refs)
    (horigin : ∀ (o : RemoteObject) a x, s₁.instances[o]? = some (a, x) →
      x.isOff = false
        ∧ ∃ n callback found, OnAt J (is ++ [i]) n a callback x.ref o found)
    (hwaiting : ∀ a, ∀ w ∈ (s₁.apps a).queue, w ∈ (s.apps a).queue)
    (hcalled : ∀ a ref callback k, .called a ref callback k ∈ os₁ →
      ∃ n o found, OnAt J is n a callback ref o found)
    (hnew : ∀ a callback ref o found,
      (∃ type clock, i = .on a type callback ref o clock found
        ∧ SystemPasteboardNapi.checkType J.napi type = true) →
      Watched J (is ++ [i]) (s₁.after x) os₁ is.length a callback ref o
        found) :
    ObservingInv J (is ++ [i]) (s₁.after x) os₁ where
  moment := by
    show s₁.moment + 1 = _
    rw [hmove.moment, h.moment, List.length_append, List.length_singleton]
  service := by
    obtain ⟨es, hrun⟩ := h.service
    rw [List.filterMap_append]
    show ∃ es, (serviceMachine J.toPlatform).run {} _ = some (x.1, es)
    cases hop : i.op J with
    | none =>
        rw [hop] at hstep
        injection hstep with hstep
        refine ⟨es, ?_⟩
        rw [← hstep]
        simp only [List.filterMap_cons, hop, List.filterMap_nil,
          List.append_nil]
        exact hrun
    | some op =>
        rw [hop] at hstep
        refine ⟨es ++ x.2, ?_⟩
        simp only [List.filterMap_cons, hop, List.filterMap_nil]
        exact Machine.run_concat _ hrun hstep
  keys := hkeys
  origin := horigin
  distinct := hs₁
  waiting a w hw := by
    -- it has been queued before, or by a call of this step
    rcases List.mem_append.mp hw with hw | hw
    · obtain ⟨hoff, n, callback, o, found, hon⟩ :=
        h.waiting a w (hwaiting a w hw)
      exact ⟨hoff, n, callback, o, found, hon.concat⟩
    · obtain ⟨o, y, hy, hw⟩ := ObservingSystem.mem_posted hw
      obtain ⟨hoff, n, callback, found, hon⟩ := horigin o a y hy
      rw [← hw]
      exact ⟨hoff, n, callback, o, found, hon⟩
  called a ref callback k hmem := by
    obtain ⟨n, o, found, hon⟩ := hcalled a ref callback k hmem
    exact ⟨n, o, found, hon.concat⟩
  watched n a callback ref o found hon := by
    -- it was turned on before, or by this input
    rcases onAt_concat.mp hon with hold | ⟨hn, hi⟩
    · refine h.watched_after hmove hs₁ hstep hold ?_
      intro op hop
      refine hcarry op hop o ?_
      rw [Std.TreeMap.mem_iff_isSome_getElem?,
        (h.watched n a callback ref o found hold).made]
      rfl
    · rw [hn]
      exact hnew a callback ref o found hi

/-- One step that turns nothing on. -/
theorem ObservingInv.quiet (h : ObservingInv J is s os)
    (hmove : s.Unmoved s₁ os os₁) (hinstances : s₁.instances = s.instances)
    (hstep : (serviceMachine J.toPlatform).stepOption s.service (i.op J)
      = some x)
    (hcarry : ∀ op, i.op J = some op →
      ∀ o, o ∈ s.instances → op.observer ≠ some o)
    (hkeys : ∀ a, ∀ ref ∈ (s₁.apps a).observers, ref ∈ (s₁.apps a).refs)
    (hwaiting : ∀ a, ∀ w ∈ (s₁.apps a).queue, w ∈ (s.apps a).queue)
    (hcalled : ∀ a ref callback k, .called a ref callback k ∈ os₁ →
      ∃ n o found, OnAt J is n a callback ref o found)
    (hon : ∀ a type callback ref o clock found,
      i = .on a type callback ref o clock found →
        SystemPasteboardNapi.checkType J.napi type ≠ true) :
    ObservingInv J (is ++ [i]) (s₁.after x) os₁ := by
  refine h.after hmove ?_ hstep hcarry hkeys ?_ hwaiting hcalled ?_
  · unfold ObservingSystem.Distinct
    rw [hinstances]
    exact h.distinct
  · intro o a y hy
    rw [hinstances] at hy
    obtain ⟨hoff, n, callback, found, horigin⟩ := h.origin o a y hy
    exact ⟨hoff, n, callback, found, horigin.concat⟩
  · intro a callback ref o found hi
    obtain ⟨type, clock, hi, htype⟩ := hi
    exact absurd htype (hon a type callback ref o clock found hi)

omit [ToString Uri] in
/-- References are made, and instances, and nothing is called. -/
theorem ObservingSystem.Unmoved.of_queue {os' : List (ObservingOutput Fn App)}
    (hservice : s₁.service = s.service) (hmoment : s₁.moment = s.moment)
    (hinstances : ∀ (o : RemoteObject) y, s.instances[o]? = some y →
      s₁.instances[o]? = some y)
    (hrefs : ∀ a (ref : NapiRef) callback,
      (s.apps a).refs[ref]? = some callback →
        (s₁.apps a).refs[ref]? = some callback)
    (hqueue : ∀ a, (s₁.apps a).queue = (s.apps a).queue)
    (hquiet : ∀ e ∈ os', ∀ (a : App) ref k, e.callsAt a ref k = false) :
    s.Unmoved s₁ os (os ++ os') := by
  refine ⟨hservice, hmoment, hinstances, hrefs, ?_⟩
  intro a ref k _
  have hnone : os'.countP (·.callsAt a ref k) = 0 := by
    refine List.countP_eq_zero.mpr fun e he => ?_
    rw [hquiet e he a ref k]
    decide
  unfold ObservingSystem.calls
  rw [List.countP_append, hnone, Nat.add_zero, hqueue a]

omit [ToString Uri] in
/-- Nothing happens at the service. -/
theorem ObservingSystem.after_service (s : ObservingSystem Uri Want Fn App) :
    s.after (s.service, []) = { s with moment := s.moment + 1 } := by
  unfold ObservingSystem.after
  rw [List.filterMap_nil, ObservingSystem.post_nil]

/-- **One step without the service.** -/
theorem ObservingInv.silent (h : ObservingInv J is s os)
    {os' : List (ObservingOutput Fn App)} (hmove : s.Unmoved s₁ os (os ++ os'))
    (hinstances : s₁.instances = s.instances) (hop : i.op J = none)
    (hkeys : ∀ a, ∀ ref ∈ (s₁.apps a).observers, ref ∈ (s₁.apps a).refs)
    (hwaiting : ∀ a, ∀ w ∈ (s₁.apps a).queue, w ∈ (s.apps a).queue)
    (hcalled : ∀ a ref callback k, .called a ref callback k ∈ os' →
      ∃ n o found, OnAt J is n a callback ref o found)
    (hon : ∀ a type callback ref o clock found,
      i = .on a type callback ref o clock found →
        SystemPasteboardNapi.checkType J.napi type ≠ true) :
    ObservingInv J (is ++ [i]) { s₁ with moment := s.moment + 1 }
      (os ++ os') := by
  have hstep : (serviceMachine J.toPlatform).stepOption s.service (i.op J)
      = some (s.service, []) := by
    rw [hop]
    rfl
  have hafter := h.quiet hmove hinstances hstep ?_ hkeys hwaiting ?_ hon
  · rw [← hmove.service, ObservingSystem.after_service, hmove.moment] at hafter
    exact hafter
  · intro op hop'
    rw [hop] at hop'
    cases hop'
  · intro a ref callback k hmem
    rcases List.mem_append.mp hmem with hmem | hmem
    · exact h.called a ref callback k hmem
    · exact hcalled a ref callback k hmem

/-- The wrong type is reported, and nothing else is done. -/
theorem ObservingInv.error (h : ObservingInv J is s os) (a : App)
    (message : String) (hop : i.op J = none)
    (hon : ∀ a type callback ref o clock found,
      i = .on a type callback ref o clock found →
        SystemPasteboardNapi.checkType J.napi type ≠ true) :
    ObservingInv J (is ++ [i]) { s with moment := s.moment + 1 }
      (os ++ [.error a message]) := by
  refine h.silent (.of_queue rfl rfl (fun _ _ h => h) (fun _ _ _ h => h)
    (fun _ => rfl) ?_) rfl hop h.keys (fun _ _ hw => hw) ?_ hon
  · intro e he b ref k
    rw [List.mem_singleton.mp he]
    rfl
  · intro b ref callback k hmem
    cases List.mem_singleton.mp hmem

omit [ToString Uri] in
/-- **What holds of each program** holds when one of them has changed. -/
theorem ObservingSystem.forall_setApp (P : App → ObservingApp Fn → Prop)
    {a : App} {app : ObservingApp Fn} (hrest : ∀ a', P a' (s.apps a'))
    (happ : P a app) (a' : App) : P a' ((s.setApp a app).apps a') := by
  show P a' (Function.update s.apps a app a')
  rw [Function.update_apply]
  split
  · next ha =>
      rw [ha]
      exact happ
  · exact hrest a'

omit [ToString Uri] in
/-- A new reference of one program. -/
theorem ObservingSystem.refs_setApp {a : App} {callback : Fn} {ref : NapiRef}
    {refs : References Fn} {app : ObservingApp Fn}
    (hcreate : (s.apps a).refs.create ref callback = some refs)
    (happ : app.refs = refs) :
    ∀ a' (ref' : NapiRef) f, (s.apps a').refs[ref']? = some f →
      ((s.setApp a app).apps a').refs[ref']? = some f := by
  obtain ⟨hfresh, hrefs⟩ := References.create_eq_some_iff.mp hcreate
  refine ObservingSystem.forall_setApp
    (fun a' app => ∀ (ref' : NapiRef) f, (s.apps a').refs[ref']? = some f →
      app.refs[ref']? = some f) (fun _ _ _ hf => hf) ?_
  intro ref' f hf
  have hlive : ref' ∈ (s.apps a).refs := by
    rw [Std.TreeMap.mem_iff_isSome_getElem?, hf]
    rfl
  rw [happ, ← hrefs, References.getElem?_insert_of_live hfresh hlive, hf]

omit [ToString Uri] in
/-- A new reference leaves the queues as they are. -/
theorem ObservingSystem.queue_setApp {a : App} {app : ObservingApp Fn}
    (happ : app.queue = (s.apps a).queue) :
    ∀ a', ((s.setApp a app).apps a').queue = (s.apps a').queue :=
  ObservingSystem.forall_setApp (fun a' app => app.queue = (s.apps a').queue)
    (fun _ => rfl) happ

omit [ToString Uri] in
/-- Calls are made, and none is queued. -/
theorem ObservingSystem.waiting_setApp {a : App} {app : ObservingApp Fn}
    (happ : ∀ w ∈ app.queue, w ∈ (s.apps a).queue) :
    ∀ a', ∀ w ∈ ((s.setApp a app).apps a').queue, w ∈ (s.apps a').queue :=
  ObservingSystem.forall_setApp
    (fun a' app => ∀ w ∈ app.queue, w ∈ (s.apps a').queue)
    (fun _ _ hw => hw) happ

/-- What is entered in `observers_` stays live. -/
theorem ObservingInv.keys_setApp (h : ObservingInv J is s os) {a : App}
    {app : ObservingApp Fn} (happ : ∀ ref ∈ app.observers, ref ∈ app.refs) :
    ∀ a', ∀ ref ∈ ((s.setApp a app).apps a').observers,
      ref ∈ ((s.setApp a app).apps a').refs :=
  ObservingSystem.forall_setApp
    (fun _ app => ∀ ref ∈ app.observers, ref ∈ app.refs) h.keys happ

omit [ToString Uri] [DecidableEq App] in
/-- A remote object that is in use nowhere. -/
theorem ObservingSystem.of_not_known {o : RemoteObject}
    (h : s.known o = false) :
    s.instances[o]? = none ∧ ∀ v, o ∉ s.service.registered v := by
  unfold ObservingSystem.known at h
  obtain ⟨hinst, hany⟩ := Bool.or_eq_false_iff.mp h
  constructor
  · refine Std.TreeMap.getElem?_eq_none fun hmem => ?_
    rw [Std.TreeMap.mem_iff_contains, hinst] at hmem
    cases hmem
  · intro v hv
    obtain ⟨r, hr, ho⟩ := PasteboardService.mem_registered.mp hv
    have hmem : (v, r) ∈ s.service.observerMap.toList :=
      Std.TreeMap.mem_toList_iff_getElem?_eq_some.mpr hr
    have hfalse := List.any_eq_false.mp hany (v, r) hmem
    rw [← Std.TreeSet.mem_iff_contains] at hfalse
    exact hfalse ho

/-- **`off` does nothing** but make a reference. -/
theorem ObservingInv.off (h : ObservingInv J is s os) {a : App} {type : String}
    {callback : Option (Fn × NapiRef)} {clock : Clock} {found : Bool}
    {y : ObservingSystem Uri Want Fn App × List (ObservingOutput Fn App)}
    (hstep : s.off J a type callback clock found = some y) :
    ObservingInv J (is ++ [.off a type callback clock found])
      { y.1 with moment := s.moment + 1 } (os ++ y.2) := by
  have hnoon : ∀ a' type' callback' ref o clock' found',
      (.off a type callback clock found : ObservingInput E Fn App)
          = .on a' type' callback' ref o clock' found' →
        SystemPasteboardNapi.checkType J.napi type' ≠ true := by
    intro a' type' callback' ref o clock' found' hi
    cases hi
  unfold ObservingSystem.off at hstep
  split at hstep
  · injection hstep with hstep
    rw [← hstep]
    exact h.error a "error type" rfl hnoon
  · cases callback with
    | none =>
        injection hstep with hstep
        rw [← hstep]
        exact h.silent (.of_queue rfl rfl (fun _ _ h => h) (fun _ _ _ h => h)
          (fun _ => rfl) nofun) rfl rfl h.keys (fun _ _ hw => hw) nofun hnoon
    | some pair =>
        obtain ⟨callback, ref⟩ := pair
        obtain ⟨refs, hcreate, hstep⟩ := Option.bind_eq_some_iff.mp hstep
        obtain ⟨hfresh, hrefs⟩ := References.create_eq_some_iff.mp hcreate
        -- no instance is entered under a reference that was not live
        have hnone : (s.apps a).observers[ref]? = none :=
          Std.TreeMap.getElem?_eq_none fun hmem => hfresh (h.keys a ref hmem)
        simp only [hnone] at hstep
        injection hstep with hstep
        rw [← hstep]
        refine h.silent (.of_queue rfl rfl (fun _ _ h => h)
          (ObservingSystem.refs_setApp hcreate rfl)
          (ObservingSystem.queue_setApp rfl) nofun) rfl rfl ?_ ?_ nofun hnoon
        · refine h.keys_setApp ?_
          intro ref' href'
          rw [← hrefs]
          exact Std.TreeMap.mem_insert.mpr (Or.inr (h.keys a ref' href'))
        · exact ObservingSystem.waiting_setApp fun _ hw => hw

section Transport

variable (T : E.Faithful) (L : E.Lossless)

include T L

omit [ToString Uri] in
/-- The state after the calls of the service. -/
theorem ObservingSystem.notify_after (J : JsHost E App)
    (s : ObservingSystem Uri Want Fn App)
    (x : PasteboardService Uri Want × List Event) :
    { s.notify J x with moment := s.moment + 1 } = s.after x := by
  rw [ObservingSystem.notify_eq T L J x]
  rfl

/-- **A request**, of whatever process. -/
theorem ObservingInv.request (h : ObservingInv J is s os) {r : Request E}
    {y : ObservingSystem Uri Want Fn App × List (ObservingOutput Fn App)}
    (hstep : s.answer J r = some y) :
    ObservingInv J (is ++ [.request r]) { y.1 with moment := s.moment + 1 }
      (os ++ y.2) := by
  unfold ObservingSystem.answer at hstep
  split at hstep
  · cases hstep
  · next hforged =>
      obtain ⟨answer, hanswer, hstep⟩ := Option.map_eq_some_iff.mp hstep
      rw [← hstep, List.append_nil,
        ObservingSystem.notify_after T L J s answer.step]
      have hexec := Request.exec_request J.toHost r s.service
      refine h.quiet (.refl s os) rfl ?_ ?_ h.keys (fun _ _ hw => hw) h.called
        (fun _ _ _ _ _ _ _ hi => ?_)
      · show (serviceMachine J.toPlatform).stepOption s.service (r.op J.toHost)
          = _
        have hone : (stubMachine J.toHost).step s.service r
            = some answer.step := by
          show (PasteboardServiceStub.onRemoteRequest J.toHost r s.service).map
            _ = _
          rw [hanswer]
          rfl
        rw [hexec] at hone
        rw [← hone]
        cases r.op J.toHost <;> rfl
      · -- the request carries no remote object of a program
        intro op hop o ho hobs
        refine hforged ?_
        unfold ObservingSystem.forged
        rw [show r.op J.toHost = some op from hop, Option.bind_some, hobs]
        exact Std.TreeMap.mem_iff_contains.mp ho
      · cases hi

end Transport

omit [ToString Uri] [DecidableEq App] in
/-- A work that waits is the call of a live function. -/
theorem ObservingApp.work_eq {app : ObservingApp Fn} {a : App} {index : Nat}
    {w : PasteboardDataWorker} (hw : app.queue[index]? = some w)
    (hoff : w.isOff = false) {callback : Fn}
    (hcallback : app.refs[w.ref]? = some callback) :
    app.work a index
      = some ({ app with queue := app.queue.eraseIdx index },
        [.called a w.ref callback w.change]) := by
  unfold ObservingApp.work
  rw [hw, Option.bind_some, hoff]
  show app.refs[w.ref]?.map _ = _
  rw [hcallback]
  rfl

/-- **A queued call can be made.** -/
theorem ObservingInv.work_eq (h : ObservingInv J is s os) {a : App}
    {index : Nat} {w : PasteboardDataWorker}
    (hw : (s.apps a).queue[index]? = some w) :
    ∃ callback, (s.apps a).refs[w.ref]? = some callback
      ∧ s.work a index
        = some (s.setApp a { s.apps a with
            queue := (s.apps a).queue.eraseIdx index },
          [.called a w.ref callback w.change]) := by
  obtain ⟨hoff, n, callback, o, found, hon⟩ :=
    h.waiting a w (List.mem_of_getElem? hw)
  have hcallback := (h.watched n a callback w.ref o found hon).callback
  refine ⟨callback, hcallback, ?_⟩
  unfold ObservingSystem.work
  rw [ObservingApp.work_eq hw hoff hcallback]
  rfl

omit [ToString Uri] in
/-- The queued call that is made is still counted. -/
theorem ObservingSystem.calls_work {a : App} {index : Nat}
    {w : PasteboardDataWorker} (hw : (s.apps a).queue[index]? = some w)
    (hoff : w.isOff = false) (callback : Fn) (a' : App) (ref : NapiRef)
    (k : Nat) :
    (s.setApp a { s.apps a with
        queue := (s.apps a).queue.eraseIdx index }).calls
          (os ++ [.called a w.ref callback w.change]) a' ref k
      = s.calls os a' ref k := by
  unfold ObservingSystem.calls
  rw [List.countP_append, List.countP_singleton]
  show _ + (Function.update s.apps a _ a').queue.count _ = _
  rw [Function.update_apply]
  -- the work leaves the queue of its program and becomes a call
  by_cases ha : a' = a
  · subst ha
    rw [if_pos rfl]
    obtain ⟨hlt, hget⟩ := List.getElem?_eq_some_iff.mp hw
    have hperm := List.getElem_cons_eraseIdx_perm hlt
    rw [hget] at hperm
    rw [← hperm.count_eq, List.count_cons]
    have hsame : (ObservingOutput.called a' w.ref callback w.change).callsAt a'
        ref k = (w == ⟨ref, false, k⟩) := by
      obtain ⟨ref', isOff, k'⟩ := w
      cases hoff
      rw [Bool.eq_iff_iff]
      simp [ObservingOutput.callsAt]
    rw [hsame]
    dsimp only
    omega
  · have hother : (ObservingOutput.called a w.ref callback w.change).callsAt a'
        ref k = false := by
      simp [ObservingOutput.callsAt, Ne.symm ha]
    rw [if_neg ha, hother, if_neg (by decide), Nat.add_zero]

/-- **A queued call is made.** -/
theorem ObservingInv.work (h : ObservingInv J is s os) {a : App} {index : Nat}
    {y : ObservingSystem Uri Want Fn App × List (ObservingOutput Fn App)}
    (hstep : s.work a index = some y) :
    ObservingInv J (is ++ [.work a index]) { y.1 with moment := s.moment + 1 }
      (os ++ y.2) := by
  obtain ⟨x, hx, _⟩ := Option.map_eq_some_iff.mp hstep
  obtain ⟨w, hw, _⟩ := Option.bind_eq_some_iff.mp hx
  obtain ⟨hoff, n, callback, o, found, hon⟩ :=
    h.waiting a w (List.mem_of_getElem? hw)
  obtain ⟨callback', hcallback', heq⟩ := h.work_eq hw
  have hlive := (h.watched n a callback w.ref o found hon).callback
  rw [hcallback'] at hlive
  injection hlive with hlive
  subst hlive
  rw [hstep] at heq
  injection heq with heq
  rw [heq]
  -- neither the references nor the instances change
  refine h.silent ⟨rfl, rfl, fun _ _ h => h, ?_, ?_⟩ rfl rfl ?_ ?_ ?_ ?_
  · exact ObservingSystem.forall_setApp
      (fun a' app => ∀ (ref : NapiRef) f, (s.apps a').refs[ref]? = some f →
        app.refs[ref]? = some f) (fun _ _ _ hf => hf) fun _ _ hf => hf
  · intro a' ref k _
    exact ObservingSystem.calls_work hw hoff callback' a' ref k
  · exact h.keys_setApp (h.keys a)
  · exact ObservingSystem.waiting_setApp
      fun _ hw' => List.mem_of_mem_eraseIdx hw'
  · intro a' ref f k hmem
    have heq := List.mem_singleton.mp hmem
    injection heq with ha href hf hk
    subst ha href hf
    exact ⟨n, o, found, hon⟩
  · intro a' type callback ref o clock found hi
    cases hi

/-- The state in which `on` registers its new instance. -/
def ObservingSystem.turnOn (a : App) (refs : References Fn) (ref : NapiRef)
    (o : RemoteObject) (s : ObservingSystem Uri Want Fn App) :
    ObservingSystem Uri Want Fn App :=
  { s.setApp a { s.apps a with
      refs := refs, observers := (s.apps a).observers.insert ref o } with
    instances := s.instances.insert o (a, { ref := ref }) }

section TurnOn

variable {a : App} {callback : Fn} {ref : NapiRef} {refs : References Fn}
  {o : RemoteObject}

omit [ToString Uri] in
theorem ObservingSystem.instances_turnOn (o' : RemoteObject) :
    (s.turnOn a refs ref o).instances[o']?
      = if o = o' then some (a, { ref := ref }) else s.instances[o']? :=
  OrderedMap.getElem?_insert_eq s.instances o o' _

omit [ToString Uri] in
theorem ObservingSystem.queue_turnOn (b : App) :
    ((s.turnOn a refs ref o).apps b).queue = (s.apps b).queue := by
  have happ : ({ s.apps a with
      refs := refs
      observers := (s.apps a).observers.insert ref o } :
        ObservingApp Fn).queue = (s.apps a).queue := rfl
  exact ObservingSystem.queue_setApp happ b

omit [ToString Uri] in
theorem ObservingSystem.unmoved_turnOn (hunmade : s.instances[o]? = none)
    (hcreate : (s.apps a).refs.create ref callback = some refs) :
    s.Unmoved (s.turnOn a refs ref o) os os := by
  have hmove : s.Unmoved (s.turnOn a refs ref o) os (os ++ []) := by
    refine .of_queue rfl rfl ?_ (ObservingSystem.refs_setApp hcreate rfl)
      ObservingSystem.queue_turnOn nofun
    intro o' y hy
    have hne : o ≠ o' := by
      intro heq
      rw [← heq, hunmade] at hy
      cases hy
    rw [ObservingSystem.instances_turnOn, if_neg hne, hy]
  rw [List.append_nil] at hmove
  exact hmove

/-- The new instance has a reference of its own. -/
theorem ObservingInv.distinct_turnOn (h : ObservingInv J is s os)
    (hfresh : ref ∉ (s.apps a).refs) : (s.turnOn a refs ref o).Distinct := by
  -- the reference of an instance that was there is live
  have hlive : ∀ (o' : RemoteObject) y, s.instances[o']? = some (a, y) →
      y.ref ≠ ref := by
    intro o' y hy heq
    obtain ⟨_, n, callback, found, hon⟩ := h.origin o' a y hy
    refine hfresh ?_
    rw [← heq]
    exact (h.watched n a callback y.ref o' found hon).ref_mem
  intro o₁ o₂ b x₁ x₂ h₁ h₂ href
  rw [ObservingSystem.instances_turnOn] at h₁ h₂
  split at h₁
  · next heq₁ =>
      injection h₁ with h₁
      injection h₁ with hb hx₁
      subst hb hx₁
      split at h₂
      · next heq₂ => rw [← heq₁, ← heq₂]
      · exact absurd href.symm (hlive o₂ x₂ h₂)
  · split at h₂
    · injection h₂ with h₂
      injection h₂ with hb hx₂
      subst hb hx₂
      exact absurd href (hlive o₁ x₁ h₁)
    · exact h.distinct o₁ o₂ b x₁ x₂ h₁ h₂ href

theorem ObservingInv.keys_turnOn (h : ObservingInv J is s os)
    (hrefs : (s.apps a).refs.insert ref callback = refs) :
    ∀ b, ∀ ref' ∈ ((s.turnOn a refs ref o).apps b).observers,
      ref' ∈ ((s.turnOn a refs ref o).apps b).refs := by
  refine h.keys_setApp ?_
  intro ref' href'
  rw [← hrefs]
  refine Std.TreeMap.mem_insert.mpr ?_
  rcases Std.TreeMap.mem_insert.mp href' with heq | hmem
  · exact Or.inl heq
  · exact Or.inr (h.keys a ref' hmem)

omit [ToString Uri] in
/-- What the new instance refers to. -/
theorem ObservingSystem.callback_turnOn
    (hrefs : (s.apps a).refs.insert ref callback = refs) :
    ((s.turnOn a refs ref o).apps a).refs[ref]? = some callback := by
  show (Function.update s.apps a _ a).refs[ref]? = _
  rw [Function.update_self, ← hrefs]
  exact Std.TreeMap.getElem?_insert_self

/-- No call has been made through a new reference, and none is queued. -/
theorem ObservingInv.calls_turnOn (h : ObservingInv J is s os)
    (hfresh : ref ∉ (s.apps a).refs) (k : Nat) :
    (s.turnOn a refs ref o).calls os a ref k = 0 := by
  have hlive : ∀ n callback o found, OnAt J is n a callback ref o found →
      False := by
    intro n callback o found hon
    exact hfresh (h.watched n a callback ref o found hon).ref_mem
  have hmade : os.countP (·.callsAt a ref k) = 0 := by
    refine List.countP_eq_zero.mpr fun e he hcalls => ?_
    cases e with
    | error b message => cases hcalls
    | called b ref' callback k' =>
        have hsame : (b = a ∧ ref' = ref) ∧ k' = k := by
          simpa [ObservingOutput.callsAt] using hcalls
        obtain ⟨⟨hb, href⟩, _⟩ := hsame
        subst hb href
        obtain ⟨n, o, found, hon⟩ := h.called b ref' callback k' he
        exact hlive n callback o found hon
  have hqueued : (s.apps a).queue.count ⟨ref, false, k⟩ = 0 := by
    refine List.count_eq_zero.mpr fun hmem => ?_
    obtain ⟨_, n, callback, o, found, hon⟩ := h.waiting a _ hmem
    exact hlive n callback o found hon
  unfold ObservingSystem.calls
  rw [hmade, ObservingSystem.queue_turnOn, hqueued]

/-- **What `on` turns on**: the instance is there, it is registered where the
client finds the service, and nothing is due yet. -/
theorem ObservingInv.watched_turnOn (h : ObservingInv J is s os)
    (hunreg : ∀ v, o ∉ s.service.registered v)
    (hcreate : (s.apps a).refs.create ref callback = some refs)
    (hstep : (serviceMachine J.toPlatform).stepOption s.service (i.op J)
      = some x) {clock : Clock} {found : Bool}
    (hop : i.op J = if found then
        some (.addPasteboardChangedObserver (JsSystem.caller J a clock)
          (some o))
      else none) :
    Watched J (is ++ [i]) ((s.turnOn a refs ref o).after x) os is.length a
      callback ref o found := by
  obtain ⟨hfresh, hrefs⟩ := References.create_eq_some_iff.mp hcreate
  have hmade : (s.turnOn a refs ref o).instances[o]?
      = some (a, { ref := ref }) := by
    rw [ObservingSystem.instances_turnOn, if_pos rfl]
  -- nobody has registered it, so no call of this step is for it
  have hnone := count_calls_step hstep (o := o)
    (u := J.getUserId (J.uid a)) fun v hv => absurd hv (hunreg v)
  rw [if_neg fun hyes : _ ∧ _ => hunreg _ hyes.2] at hnone
  constructor
  · exact hmade
  · exact ObservingSystem.callback_turnOn hrefs
  · intro v
    show o ∈ x.1.registered v ↔ _
    rw [mem_registered_new hstep hop hunreg v, lives_length]
    rfl
  · intro k hk
    have hlt := hk.1
    have hlt' := hk.2.1.lt
    rw [List.length_append, List.length_singleton] at hlt'
    omega
  · intro k _
    rw [ObservingSystem.calls_after (h.distinct_turnOn hfresh) hmade,
      h.calls_turnOn hfresh, hnone, ite_self]

omit [ToString Uri] [DecidableEq App] in
/-- What `on` asks of the service. -/
theorem ObservingInput.op_on {type : String} (clock : Clock) (found : Bool)
    (htype : SystemPasteboardNapi.checkType J.napi type = true) :
    (.on a type callback ref o clock found : ObservingInput E Fn App).op J
      = if found then
          some (.addPasteboardChangedObserver (JsSystem.caller J a clock)
            (some o))
        else none := by
  show (if (SystemPasteboardNapi.checkType J.napi type && found) = true
    then _ else _) = _
  rw [htype, Bool.true_and]

omit [ToString Uri] [DecidableEq App] in
/-- With the wrong type it asks for nothing. -/
theorem ObservingInput.op_on_of_type {type : String} (clock : Clock)
    (found : Bool)
    (htype : ¬ SystemPasteboardNapi.checkType J.napi type = true) :
    (.on a type callback ref o clock found : ObservingInput E Fn App).op J
      = none := by
  show (if (SystemPasteboardNapi.checkType J.napi type && found) = true
    then _ else none) = _
  rw [Bool.eq_false_iff.mpr htype]
  rfl

/-- **The step in which a function is turned on.** -/
theorem ObservingInv.after_turnOn (h : ObservingInv J is s os) {type : String}
    {clock : Clock} {found : Bool}
    (htype : SystemPasteboardNapi.checkType J.napi type = true)
    (hunmade : s.instances[o]? = none)
    (hunreg : ∀ v, o ∉ s.service.registered v)
    (hcreate : (s.apps a).refs.create ref callback = some refs)
    (hstep : (serviceMachine J.toPlatform).stepOption s.service
      ((.on a type callback ref o clock found : ObservingInput E Fn App).op J)
        = some x) :
    ObservingInv J (is ++ [.on a type callback ref o clock found])
      ((s.turnOn a refs ref o).after x) os := by
  obtain ⟨hfresh, hrefs⟩ := References.create_eq_some_iff.mp hcreate
  have hop : (.on a type callback ref o clock found :
      ObservingInput E Fn App).op J
        = if found then
            some (.addPasteboardChangedObserver (JsSystem.caller J a clock)
              (some o))
          else none := ObservingInput.op_on clock found htype
  refine h.after (ObservingSystem.unmoved_turnOn hunmade hcreate)
    (h.distinct_turnOn hfresh) hstep ?_ (h.keys_turnOn hrefs) ?_ ?_ h.called ?_
  · -- it carries a new remote object
    intro op hop' o' ho' hobs
    rw [hop] at hop'
    split at hop'
    · injection hop' with hop'
      rw [← hop'] at hobs
      injection hobs with hobs
      rw [← hobs, Std.TreeMap.mem_iff_isSome_getElem?, hunmade] at ho'
      cases ho'
    · cases hop'
  · intro o' b y hy
    rw [ObservingSystem.instances_turnOn] at hy
    split at hy
    · next heq =>
        injection hy with hy
        injection hy with hb hy
        subst hb hy heq
        exact ⟨rfl, is.length, callback, found,
          onAt_concat.mpr (Or.inr ⟨rfl, type, clock, rfl, htype⟩)⟩
    · obtain ⟨hoff, n, callback, found, hon⟩ := h.origin o' b y hy
      exact ⟨hoff, n, callback, found, hon.concat⟩
  · intro b w hw
    rw [ObservingSystem.queue_turnOn] at hw
    exact hw
  · intro a' callback' ref' o' found' hi
    obtain ⟨type', clock', hi, _⟩ := hi
    injection hi with ha _ hcallback href ho _ hfound
    subst ha hcallback href ho hfound
    exact h.watched_turnOn hunreg hcreate hstep hop

end TurnOn

/-- **`on`** turns a function on, or reports the wrong type. -/
theorem ObservingInv.on (T : E.Faithful) (L : E.Lossless)
    (hcast : ∀ o, J.ifaceCast o = some o) (h : ObservingInv J is s os) {a : App}
    {type : String} {callback : Fn} {ref : NapiRef} {o : RemoteObject}
    {clock : Clock} {found : Bool}
    {y : ObservingSystem Uri Want Fn App × List (ObservingOutput Fn App)}
    (hstep : s.on J a type callback ref o clock found = some y) :
    ObservingInv J (is ++ [.on a type callback ref o clock found])
      { y.1 with moment := s.moment + 1 } (os ++ y.2) := by
  unfold ObservingSystem.on at hstep
  by_cases htype : SystemPasteboardNapi.checkType J.napi type = true
  · rw [if_neg (not_not_intro htype)] at hstep
    split at hstep
    · cases hstep
    next hknown =>
    obtain ⟨hunmade, hunreg⟩ :=
      ObservingSystem.of_not_known (Bool.eq_false_iff.mpr hknown)
    obtain ⟨refs, hcreate, hstep⟩ := Option.bind_eq_some_iff.mp hstep
    obtain ⟨x, hx, hstep⟩ := Option.map_eq_some_iff.mp hstep
    -- the operation of the client is that of the service
    have hserved : (serviceMachine J.toPlatform).stepOption s.service
        ((.on a type callback ref o clock found : ObservingInput E Fn App).op J)
          = some x := by
      rw [ObservingInput.op_on clock found htype, ← hx]
      unfold ObservingSystem.request
      cases found with
      | false => rfl
      | true =>
          have hadd : (ClientOp.addPasteboardChangedObserver (some o) :
              ClientOp Uri Want).OnObservers := trivial
          exact (overProxy_observer T L hcast _ hadd s.service).symm
    have hdone : { (s.turnOn a refs ref o).notify J x with
        moment := s.moment + 1 } = (s.turnOn a refs ref o).after x :=
      ObservingSystem.notify_after T L J (s.turnOn a refs ref o) x
    rw [← hstep, List.append_nil]
    refine (congrArg (fun s' => ObservingInv J _ s' os) hdone).mpr ?_
    exact h.after_turnOn htype hunmade hunreg hcreate hserved
  · rw [if_pos htype] at hstep
    injection hstep with hstep
    rw [← hstep]
    refine h.error a "error type"
      (ObservingInput.op_on_of_type clock found htype) ?_
    intro b type' callback' ref' o' clock' found' hi
    injection hi with _ htype' _ _ _ _ _
    rw [← htype']
    exact htype

end Steps

/-! ## §3. Whole runs. -/

variable [ToString Uri] {J : JsHost E App}
  {is : List (ObservingInput E Fn App)} {s : ObservingSystem Uri Want Fn App}
  {os : List (ObservingOutput Fn App)}

theorem observingInv_empty (J : JsHost E App) :
    ObservingInv J ([] : List (ObservingInput E Fn App))
      ({} : ObservingSystem Uri Want Fn App) [] where
  moment := rfl
  service := ⟨[], rfl⟩
  keys a ref href := by simp at href
  origin o a x hx := by simp at hx
  distinct := by
    intro o o' a x x' hx
    simp at hx
  waiting a w hw := by cases hw
  called a ref callback k hmem := by cases hmem
  watched n a callback ref o found hon := absurd hon.lt (Nat.not_lt_zero n)

/-- **The invariant holds in every run.** -/
theorem observingInv_run (T : E.Faithful) (L : E.Lossless)
    (hcast : ∀ o, J.ifaceCast o = some o)
    (hrun : (observingMachine J).run {} is = some (s, os)) :
    ObservingInv J is s os := by
  refine (observingMachine J).run_history
    (fun is s os => ObservingInv J is s os) (observingInv_empty J) ?_ is hrun
  intro is s os i s' os' h hstep
  obtain ⟨y, hexec, hstep⟩ := Option.map_eq_some_iff.mp hstep
  injection hstep with hs' hos'
  subst hs' hos'
  cases i with
  | on a type callback ref o clock found => exact h.on T L hcast hexec
  | off a type callback clock found => exact h.off hexec
  | work a index => exact h.work hexec
  | request r => exact h.request T L hexec

/-- What the programs hear of the changes. -/
structure Delivers (J : JsHost E App) (is : List (ObservingInput E Fn App))
    (s : ObservingSystem Uri Want Fn App)
    (os : List (ObservingOutput Fn App)) : Prop where
  /-- A function is called once for each change that is due, or the call is
  queued. -/
  once : ∀ n a callback ref o found,
    OnAt J is n a callback ref o found → ∀ k,
      Due J is n (J.getUserId (J.uid a)) found k → s.calls os a ref k = 1
  /-- And for no other. -/
  quiet : ∀ n a callback ref o found,
    OnAt J is n a callback ref o found → ∀ k,
      ¬ Due J is n (J.getUserId (J.uid a)) found k → s.calls os a ref k = 0
  /-- Nothing is called that was not turned on. -/
  own : ∀ a ref callback k, .called a ref callback k ∈ os →
    ∃ n o found, OnAt J is n a callback ref o found
  /-- Whatever is queued can be called, in any order. -/
  possible : ∀ (a : App) (index : Nat) w, (s.apps a).queue[index]? = some w →
    ∃ callback s', (observingMachine J).step s (.work a index)
      = some (s', [.called a w.ref callback w.change])

end Invariant

/-- **EVERY CHANGE REACHES EVERY FUNCTION ONCE.**  Over a lossless FIFO
transport, in every run of any number of programs of any users, with their
event loops in any order and any requests of other processes: a function that
was turned on, by a program that the service was found for and that has a user
id, is called exactly once for each change announced after that, as long as no
process of its user removes all observers. -/
theorem changes_delivered [ToString Uri] [DecidableEq App] (T : E.Faithful)
    (L : E.Lossless) (J : JsHost E App) (hcast : ∀ o, J.ifaceCast o = some o)
    (is : List (ObservingInput E Fn App))
    (s : ObservingSystem Uri Want Fn App) (os : List (ObservingOutput Fn App))
    (hrun : (observingMachine J).run {} is = some (s, os)) :
    Delivers J is s os := by
  have hinv := observingInv_run T L hcast hrun
  constructor
  · intro n a callback ref o found hon
    exact (hinv.watched n a callback ref o found hon).once
  · intro n a callback ref o found hon
    exact (hinv.watched n a callback ref o found hon).quiet
  · exact hinv.called
  · intro a index w hw
    obtain ⟨callback, _, heq⟩ := hinv.work_eq hw
    have hstep : (observingMachine J).step s (.work a index)
        = (s.work a index).map fun x =>
          ({ x.1 with moment := s.moment + 1 }, x.2) := rfl
    rw [heq] at hstep
    exact ⟨callback, _, hstep⟩

/-- Two programs listen, another user copies, and the event loops make the
calls. -/
def twoListeners : List (ObservingInput (listIpc String String) String Bool) :=
  [.on false "update" "f" 1 7 ⟨none, 0⟩ true,
    .on true "update" "g" 1 8 ⟨none, 0⟩ true,
    .request otherCopy, .work true 0, .work false 0]

theorem changes_delivered_two :
    ∃ s os, (observingMachine sampleJs).run {} twoListeners = some (s, os)
      ∧ Delivers sampleJs twoListeners s os := by
  obtain ⟨⟨s, os⟩, hrun⟩ := Option.isSome_iff_exists.mp
    (show ((observingMachine sampleJs).run {} twoListeners).isSome = true by
      decide +kernel)
  exact ⟨s, os, hrun, changes_delivered (listIpc_faithful String String)
    (listIpc_lossless String String) sampleJs (fun _ => rfl) twoListeners s
    os hrun⟩

end Pasteboard
