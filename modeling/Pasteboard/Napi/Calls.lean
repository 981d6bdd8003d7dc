/-
  Pasteboard.Napi.Calls
  ─────────────────────
  **EVERY CALL IS SETTLED ONCE.**

  A call that makes a work is a ticket: it is pending until its work is
  completed, and then its promise has been settled, or its callback called,
  exactly once.  A pending work can always be executed, and completed after
  that (`js_calls_settled`).

    • A call whose work could not be created is never settled.
    • The references are those of the callbacks of pending calls, and of the
      calls that could not be created: these are never deleted.
-/
import Pasteboard.Lib.Tickets
import Pasteboard.Napi.System

namespace Pasteboard

open Lib

variable {Uri Want Fn App : Type}

/-! ## §1. The calls of a run. -/

/-- A call that has found its instance.  `created` tells whether its work could
be created. -/
structure Start (Fn App : Type) where
  app : App
  call : Nat
  method : AsyncMethod
  callback : Option (Fn × NapiRef)
  created : Bool

def Start.key (st : Start Fn App) : App × Nat := (st.app, st.call)

/-- What a call may end in. -/
inductive Settlement.Answers (st : Start Fn App) : Settlement Want Fn → Prop
  where
  | resolved {value : JsResult Want} (h : st.callback = none) :
      Answers st (.resolved value)
  | rejected {value : JsResult Want} (h : st.callback = none)
      (hfail : st.method.CanFail) : Answers st (.rejected value)
  | called {callback : Fn} {ref : NapiRef} {args : List (JsResult Want)}
      (h : st.callback = some (callback, ref))
      (hargs : args.length = st.method.argumentCount) :
      Answers st (.called callback args)

def JsOutput.closing :
    JsOutput Want Fn App → Option ((App × Nat) × Settlement Want Fn)
  | .settled a call settlement => some ((a, call), settlement)
  | .returned _ _ => none

namespace JsSystem

/-- The call a step starts. -/
def started {E : Ipc Uri Want} (s : JsSystem Uri Want Fn App) :
    JsInput E Fn App → List (Start Fn App)
  | .start a method callback created =>
      if ((s.apps a).missing method).isNone then
        [⟨a, (s.apps a).calls, method, callback, created⟩]
      else []
  | _ => []

/-- The calls of a run, in order. -/
def starts {E : Ipc Uri Want} [ToString Uri] [DecidableEq App] (J : JsHost E App)
    (is : List (JsInput E Fn App)) : List (Start Fn App) :=
  (jsMachine J).logged started ({} : JsSystem Uri Want Fn App) is

/-- The tickets among them. -/
def issued (log : List (Start Fn App)) : List (App × Nat) :=
  (log.filter (·.created)).map Start.key

def Pending (s : JsSystem Uri Want Fn App) (k : App × Nat) : Prop :=
  (s.apps k.1).works[k.2]?.isSome = true

def closed (os : List (JsOutput Want Fn App)) :
    List ((App × Nat) × Settlement Want Fn) :=
  os.filterMap JsOutput.closing

/-- How a call has been settled, each time it was. -/
def settlements [DecidableEq App] (os : List (JsOutput Want Fn App))
    (k : App × Nat) : List (Settlement Want Fn) :=
  answers (closed os) k

theorem closed_append (os os' : List (JsOutput Want Fn App)) :
    closed (os ++ os') = closed os ++ closed os' := by
  unfold closed
  rw [List.filterMap_append]

end JsSystem

/-- The call holds the reference of its callback. -/
def Start.Holds (s : JsSystem Uri Want Fn App) (st : Start Fn App) : Prop :=
  st.created = true → s.Pending st.key

/-- The work is the call's. -/
structure AsyncWork.Of (st : Start Fn App) (work : AsyncWork) : Prop where
  method : work.method = st.method
  callbackRef : work.callbackRef = st.callback.map (·.2)
  status : work.method.CanFail ∨ work.status = 0

namespace AsyncWork

variable {E : Ipc Uri Want} [ToString Uri] {H : Host E} {c : Caller}
  {found : Bool} {objects objects' : JsObjects Uri Want}
  {service service' : PasteboardService Uri Want} {st : Start Fn App}
  {work work' : AsyncWork}

/-- Execution leaves it the call's. -/
theorem Of.executed (h : Of st work)
    (hdone : Executed H c found objects service service' work work') :
    Of st { work' with executed := true } := by
  rw [hdone.outcome]
  refine ⟨?_, ?_, ?_⟩
  · exact (outcome_method _ _ _ work).trans h.method
  · exact (outcome_callbackRef _ _ _ work).trans h.callbackRef
  · show (outcome _ _ _ work).method.CanFail ∨ (outcome _ _ _ work).status = 0
    rw [outcome_method]
    rcases outcome_status found _ objects.text work with hfail | hzero | hsame
    · exact Or.inl hfail
    · exact Or.inr hzero
    · rw [hsame]
      exact h.status

omit [ToString Uri] in
/-- **The completion of a work answers its call.** -/
theorem Of.answers (h : Of st work) (obj : Nat) {callback : Option Fn}
    (hcallback : st.callback.map (·.1) = callback) :
    ((work.ending obj : Ending Want).settle callback).Answers st := by
  cases hst : st.callback with
  | none =>
      rw [hst] at hcallback
      subst hcallback
      show Settlement.Answers st (if (ending obj work).status = 0 then _ else _)
      split
      · exact .resolved hst
      · next hne =>
          refine .rejected hst ?_
          rw [← h.method]
          rcases h.status with hfail | hzero
          · exact hfail
          · -- a status that was 0 is 0 still
            have hstatus : (work.ending obj : Ending Want).status = 0
                ∨ (work.ending obj : Ending Want).status = work.status :=
              ending_status obj work
            rcases hstatus with hend | hend
            · exact absurd hend hne
            · exact absurd (hend.trans hzero) hne
  | some x =>
      obtain ⟨fn, ref⟩ := x
      rw [hst] at hcallback
      subst hcallback
      refine .called hst ?_
      rw [length_ending_args, h.method]

end AsyncWork

/-! ## §2. What holds of the calls of every run. -/

/-- The calls of a run, its outputs, and what the programs keep of them. -/
structure Calls (log : List (Start Fn App)) (s : JsSystem Uri Want Fn App)
    [DecidableEq App] (os : List (JsOutput Want Fn App)) : Prop where
  inv : s.Inv
  call_lt : ∀ st ∈ log, st.call < (s.apps st.app).calls
  nodup : (log.map Start.key).Nodup
  tickets : Tickets (JsSystem.issued log) s.Pending (JsSystem.closed os)
  works : ∀ (a : App) (call : Nat) (work : AsyncWork),
    (s.apps a).works[call]? = some work →
      ∃ st ∈ log, st.key = (a, call) ∧ st.created = true ∧ work.Of st
  answered : ∀ k x, (k, x) ∈ JsSystem.closed os →
    ∃ st ∈ log, st.key = k ∧ x.Answers st
  refs : ∀ (a : App) (ref : NapiRef) (fn : Fn),
    (s.apps a).refs[ref]? = some fn
      ↔ ∃ st ∈ log, st.app = a ∧ st.callback = some (fn, ref) ∧ st.Holds s
  /-- No two calls hold one reference. -/
  apart : ∀ st ∈ log, ∀ st' ∈ log, st.Holds s → st'.Holds s →
    st.app = st'.app →
    st.callback.map (·.2) = st'.callback.map (·.2) →
    st.callback.isSome = true → st = st'

namespace Calls

variable [DecidableEq App] {log : List (Start Fn App)}
  {s s' : JsSystem Uri Want Fn App} {os os' : List (JsOutput Want Fn App)}

theorem empty : Calls [] ({} : JsSystem Uri Want Fn App) [] where
  inv := JsSystem.inv_empty
  call_lt := nofun
  nodup := List.nodup_nil
  tickets := .empty fun k hk => by
    change ({} : JsApp Uri Want Fn).works[k.2]?.isSome = true at hk
    rw [JsApp.getElem?_works_empty] at hk
    cases hk
  works a call work hwork := by
    change ({} : JsApp Uri Want Fn).works[call]? = some work at hwork
    rw [JsApp.getElem?_works_empty] at hwork
    cases hwork
  answered := nofun
  refs a ref fn := by
    have hnone : ({} : JsApp Uri Want Fn).refs[ref]? = none :=
      Std.TreeMap.getElem?_emptyc
    show ({} : JsApp Uri Want Fn).refs[ref]? = some fn ↔ _
    rw [hnone]
    refine iff_of_false nofun ?_
    rintro ⟨st, hst, _⟩
    cases hst
  apart := nofun

/-- Calls have keys of their own. -/
theorem eq_of_key (c : Calls log s os) {st st' : Start Fn App} (h : st ∈ log)
    (h' : st' ∈ log) (hkey : st.key = st'.key) : st = st' :=
  List.inj_on_of_nodup_map c.nodup h h' hkey

/-- A step that starts no call and settles none. -/
theorem congr (c : Calls log s os) (hs' : s'.Inv)
    (hcalls : ∀ a, (s'.apps a).calls = (s.apps a).calls)
    (hrefs : ∀ a, (s'.apps a).refs = (s.apps a).refs)
    (hpending : ∀ k, s'.Pending k ↔ s.Pending k)
    (hworks : ∀ (a : App) (call : Nat) (work : AsyncWork),
      (s'.apps a).works[call]? = some work → ∃ work₀,
        (s.apps a).works[call]? = some work₀
          ∧ ∀ st : Start Fn App, work₀.Of st → work.Of st)
    (hos : JsSystem.closed os' = []) : Calls log s' (os ++ os') := by
  have hholds : ∀ st : Start Fn App, st.Holds s' ↔ st.Holds s := by
    intro st
    unfold Start.Holds
    rw [hpending]
  refine ⟨hs', ?_, c.nodup, ?_, ?_, ?_, ?_, ?_⟩
  · intro st hst
    rw [hcalls]
    exact c.call_lt st hst
  · rw [JsSystem.closed_append, hos, List.append_nil]
    exact c.tickets.congr hpending
  · intro a call work hwork
    obtain ⟨work₀, hwork₀, hof⟩ := hworks a call work hwork
    obtain ⟨st, hst, hkey, hcreated, hst'⟩ := c.works a call work₀ hwork₀
    exact ⟨st, hst, hkey, hcreated, hof st hst'⟩
  · rw [JsSystem.closed_append, hos, List.append_nil]
    exact c.answered
  · intro a ref fn
    rw [hrefs, c.refs]
    simp only [hholds]
  · intro st hst st' hst' h h'
    exact c.apart st hst st' hst' ((hholds st).mp h) ((hholds st').mp h')

/-- A program that keeps its calls, references and works. -/
theorem frame (c : Calls log s os) {a : App} {app : JsApp Uri Want Fn}
    (hs' : (s.setApp a app).Inv) (hcalls : app.calls = (s.apps a).calls)
    (hrefs : app.refs = (s.apps a).refs) (hworks : app.works = (s.apps a).works)
    (hos : JsSystem.closed os' = []) : Calls log (s.setApp a app) (os ++ os') := by
  have hsame : ∀ a', ((s.setApp a app).apps a').works = (s.apps a').works :=
    JsSystem.setApp_congr (·.works) hworks
  refine c.congr hs' (JsSystem.setApp_congr (·.calls) hcalls)
    (JsSystem.setApp_congr (·.refs) hrefs) ?_ ?_ hos
  · intro k
    unfold JsSystem.Pending
    rw [hsame]
  · intro a' call work hwork
    rw [hsame] at hwork
    exact ⟨work, hwork, fun _ hof => hof⟩

section Start

variable {st : Start Fn App}

/-- A new call has a key of its own. -/
theorem key_ne_of_call (c : Calls log s os)
    (hcall : st.call = (s.apps st.app).calls) :
    ∀ st' ∈ log, st'.key ≠ st.key := by
  intro st' hst' heq
  have hlt := c.call_lt st' hst'
  injection heq with happ hcall'
  rw [happ, hcall', hcall] at hlt
  exact Nat.lt_irrefl _ hlt

variable (hpending : ∀ k, s'.Pending k
  ↔ (st.created = true ∧ k = st.key) ∨ s.Pending k)

include hpending

omit [DecidableEq App] in
/-- The other calls hold what they have held. -/
theorem holds_start {st' : Start Fn App} (hne : st'.key ≠ st.key) :
    st'.Holds s' ↔ st'.Holds s := by
  unfold Start.Holds
  rw [hpending]
  constructor
  · intro h hcreated
    exact (h hcreated).resolve_left fun hk => hne hk.2
  · exact fun h hcreated => Or.inr (h hcreated)

omit [DecidableEq App] in
theorem holds_new : st.Holds s' := by
  intro hcreated
  exact (hpending _).mpr (Or.inl ⟨hcreated, rfl⟩)

/-- A call with a work is a new ticket, one without is none. -/
theorem tickets_start (c : Calls log s os)
    (hnew : ∀ st' ∈ log, st'.key ≠ st.key) :
    Tickets (JsSystem.issued (log ++ [st])) s'.Pending
      (JsSystem.closed os) := by
  unfold JsSystem.issued
  rw [List.filter_append, List.map_append]
  cases hcreated : st.created with
  | true =>
      rw [List.filter_cons_of_pos hcreated]
      refine c.tickets.issue ?_ ?_
      · intro hmem
        obtain ⟨st', hst', hkey⟩ := List.mem_map.mp hmem
        exact hnew st' (List.mem_of_mem_filter hst') hkey
      · intro k
        rw [hpending, hcreated]
        simp
  | false =>
      rw [List.filter_cons_of_neg (by simp [hcreated])]
      show Tickets (_ ++ []) _ _
      rw [List.append_nil]
      refine c.tickets.congr ?_
      intro k
      rw [hpending, hcreated]
      simp

omit hpending in
/-- **No call that holds a reference holds the new one.** -/
theorem callback_ne_of_fresh (c : Calls log s os)
    (hfresh : ∀ ref, st.callback.map (·.2) = some ref →
      (s.apps st.app).refs[ref]? = none)
    {st' : Start Fn App} (hst' : st' ∈ log) (h : st'.Holds s)
    (happ : st'.app = st.app) (hsome : st'.callback.isSome = true) :
    st'.callback.map (·.2) ≠ st.callback.map (·.2) := by
  intro hcb
  obtain ⟨⟨fn, ref⟩, hcb'⟩ := Option.isSome_iff_exists.mp hsome
  rw [hcb'] at hcb
  have hlive := (c.refs st'.app ref fn).mpr ⟨st', hst', rfl, hcb', h⟩
  rw [happ, hfresh ref hcb.symm] at hlive
  cases hlive

/-- The references of the calls stay apart. -/
theorem apart_start (c : Calls log s os)
    (hnew : ∀ st' ∈ log, st'.key ≠ st.key)
    (hfresh : ∀ ref, st.callback.map (·.2) = some ref →
      (s.apps st.app).refs[ref]? = none) :
    ∀ st₁ ∈ log ++ [st], ∀ st₂ ∈ log ++ [st], st₁.Holds s' → st₂.Holds s' →
      st₁.app = st₂.app →
      st₁.callback.map (·.2) = st₂.callback.map (·.2) →
      st₁.callback.isSome = true → st₁ = st₂ := by
  intro st₁ h₁ st₂ h₂ hh₁ hh₂ happ hcb hsome
  have hold : ∀ st' ∈ log, st'.Holds s' → st'.Holds s := fun st' hst' =>
    (holds_start hpending (hnew st' hst')).mp
  rcases List.mem_append.mp h₁ with h₁ | h₁
  · rcases List.mem_append.mp h₂ with h₂ | h₂
    · exact c.apart st₁ h₁ st₂ h₂ (hold st₁ h₁ hh₁) (hold st₂ h₂ hh₂) happ hcb
        hsome
    · rw [List.mem_singleton.mp h₂] at happ hcb
      exact absurd hcb
        (c.callback_ne_of_fresh hfresh h₁ (hold st₁ h₁ hh₁) happ hsome)
  · rcases List.mem_append.mp h₂ with h₂ | h₂
    · rw [List.mem_singleton.mp h₁] at happ hcb hsome
      have hsome' : st₂.callback.isSome = true := by
        rw [← Option.isSome_map (f := (·.2)), ← hcb, Option.isSome_map]
        exact hsome
      exact absurd hcb.symm
        (c.callback_ne_of_fresh hfresh h₂ (hold st₂ h₂ hh₂) happ.symm hsome')
    · rw [List.mem_singleton.mp h₁, List.mem_singleton.mp h₂]

end Start

/-- **A call is started.**  Its reference, if it has one, was not live. -/
theorem start (c : Calls log s os) (hs' : s'.Inv) {st : Start Fn App}
    (hcall : st.call = (s.apps st.app).calls)
    (hcalls : ∀ a, (s'.apps a).calls
      = if a = st.app then st.call + 1 else (s.apps a).calls)
    (hworks : ∀ (a : App) (call : Nat), (s'.apps a).works[call]?
      = if st.created = true ∧ st.key = (a, call) then
          some { method := st.method, callbackRef := st.callback.map (·.2) }
        else (s.apps a).works[call]?)
    (hrefs : ∀ (a : App) (ref : NapiRef) (fn : Fn),
      (s'.apps a).refs[ref]? = some fn
        ↔ (a = st.app ∧ st.callback = some (fn, ref))
          ∨ (s.apps a).refs[ref]? = some fn)
    (hfresh : ∀ ref, st.callback.map (·.2) = some ref →
      (s.apps st.app).refs[ref]? = none)
    (hos : JsSystem.closed os' = []) :
    Calls (log ++ [st]) s' (os ++ os') := by
  have hnew := c.key_ne_of_call hcall
  have hpending : ∀ k, s'.Pending k
      ↔ (st.created = true ∧ k = st.key) ∨ s.Pending k := by
    intro k
    unfold JsSystem.Pending
    rw [hworks]
    split
    · next h => exact iff_of_true rfl (Or.inl ⟨h.1, h.2.symm⟩)
    · next h => exact ⟨Or.inr, fun h' => h'.resolve_left
        fun hk => h ⟨hk.1, hk.2.symm⟩⟩
  refine ⟨hs', ?_, ?_, ?_, ?_, ?_, ?_, apart_start hpending c hnew hfresh⟩
  · intro st' hst'
    rw [hcalls]
    -- the numbers of the calls go up
    rcases List.mem_append.mp hst' with hst' | hst'
    · have hlt := c.call_lt st' hst'
      split
      · next happ =>
          rw [happ, ← hcall] at hlt
          omega
      · exact hlt
    · rw [List.mem_singleton.mp hst', if_pos rfl]
      omega
  · rw [List.map_append]
    refine List.nodup_append.mpr ⟨c.nodup, List.nodup_singleton _, ?_⟩
    intro k hk k' hk' heq
    obtain ⟨st', hst', hkey⟩ := List.mem_map.mp hk
    refine hnew st' hst' ?_
    rw [hkey, heq]
    exact List.mem_singleton.mp hk'
  · rw [JsSystem.closed_append, hos, List.append_nil]
    exact tickets_start hpending c hnew
  · intro a call work hwork
    rw [hworks] at hwork
    split at hwork
    · next h =>
        injection hwork with hwork
        refine ⟨st, List.mem_append_right _ (List.mem_singleton.mpr rfl), h.2,
          h.1, ?_⟩
        rw [← hwork]
        exact ⟨rfl, rfl, Or.inr rfl⟩
    · obtain ⟨st', hst', hof⟩ := c.works a call work hwork
      exact ⟨st', List.mem_append_left _ hst', hof⟩
  · rw [JsSystem.closed_append, hos, List.append_nil]
    intro k x hx
    obtain ⟨st', hst', hans⟩ := c.answered k x hx
    exact ⟨st', List.mem_append_left _ hst', hans⟩
  · intro a ref fn
    rw [hrefs, c.refs]
    constructor
    · -- a live reference is the new call's, or was live
      rintro (⟨happ, hcb⟩ | ⟨st', hst', happ, hcb, h⟩)
      · exact ⟨st, List.mem_append_right _ (List.mem_singleton.mpr rfl),
          happ.symm, hcb, holds_new hpending⟩
      · exact ⟨st', List.mem_append_left _ hst', happ, hcb,
          (holds_start hpending (hnew st' hst')).mpr h⟩
    · rintro ⟨st', hst', happ, hcb, h⟩
      rcases List.mem_append.mp hst' with hst' | hst'
      · exact Or.inr ⟨st', hst', happ, hcb,
          (holds_start hpending (hnew st' hst')).mp h⟩
      · rw [List.mem_singleton.mp hst'] at happ hcb
        exact Or.inl ⟨happ.symm, hcb⟩

/-- **A call is settled**, and its reference deleted. -/
theorem complete (c : Calls log s os) (hs' : s'.Inv) {st : Start Fn App}
    (hst : st ∈ log) (hcreated : st.created = true) (hopen : s.Pending st.key)
    {settlement : Settlement Want Fn} (hans : settlement.Answers st)
    (hcalls : ∀ a, (s'.apps a).calls = (s.apps a).calls)
    (hworks : ∀ (a : App) (call : Nat), (s'.apps a).works[call]?
      = if st.key = (a, call) then none else (s.apps a).works[call]?)
    (hrefs : ∀ (a : App) (ref : NapiRef), (s'.apps a).refs[ref]?
      = if a = st.app ∧ st.callback.map (·.2) = some ref then none
        else (s.apps a).refs[ref]?)
    (hos : JsSystem.closed os' = [(st.key, settlement)]) :
    Calls log s' (os ++ os') := by
  have hpending : ∀ k, s'.Pending k ↔ k ≠ st.key ∧ s.Pending k := by
    intro k
    unfold JsSystem.Pending
    rw [hworks]
    split
    · next h => exact iff_of_false nofun fun hk => hk.1 h.symm
    · next h => exact ⟨fun hk => ⟨fun heq => h heq.symm, hk⟩, fun hk => hk.2⟩
  -- the call lets go of its reference, the others do not
  have hholds : ∀ st' ∈ log, (st'.Holds s' ↔ st'.Holds s ∧ st' ≠ st) := by
    intro st' hst'
    unfold Start.Holds
    rw [hpending]
    constructor
    · intro h
      refine ⟨fun hc => (h hc).2, ?_⟩
      intro heq
      subst heq
      exact (h hcreated).1 rfl
    · intro hyp hc
      obtain ⟨h, hne⟩ := hyp
      exact ⟨fun hkey => hne (c.eq_of_key hst' hst hkey), h hc⟩
  refine ⟨hs', ?_, c.nodup, ?_, ?_, ?_, ?_, ?_⟩
  · intro st' hst'
    rw [hcalls]
    exact c.call_lt st' hst'
  · rw [JsSystem.closed_append, hos]
    exact c.tickets.close hopen settlement hpending
  · intro a call work hwork
    rw [hworks] at hwork
    split at hwork
    · cases hwork
    · exact c.works a call work hwork
  · intro k x hx
    rw [JsSystem.closed_append, hos] at hx
    rcases List.mem_append.mp hx with hx | hx
    · exact c.answered k x hx
    · injection List.mem_singleton.mp hx with hk hx
      rw [hk, hx]
      exact ⟨st, hst, rfl, hans⟩
  · intro a ref fn
    rw [hrefs]
    split
    · next h =>
        refine iff_of_false nofun ?_
        rintro ⟨st', hst', happ, hcb, hh⟩
        obtain ⟨hh, hne⟩ := (hholds st' hst').mp hh
        refine hne (c.apart st' hst' st hst hh (fun _ => hopen)
          (happ.trans h.1) ?_ ?_)
        · rw [h.2, hcb]
          rfl
        · rw [hcb]
          rfl
    · next h =>
        rw [c.refs]
        constructor
        · rintro ⟨st', hst', happ, hcb, hh⟩
          refine ⟨st', hst', happ, hcb, (hholds st' hst').mpr ⟨hh, ?_⟩⟩
          intro heq
          subst heq
          refine h ⟨happ.symm, ?_⟩
          rw [hcb]
          rfl
        · rintro ⟨st', hst', happ, hcb, hh⟩
          exact ⟨st', hst', happ, hcb, ((hholds st' hst').mp hh).1⟩
  · intro st₁ h₁ st₂ h₂ hh₁ hh₂
    exact c.apart st₁ h₁ st₂ h₂ ((hholds st₁ h₁).mp hh₁).1
      ((hholds st₂ h₂).mp hh₂).1

/-! ## §3. Every step keeps it. -/

omit [DecidableEq App] in
/-- A reference is created for a callback. -/
theorem createReference_cases {refs refs' : References Fn}
    {callback : Option (Fn × NapiRef)}
    (h : JsApp.createReference refs callback = some refs') :
    (∀ (ref : NapiRef) (fn : Fn), refs'[ref]? = some fn
        ↔ callback = some (fn, ref) ∨ refs[ref]? = some fn)
      ∧ ∀ ref, callback.map (·.2) = some ref → refs[ref]? = none := by
  cases callback with
  | none =>
      injection h with h
      subst h
      exact ⟨fun ref fn => ⟨Or.inr, fun h => h.resolve_left nofun⟩, nofun⟩
  | some x =>
      obtain ⟨fn, ref⟩ := x
      obtain ⟨hnew, h⟩ := References.create_eq_some_iff.mp h
      subst h
      have hnone : refs[ref]? = none := Std.TreeMap.getElem?_eq_none hnew
      constructor
      · intro ref' fn'
        rw [OrderedMap.getElem?_insert_eq]
        split
        · next heq =>
            subst heq
            rw [hnone]
            simp
        · next hne =>
            refine ⟨Or.inr, fun h => h.resolve_left ?_⟩
            intro heq
            injection heq with heq
            injection heq with _ heq
            exact hne heq
      · intro ref' heq
        injection heq with heq
        rw [← heq]
        exact hnone

/-- **The works after one has been entered.** -/
theorem works_setApp_insert {a : App} {app : JsApp Uri Want Fn} {call : Nat}
    {work : AsyncWork} (h : app.works = (s.apps a).works.insert call work)
    (a' : App) (call' : Nat) :
    ((s.setApp a app).apps a').works[call']?
      = if (a, call) = (a', call') then some work
        else (s.apps a').works[call']? := by
  rw [JsSystem.setApp_apps]
  by_cases ha : a' = a
  · subst ha
    rw [if_pos rfl, h, OrderedMap.getElem?_insert_eq]
    simp
  · rw [if_neg ha, if_neg]
    intro hk
    injection hk with hk _
    exact ha hk.symm

/-- **The works after one has been deleted.** -/
theorem works_setApp_erase {a : App} {app : JsApp Uri Want Fn} {call : Nat}
    (h : app.works = (s.apps a).works.erase call) (a' : App) (call' : Nat) :
    ((s.setApp a app).apps a').works[call']?
      = if (a, call) = (a', call') then none
        else (s.apps a').works[call']? := by
  rw [JsSystem.setApp_apps]
  by_cases ha : a' = a
  · subst ha
    rw [if_pos rfl, h, OrderedMap.getElem?_erase_eq]
    simp
  · rw [if_neg ha, if_neg]
    intro hk
    injection hk with hk _
    exact ha hk.symm

omit [DecidableEq App] in
/-- A pending work is a pending call. -/
theorem pending_of_work {a : App} {call : Nat} {work : AsyncWork}
    (hwork : (s.apps a).works[call]? = some work) : s.Pending (a, call) := by
  unfold JsSystem.Pending
  dsimp only
  rw [hwork]
  rfl

variable {E : Ipc Uri Want} [ToString Uri] {J : JsHost E App}
  {i : JsInput E Fn App} {a : App} {call : Nat} {work work' : AsyncWork}

omit [ToString Uri] in
/-- **A method is called.** -/
theorem stepped_start (c : Calls log s os) {method : AsyncMethod}
    {callback : Option (Fn × NapiRef)} {created : Bool}
    {app : JsApp Uri Want Fn} {result : JsResult Want}
    (hs' : (s.setApp a app).Inv)
    (hstart : (s.apps a).start method callback created = some (app, result)) :
    Calls (log ++ s.started (.start a method callback created : JsInput E Fn App))
      (s.setApp a app) (os ++ [.returned a result]) := by
  unfold JsSystem.started
  dsimp only
  rcases JsApp.start_cases hstart with ⟨hmiss, heq⟩ | ⟨refs, hm, hrefs, heq⟩
  · -- the instance could not be unwrapped
    subst heq
    rw [if_neg (by simp [Option.isSome_iff_ne_none.mp hmiss]), List.append_nil]
    exact c.frame hs' rfl rfl rfl rfl
  · obtain ⟨hlookup, hfresh⟩ := createReference_cases hrefs
    rw [if_pos (Option.isNone_iff_eq_none.mpr hm)]
    subst heq
    refine c.start hs' rfl ?_ ?_ ?_ hfresh rfl
    · intro a'
      rw [JsSystem.setApp_apps]
      split <;> rfl
    · intro a' call
      cases created with
      | false =>
          -- there is no new work
          simp only [Bool.false_eq_true, if_false, false_and, JsSystem.setApp_apps]
          split
          · next ha => rw [ha]
          · rfl
      | true =>
          simp only [true_and]
          exact works_setApp_insert rfl a' call
    · intro a' ref fn
      rw [JsSystem.setApp_apps]
      by_cases ha : a' = a
      · subst ha
        rw [if_pos rfl]
        show refs[ref]? = some fn ↔ _
        rw [hlookup]
        simp
      · rw [if_neg ha]
        simp [ha]

/-- **A work is executed.**  It stays pending. -/
theorem stepped_execute (c : Calls log s os) {H : Host E} {cl : Caller}
    {found : Bool} {service : PasteboardService Uri Want}
    (hwork : (s.apps a).works[call]? = some work)
    (hdone : AsyncWork.Executed H cl found (s.apps a).objects s.service service
      work work')
    (hs' : { s.setApp a { s.apps a with
        works := (s.apps a).works.insert call
          { work' with executed := true } } with service := service }.Inv) :
    Calls log { s.setApp a { s.apps a with
        works := (s.apps a).works.insert call
          { work' with executed := true } } with service := service }
      (os ++ []) := by
  have hlookup : ∀ a' call', ((s.setApp a { s.apps a with
      works := (s.apps a).works.insert call
        { work' with executed := true } }).apps a').works[call']?
      = if (a, call) = (a', call') then some { work' with executed := true }
        else (s.apps a').works[call']? := works_setApp_insert rfl
  refine c.congr hs' (JsSystem.setApp_congr (·.calls) rfl)
    (JsSystem.setApp_congr (·.refs) rfl) ?_ ?_ rfl
  · intro k
    unfold JsSystem.Pending
    rw [hlookup]
    split
    · next h =>
        injection h with ha hcall
        rw [← ha, ← hcall, hwork]
        simp
    · rfl
  · intro a' call' w hw
    rw [hlookup] at hw
    split at hw
    · next h =>
        injection h with ha hcall
        injection hw with hw
        refine ⟨work, by rw [← ha, ← hcall, hwork], fun st hof => ?_⟩
        rw [← hw]
        exact hof.executed hdone
    · exact ⟨w, hw, fun _ hof => hof⟩

omit [ToString Uri] in
/-- The callback that is called is the one of the call. -/
theorem callback_of_work (c : Calls log s os) {st : Start Fn App}
    (hst : st ∈ log) (hopen : s.Pending st.key) (hof : work.Of st)
    {callback : Option Fn}
    (hcallback : work.callbackRef.map (fun ref => (s.apps st.app).refs[ref]?)
      = callback.map some) : st.callback.map (·.1) = callback := by
  rw [hof.callbackRef] at hcallback
  cases hcb : st.callback with
  | none =>
      rw [hcb] at hcallback
      cases callback with
      | none => rfl
      | some fn => cases hcallback
  | some x =>
      obtain ⟨fn, ref⟩ := x
      -- the reference is live, and refers to the callback
      have hlive := (c.refs st.app ref fn).mpr
        ⟨st, hst, rfl, hcb, fun _ => hopen⟩
      rw [hcb] at hcallback
      cases callback with
      | none => cases hcallback
      | some fn' =>
          injection hcallback with hcallback
          exact hlive.symm.trans hcallback

omit [ToString Uri] in
/-- **A work is completed.** -/
theorem stepped_complete (c : Calls log s os) {H : Host E} {cl : Caller}
    {found : Bool} {ending : Ending Want} {objects : JsObjects Uri Want}
    {service : PasteboardService Uri Want} {callback : Option Fn}
    {refs : References Fn} (hwork : (s.apps a).works[call]? = some work)
    (hdone : AsyncWork.Completed H cl found (s.apps a).objects objects s.service
      service work ending)
    (hcallback : work.callbackRef.map (fun ref => (s.apps a).refs[ref]?)
      = callback.map some)
    (hrefs : refs = JsApp.deleteReference (s.apps a).refs work.callbackRef)
    (hs' : { s.setApp a { s.apps a with
        objects := objects
        refs := refs
        works := (s.apps a).works.erase call } with service := service }.Inv) :
    Calls log { s.setApp a { s.apps a with
        objects := objects
        refs := refs
        works := (s.apps a).works.erase call } with service := service }
      (os ++ [.settled a call (ending.settle callback)]) := by
  obtain ⟨st, hst, hkey, hcreated, hof⟩ := c.works a call work hwork
  have happ : st.app = a := congrArg Prod.fst hkey
  have hopen : s.Pending st.key := by
    rw [hkey]
    exact pending_of_work hwork
  -- it is settled in the form the call asked for
  have hfn : st.callback.map (·.1) = callback := by
    rw [← happ] at hcallback
    exact c.callback_of_work hst hopen hof hcallback
  have hans : (ending.settle callback).Answers st := by
    rw [hdone.ending]
    exact hof.answers _ hfn
  refine c.complete hs' hst hcreated hopen hans
    (JsSystem.setApp_congr (·.calls) rfl) ?_ ?_ ?_
  · rw [hkey]
    exact works_setApp_erase rfl
  · intro a' ref
    rw [happ, ← hof.callbackRef]
    show ((s.setApp a _).apps a').refs[ref]? = _
    rw [JsSystem.setApp_apps]
    by_cases ha : a' = a
    · subst ha
      rw [if_pos rfl]
      show refs[ref]? = _
      rw [hrefs]
      -- the reference of the callback is deleted with the work
      unfold JsApp.deleteReference
      cases hr : work.callbackRef with
      | none => simp
      | some ref' =>
          show ((s.apps a').refs.erase ref')[ref]? = _
          rw [OrderedMap.getElem?_erase_eq]
          simp
    · rw [if_neg ha, if_neg fun h => ha h.1]
  · rw [hkey]
    rfl

/-- **A step starts a call, or settles one, or neither.** -/
theorem stepped (c : Calls log s os) (h : JsSystem.Stepped J s i s' os') :
    Calls (log ++ s.started i) s' (os ++ os') := by
  have hs' := c.inv.stepped h
  cases h with
  | start hstart => exact c.stepped_start hs' hstart
  | @op a op objects result hchange =>
      rw [show s.started (.op a op : JsInput E Fn App) = [] from rfl,
        List.append_nil]
      exact c.frame hs' rfl rfl rfl rfl
  | request hdone =>
      rw [show s.started (.request _ : JsInput E Fn App) = [] from rfl,
        List.append_nil]
      exact c.congr hs' (fun _ => rfl) (fun _ => rfl) (fun _ => Iff.rfl)
        (fun _ _ work hwork => ⟨work, hwork, fun _ hof => hof⟩) rfl
  | @execute a call clock found work work' service hwork hexec hdone =>
      rw [show s.started (.execute a call clock found : JsInput E Fn App) = []
        from rfl, List.append_nil]
      exact c.stepped_execute hwork hdone hs'
  | @complete a call clock found work ending objects service callback refs
      hwork hexec hdone hcallback hrefs =>
      rw [show s.started (.complete a call clock found : JsInput E Fn App) = []
        from rfl, List.append_nil]
      exact c.stepped_complete hwork hdone hcallback hrefs hs'

end Calls

/-! ## §4. Every call. -/

/-- What is true of the calls of a run. -/
structure CallsSettled {E : Ipc Uri Want} [ToString Uri] [DecidableEq App]
    (J : JsHost E App) (log : List (Start Fn App))
    (s : JsSystem Uri Want Fn App) (os : List (JsOutput Want Fn App)) :
    Prop where
  /-- A call is named by its number. -/
  named : (log.map Start.key).Nodup
  /-- A call with a work is pending and not settled, or settled once. -/
  created : ∀ st ∈ log, st.created = true →
    (s.Pending st.key ∧ JsSystem.settlements os st.key = [])
      ∨ (¬ s.Pending st.key ∧ ∃ x : Settlement Want Fn,
        JsSystem.settlements os st.key = [x] ∧ x.Answers st)
  /-- One without is never settled. -/
  uncreated : ∀ st ∈ log, st.created = false →
    ¬ s.Pending st.key ∧ JsSystem.settlements os st.key = []
  /-- Nothing else is. -/
  stranger : ∀ k, (∀ st ∈ log, st.key ≠ k) → JsSystem.settlements os k = []
  /-- The live references. -/
  refs : ∀ (a : App) (ref : NapiRef) (fn : Fn),
    (s.apps a).refs[ref]? = some fn
      ↔ ∃ st ∈ log, st.app = a ∧ st.callback = some (fn, ref)
        ∧ (st.created = true → s.Pending st.key)
  /-- A pending work can be executed, and then completed. -/
  progress : ∀ (a : App) (call : Nat) (work : AsyncWork),
    (s.apps a).works[call]? = some work → ∀ (clock : Clock) (found : Bool),
      (work.executed = false → ∃ s',
        (jsMachine J).step s (.execute a call clock found) = some (s', []))
      ∧ (work.executed = true → ∃ s' x,
        (jsMachine J).step s (.complete a call clock found)
          = some (s', [.settled a call x]))

namespace Calls

variable [DecidableEq App] {log : List (Start Fn App)}
  {s : JsSystem Uri Want Fn App} {os : List (JsOutput Want Fn App)}

omit [DecidableEq App] in
theorem key_mem_issued {st : Start Fn App} (h : st ∈ log)
    (hcreated : st.created = true) : st.key ∈ JsSystem.issued log :=
  List.mem_map_of_mem (List.mem_filter.mpr ⟨h, hcreated⟩)

/-- A ticket is a call with a work. -/
theorem of_mem_issued (c : Calls log s os) {st : Start Fn App} (h : st ∈ log)
    (hmem : st.key ∈ JsSystem.issued log) : st.created = true := by
  obtain ⟨st', hst', hkey⟩ := List.mem_map.mp hmem
  obtain ⟨hst', hcreated⟩ := List.mem_filter.mp hst'
  rw [← c.eq_of_key hst' h hkey]
  exact hcreated

theorem settled {E : Ipc Uri Want} [ToString Uri] (T : E.Faithful)
    (L : E.Lossless) (J : JsHost E App) (c : Calls log s os) :
    CallsSettled J log s os where
  named := c.nodup
  created st hst hcreated := by
    by_cases hopen : s.Pending st.key
    · exact Or.inl ⟨hopen, (c.tickets.waiting _ hopen).2⟩
    · obtain ⟨x, hx⟩ :=
        c.tickets.done _ (key_mem_issued hst hcreated) hopen
      have hmem : (st.key, x) ∈ JsSystem.closed os := by
        rw [← mem_answers, hx]
        exact List.mem_singleton.mpr rfl
      obtain ⟨st', hst', hkey, hans⟩ := c.answered _ _ hmem
      rw [c.eq_of_key hst' hst hkey] at hans
      exact Or.inr ⟨hopen, x, hx, hans⟩
  uncreated st hst hcreated := by
    have hno : st.key ∉ JsSystem.issued log := by
      intro hmem
      rw [c.of_mem_issued hst hmem] at hcreated
      cases hcreated
    exact ⟨fun hopen => hno (c.tickets.waiting _ hopen).1,
      c.tickets.stranger _ hno⟩
  stranger k hk := by
    refine c.tickets.stranger k ?_
    intro hmem
    obtain ⟨st, hst, hkey⟩ := List.mem_map.mp hmem
    exact hk st (List.mem_of_mem_filter hst) hkey
  refs := c.refs
  progress a call work hwork clock found := by
    refine ⟨fun hexec => JsSystem.execute_isSome T L c.inv hwork hexec clock
      found, fun hexec => JsSystem.complete_isSome T L c.inv hwork hexec ?_
        clock found⟩
    -- the reference of a pending call is live
    intro ref hr
    obtain ⟨st, hst, hkey, _, hof⟩ := c.works a call work hwork
    rw [hof.callbackRef] at hr
    obtain ⟨⟨fn, ref'⟩, hcb, heq⟩ := Option.map_eq_some_iff.mp hr
    change ref' = ref at heq
    subst heq
    have hopen : s.Pending st.key := by
      rw [hkey]
      exact pending_of_work hwork
    have hlive := (c.refs a ref' fn).mpr
      ⟨st, hst, congrArg Prod.fst hkey, hcb, fun _ => hopen⟩
    rw [← Std.TreeMap.isSome_getElem?_iff_mem, hlive]
    rfl

end Calls

end Pasteboard
