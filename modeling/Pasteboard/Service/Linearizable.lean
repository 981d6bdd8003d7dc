/-
  Pasteboard.Service.Linearizable
  ───────────────────────────────
  **THE HANDLERS ARE LINEARIZABLE**: requests whose handlers run at the same
  time, cut wherever `clipMutex_` or `observerMutex_` is taken or released or
  an observer is called, do what the atomic operations of
  `Pasteboard.Service.State` do, one after the other.  What precedes the first
  of these mutexes is one turn, as `Pasteboard.Service.Handlers` says.

    • `CallsAgree`: the calls of one request go out together, in the order in
      which the requests take effect.
    • `handlers_linearizable`: any order of turns, observers that issue
      requests while they are called included.

  `Pasteboard.Service.Solo` is the other direction.
-/
import Pasteboard.Data.History
import Pasteboard.Service.Commits

namespace Pasteboard

open Lib

variable {Uri Want : Type} [ToString Uri] {P : Platform}
  {sys sys' : System Uri Want} {h : Nat} {hd : Handler Uri Want}
  {turn : Turn Uri Want} {table : Locks.Table Mutex (Handler Uri Want)}

/-! ## §1. The calls of the observers. -/

/-- The calls that have gone out are those of the requests that have taken
effect, in their order, up to the `pending` calls of the handler that is in
the loop of `NotifyObservers`. -/
structure CallsAgree (sys : System Uri Want) (os : List Event)
    (commits : List (Commit (ServiceOp Uri Want) (Effect Uri Want)))
    (pending : List Event) : Prop where
  made : commits.flatMap (·.answer.calls)
    = os.filter Event.isCall ++ pending
  isCall : ∀ e ∈ pending, e.isCall = true
  calling : (∃ (h : Nat) (hd : Handler Uri Want),
      sys.table.threads[h]? = some hd ∧ hd.Calling pending)
    ∨ pending = [] ∧ ∀ (h : Nat) hd calls,
        sys.table.threads[h]? = some hd → ¬ hd.Calling calls

omit [ToString Uri] in
theorem holds_of_calling {calls : List Event} (h : hd.Calling calls) :
    hd.holds .observerMutex := by
  unfold Handler.holds
  rcases h with hpc | hpc <;> rw [hpc] <;> trivial

omit [ToString Uri] in
/-- **One handler at a time is in the loop.** -/
theorem CallsAgree.of_calling {os : List Event}
    {commits : List (Commit (ServiceOp Uri Want) (Effect Uri Want))}
    {pending calls : List Event} (hc : CallsAgree sys os commits pending)
    (hown : Locks.Owned Handler.holds sys.table)
    (hh : sys.table.threads[h]? = some hd) (hcalling : hd.Calling calls) :
    pending = calls := by
  rcases hc.calling with ⟨i, k, hi, hk⟩ | ⟨_, hno⟩
  · have heq := hown.unique hh hi (holds_of_calling hcalling)
      (holds_of_calling hk)
    subst heq
    rw [hh] at hi
    injection hi with hi
    subst hi
    rcases hk with hk | hk <;> rcases hcalling with hpc | hpc <;>
    · rw [hk] at hpc
      injection hpc
  · exact absurd hcalling (hno h hd calls hh)

omit [ToString Uri] in
/-- A step that neither calls nor looks up anybody. -/
theorem CallsAgree.quiet {os os' : List Event}
    {commits commits' : List (Commit (ServiceOp Uri Want) (Effect Uri Want))}
    {pending : List Event} (hc : CallsAgree sys os commits pending)
    (hos : os'.filter Event.isCall = [])
    (hcommits : ∀ c ∈ commits', c.answer.calls = [])
    (hst : ∀ (i : Nat) (k : Handler Uri Want) calls, k.Calling calls →
      (sys'.table.threads[i]? = some k ↔ sys.table.threads[i]? = some k)) :
    CallsAgree sys' (os ++ os') (commits ++ commits') pending where
  made := by
    have hnone : commits'.flatMap (·.answer.calls) = [] :=
      List.flatMap_eq_nil_iff.mpr hcommits
    rw [List.flatMap_append, hnone, List.append_nil, List.filter_append, hos,
      List.append_nil, hc.made]
  isCall := hc.isCall
  calling := by
    rcases hc.calling with ⟨i, k, hi, hk⟩ | ⟨hnil, hno⟩
    · exact Or.inl ⟨i, k, (hst i k pending hk).mpr hi, hk⟩
    · refine Or.inr ⟨hnil, ?_⟩
      intro i k calls hi hk
      exact hno i k calls ((hst i k calls hk).mp hi) hk

omit [ToString Uri] in
/-- A turn between two places outside of the loop. -/
theorem calling_turn {hd' : Handler Uri Want} {acquire release : Option Mutex}
    (hh : sys.table.threads[h]? = some hd)
    (htable : sys.table.turn h hd' acquire release = some table)
    (hno : ∀ calls, ¬ hd.Calling calls) (hno' : ∀ calls, ¬ hd'.Calling calls)
    (i : Nat) (k : Handler Uri Want) (calls : List Event)
    (hk : k.Calling calls) :
    table.threads[i]? = some k ↔ sys.table.threads[i]? = some k := by
  constructor
  · intro hi
    rcases Locks.getElem?_turn htable hi with ⟨_, heq⟩ | ⟨_, hi⟩
    · subst heq
      exact absurd hk (hno' calls)
    · exact hi
  · intro hi
    have hne : h ≠ i := by
      intro heq
      subst heq
      rw [hh] at hi
      injection hi with hi
      subst hi
      exact hno calls hk
    rw [Locks.getElem?_turn_of_ne htable hne]
    exact hi

section Loop

variable {service : PasteboardService Uri Want} {os calls : List Event}
  {commits commits' : List (Commit (ServiceOp Uri Want) (Effect Uri Want))}
  {pending : List Event} {hd' : Handler Uri Want} {release : Option Mutex}

omit [ToString Uri] in
/-- Into the loop: `observerMutex_` was free, so nobody was in there. -/
theorem CallsAgree.enter (hc : CallsAgree sys os commits pending)
    (hown : Locks.Owned Handler.holds sys.table)
    (htable : sys.table.turn h hd' (some .observerMutex) release = some table)
    (hself : table.threads[h]? = some hd') (hcalling : hd'.Calling calls)
    (hcommits : commits'.flatMap (·.answer.calls) = calls)
    (hcalls : ∀ e ∈ calls, e.isCall = true) :
    CallsAgree ⟨service, table⟩ (os ++ []) (commits ++ commits') calls where
  made := by
    have hfree := Locks.free_of_turn htable
    have hnil : pending = [] := by
      rcases hc.calling with ⟨i, k, hi, hk⟩ | ⟨hnil, _⟩
      · rw [hown i k hi _ (holds_of_calling hk)] at hfree
        cases hfree
      · exact hnil
    rw [List.flatMap_append, hcommits, hc.made, hnil, List.append_nil,
      List.append_nil]
  isCall := hcalls
  calling := Or.inl ⟨h, hd', hself, hcalling⟩

omit [ToString Uri] in
/-- A round of the loop: the first of the pending calls is made. -/
theorem CallsAgree.call {e : Event}
    (hc : CallsAgree sys os commits (e :: pending))
    (hself : table.threads[h]? = some hd') (hcalling : hd'.Calling pending) :
    CallsAgree ⟨service, table⟩ (os ++ [e]) (commits ++ []) pending where
  made := by
    have hcall : e.isCall = true := hc.isCall e List.mem_cons_self
    rw [List.append_nil, hc.made, List.filter_append, List.append_assoc,
      List.filter_cons_of_pos hcall]
    rfl
  isCall := fun e' he' => hc.isCall e' (List.mem_cons_of_mem _ he')
  calling := Or.inl ⟨h, hd', hself, hcalling⟩

omit [ToString Uri] in
/-- Out of the loop, which then is empty. -/
theorem CallsAgree.leave {acquire : Option Mutex}
    (hc : CallsAgree sys os commits [])
    (hown : Locks.Owned Handler.holds sys.table)
    (hh : sys.table.threads[h]? = some hd) (hcalling : hd.Calling [])
    (htable : sys.table.turn h hd' acquire release = some table)
    (hno' : ∀ calls, ¬ hd'.Calling calls) :
    CallsAgree ⟨service, table⟩ (os ++ []) (commits ++ []) [] where
  made := by
    rw [List.append_nil os, List.append_nil commits]
    exact hc.made
  isCall := List.forall_mem_nil _
  calling := by
    refine Or.inr ⟨rfl, ?_⟩
    intro i k calls hi hk
    rcases Locks.getElem?_turn htable hi with ⟨_, heq⟩ | ⟨hne, hi⟩
    · subst heq
      exact hno' calls hk
    · exact hne (hown.unique hh hi (holds_of_calling hcalling)
        (holds_of_calling hk))

end Loop

/-- **What a turn adds to the calls**, and to those still to be made. -/
theorem CallsAgree.of_turn {os : List Event}
    {commits : List (Commit (ServiceOp Uri Want) (Effect Uri Want))}
    {pending : List Event} (hc : CallsAgree sys os commits pending)
    (hown : Locks.Owned Handler.holds sys.table)
    (hh : sys.table.threads[h]? = some hd)
    (hturn : hd.turn P sys.service = some turn)
    (htable : sys.table.turn h { hd with pc := turn.pc } turn.acquire
      turn.release = some table) :
    ∃ pending', CallsAgree ⟨turn.service, table⟩ (os ++ turn.outputs)
      (commits ++ sys.commits P (.advance h)) pending' := by
  have hself := Locks.getElem?_turn_self htable hh
  rw [commits_advance hh]
  -- a turn outside of the loop
  have hquiet (hno : ∀ calls, ¬ hd.Calling calls)
      (hno' : ∀ calls, ¬ Handler.Calling { hd with pc := turn.pc } calls)
      (hos : turn.outputs.filter Event.isCall = [])
      (heff : ∀ e, hd.effect P sys.service = some e → e.calls = []) :
      ∃ pending', CallsAgree ⟨turn.service, table⟩ (os ++ turn.outputs)
        (commits ++ (hd.effect P sys.service).toList.map (⟨h, hd.op, ·⟩))
        pending' := by
    refine ⟨pending, hc.quiet hos ?_ (calling_turn hh htable hno hno')⟩
    intro c hmem
    obtain ⟨e, he, rfl⟩ := List.mem_map.mp hmem
    exact heff e (Option.mem_toList.mp he)
  obtain ⟨op, parent, pc⟩ := hd
  unfold Handler.turn at hturn
  cases pc with
  | start =>
      obtain ⟨x, hpro, rfl⟩ := Option.map_eq_some_iff.mp hturn
      obtain ⟨_, _, hos, _⟩ := prologue_cases hpro
      refine hquiet (by simp [Handler.Calling]) ?_ hos ?_
      · intro calls
        cases hfirst : op.firstMutex P with
        | none => simp [Handler.Calling, Pc.ofFirst]
        | some m => cases m <;> simp [Handler.Calling, Pc.ofFirst]
      · intro e he
        cases hfirst : op.firstMutex P with
        | none =>
            simp only [Handler.effect, hfirst, Option.some.injEq] at he
            rw [← he]
        | some m => simp [Handler.effect, hfirst] at he
  | wantClip =>
      injection hturn with hturn
      subst hturn
      exact hquiet (by simp [Handler.Calling]) (by simp [Handler.Calling]) rfl
        (by simp [Handler.effect])
  | inClip =>
      have heff : ∀ e, (⟨op, parent, .inClip⟩ : Handler Uri Want).effect P
          sys.service = some e → e.calls = [] := by
        intro e he
        simp only [Handler.effect] at he
        split at he
        · cases he
        · injection he with he
          rw [← he]
      dsimp only at hturn
      split at hturn <;>
      · injection hturn with hturn
        subst hturn
        exact hquiet (by simp [Handler.Calling]) (by simp [Handler.Calling])
          rfl heff
  | wantObserver =>
      dsimp only at hturn
      split at hturn
      · next hcalls =>
          injection hturn with hturn
          subst hturn
          refine ⟨_, hc.enter hown htable hself (Or.inl rfl) ?_
            fun e he => notifyObservers_isCall he⟩
          simp [Handler.effect, hcalls]
      · next hcalls =>
          injection hturn with hturn
          subst hturn
          exact hquiet (by simp [Handler.Calling]) (by simp [Handler.Calling])
            rfl (by simp [Handler.effect, hcalls])
  | inObserver =>
      injection hturn with hturn
      subst hturn
      refine hquiet (by simp [Handler.Calling]) (by simp [Handler.Calling])
        rfl ?_
      intro e he
      injection he with he
      rw [← he]
  | notifying calls =>
      have hpending : pending = calls :=
        hc.of_calling hown hh (Or.inl rfl)
      subst hpending
      cases pending with
      | nil =>
          injection hturn with hturn
          subst hturn
          exact ⟨[], hc.leave hown hh (Or.inl rfl) htable
            (by simp [Handler.Calling])⟩
      | cons e calls =>
          injection hturn with hturn
          subst hturn
          exact ⟨calls, hc.call hself (Or.inr rfl)⟩
  | waitReply calls => cases hturn
  | leaving =>
      injection hturn with hturn
      subst hturn
      exact hquiet (by simp [Handler.Calling]) (by simp [Handler.Calling]) rfl
        (by simp [Handler.effect])
  | done => cases hturn

/-- **Every step keeps the calls in order.** -/
theorem CallsAgree.step {os os' : List Event} {l : Label Uri Want}
    {commits : List (Commit (ServiceOp Uri Want) (Effect Uri Want))}
    {pending : List Event} (hc : CallsAgree sys os commits pending)
    (hown : Locks.Owned Handler.holds sys.table)
    (hstep : (handlerMachine P).step sys l = some (sys', os')) :
    ∃ pending', CallsAgree sys' (os ++ os') (commits ++ sys.commits P l)
      pending' := by
  have hspawn (op : ServiceOp Uri Want) (parent : Option Nat) (i : Nat)
      (k : Handler Uri Want) (calls : List Event) (hk : k.Calling calls) :
      (sys.table.spawn ⟨op, parent, .start⟩).threads[i]? = some k
        ↔ sys.table.threads[i]? = some k := by
    refine ⟨?_, Locks.getElem?_spawn_of _⟩
    intro hi
    rcases Locks.getElem?_spawn hi with hi | hi
    · exact hi
    · subst hi
      rcases hk with hk | hk <;> cases hk
  cases fires_iff.mp hstep with
  | request op =>
      exact ⟨pending, hc.quiet rfl (fun c hc => by cases hc) (hspawn op none)⟩
  | callbackRequest op _ _ =>
      exact ⟨pending, hc.quiet rfl (fun c hc => by cases hc) (hspawn op _)⟩
  | advance hi hturn htable => exact hc.of_turn hown hi hturn htable
  | @reply h hd calls table hi hpc _ htable =>
      -- the handler that waited goes on with the same calls
      have hpending := hc.of_calling hown hi (Or.inr hpc)
      subst hpending
      have hself := Locks.getElem?_turn_self htable hi
      refine ⟨pending, ?_, hc.isCall, ?_⟩
      · show (commits ++ []).flatMap _ = (os ++ []).filter _ ++ _
        rw [List.append_nil, List.append_nil, hc.made]
      · exact Or.inl ⟨h, _, hself, Or.inl rfl⟩

/-! ## §2. Linearizability. -/

omit [ToString Uri] in
/-- Nobody is in a critical section where no mutex is held. -/
theorem not_holds_of_free (hown : Locks.Owned Handler.holds sys.table)
    (hfree : ∀ m, sys.table.holder m = none) {i : Nat}
    (hi : sys.table.threads[i]? = some hd) (m : Mutex) : ¬ hd.holds m := by
  intro hm
  have hheld := hown i hd hi m hm
  rw [hfree m] at hheld
  cases hheld

/-- The threads keep their requests. -/
theorem op_of_step {l : Label Uri Want} {os : List Event}
    (hstep : (handlerMachine P).step sys l = some (sys', os)) {n : Nat}
    (hn : sys.table.threads[n]? = some hd) :
    ∃ hd', sys'.table.threads[n]? = some hd' ∧ hd'.op = hd.op := by
  have hturn {i : Nat} {k : Handler Uri Want} {acquire release}
      {table : Locks.Table Mutex (Handler Uri Want)} (k' : Handler Uri Want)
      (hi : sys.table.threads[i]? = some k) (hop : k'.op = k.op)
      (htable : sys.table.turn i k' acquire release = some table) :
      ∃ hd', table.threads[n]? = some hd' ∧ hd'.op = hd.op := by
    by_cases hin : i = n
    · subst hin
      rw [hi] at hn
      injection hn with hn
      subst hn
      exact ⟨k', Locks.getElem?_turn_self htable hi, hop⟩
    · exact ⟨hd, by rw [Locks.getElem?_turn_of_ne htable hin, hn], rfl⟩
  cases fires_iff.mp hstep with
  | request op => exact ⟨hd, Locks.getElem?_spawn_of _ hn, rfl⟩
  | callbackRequest op _ _ => exact ⟨hd, Locks.getElem?_spawn_of _ hn, rfl⟩
  | @advance i k turn table hi _ htable =>
      exact hturn { k with pc := turn.pc } hi rfl htable
  | @reply i k calls table hi _ _ htable =>
      exact hturn { k with pc := .notifying calls } hi rfl htable

/-- A commit is of the request of its handler. -/
theorem own_step {l : Label Uri Want} {os : List Event}
    (hstep : (handlerMachine P).step sys l = some (sys', os))
    {c : Commit (ServiceOp Uri Want) (Effect Uri Want)}
    (hc : c ∈ sys.commits P l) :
    ∃ hd, sys'.table.threads[c.id]? = some hd ∧ hd.op = c.op := by
  cases fires_iff.mp hstep with
  | advance hi _ htable =>
      rw [commits_advance hi] at hc
      obtain ⟨e, _, rfl⟩ := List.mem_map.mp hc
      exact ⟨_, Locks.getElem?_turn_self htable hi, rfl⟩
  | _ => cases hc

/-- **The requests of the run `ls`, in the order of `commits`, are what the
atomic service does**: with the same answers and the same calls of observers;
each request once; and a request that is over before another is made comes
before it. -/
structure Linearization (P : Platform) (ls : List (Label Uri Want))
    (sys : System Uri Want) (os : List Event)
    (commits : List (Commit (ServiceOp Uri Want) (Effect Uri Want))) :
    Prop where
  /-- The atomic service answers as the handlers do, and holds what the
  service holds where nobody is in a critical section. -/
  atomic : ∃ s, (atomicMachine P).run {} (commits.map (·.op))
      = some (s, commits.map (·.answer))
    ∧ s.observerMap = sys.service.observerMap
    ∧ ((∀ m, sys.table.holder m = none) → s.clips = sys.service.clips)
  once : (commits.map (·.id)).Nodup
  own : ∀ c ∈ commits, ∃ hd : Handler Uri Want,
    sys.table.threads[c.id]? = some hd ∧ hd.op = c.op
  finished : ∀ (h : Nat) hd, sys.table.threads[h]? = some hd →
    hd.pc = .done → h ∈ commits.map (·.id)
  /-- At every moment of the run, the requests that are over come first, and
  those not yet made come last. -/
  inTime : ∀ pre post sys₁ os₁, ls = pre ++ post →
    (handlerMachine P).run {} pre = some (sys₁, os₁) →
    ∃ before after, commits = before ++ after
      ∧ (∀ c ∈ before, c.id < sys₁.table.threads.length)
      ∧ ∀ (h : Nat) hd, sys₁.table.threads[h]? = some hd → hd.pc = .done →
        h ∈ before.map (·.id)
  /-- The observers have been called in this order, the calls of one request
  together. -/
  calls : ∃ pending, commits.flatMap (·.answer.calls)
      = os.filter Event.isCall ++ pending
    ∧ ((∀ m, sys.table.holder m = none) → pending = [])

theorem agrees_empty : Agrees P {} ({} : System Uri Want) where
  measurable := PasteboardService.measurable_empty
  owned := Locks.owned_empty
  sound h hd hh := by cases hh
  observers := rfl
  store := .of_none (fun h hd hh => by cases hh) rfl

omit [ToString Uri] in
theorem callsAgree_empty : CallsAgree ({} : System Uri Want) [] [] [] where
  made := rfl
  isCall := nofun
  calling := Or.inr ⟨rfl, fun h hd calls hh => by cases hh⟩

omit [ToString Uri] in
theorem not_done_empty (n : Nat) : ¬ ({} : System Uri Want).Done n := by
  intro hyp
  obtain ⟨hd, hn, _⟩ := hyp
  cases hn

omit [ToString Uri] in
theorem done_of_pc {n : Nat} (hn : sys.table.threads[n]? = some hd)
    (hpc : hd.pc = .done) : sys.Done n := by
  refine ⟨hd, hn, ?_⟩
  unfold Handler.Committed
  rw [hpc]
  trivial

/-- What the run has left of calls and requests. -/
theorem logged_history (ls : List (Label Uri Want)) {os : List Event}
    (hrun : (handlerMachine P).run {} ls = some (sys, os)) :
    (∃ pending, CallsAgree sys os
        ((handlerMachine P).logged (System.commits P) {} ls) pending)
      ∧ ∀ c ∈ (handlerMachine P).logged (System.commits P) {} ls,
        ∃ hd : Handler Uri Want,
          sys.table.threads[c.id]? = some hd ∧ hd.op = c.op := by
  have hinv := (handlerMachine P).run_history
    (fun ls sys os => (handlerMachine P).run {} ls = some (sys, os)
      ∧ (∃ pending, CallsAgree sys os
          ((handlerMachine P).logged (System.commits P) {} ls) pending)
      ∧ ∀ c ∈ (handlerMachine P).logged (System.commits P) {} ls,
        ∃ hd : Handler Uri Want,
          sys.table.threads[c.id]? = some hd ∧ hd.op = c.op)
    ⟨rfl, ⟨[], callsAgree_empty⟩, fun c hc => by cases hc⟩ ?_ ls hrun
  · exact hinv.2
  · intro pre s₁ os₁ l s₂ os₂ hyp hstep
    obtain ⟨hpre, ⟨pending, hcalls⟩, hown⟩ := hyp
    refine ⟨Machine.run_concat _ hpre hstep, ?_⟩
    rw [Machine.logged_concat hpre hstep]
    refine ⟨hcalls.step (run_owned hpre) hstep, ?_⟩
    intro c hc
    rcases List.mem_append.mp hc with hc | hc
    · obtain ⟨hd, hn, hop⟩ := hown c hc
      obtain ⟨hd', hn', hop'⟩ := op_of_step hstep hn
      exact ⟨hd', hn', hop'.trans hop⟩
    · exact own_step hstep hc

/-- **The handlers are linearizable.**  Whatever the order of their turns, and
whatever the observers request meanwhile. -/
theorem handlers_linearizable (P : Platform) (ls : List (Label Uri Want))
    (sys : System Uri Want) (os : List Event)
    (hrun : (handlerMachine P).run {} ls = some (sys, os)) :
    Linearization P ls sys os
      ((handlerMachine P).logged (System.commits P) {} ls) := by
  have hserved := (commitRule P).run agrees_empty not_done_empty hrun
  obtain ⟨⟨pending, hcalls⟩, hown⟩ := logged_history ls hrun
  obtain ⟨s, hatomic, hag⟩ := hserved.atomic
  have howned := hag.owned
  constructor
  · refine ⟨s, hatomic, hag.observers, ?_⟩
    intro hfree
    refine hag.store.level ?_
    intro i hd hi hst
    refine not_holds_of_free howned hfree hi .clipMutex ?_
    unfold Handler.holds
    rw [hst.1]
    exact hst.2
  · exact hserved.nodup
  · exact hown
  · intro h hd hh hpc
    exact (hserved.done h).mpr (done_of_pc hh hpc)
  · intro pre post sys₁ os₁ heq hpre
    subst heq
    obtain ⟨before, after, hlog, hbefore, _⟩ :=
      (commitRule P).order agrees_empty not_done_empty hpre hrun
    refine ⟨before, after, hlog, ?_, ?_⟩
    · intro c hc
      obtain ⟨hd, hn, _⟩ := (hbefore c.id).mp (List.mem_map_of_mem hc)
      exact (List.getElem?_eq_some_iff.mp hn).1
    · intro h hd hh hpc
      exact (hbefore h).mpr (done_of_pc hh hpc)
  · refine ⟨pending, hcalls.made, ?_⟩
    intro hfree
    rcases hcalls.calling with ⟨i, hd, hi, hcalling⟩ | ⟨hnil, _⟩
    · exact absurd (holds_of_calling hcalling)
        (not_holds_of_free howned hfree hi _)
    · exact hnil

/-! ## §3. Requests at once. -/

/-- A caller the account manager knows no user of. -/
def callerOfNobody : Caller := ⟨-1, ⟨none, 0⟩⟩

/-- The user 100 has an observer (handler 0) and a clip (handler 1).  A copy
(handler 2) and a paste (handler 3) overlap, and both wait for `clipMutex_`;
from inside the call of the copy a process without a user id pastes
(handler 4). -/
def overlappingRequests : List (Label String String) :=
  [.request (.addPasteboardChangedObserver callerOf100 (some 7)),
    .advance 0, .advance 0, .advance 0,
    .request (.setPasteData callerOf100
      (PasteboardClient.createPlainTextData "a")),
    .advance 1, .advance 1, .advance 1, .advance 1, .advance 1, .reply 1,
    .advance 1, .advance 1,
    .request (.setPasteData callerOf100
      (PasteboardClient.createHtmlData "b")),
    .request (.getPasteData callerOf100 {}),
    .advance 3, .advance 2, .advance 2, .advance 2, .advance 2, .advance 2,
    .callbackRequest 2 (.getPasteData callerOfNobody {}),
    .advance 4, .reply 2, .advance 2, .advance 2,
    .advance 3, .advance 3]

/-- All five are over, the copy before the paste it overlaps, and each copy has
called the observer. -/
theorem handlers_linearizable_overlapping :
    ∃ sys os, (handlerMachine samplePlatform).run {} overlappingRequests
        = some (sys, os)
      ∧ os.filter Event.isCall
        = [.onPasteboardChanged 100 7, .onPasteboardChanged 100 7]
      ∧ ((handlerMachine samplePlatform).logged
          (System.commits samplePlatform) {} overlappingRequests).map (·.id)
        = [0, 1, 2, 4, 3]
      ∧ Linearization samplePlatform overlappingRequests sys os
        ((handlerMachine samplePlatform).logged
          (System.commits samplePlatform) {} overlappingRequests) := by
  have hcalls : ((handlerMachine samplePlatform).run
      ({} : System String String) overlappingRequests).map
        (fun x => x.2.filter Event.isCall)
      = some [.onPasteboardChanged 100 7, .onPasteboardChanged 100 7] := by
    decide +kernel
  obtain ⟨⟨sys, os⟩, hrun, hos⟩ := Option.map_eq_some_iff.mp hcalls
  exact ⟨sys, os, hrun, hos, by decide +kernel,
    handlers_linearizable samplePlatform overlappingRequests sys os hrun⟩

end Pasteboard
