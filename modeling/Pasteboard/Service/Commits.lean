/-
  Pasteboard.Service.Commits
  ──────────────────────────
  **WHAT TAKES EFFECT IS WHAT THE ATOMIC SERVICE DOES**, turn by turn.

    • `takesEffect_turn`: a turn with an effect has that of the atomic
      operation, and a turn without one leaves the atomic service where it is.
    • `commitRule`: the handlers commit each request once, as
      `Pasteboard.Lib.Linearize` asks of a fine machine.
-/
import Pasteboard.Service.Effects

namespace Pasteboard

open Lib

variable {Uri Want : Type} [ToString Uri] {P : Platform}
  {t t' : PasteboardService Uri Want} {sys sys' : System Uri Want}

/-! ## §1. What takes effect is what the atomic service does. -/

/-- The atomic service can do what has taken effect, and is then where the
handlers have brought it. -/
def TakesEffect (P : Platform) (t : PasteboardService Uri Want)
    (op : ServiceOp Uri Want) (e : Option (Effect Uri Want))
    (sys' : System Uri Want) : Prop :=
  ∃ t', (atomicMachine P).run t (e.toList.map fun _ => op)
      = some (t', e.toList)
    ∧ t'.Measurable ∧ t'.observerMap = sys'.service.observerMap
    ∧ StoreAgrees P t' sys'

/-- A turn without an effect. -/
theorem TakesEffect.none {op : ServiceOp Uri Want} (hm : t.Measurable)
    (hobs : t.observerMap = sys'.service.observerMap)
    (hstore : StoreAgrees P t sys') : TakesEffect P t op none sys' :=
  ⟨t, rfl, hm, hobs, hstore⟩

/-- A turn with an effect: the atomic operation has the same. -/
theorem TakesEffect.some {op : ServiceOp Uri Want} {e : Effect Uri Want}
    (t' : PasteboardService Uri Want) (es : List Event) (hm : t.Measurable)
    (hexec : op.exec P t = some (t', es))
    (hret : op.returned P t = e.returned)
    (hcalls : es.filter Event.isCall = e.calls)
    (hobs : t'.observerMap = sys'.service.observerMap)
    (hstore : StoreAgrees P t' sys') :
    TakesEffect P t op (some e) sys' := by
  refine ⟨t', ?_, ServiceOp.keeps_measurable t op t' es hm hexec, hobs,
    hstore⟩
  refine (Machine.run_cons _).mpr ⟨t', [e], [], ?_, rfl, rfl⟩
  show (op.exec P t).map _ = _
  rw [hexec, Option.map_some, hret, hcalls]

variable {h : Nat} {hd : Handler Uri Want} {turn : Turn Uri Want}
  {table : Locks.Table Mutex (Handler Uri Want)}

/-- **The first turn**: an operation that takes no mutex is over. -/
theorem takesEffect_start (hag : Agrees P t sys)
    (hh : sys.table.threads[h]? = some hd) (hpc : hd.pc = .start)
    (hturn : hd.turn P sys.service = some turn)
    (htable : sys.table.turn h { hd with pc := turn.pc } turn.acquire
      turn.release = some table) :
    TakesEffect P t hd.op (hd.effect P sys.service)
      ⟨turn.service, table⟩ := by
  have hsound := ((hag.sound h hd hh).turn hturn)
  obtain ⟨op, parent, pc⟩ := hd
  have hpc' : pc = .start := hpc
  subst hpc'
  obtain ⟨x, hpro, rfl⟩ := Option.map_eq_some_iff.mp hturn
  obtain ⟨hclips, hobs, _, hsize⟩ := prologue_cases hpro
  have hno : ¬ (⟨op, parent, .start⟩ : Handler Uri Want).Stored := by
    simp [Handler.Stored]
  -- the first mutex is not the second one of a caller of the observers
  have hno' : ¬ (⟨op, parent, Pc.ofFirst (op.firstMutex P)⟩
      : Handler Uri Want).Stored := by
    intro hst
    have hcalls : op.callsObservers = true := hst.2
    have hpc : Pc.ofFirst (op.firstMutex P) = .wantObserver := hst.1
    cases hfirst : op.firstMutex P with
    | none => simp [hfirst, Pc.ofFirst] at hpc
    | some m =>
        cases m with
        | clipMutex => simp [hfirst, Pc.ofFirst] at hpc
        | observerMutex =>
            rw [firstMutex_observer hfirst] at hcalls
            cases hcalls
  have hsame := stored_turn hh htable hno hno'
  unfold Handler.effect
  dsimp only
  cases hfirst : op.firstMutex P with
  | none =>
      obtain ⟨y, hy⟩ := prologue_isSome P hag.measurable hsize
      obtain ⟨hyclips, hyobs, hycalls, _⟩ := prologue_cases hy
      refine TakesEffect.some y.1 y.2 hag.measurable ?_
        (returned_of_firstMutex_none hfirst hy) hycalls ?_ ?_
      · rw [exec_of_firstMutex_none hfirst, hy]
      · rw [hyobs, hag.observers]
        exact hobs.symm
      · exact hag.store.of_same hyclips hclips hsame
  | some m =>
      refine TakesEffect.none hag.measurable ?_ ?_
      · rw [hag.observers]
        exact hobs.symm
      · exact hag.store.of_same rfl hclips hsame

/-- **Under `clipMutex_`**: what is read is what the atomic service has; what
is stored takes effect later. -/
theorem takesEffect_inClip (hag : Agrees P t sys)
    (hh : sys.table.threads[h]? = some hd) (hpc : hd.pc = .inClip)
    (hturn : hd.turn P sys.service = some turn)
    (htable : sys.table.turn h { hd with pc := turn.pc } turn.acquire
      turn.release = some table) :
    TakesEffect P t hd.op (hd.effect P sys.service)
      ⟨turn.service, table⟩ := by
  have hsound := hag.sound h hd hh
  -- nobody else has stored anything: the atomic service is level
  have hnone : ∀ (i : Nat) k, sys.table.threads[i]? = some k →
      ¬ k.Stored := by
    intro i k hi hst
    have heq := eq_of_stored hag.owned hh (by simp [Handler.holds, hpc]) hi hst
    subst heq
    rw [hh] at hi
    injection hi with hi
    subst hi
    cases hst.1.symm.trans hpc
  have hlevel := hag.store.level hnone
  obtain ⟨op, parent, pc⟩ := hd
  have hpc' : pc = .inClip := hpc
  subst hpc'
  have hclip : op.firstMutex P = some .clipMutex :=
    hsound.clip (Or.inr (Or.inl rfl))
  have hsize : op.HasSize := hsound.size nofun
  obtain ⟨hcalls, hclips⟩ := underClip_congr P op hlevel
  unfold Handler.turn at hturn
  unfold Handler.effect
  dsimp only at hturn ⊢
  cases hcall : (op.underClip P sys.service).2 with
  | true =>
      rw [hcall, if_pos rfl] at hturn
      injection hturn with hturn
      subst hturn
      rw [if_pos rfl]
      refine TakesEffect.none hag.measurable ?_ ⟨?_, ?_⟩
      · rw [hag.observers]
        exact underClip_observerMap.symm
      · intro i k hi hst
        rcases Locks.getElem?_turn htable hi with ⟨_, hk⟩ | ⟨_, hi⟩
        · subst hk
          exact ⟨hcalls.trans hcall, hclips⟩
        · exact absurd hst (hnone i k hi)
      · intro hnone'
        -- the handler itself has just stored its clip
        refine absurd ⟨rfl, callsObservers_of_underClip hcall⟩
          (hnone' h _ (Locks.getElem?_turn_self htable hh))
  | false =>
      rw [hcall, if_neg (by decide)] at hturn
      injection hturn with hturn
      subst hturn
      rw [if_neg (by decide)]
      obtain ⟨y, hy⟩ := prologue_isSome P hag.measurable hsize
      obtain ⟨hyclips, hyobs, hycalls, _⟩ := prologue_cases hy
      have hquiet : (op.underClip P y.1).2 = false := by
        rw [(underClip_congr P op hyclips).1, hcalls, hcall]
      refine TakesEffect.some y.1 y.2 hag.measurable ?_ ?_
        hycalls ?_ ?_
      · rw [exec_of_firstMutex_clip hclip, hy, Option.map_some, hquiet,
          underClip_of_quiet hquiet]
        simp
      · rw [returned_of_firstMutex_clip hclip hy]
        unfold ServiceOp.readUnderClip
        rw [hlevel]
      · rw [hyobs, hag.observers]
        exact underClip_observerMap.symm
      · refine StoreAgrees.of_none ?_ ?_
        · intro i k hi
          rcases Locks.getElem?_turn htable hi with ⟨_, hk⟩ | ⟨_, hi⟩
          · subst hk
            simp [Handler.Stored]
          · exact hnone i k hi
        · rw [hyclips, hlevel]
          show _ = (op.underClip P sys.service).1.clips
          rw [underClip_of_quiet hcall]

/-- **Looking up whom to call**, under both mutexes: a `SetPasteData` or a
`Clear` takes effect. -/
theorem takesEffect_wantObserver (hag : Agrees P t sys)
    (hh : sys.table.threads[h]? = some hd) (hpc : hd.pc = .wantObserver)
    (hturn : hd.turn P sys.service = some turn)
    (htable : sys.table.turn h { hd with pc := turn.pc } turn.acquire
      turn.release = some table) :
    TakesEffect P t hd.op (hd.effect P sys.service)
      ⟨turn.service, table⟩ := by
  have hsound := hag.sound h hd hh
  obtain ⟨op, parent, pc⟩ := hd
  have hpc' : pc = .wantObserver := hpc
  subst hpc'
  have hsize : op.HasSize := hsound.size nofun
  unfold Handler.turn at hturn
  unfold Handler.effect
  dsimp only at hturn ⊢
  cases hcalls : op.callsObservers with
  | true =>
      rw [hcalls, if_pos rfl] at hturn
      injection hturn with hturn
      subst hturn
      rw [if_pos rfl]
      have hstored : (⟨op, parent, .wantObserver⟩ : Handler Uri Want).Stored :=
        ⟨rfl, hcalls⟩
      obtain ⟨hcall, hclips⟩ := hag.store.ahead h _ hh hstored
      have hclip : op.firstMutex P = some .clipMutex :=
        hsound.clip (Or.inr (Or.inr hstored))
      obtain ⟨y, hy⟩ := prologue_isSome P hag.measurable hsize
      obtain ⟨hyclips, hyobs, hycalls, _⟩ := prologue_cases hy
      obtain ⟨hcall', hclips'⟩ := underClip_congr P op hyclips
      -- whom the atomic operation calls is whom the handler found
      have hnotify : (op.underClip P y.1).1.notifyObservers
          = sys.service.notifyObservers := by
        refine PasteboardService.notifyObservers_congr ?_
        rw [underClip_observerMap, hyobs, hag.observers]
      refine TakesEffect.some (op.underClip P y.1).1
        (y.2 ++ sys.service.notifyObservers) hag.measurable ?_ ?_ ?_ ?_ ?_
      · rw [exec_of_firstMutex_clip hclip, hy, Option.map_some, hcall', hcall,
          if_pos rfl, hnotify]
      · cases op <;> first | rfl | cases hcalls
      · rw [List.filter_append, hycalls, filter_notifyObservers,
          List.nil_append]
      · rw [underClip_observerMap, hyobs, hag.observers]
      · refine StoreAgrees.of_none ?_ (hclips'.trans hclips)
        intro i k hi hst
        rcases Locks.getElem?_turn htable hi with ⟨_, hk⟩ | ⟨hne, hi⟩
        · subst hk
          cases hst.1
        · exact hne (eq_of_stored hag.owned hh hcalls hi hst)
  | false =>
      rw [hcalls, if_neg (by decide)] at hturn
      injection hturn with hturn
      subst hturn
      rw [if_neg (by decide)]
      refine TakesEffect.none hag.measurable hag.observers ?_
      refine hag.store.of_same rfl rfl (stored_turn hh htable ?_ ?_)
      · simp [Handler.Stored, hcalls]
      · simp [Handler.Stored]

/-- **Under `observerMutex_`**: an operation on the registries takes effect. -/
theorem takesEffect_inObserver (hag : Agrees P t sys)
    (hh : sys.table.threads[h]? = some hd) (hpc : hd.pc = .inObserver)
    (hturn : hd.turn P sys.service = some turn)
    (htable : sys.table.turn h { hd with pc := turn.pc } turn.acquire
      turn.release = some table) :
    TakesEffect P t hd.op (hd.effect P sys.service)
      ⟨turn.service, table⟩ := by
  have hsound := hag.sound h hd hh
  obtain ⟨op, parent, pc⟩ := hd
  have hpc' : pc = .inObserver := hpc
  subst hpc'
  have hfirst : op.firstMutex P = some .observerMutex :=
    hsound.observer (Or.inl rfl)
  injection hturn with hturn
  subst hturn
  refine TakesEffect.some (op.underObserver P t) [] hag.measurable
    (exec_of_firstMutex_observer hfirst).2 ?_ rfl ?_ ?_
  · cases op with
    | getPasteData c d => cases ServiceOp.ifUser_eq_some hfirst
    | hasPasteData c => cases ServiceOp.ifUser_eq_some hfirst
    | _ => rfl
  · exact underObserver_congr hag.observers
  · refine hag.store.of_same underObserver_clips underObserver_clips
      (stored_turn hh htable ?_ ?_)
    · simp [Handler.Stored]
    · simp [Handler.Stored]

/-- **Every turn has the effect the atomic operation has**, or none. -/
theorem takesEffect_turn (hag : Agrees P t sys)
    (hh : sys.table.threads[h]? = some hd)
    (hturn : hd.turn P sys.service = some turn)
    (htable : sys.table.turn h { hd with pc := turn.pc } turn.acquire
      turn.release = some table) :
    TakesEffect P t hd.op (hd.effect P sys.service)
      ⟨turn.service, table⟩ := by
  -- a turn that only takes or releases a mutex, or makes a call
  have hquiet (hs : turn.service = sys.service) (hno : ¬ hd.Stored)
      (hno' : turn.pc ≠ .wantObserver)
      (heff : hd.effect P sys.service = none) :
      TakesEffect P t hd.op (hd.effect P sys.service)
        ⟨turn.service, table⟩ := by
    rw [heff, hs]
    refine TakesEffect.none hag.measurable hag.observers ?_
    refine hag.store.of_same rfl rfl (stored_turn hh htable hno ?_)
    intro hst
    exact hno' hst.1
  cases hpc : hd.pc with
  | start => exact takesEffect_start hag hh hpc hturn htable
  | inClip => exact takesEffect_inClip hag hh hpc hturn htable
  | wantObserver => exact takesEffect_wantObserver hag hh hpc hturn htable
  | inObserver => exact takesEffect_inObserver hag hh hpc hturn htable
  | wantClip =>
      unfold Handler.turn at hturn
      rw [hpc] at hturn
      injection hturn with hturn
      subst hturn
      exact hquiet rfl (by simp [Handler.Stored, hpc]) (by simp)
        (by simp [Handler.effect, hpc])
  | notifying calls =>
      unfold Handler.turn at hturn
      rw [hpc] at hturn
      cases calls <;>
      · injection hturn with hturn
        subst hturn
        exact hquiet rfl (by simp [Handler.Stored, hpc]) (by simp)
          (by simp [Handler.effect, hpc])
  | waitReply calls =>
      unfold Handler.turn at hturn
      rw [hpc] at hturn
      cases hturn
  | leaving =>
      unfold Handler.turn at hturn
      rw [hpc] at hturn
      injection hturn with hturn
      subst hturn
      exact hquiet rfl (by simp [Handler.Stored, hpc]) (by simp)
        (by simp [Handler.effect, hpc])
  | done =>
      unfold Handler.turn at hturn
      rw [hpc] at hturn
      cases hturn

/-! ## §2. Every request takes effect once. -/

omit [ToString Uri] in
/-- A request that takes effect has not done so before. -/
theorem not_committed_of_effect {s : PasteboardService Uri Want}
    {e : Effect Uri Want} (h : hd.effect P s = some e) : ¬ hd.Committed := by
  intro hc
  unfold Handler.Committed at hc
  unfold Handler.effect at h
  split at hc
  · next hpc => simp [hpc] at h
  · next hpc => simp [hpc] at h
  · next hpc => simp [hpc] at h
  · next hpc => simp [hpc] at h
  · exact hc

/-- A turn with an effect is the one after which it has been taken. -/
theorem committed_turn {s : PasteboardService Uri Want}
    (hturn : hd.turn P s = some turn) :
    Handler.Committed { hd with pc := turn.pc }
      ↔ hd.Committed ∨ (hd.effect P s).isSome = true := by
  obtain ⟨op, parent, pc⟩ := hd
  unfold Handler.turn at hturn
  cases pc with
  | start =>
      obtain ⟨x, _, rfl⟩ := Option.map_eq_some_iff.mp hturn
      unfold Handler.Committed Handler.effect
      dsimp only
      cases hfirst : op.firstMutex P with
      -- a request that takes no mutex has its effect in its first turn
      | none => simp [Pc.ofFirst]
      | some m => cases m <;> simp [Pc.ofFirst]
  | wantClip =>
      injection hturn with hturn
      subst hturn
      simp [Handler.Committed, Handler.effect]
  | inClip =>
      dsimp only at hturn
      -- with a new clip, or without the old one, it goes on to the observers
      split at hturn
      · next hcall =>
          injection hturn with hturn
          subst hturn
          simp [Handler.Committed, Handler.effect, hcall]
      · next hcall =>
          injection hturn with hturn
          subst hturn
          simp [Handler.Committed, Handler.effect, hcall]
  | wantObserver =>
      dsimp only at hturn
      split at hturn
      · next hcall =>
          injection hturn with hturn
          subst hturn
          simp [Handler.Committed, Handler.effect, hcall]
      · next hcall =>
          injection hturn with hturn
          subst hturn
          simp [Handler.Committed, Handler.effect, hcall]
  | inObserver =>
      injection hturn with hturn
      subst hturn
      simp [Handler.Committed, Handler.effect]
  | notifying calls =>
      cases calls <;>
      · injection hturn with hturn
        subst hturn
        simp [Handler.Committed, Handler.effect]
  | waitReply calls => cases hturn
  | leaving =>
      injection hturn with hturn
      subst hturn
      simp [Handler.Committed, Handler.effect]
  | done => cases hturn

/-- Request `n` has taken effect. -/
def System.Done (sys : System Uri Want) (n : Nat) : Prop :=
  ∃ hd, sys.table.threads[n]? = some hd ∧ hd.Committed

omit [ToString Uri] in
/-- A new request has not taken effect. -/
theorem done_spawn (op : ServiceOp Uri Want) (parent : Option Nat) (n : Nat) :
    System.Done { sys with table := sys.table.spawn ⟨op, parent, .start⟩ } n
      ↔ sys.Done n := by
  constructor
  · intro hyp
    obtain ⟨hd, hn, hc⟩ := hyp
    rcases Locks.getElem?_spawn hn with hn | hn
    · exact ⟨hd, hn, hc⟩
    · subst hn
      exact hc.elim
  · intro hyp
    obtain ⟨hd, hn, hc⟩ := hyp
    exact ⟨hd, Locks.getElem?_spawn_of _ hn, hc⟩

omit [ToString Uri] in
/-- After a turn of `h`: as before, but for `h` itself. -/
theorem done_turn {hd' : Handler Uri Want} {acquire release : Option Mutex}
    {s : PasteboardService Uri Want}
    (hh : sys.table.threads[h]? = some hd)
    (htable : sys.table.turn h hd' acquire release = some table) (n : Nat) :
    System.Done ⟨s, table⟩ n
      ↔ if h = n then hd'.Committed else sys.Done n := by
  by_cases hn : h = n
  · subst hn
    rw [if_pos rfl]
    have hself := Locks.getElem?_turn_self htable hh
    constructor
    · intro hyp
      obtain ⟨k, hk, hc⟩ := hyp
      rw [hself] at hk
      injection hk with hk
      subst hk
      exact hc
    · intro hc
      exact ⟨hd', hself, hc⟩
  · rw [if_neg hn]
    show (∃ k, table.threads[n]? = some k ∧ _) ↔ _
    rw [Locks.getElem?_turn_of_ne htable hn]
    exact Iff.rfl

omit [ToString Uri] in
theorem done_self (hh : sys.table.threads[h]? = some hd) :
    sys.Done h ↔ hd.Committed := by
  constructor
  · intro hyp
    obtain ⟨k, hk, hc⟩ := hyp
    rw [hh] at hk
    injection hk with hk
    subst hk
    exact hc
  · intro hc
    exact ⟨hd, hh, hc⟩

omit [ToString Uri] in
/-- The effects of a handler's turn. -/
theorem commits_advance (hh : sys.table.threads[h]? = some hd) :
    sys.commits P (.advance h)
      = (hd.effect P sys.service).toList.map (⟨h, hd.op, ·⟩) := by
  unfold System.commits
  dsimp only
  rw [hh]

omit [ToString Uri] in
theorem ids_advance (hh : sys.table.threads[h]? = some hd) :
    (sys.commits P (.advance h)).map (·.id)
      = if (hd.effect P sys.service).isSome then [h] else [] := by
  rw [commits_advance hh]
  cases hd.effect P sys.service <;> rfl

/-- **The handlers commit as `CommitRule` asks.** -/
theorem commitRule (P : Platform) :
    CommitRule (handlerMachine P) (atomicMachine P)
      (System.commits P : System Uri Want → _) (Agrees P) System.Done where
  effect := by
    intro t sys l sys' os hag hstep
    have hown := keeps_owned sys l sys' os hag.owned hstep
    have hsound := keeps_sound sys l sys' os hag.sound hstep
    cases fires_iff.mp hstep with
    -- a new handler has stored nothing
    | request op =>
        refine ⟨t, rfl, hag.measurable, hown, hsound, hag.observers, ?_⟩
        exact hag.store.of_same rfl rfl (stored_spawn op none)
    | callbackRequest op _ _ =>
        refine ⟨t, rfl, hag.measurable, hown, hsound, hag.observers, ?_⟩
        exact hag.store.of_same rfl rfl (stored_spawn op _)
    | advance hi hturn htable =>
        obtain ⟨t', hrun, hm, hobs, hstore⟩ :=
          takesEffect_turn hag hi hturn htable
        refine ⟨t', ?_, hm, hown, hsound, hobs, hstore⟩
        rw [commits_advance hi, List.map_map, List.map_map]
        simpa [Function.comp_def] using hrun
    | reply hi hpc _ htable =>
        refine ⟨t, rfl, hag.measurable, hown, hsound, hag.observers, ?_⟩
        refine hag.store.of_same rfl rfl (stored_turn hi htable ?_ ?_)
        · simp [Handler.Stored, hpc]
        · simp [Handler.Stored]
  once := by
    intro t sys l sys' os _ hstep
    cases fires_iff.mp hstep with
    | advance hi hturn htable =>
        rw [ids_advance hi]
        split
        · next heff =>
            refine ⟨by simp, ?_⟩
            intro n hn
            rw [List.mem_singleton] at hn
            subst hn
            obtain ⟨e, he⟩ := Option.isSome_iff_exists.mp heff
            -- its own effect is still to come
            rw [done_self hi]
            exact not_committed_of_effect he
        · exact ⟨List.nodup_nil, List.forall_mem_nil _⟩
    | _ => exact ⟨List.nodup_nil, List.forall_mem_nil _⟩
  mark := by
    intro t sys l sys' os _ hstep n
    cases fires_iff.mp hstep with
    | request op =>
        rw [done_spawn]
        exact (or_iff_left List.not_mem_nil).symm
    | callbackRequest op _ _ =>
        rw [done_spawn]
        exact (or_iff_left List.not_mem_nil).symm
    | @advance h hd turn table hi hturn htable =>
        rw [done_turn hi htable, ids_advance hi, committed_turn hturn]
        by_cases hn : h = n
        · subst hn
          rw [if_pos rfl, done_self hi]
          cases (hd.effect P sys.service).isSome <;> simp
        · -- another handler is where it was
          rw [if_neg hn]
          refine (or_iff_left ?_).symm
          split
          · rw [List.mem_singleton]
            exact fun heq => hn heq.symm
          · exact List.not_mem_nil
    | @reply h hd calls table hi hpc _ htable =>
        rw [done_turn hi htable]
        by_cases hn : h = n
        · subst hn
          rw [if_pos rfl, done_self hi]
          simp [Handler.Committed, hpc]
        · rw [if_neg hn]
          exact (or_iff_left List.not_mem_nil).symm

end Pasteboard
