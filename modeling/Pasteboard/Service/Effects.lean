/-
  Pasteboard.Service.Effects
  ──────────────────────────
  **WHERE A REQUEST TAKES EFFECT**, among the turns of its handler.

    • A request takes effect in one turn: with its prologue when it takes no
      mutex, else in its critical section; one that calls the observers takes
      effect where it looks up whom to call, under both mutexes
      (`Handler.effect`).
    • Between storing a clip and looking up the observers the service is ahead
      of the atomic one (`StoreAgrees`); nobody else is under `clipMutex_`.
    • What is outside of the mutexes is not compared: the access history, the
      fields of the last copy, and the reports of sizes.
-/
import Pasteboard.Lib.Linearize
import Pasteboard.Service.Solo

namespace Pasteboard

open Lib

variable {Uri Want : Type}

/-! ## §1. Effects. -/

def Event.isCall : Event → Bool
  | .onPasteboardChanged _ _ => true
  | _ => false

/-- What a request returns. -/
inductive Returned (Uri Want : Type) where
  | unit
  | pasteData (result : Bool) (data : PasteData Uri Want)
  | hasPasteData (result : Bool)

/-- What its caller and the observers see of a request. -/
structure Effect (Uri Want : Type) where
  returned : Returned Uri Want
  calls : List Event := []

namespace ServiceOp

/-- What the atomic operation returns. -/
def returned [ToString Uri] (P : Platform) (s : PasteboardService Uri Want) :
    ServiceOp Uri Want → Returned Uri Want
  | .getPasteData c data =>
      match s.getPasteData P c data with
      | some o => .pasteData o.value.1 o.value.2
      | none => .unit
  | .hasPasteData c => .hasPasteData (s.hasPasteData P c).value
  | _ => .unit

/-- What a handler returns that takes no mutex. -/
def returnedEarly : ServiceOp Uri Want → Returned Uri Want
  | .getPasteData _ data => .pasteData false data
  | .hasPasteData _ => .hasPasteData false
  | _ => .unit

/-- What a handler reads under `clipMutex_`, and returns. -/
def readUnderClip (P : Platform) (s : PasteboardService Uri Want) :
    ServiceOp Uri Want → Returned Uri Want
  | .getPasteData c data =>
      match s.clips[P.getUserId c.uid]? with
      | some it => .pasteData true it
      | none => .pasteData false data
  | .hasPasteData c => .hasPasteData (s.clips.contains (P.getUserId c.uid))
  | _ => .unit

end ServiceOp

/-- The service as a machine that answers. -/
def atomicMachine [ToString Uri] (P : Platform) :
    Machine (PasteboardService Uri Want) (ServiceOp Uri Want)
      (Effect Uri Want) where
  step s op := (op.exec P s).map fun x =>
    (x.1, [⟨op.returned P s, x.2.filter Event.isCall⟩])

/-- The effect a handler's turn has, if it has one. -/
def Handler.effect (P : Platform) (s : PasteboardService Uri Want)
    (hd : Handler Uri Want) : Option (Effect Uri Want) :=
  match hd.pc with
  | .start =>
      match hd.op.firstMutex P with
      | none => some { returned := hd.op.returnedEarly }
      | some _ => none
  | .inClip =>
      if (hd.op.underClip P s).2 then none
      else some { returned := hd.op.readUnderClip P s }
  | .wantObserver =>
      if hd.op.callsObservers then
        some { returned := .unit, calls := s.notifyObservers }
      else none
  | .inObserver => some { returned := .unit }
  | _ => none

/-- The effects of a step of the system. -/
def System.commits (P : Platform) (sys : System Uri Want) :
    Label Uri Want → List (Commit (ServiceOp Uri Want) (Effect Uri Want))
  | .advance h =>
      match sys.table.threads[h]? with
      | none => []
      | some hd => (hd.effect P sys.service).toList.map (⟨h, hd.op, ·⟩)
  | _ => []

/-- The request has taken effect. -/
def Handler.Committed (hd : Handler Uri Want) : Prop :=
  match hd.pc with
  | .notifying _ | .waitReply _ | .leaving | .done => True
  | _ => False

/-- The handler has stored or erased a clip, and not yet looked up whom to
call. -/
def Handler.Stored (hd : Handler Uri Want) : Prop :=
  hd.pc = .wantObserver ∧ hd.op.callsObservers = true

/-- The handler is in the loop of `NotifyObservers`, with these calls to
make. -/
def Handler.Calling (hd : Handler Uri Want) (calls : List Event) : Prop :=
  hd.pc = .notifying calls ∨ hd.pc = .waitReply calls

/-! ## §2. What the phases depend on. -/

section Phases

variable {P : Platform} {s t : PasteboardService Uri Want}
  {op : ServiceOp Uri Want}

theorem underClip_congr (P : Platform) (op : ServiceOp Uri Want)
    (h : s.clips = t.clips) :
    (op.underClip P s).2 = (op.underClip P t).2
      ∧ (op.underClip P s).1.clips = (op.underClip P t).1.clips := by
  cases op with
  | setPasteData c d =>
      refine ⟨rfl, ?_⟩
      show (s.storeClip _ d).clips = (t.storeClip _ d).clips
      unfold PasteboardService.storeClip
      rw [h]
  | clear c =>
      unfold ServiceOp.underClip
      dsimp only
      rw [h]
      split
      · refine ⟨rfl, ?_⟩
        show s.clips.erase _ = t.clips.erase _
        rw [h]
      · exact ⟨rfl, h⟩
  | _ => exact ⟨rfl, h⟩

theorem underClip_observerMap :
    (op.underClip P s).1.observerMap = s.observerMap := by
  cases op with
  | clear c =>
      unfold ServiceOp.underClip
      dsimp only
      split <;> rfl
  | _ => rfl

/-- A critical section that calls nobody changes nothing. -/
theorem underClip_of_quiet (h : (op.underClip P s).2 = false) :
    (op.underClip P s).1 = s := by
  cases op with
  | setPasteData c d => cases h
  | clear c =>
      unfold ServiceOp.underClip at h ⊢
      dsimp only at h ⊢
      split at h
      · cases h
      · next hno => rw [if_neg hno]
  | _ => rfl

theorem underObserver_clips : (op.underObserver P s).clips = s.clips := by
  cases op with
  | addPasteboardChangedObserver c o =>
      cases o with
      | none => rfl
      | some o => exact (s.addPasteboardChangedObserver_spec P c o).clips
  | removePasteboardChangedObserver c o =>
      cases o with
      | none => rfl
      | some o => exact (s.removePasteboardChangedObserver_spec P c o).clips
  | removeAllChangedObserver c =>
      exact (s.removeAllChangedObserver_spec P c).clips
  | _ => rfl

theorem underObserver_congr (h : s.observerMap = t.observerMap) :
    (op.underObserver P s).observerMap
      = (op.underObserver P t).observerMap := by
  cases op with
  | addPasteboardChangedObserver c o =>
      cases o with
      | none => exact h
      | some o =>
          show (PasteboardService.addPasteboardChangedObserver P c (some o)
            s).service.observerMap = _
          unfold ServiceOp.underObserver
            PasteboardService.addPasteboardChangedObserver
          dsimp only
          -- the registry alone decides whether there is anything to do
          rw [h]
          split
          · exact h
          · rfl
  | removePasteboardChangedObserver c o =>
      cases o with
      | none => exact h
      | some o =>
          unfold ServiceOp.underObserver
            PasteboardService.removePasteboardChangedObserver
          dsimp only
          rw [h]
          split
          · exact h
          · split
            · exact h
            · rfl
  | removeAllChangedObserver c =>
      unfold ServiceOp.underObserver PasteboardService.removeAllChangedObserver
      dsimp only
      rw [h]
      split
      · exact h
      · split
        · exact h
        · rfl
  | _ => exact h

theorem notifyObservers_isCall {e : Event} (h : e ∈ s.notifyObservers) :
    e.isCall = true := by
  obtain ⟨x, _, he⟩ := List.mem_flatMap.mp h
  obtain ⟨o, _, rfl⟩ := List.mem_map.mp he
  rfl

theorem filter_notifyObservers :
    s.notifyObservers.filter Event.isCall = s.notifyObservers :=
  List.filter_eq_self.mpr fun _ he => notifyObservers_isCall he

theorem filter_reports {os : List Event} (h : PasteboardService.Reports os) :
    os.filter Event.isCall = [] := by
  rw [List.filter_eq_nil_iff]
  intro e he hcall
  cases e with
  | onPasteboardChanged u o => exact h _ he u o rfl
  | _ => cases hcall

variable [ToString Uri]

/-- **A prologue** touches neither clips nor observers, calls nobody, and is
possible for data with a size only. -/
theorem prologue_cases {x : PasteboardService Uri Want × List Event}
    (h : op.prologue P s = some x) :
    x.1.clips = s.clips ∧ x.1.observerMap = s.observerMap
      ∧ x.2.filter Event.isCall = [] ∧ op.HasSize := by
  cases op with
  | setPasteData c d =>
      obtain ⟨⟨size, hsize⟩, hclips, hobs, hrep⟩ :=
        PasteboardService.setPasteDataDot_cases h
      refine ⟨hclips, hobs, filter_reports hrep, ?_⟩
      show (PasteboardService.getDataSize d).isSome = true
      rw [hsize]
      rfl
  | getPasteData c d =>
      obtain ⟨hclips, hobs, hrep⟩ := PasteboardService.getPasteDataDot_cases h
      exact ⟨hclips, hobs, filter_reports hrep, trivial⟩
  | _ =>
      injection h with h
      subst h
      exact ⟨rfl, rfl, rfl, trivial⟩

/-- Where it is possible. -/
theorem prologue_isSome (P : Platform) (hm : s.Measurable)
    (hsize : op.HasSize) :
    ∃ x, op.prologue P s = some x := by
  rw [← Option.isSome_iff_exists]
  cases op with
  | setPasteData c d =>
      show (s.setPasteDataDot P c d).isSome = true
      rw [PasteboardService.setPasteDataDot_isSome]
      exact hsize
  | getPasteData c d => exact hm.getPasteDataDot_isSome P c
  | _ => rfl

/-- What an operation without a mutex returns. -/
theorem returned_of_firstMutex_none (h : op.firstMutex P = none)
    {x : PasteboardService Uri Want × List Event}
    (hpro : op.prologue P s = some x) :
    op.returned P s = op.returnedEarly := by
  cases op with
  | getPasteData c d =>
      have hu : P.getUserId c.uid = ERROR_USERID := ServiceOp.ifUser_eq_none h
      have hdot : s.getPasteDataDot P c = some x := hpro
      unfold ServiceOp.returned PasteboardService.getPasteData
      dsimp only
      rw [hdot]
      simp only [hu, if_true, Option.map_some]
      rfl
  | hasPasteData c =>
      have hu : P.getUserId c.uid = ERROR_USERID := ServiceOp.ifUser_eq_none h
      unfold ServiceOp.returned PasteboardService.hasPasteData
      simp only [hu, if_true]
      rfl
  | _ => rfl

/-- What an operation on the clips returns. -/
theorem returned_of_firstMutex_clip (h : op.firstMutex P = some .clipMutex)
    {x : PasteboardService Uri Want × List Event}
    (hpro : op.prologue P s = some x) :
    op.returned P s = op.readUnderClip P s := by
  cases op with
  | getPasteData c d =>
      have hu : P.getUserId c.uid ≠ ERROR_USERID := ServiceOp.ne_of_ifUser h
      have hdot : s.getPasteDataDot P c = some x := hpro
      obtain ⟨hclips, _, _⟩ := PasteboardService.getPasteDataDot_cases hdot
      unfold ServiceOp.returned PasteboardService.getPasteData
      dsimp only
      rw [hdot]
      simp only [hu, if_false, Option.map_some, hclips]
      dsimp only [ServiceOp.readUnderClip]
      cases s.clips[P.getUserId c.uid]? <;> rfl
  | hasPasteData c =>
      have hu : P.getUserId c.uid ≠ ERROR_USERID := ServiceOp.ne_of_ifUser h
      unfold ServiceOp.returned PasteboardService.hasPasteData
      simp only [hu, if_false]
      rfl
  | _ => rfl

end Phases

/-! ## §3. The atomic service beside the handlers. -/

/-- What a handler has checked on its way. -/
structure Handler.Sound [ToString Uri] (P : Platform)
    (hd : Handler Uri Want) : Prop where
  size : hd.pc ≠ .start → hd.op.HasSize
  clip : hd.pc = .wantClip ∨ hd.pc = .inClip ∨ hd.Stored →
    hd.op.firstMutex P = some .clipMutex
  observer : hd.pc = .inObserver
      ∨ hd.pc = .wantObserver ∧ hd.op.callsObservers = false →
    hd.op.firstMutex P = some .observerMutex

/-- The clips of the atomic service `t` are those of the service; but while a
handler has stored or erased a clip and not yet taken effect, the service is
ahead by its critical section. -/
structure StoreAgrees (P : Platform) (t : PasteboardService Uri Want)
    (sys : System Uri Want) : Prop where
  ahead : ∀ (h : Nat) hd, sys.table.threads[h]? = some hd → hd.Stored →
    (hd.op.underClip P t).2 = true
      ∧ (hd.op.underClip P t).1.clips = sys.service.clips
  level : (∀ (h : Nat) hd, sys.table.threads[h]? = some hd → ¬ hd.Stored) →
    t.clips = sys.service.clips

/-- The atomic service `t` is where the handlers have brought it. -/
structure Agrees [ToString Uri] (P : Platform)
    (t : PasteboardService Uri Want) (sys : System Uri Want) : Prop where
  measurable : t.Measurable
  owned : Locks.Owned Handler.holds sys.table
  sound : ∀ (h : Nat) hd, sys.table.threads[h]? = some hd → hd.Sound P
  observers : t.observerMap = sys.service.observerMap
  store : StoreAgrees P t sys

section Steps

variable {P : Platform} {t t' : PasteboardService Uri Want}
  {sys sys' : System Uri Want}

theorem StoreAgrees.of_none
    (hnone : ∀ (h : Nat) hd, sys.table.threads[h]? = some hd → ¬ hd.Stored)
    (hclips : t.clips = sys.service.clips) : StoreAgrees P t sys where
  ahead h hd hh hst := absurd hst (hnone h hd hh)
  level _ := hclips

/-- Where neither the clips change nor who has stored one. -/
theorem StoreAgrees.of_same (h : StoreAgrees P t sys)
    (ht : t'.clips = t.clips) (hs : sys'.service.clips = sys.service.clips)
    (hst : ∀ (i : Nat) (hd : Handler Uri Want), hd.Stored →
      (sys'.table.threads[i]? = some hd ↔ sys.table.threads[i]? = some hd)) :
    StoreAgrees P t' sys' where
  ahead i hd hi hstored := by
    obtain ⟨hcalls, hclips⟩ := h.ahead i hd ((hst i hd hstored).mp hi) hstored
    obtain ⟨hcalls', hclips'⟩ := underClip_congr P hd.op ht
    rw [hcalls', hclips', hs]
    exact ⟨hcalls, hclips⟩
  level hnone := by
    rw [ht, hs]
    refine h.level ?_
    intro i hd hi hstored
    exact hnone i hd ((hst i hd hstored).mpr hi) hstored

/-- A new handler has not stored anything. -/
theorem stored_spawn (op : ServiceOp Uri Want) (parent : Option Nat) (i : Nat)
    (hd : Handler Uri Want) (hst : hd.Stored) :
    (sys.table.spawn ⟨op, parent, .start⟩).threads[i]? = some hd
      ↔ sys.table.threads[i]? = some hd := by
  constructor
  · intro hi
    rcases Locks.getElem?_spawn hi with hi | hi
    · exact hi
    · subst hi
      cases hst.1
  · exact Locks.getElem?_spawn_of _

/-- A turn between two places where nothing is stored. -/
theorem stored_turn {table : Locks.Table Mutex (Handler Uri Want)} {h : Nat}
    {hd hd' : Handler Uri Want} {acquire release : Option Mutex}
    (hh : sys.table.threads[h]? = some hd)
    (hturn : sys.table.turn h hd' acquire release = some table)
    (hno : ¬ hd.Stored) (hno' : ¬ hd'.Stored) (i : Nat)
    (k : Handler Uri Want) (hst : k.Stored) :
    table.threads[i]? = some k ↔ sys.table.threads[i]? = some k := by
  constructor
  · intro hi
    rcases Locks.getElem?_turn hturn hi with ⟨_, hk⟩ | ⟨_, hi⟩
    · subst hk
      exact absurd hst hno'
    · exact hi
  · intro hi
    have hne : h ≠ i := by
      intro heq
      subst heq
      rw [hh] at hi
      injection hi with hi
      subst hi
      exact hno hst
    rw [Locks.getElem?_turn_of_ne hturn hne]
    exact hi

/-- **Nobody but the handler under `clipMutex_` has stored anything.** -/
theorem eq_of_stored (hown : Locks.Owned Handler.holds sys.table) {h i : Nat}
    {hd k : Handler Uri Want} (hh : sys.table.threads[h]? = some hd)
    (hhold : hd.holds .clipMutex) (hi : sys.table.threads[i]? = some k)
    (hst : k.Stored) : h = i := by
  refine hown.unique hh hi hhold ?_
  obtain ⟨hpc, hcalls⟩ := hst
  unfold Handler.holds
  rw [hpc]
  exact hcalls

variable [ToString Uri]

/-- **A turn keeps what the handler has checked.** -/
theorem Handler.Sound.turn {s : PasteboardService Uri Want}
    {hd : Handler Uri Want} {turn : Turn Uri Want} (h : hd.Sound P)
    (hturn : hd.turn P s = some turn) :
    Handler.Sound P { hd with pc := turn.pc } := by
  obtain ⟨op, parent, pc⟩ := hd
  unfold Handler.turn at hturn
  cases pc with
  | start =>
      obtain ⟨x, hpro, rfl⟩ := Option.map_eq_some_iff.mp hturn
      -- `SetPasteDataDot` and `GetPasteDataDot` have asked for the size by now
      obtain ⟨_, _, _, hsize⟩ := prologue_cases hpro
      refine ⟨fun _ => hsize, ?_, ?_⟩
      · intro hpc
        cases hfirst : op.firstMutex P with
        | none => simp [Handler.Stored, hfirst, Pc.ofFirst] at hpc
        | some m =>
            cases m with
            | clipMutex => rfl
            | observerMutex =>
                have hcalls := firstMutex_observer hfirst
                simp [Handler.Stored, hfirst, Pc.ofFirst, hcalls] at hpc
      · intro hpc
        cases hfirst : op.firstMutex P with
        | none => simp [hfirst, Pc.ofFirst] at hpc
        | some m =>
            cases m with
            | clipMutex => simp [hfirst, Pc.ofFirst] at hpc
            | observerMutex => rfl
  | wantClip =>
      injection hturn with hturn
      subst hturn
      exact ⟨fun _ => h.size nofun, fun _ => h.clip (Or.inl rfl), by simp⟩
  | inClip =>
      have hsize := h.size nofun
      have hclip := h.clip (Or.inr (Or.inl rfl))
      dsimp only at hturn
      split at hturn
      · next hcalls =>
          injection hturn with hturn
          subst hturn
          refine ⟨fun _ => hsize, fun _ => hclip, ?_⟩
          simp [callsObservers_of_underClip hcalls]
      · injection hturn with hturn
        subst hturn
        exact ⟨fun _ => hsize, fun _ => hclip, by simp⟩
  | wantObserver =>
      have hsize := h.size nofun
      dsimp only at hturn
      split at hturn
      · injection hturn with hturn
        subst hturn
        exact ⟨fun _ => hsize, by simp [Handler.Stored], by simp⟩
      · next hcalls =>
          injection hturn with hturn
          subst hturn
          refine ⟨fun _ => hsize, by simp [Handler.Stored], fun _ => ?_⟩
          -- it has not stored anything, so `observerMutex_` is its first mutex
          refine h.observer (Or.inr ⟨rfl, ?_⟩)
          simpa using hcalls
  | inObserver =>
      injection hturn with hturn
      subst hturn
      exact ⟨fun _ => h.size nofun, by simp [Handler.Stored], by simp⟩
  | notifying calls =>
      have hsize := h.size nofun
      cases calls with
      | nil =>
          injection hturn with hturn
          subst hturn
          exact ⟨fun _ => hsize, by simp [Handler.Stored], by simp⟩
      | cons e calls =>
          injection hturn with hturn
          subst hturn
          exact ⟨fun _ => hsize, by simp [Handler.Stored], by simp⟩
  | waitReply calls => cases hturn
  | leaving =>
      injection hturn with hturn
      subst hturn
      exact ⟨fun _ => h.size nofun, by simp [Handler.Stored], by simp⟩
  | done => cases hturn

theorem Handler.Sound.start (op : ServiceOp Uri Want) (parent : Option Nat) :
    Handler.Sound P ⟨op, parent, .start⟩ :=
  ⟨fun h => absurd rfl h, by simp [Handler.Stored], by simp⟩

theorem Handler.Sound.reply {hd : Handler Uri Want} {calls : List Event}
    (h : hd.Sound P) (hpc : hd.pc = .waitReply calls) :
    Handler.Sound P { hd with pc := .notifying calls } where
  size _ := h.size (by rw [hpc]; nofun)
  clip := by simp [Handler.Stored]
  observer := by simp

/-- Every handler is sound, in every state of every run. -/
theorem keeps_sound : (handlerMachine P).Keeps fun sys : System Uri Want =>
    ∀ (h : Nat) hd, sys.table.threads[h]? = some hd → hd.Sound P := by
  intro sys l sys' os hs hstep
  cases fires_iff.mp hstep with
  | request op =>
      intro i hd hi
      rcases Locks.getElem?_spawn hi with hi | hi
      · exact hs i hd hi
      · subst hi
        exact .start op none
  | callbackRequest op _ _ =>
      intro i hd hi
      rcases Locks.getElem?_spawn hi with hi | hi
      · exact hs i hd hi
      · subst hi
        exact .start op _
  | advance hi hturn htable =>
      intro j hd hj
      rcases Locks.getElem?_turn htable hj with ⟨_, hd⟩ | ⟨_, hj⟩
      · subst hd
        exact (hs _ _ hi).turn hturn
      · exact hs j hd hj
  | reply hi hpc _ htable =>
      intro j hd hj
      rcases Locks.getElem?_turn htable hj with ⟨_, hd⟩ | ⟨_, hj⟩
      · subst hd
        exact (hs _ _ hi).reply hpc
      · exact hs j hd hj

end Steps

end Pasteboard
