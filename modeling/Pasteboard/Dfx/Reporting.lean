/-
  Pasteboard.Dfx.Reporting
  ────────────────────────
  **FROM A REQUEST TO ITS REPORT**: the service with the stopwatch of its
  requests (`calculate_time_consuming.cpp`), the timer thread, and the two
  reporters they feed.

    • `requests_reported_daily`: a flush of the behaviour shows the requests
      since the last one, under the names of their callers; and none of them is
      older than a day, but for the delays of the thread.

  A request is one step here.  Each reporter has a mutex of its own, so that
  requests which overlap count in the order of their reports.
-/
import Mathlib.Data.List.Forall2
import Pasteboard.Data.History
import Pasteboard.Lib.Compose
import Pasteboard.Service.Ops
import Pasteboard.Dfx.TimeConsuming
import Pasteboard.Dfx.Statistics
import Pasteboard.Dfx.Behaviour
import Pasteboard.Dfx.Timer

namespace Pasteboard

open Lib HiViewAdapter

variable {Uri Want : Type}

/-! ## §1. The stopwatch. -/

/-- What `gettimeofday` writes. -/
structure TimeVal where
  tv_sec : Int
  tv_usec : Int
  deriving DecidableEq, Repr

structure CalculateTimeConsuming where
  lastTime : Nat
  pasteboardData : Int
  pasteboardState : Int
  deriving DecidableEq, Repr

namespace CalculateTimeConsuming

/-- Milliseconds, whatever the name says, in a `uint64_t`. -/
def getCurrentTimeMicros (tv : TimeVal) : Nat :=
  ((tv.tv_sec * 1000 + tv.tv_usec.tdiv 1000) % 18446744073709551616).toNat

/-- The constructor. -/
def construct (calPasteboardData : Nat) (calPasteboardState : Int)
    (tv : TimeVal) : CalculateTimeConsuming where
  lastTime := getCurrentTimeMicros tv
  pasteboardData := calculateData calPasteboardData
  pasteboardState := calPasteboardState

/-- The destructor, and what it reports: a difference of `uint64_t`s. -/
def destruct (t : CalculateTimeConsuming) (tv : TimeVal) :
    TimeConsumingStat :=
  let delta := (getCurrentTimeMicros tv + (18446744073709551616 - t.lastTime))
    % 18446744073709551616
  ⟨t.pasteboardState, t.pasteboardData, calculateTime delta⟩

end CalculateTimeConsuming

/-! ## §2. The service, the thread and the reporters. -/

/-- An operation, the platform it is carried out on, and the times its
stopwatch reads, if it has one. -/
structure TimedRequest (Uri Want : Type) where
  platform : Platform
  op : ServiceOp Uri Want
  start : TimeVal
  stop : TimeVal

namespace TimedRequest

/-- What the stopwatch of a request reports of a size and a state. -/
def stat (r : TimedRequest Uri Want) (size : Nat) (state : Int) :
    TimeConsumingStat :=
  (CalculateTimeConsuming.construct size state r.start).destruct r.stop

/-- What an event of a request is for the two reporters. -/
def report (r : TimedRequest Uri Want) :
    Event → List (BehaviourInput ⊕ StatInput)
  | .onPasteboardChanged _ _ => []
  | .pasteboardBehaviour pasteboardState appId =>
      [.inl (.reportPasteboardBehaviour ⟨pasteboardState, appId⟩)]
  | .timeConsuming calPasteboardData calPasteboardState =>
      [.inr (.reportTimeConsumingStatistic
        (r.stat calPasteboardData calPasteboardState))]

end TimedRequest

/-- What a flush of the thread is for them. -/
def TimerEvent.report : TimerEvent → BehaviourInput ⊕ StatInput
  | .invokePasteBoardBehaviour _ => .inl .invokePasteBoardBehaviour
  | .invokeTimeConsuming _ => .inr .invokeTimeConsuming

/-- The service, whose events stay with their request. -/
def requestMachine [ToString Uri] :
    Machine (PasteboardService Uri Want) (TimedRequest Uri Want)
      (TimedRequest Uri Want × Event) where
  step s r :=
    (r.op.exec r.platform s).map fun y => (y.1, y.2.map fun e => (r, e))

/-- Requests and the timer thread, in any order. -/
def sourceMachine [ToString Uri] :
    Machine (PasteboardService Uri Want × TimerThread)
      (TimedRequest Uri Want ⊕ TimerInput)
      ((TimedRequest Uri Want × Event) ⊕ TimerEvent) :=
  requestMachine.par timerMachine

def deliver : (TimedRequest Uri Want × Event) ⊕ TimerEvent →
    List (BehaviourInput ⊕ StatInput)
  | .inl x => x.1.report x.2
  | .inr e => [e.report]

/-- All of it: what the requests and the thread put out goes to the
reporters. -/
def reportingMachine [ToString Uri] (S : StdSort) :
    Machine ((PasteboardService Uri Want × TimerThread)
        × (Behaviour × Statistics))
      (TimedRequest Uri Want ⊕ TimerInput)
      (((TimedRequest Uri Want × Event) ⊕ TimerEvent)
        ⊕ (SysEvent ⊕ SysEvent)) :=
  sourceMachine.feed deliver ((behaviourMachine S).par statisticsMachine)

/-- The start, at the time `t₀`. -/
def reportingStart (t₀ : Nat) (zone : Int) :
    (PasteboardService Uri Want × TimerThread) × (Behaviour × Statistics) :=
  (({}, .start t₀ zone), ({}, {}))

/-! ## §3. What a request reports. -/

namespace ServiceOp

/-- The behaviour an operation reports, whoever calls. -/
def behaviour (P : Platform) :
    ServiceOp Uri Want → Option PasteboardBehaviourMsg
  | .setPasteData c _ => some ⟨BPS_COPY_STATE, P.bundleName c.uid⟩
  | .getPasteData c _ => some ⟨BPS_PASTE_STATE, P.bundleName c.uid⟩
  | _ => none

/-- The size and the state it measures: the size of the data of a copy, that
of the last clip of all users for a paste. -/
def measured [ToString Uri] (s : PasteboardService Uri Want) :
    ServiceOp Uri Want → Option (Nat × Int)
  | .setPasteData _ pasteData =>
      (PasteboardService.getDataSize pasteData).map fun n =>
        (n, SPS_COPY_STATE)
  | .getPasteData _ _ =>
      (s.lastClip.bind PasteboardService.getDataSize).map fun n =>
        (n, SPS_PASTE_STATE)
  | _ => none

end ServiceOp

/-- The calls of observers are no reports. -/
theorem flatMap_report_calls (r : TimedRequest Uri Want)
    (s : PasteboardService Uri Want) :
    s.notifyObservers.flatMap r.report = [] := by
  rw [List.flatMap_eq_nil_iff]
  intro e he
  obtain ⟨observers, _, he⟩ := List.mem_flatMap.mp he
  obtain ⟨observer, _, rfl⟩ := List.mem_map.mp he
  rfl

/-- What the events of an operation are for the two reporters. -/
structure ReportsOf [ToString Uri] (r : TimedRequest Uri Want)
    (s : PasteboardService Uri Want) (os : List Event) : Prop where
  behaviour : lefts (os.flatMap r.report)
    = (r.op.behaviour r.platform).toList.map .reportPasteboardBehaviour
  statistic : rights (os.flatMap r.report)
    = (r.op.measured s).toList.map fun m =>
        .reportTimeConsumingStatistic (r.stat m.1 m.2)

section Requests

variable [ToString Uri] {r : TimedRequest Uri Want}
  {s s' : PasteboardService Uri Want} {os : List Event}

/-- An operation without a report. -/
theorem ReportsOf.of_calls (hb : r.op.behaviour r.platform = none)
    (hm : r.op.measured s = none) (hos : os.flatMap r.report = []) :
    ReportsOf r s os where
  behaviour := by
    rw [hos, hb]
    rfl
  statistic := by
    rw [hos, hm]
    rfl

theorem reportsOf_set {c : Caller} {d : PasteData Uri Want}
    (hop : r.op = .setPasteData c d)
    (h : r.op.exec r.platform s = some (s', os)) : ReportsOf r s os := by
  rw [hop] at h
  obtain ⟨o, ho, _, hos⟩ := Outcome.of_map_step h
  obtain ⟨x, hx, ho⟩ := Option.map_eq_some_iff.mp ho
  obtain ⟨size, hsize, hx⟩ := Option.map_eq_some_iff.mp hx
  -- after the two reports come the calls of observers, if any
  have hevents : ∃ calls, calls.flatMap r.report = [] ∧ os
      = [.pasteboardBehaviour BPS_COPY_STATE (r.platform.bundleName c.uid),
          .timeConsuming size SPS_COPY_STATE] ++ calls := by
    subst hos ho hx
    split
    · exact ⟨[], rfl, rfl⟩
    · exact ⟨_, flatMap_report_calls r _, rfl⟩
  obtain ⟨calls, hcalls, rfl⟩ := hevents
  have hmeasured : r.op.measured s = some (size, SPS_COPY_STATE) := by
    rw [hop]
    show (PasteboardService.getDataSize d).map _ = _
    rw [hsize]
    rfl
  constructor
  · rw [List.flatMap_append, hcalls, hop]
    rfl
  · rw [List.flatMap_append, hcalls, hmeasured]
    rfl

theorem reportsOf_get {c : Caller} {d : PasteData Uri Want}
    (hop : r.op = .getPasteData c d)
    (h : r.op.exec r.platform s = some (s', os)) : ReportsOf r s os := by
  rw [hop] at h
  obtain ⟨o, ho, _, hos⟩ := Outcome.of_map_step h
  obtain ⟨x, hx, ho⟩ := Option.map_eq_some_iff.mp ho
  have hevents : os = x.2 := by
    subst hos ho
    split
    · rfl
    · split <;> rfl
  subst hevents
  have hlast : (s.setPasteboardHistory r.platform c.uid "Get"
      (getTime c.clock)).lastClip = s.lastClip := rfl
  unfold PasteboardService.getPasteDataDot at hx
  dsimp only at hx
  -- `GetPasteDataDot` looks at the last clip, of whatever user
  rw [hlast] at hx
  have hbehaviour : r.op.behaviour r.platform
      = some ⟨BPS_PASTE_STATE, r.platform.bundleName c.uid⟩ := by
    rw [hop]
    rfl
  have hmeasured : r.op.measured s
      = (s.lastClip.bind PasteboardService.getDataSize).map fun n =>
          (n, SPS_PASTE_STATE) := by
    rw [hop]
    rfl
  cases hclip : s.lastClip with
  | none =>
      rw [hclip] at hx
      -- no clip at all: the behaviour is reported, and no size
      injection hx with hx
      subst hx
      constructor
      · rw [hbehaviour]
        rfl
      · rw [hmeasured, hclip]
        rfl
  | some data =>
      rw [hclip] at hx
      obtain ⟨size, hsize, hx⟩ := Option.map_eq_some_iff.mp hx
      subst hx
      constructor
      · rw [hbehaviour]
        rfl
      · rw [hmeasured, hclip, Option.bind_some, hsize]
        rfl

/-- **A request reports its behaviour once and its measure once**, if it has
any. -/
theorem reportsOf_exec (h : r.op.exec r.platform s = some (s', os)) :
    ReportsOf r s os := by
  cases hop : r.op with
  | setPasteData c d => exact reportsOf_set hop h
  | getPasteData c d => exact reportsOf_get hop h
  | hasPasteData c =>
      rw [hop] at h
      obtain ⟨_, rfl⟩ := Outcome.of_step h
      refine ReportsOf.of_calls (by rw [hop]; rfl) (by rw [hop]; rfl) ?_
      have hnone : (s.hasPasteData r.platform c).events = [] :=
        congrArg Prod.snd
          (PasteboardService.hasPasteData_service r.platform c s)
      rw [hnone]
      rfl
  | clear c =>
      rw [hop] at h
      obtain ⟨_, rfl⟩ := Outcome.of_step h
      refine ReportsOf.of_calls (by rw [hop]; rfl) (by rw [hop]; rfl) ?_
      -- `Clear` reports nothing; it only calls observers
      rcases PasteboardService.clear_cases r.platform c s with
        ⟨_, _, hos⟩ | ⟨_, _, hos⟩
      · rw [hos]
        rfl
      · rw [hos]
        exact flatMap_report_calls r s
  | addPasteboardChangedObserver c o =>
      rw [hop] at h
      obtain ⟨_, rfl⟩ := Outcome.of_step h
      refine ReportsOf.of_calls (by rw [hop]; rfl) (by rw [hop]; rfl) ?_
      cases o with
      | none => rfl
      | some o =>
          rw [(PasteboardService.addPasteboardChangedObserver_spec r.platform c
            o s).events]
          rfl
  | removePasteboardChangedObserver c o =>
      rw [hop] at h
      obtain ⟨_, rfl⟩ := Outcome.of_step h
      refine ReportsOf.of_calls (by rw [hop]; rfl) (by rw [hop]; rfl) ?_
      cases o with
      | none => rfl
      | some o =>
          rw [(PasteboardService.removePasteboardChangedObserver_spec
            r.platform c o s).events]
          rfl
  | removeAllChangedObserver c =>
      rw [hop] at h
      obtain ⟨_, rfl⟩ := Outcome.of_step h
      refine ReportsOf.of_calls (by rw [hop]; rfl) (by rw [hop]; rfl) ?_
      rw [(PasteboardService.removeAllChangedObserver_spec r.platform c
        s).events]
      rfl

end Requests

/-! ## §4. What is pending. -/

/-- What a step of the thread puts out. -/
def flushes (s : TimerThread) (i : TimerInput) : List TimerEvent :=
  (timerMachine.step s i).elim [] (·.2)

/-- The requests, each with its time, and `none` for a flush of the
behaviour. -/
def behaviourLog (x : PasteboardService Uri Want × TimerThread) :
    TimedRequest Uri Want ⊕ TimerInput →
      List (Option (Nat × TimedRequest Uri Want))
  | .inl r => [some (x.2.now, r)]
  | .inr i =>
      ((flushes x.2 i).filterMap TimerEvent.behaviourTime).map fun _ => none

/-- The requests since the last flush of the behaviour, with their times. -/
def pendingRequests [ToString Uri] (t₀ : Nat) (zone : Int)
    (is : List (TimedRequest Uri Want ⊕ TimerInput)) :
    List (Nat × TimedRequest Uri Want) :=
  sinceLast id
    (sourceMachine.logged behaviourLog ({}, .start t₀ zone) is)

/-- Who copied, and who pasted; each on the platform of the request. -/
def copiers (rs : List (Nat × TimedRequest Uri Want)) :
    List (Platform × Caller) :=
  rs.filterMap fun e =>
    match e.2.op with
    | .setPasteData c _ => some (e.2.platform, c)
    | _ => none

def pasters (rs : List (Nat × TimedRequest Uri Want)) :
    List (Platform × Caller) :=
  rs.filterMap fun e =>
    match e.2.op with
    | .getPasteData c _ => some (e.2.platform, c)
    | _ => none

/-- These callers, in order, have these names. -/
def Named (callers : List (Platform × Caller)) (names : List String) : Prop :=
  List.Forall₂ (fun a name => a.1.Names a.2.uid name) callers names

theorem named_iff {callers : List (Platform × Caller)} {names : List String} :
    Named callers names
      ↔ names = callers.map fun a => a.1.bundleName a.2.uid := by
  unfold Named
  simp only [Platform.names_iff]
  constructor
  · intro h
    induction h with
    | nil => rfl
    | cons hname _ ih => rw [hname, ih, List.map_cons]
  · rintro rfl
    exact List.forall₂_map_right_iff.mpr (List.forall₂_same.mpr fun _ _ => rfl)

section Pending

variable [ToString Uri] {S : StdSort} {t₀ delay : Nat} {zone : Int}
  {is : List (TimedRequest Uri Want ⊕ TimerInput)}
  {i : TimedRequest Uri Want ⊕ TimerInput}
  {x x' : PasteboardService Uri Want × TimerThread}
  {os os' : List ((TimedRequest Uri Want × Event) ⊕ TimerEvent)}

/-- What the reporters have been given. -/
def given (os : List ((TimedRequest Uri Want × Event) ⊕ TimerEvent)) :
    List (BehaviourInput ⊕ StatInput) := os.flatMap deliver

omit [ToString Uri] in
theorem given_append : given (os ++ os') = given os ++ given os' :=
  List.flatMap_append

omit [ToString Uri] in
theorem given_request (r : TimedRequest Uri Want) (events : List Event) :
    given ((events.map fun e => (r, e)).map .inl)
      = events.flatMap r.report := by
  unfold given
  rw [List.flatMap_map, List.flatMap_map]
  rfl

/-- **What a step puts out**: a request and its events, or at most one flush
of the thread. -/
theorem source_step (h : sourceMachine.step x i = some (x', os')) :
    (∃ r events, i = .inl r ∧ r.op.exec r.platform x.1 = some (x'.1, events)
        ∧ x'.2 = x.2 ∧ given os' = events.flatMap r.report)
      ∨ ∃ j, i = .inr j ∧ x'.1 = x.1
        ∧ timerMachine.step x.2 j = some (x'.2, flushes x.2 j)
        ∧ os' = (flushes x.2 j).map .inr
        ∧ (flushes x.2 j = []
          ∨ flushes x.2 j = [.invokePasteBoardBehaviour x.2.now]
          ∨ flushes x.2 j = [.invokeTimeConsuming x.2.now]) := by
  rcases Machine.par_step h with ⟨r, os₁, rfl, hr, hx, rfl⟩ |
    ⟨j, os₁, rfl, hj, hx, rfl⟩
  · obtain ⟨y, hy, heq⟩ := Option.map_eq_some_iff.mp hr
    injection heq with hs hos
    subst hos
    refine Or.inl ⟨r, y.2, rfl, ?_, hx, given_request r y.2⟩
    rw [hy, ← hs]
  · have hflush : flushes x.2 j = os₁ := by
      unfold flushes
      rw [hj]
      rfl
    subst hflush
    refine Or.inr ⟨j, rfl, hx, hj, rfl, ?_⟩
    -- what the thread puts out depends on where it is
    generalize flushes x.2 j = fs at hj
    generalize x'.2 = t' at hj
    cases timer_stepped hj with
    | flushBehaviour reads hpc hready => exact Or.inr (Or.inl rfl)
    | flushStatistics reads hpc hready => exact Or.inr (Or.inr rfl)
    | _ => exact Or.inl rfl

/-- **The behaviour counted is that of the pending requests.** -/
theorem behaviour_given
    (hrun : sourceMachine.run ({}, .start t₀ zone) is = some (x, os)) :
    sinceLast BehaviourInput.msg (lefts (given os))
      = (pendingRequests t₀ zone is).filterMap fun e =>
          e.2.op.behaviour e.2.platform := by
  refine (sourceMachine.run_history (fun is x os =>
    sourceMachine.run ({}, .start t₀ zone) is = some (x, os)
      ∧ Tracks BehaviourInput.msg (fun e => e.2.op.behaviour e.2.platform)
          (sourceMachine.logged behaviourLog ({}, .start t₀ zone) is)
          (lefts (given os))) ⟨rfl, Tracks.nil⟩ ?_ is hrun).2
  intro is x os i x' os' hyp hstep
  obtain ⟨hpre, ih⟩ := hyp
  refine ⟨Machine.run_concat _ hpre hstep, ?_⟩
  rw [Machine.logged_concat hpre hstep, given_append, lefts_append]
  rcases source_step hstep with ⟨r, events, rfl, hexec, _, hgiven⟩ |
    ⟨j, rfl, _, _, hos, hcase⟩
  · rw [hgiven, (reportsOf_exec hexec).behaviour]
    exact ih.entry (fun _ => rfl) (x.2.now, r)
  · rw [hos]
    show Tracks _ _ (_ ++ ((flushes x.2 j).filterMap
      TimerEvent.behaviourTime).map fun _ => none) _
    rcases hcase with hf | hf | hf
    · rw [hf]
      simpa [given] using ih
    · -- the flush empties both
      rw [hf]
      exact Tracks.clear rfl
    · rw [hf]
      show Tracks _ _ (_ ++ []) (_ ++ [])
      rw [List.append_nil, List.append_nil]
      exact ih

/-! ## §5. How old a request gets. -/

/-- The thread is kept waiting for at most `delay` seconds, and the clock can
be read. -/
def Punctual (delay : Nat) (x : PasteboardService Uri Want × TimerThread) :
    TimedRequest Uri Want ⊕ TimerInput → Prop
  | .inl _ => True
  | .inr j => PromptWithin delay x.2 j ∧ j.Reads

instance (delay : Nat) (x : PasteboardService Uri Want × TimerThread) :
    (i : TimedRequest Uri Want ⊕ TimerInput) → Decidable (Punctual delay x i)
  | .inl _ => .isTrue trivial
  | .inr j => inferInstanceAs (Decidable (PromptWithin delay x.2 j ∧ j.Reads))

/-- How far the thread can be from a pending request, wherever it is. -/
structure Aged (delay : Nat) (t : TimerThread)
    (rs : List (Nat × TimedRequest Uri Want)) : Prop where
  prompt : t.now ≤ t.ready + delay
  awake : t.pc ≠ .asleep true → t.ready ≤ t.now
  sound : t.pc ≠ .asleep false
  look : t.pc = .look → ∀ e ∈ rs, t.ready ≤ e.1 + delay
  flushing : t.pc = .flushing → ∀ e ∈ rs, t.ready ≤ e.1
  /-- It sleeps for a day at most. -/
  sleeps : t.pc = .asleep true → t.ready ≤ t.now + 86400
  asleep : t.pc = .asleep true → ∀ e ∈ rs, t.ready ≤ e.1 + 86400 + 2 * delay

variable {t t' : TimerThread} {rs : List (Nat × TimedRequest Uri Want)}

omit [ToString Uri] in
theorem aged_start :
    Aged delay (.start t₀ zone) ([] : List (Nat × TimedRequest Uri Want)) where
  prompt := Nat.le_add_right _ _
  awake _ := Nat.le_refl _
  sound := by simp [TimerThread.start]
  look _ := List.forall_mem_nil _
  flushing _ := List.forall_mem_nil _
  sleeps hpc := by cases hpc
  asleep _ := List.forall_mem_nil _

omit [ToString Uri] in
/-- The bound, whatever the thread does. -/
theorem Aged.bound (h : Aged delay t rs) {e : Nat × TimedRequest Uri Want}
    (he : e ∈ rs) : t.now ≤ e.1 + 86400 + 3 * delay := by
  have hprompt := h.prompt
  cases hpc : t.pc with
  | look =>
      have hready := h.look hpc e he
      omega
  | asleep flush =>
      cases flush with
      | true =>
          have hready := h.asleep hpc e he
          omega
      | false => exact absurd hpc h.sound
  | flushing =>
      have hready := h.flushing hpc e he
      omega

omit [ToString Uri] in
/-- A request is made now. -/
theorem Aged.request (h : Aged delay t rs) (r : TimedRequest Uri Want) :
    Aged delay t (rs ++ [(t.now, r)]) where
  prompt := h.prompt
  awake := h.awake
  sound := h.sound
  look hpc e he := by
    rcases List.mem_append.mp he with he | he
    · exact h.look hpc e he
    · have hready := h.awake (by simp [hpc])
      rw [List.mem_singleton.mp he]
      show t.ready ≤ t.now + delay
      omega
  flushing hpc e he := by
    rcases List.mem_append.mp he with he | he
    · exact h.flushing hpc e he
    · rw [List.mem_singleton.mp he]
      exact h.awake (by simp [hpc])
  sleeps := h.sleeps
  asleep hpc e he := by
    rcases List.mem_append.mp he with he | he
    · exact h.asleep hpc e he
    · have hready := h.sleeps hpc
      rw [List.mem_singleton.mp he]
      show t.ready ≤ t.now + 86400 + 2 * delay
      omega

omit [ToString Uri] in
/-- Time passes. -/
theorem Aged.elapse (h : Aged delay t rs) {n : Nat}
    (hprompt : t.now + n ≤ t.ready + delay) :
    Aged delay { t with now := t.now + n } rs where
  prompt := hprompt
  awake hpc := Nat.le_trans (h.awake hpc) (Nat.le_add_right _ _)
  sound := h.sound
  look := h.look
  flushing := h.flushing
  sleeps hpc := by
    have hready := h.sleeps hpc
    show t.ready ≤ t.now + n + 86400
    omega
  asleep := h.asleep

omit [ToString Uri] in
/-- The clock is set, or the thread's sleep ends: nothing has to wait longer. -/
theorem Aged.sooner (h : Aged delay t rs) {ahead : Int} {ready : Nat}
    (hprompt : t.now ≤ ready + delay) (hle : ready ≤ t.ready) :
    Aged delay { t with ahead := ahead, ready := ready } rs where
  prompt := hprompt
  awake hpc := Nat.le_trans hle (h.awake hpc)
  sound := h.sound
  look hpc e he := Nat.le_trans hle (h.look hpc e he)
  flushing hpc e he := Nat.le_trans hle (h.flushing hpc e he)
  sleeps hpc := Nat.le_trans hle (h.sleeps hpc)
  asleep hpc e he := Nat.le_trans hle (h.asleep hpc e he)

/-- What is left pending after a step of the thread. -/
def leftPending (os : List TimerEvent)
    (rs : List (Nat × TimedRequest Uri Want)) :
    List (Nat × TimedRequest Uri Want) :=
  if os.filterMap TimerEvent.behaviourTime = [] then rs else []

omit [ToString Uri] in
/-- **A punctual step of the thread lets no request get too old**, even if the
clock is set in it. -/
theorem Aged.step {j : TimerInput} {fs : List TimerEvent}
    (h : Aged delay t rs) (hprompt : PromptWithin delay t j) (hreads : j.Reads)
    (hstep : timerMachine.step t j = some (t', fs)) :
    Aged delay t' (leftPending fs rs) := by
  have hnow := h.prompt
  cases timer_stepped hstep with
  | elapse n => exact h.elapse hprompt
  | adjust ahead => exact h.sooner hnow (Nat.le_refl _)
  | interrupt => exact h.sooner (by omega) (Nat.min_le_left _ _)
  | look hpc hready =>
      -- it goes to sleep for a day at most
      have hsleep := sleepTime_le t.ahead t.now
      refine ⟨?_, by simp, by simp, by simp, by simp, fun _ => ?_, ?_⟩
      · exact Nat.le_trans (Nat.le_add_right _ _) (Nat.le_add_right _ _)
      · exact Nat.add_le_add_left hsleep t.now
      · intro _ e he
        have hlook := h.look hpc e he
        show t.now + _ ≤ _
        omega
  | lookInVain hpc hready => cases hreads
  | lookAgain reads hpc hready => exact absurd hpc h.sound
  | flushBehaviour reads hpc hready =>
      refine ⟨Nat.le_add_right _ _, fun _ => Nat.le_refl _, by simp,
        by simp, fun _ => ?_, by simp, by simp⟩
      -- the flush leaves nothing pending
      exact List.forall_mem_nil _
  | flushStatistics reads hpc hready =>
      refine ⟨Nat.le_add_right _ _, fun _ => Nat.le_refl _, by simp, ?_,
        by simp, by simp, by simp⟩
      intro _ e he
      have hflushing := h.flushing hpc e he
      show t.now ≤ e.1 + delay
      omega

/-- **No pending request is older than a day**, but for three delays. -/
theorem aged_run
    (hrun : sourceMachine.run ({}, .start t₀ zone) is = some (x, os))
    (hpunctual : sourceMachine.AllSteps (Punctual delay)
      ({}, .start t₀ zone) is) :
    Aged delay x.2 (pendingRequests t₀ zone is) := by
  refine (sourceMachine.history_of_allSteps (fun is x =>
    (∃ os, sourceMachine.run ({}, .start t₀ zone) is = some (x, os))
      ∧ Aged delay x.2 (pendingRequests t₀ zone is))
    ⟨⟨[], rfl⟩, aged_start⟩ ?_ is hrun hpunctual).2
  intro is x i x' os' hyp hpunc hstep
  obtain ⟨⟨os, hpre⟩, ih⟩ := hyp
  refine ⟨⟨_, Machine.run_concat _ hpre hstep⟩, ?_⟩
  unfold pendingRequests at ih ⊢
  rw [Machine.logged_concat hpre hstep]
  rcases source_step hstep with ⟨r, events, rfl, _, hx, _⟩ |
    ⟨j, rfl, _, hj, _, hcase⟩
  · show Aged delay x'.2 (sinceLast id (_ ++ [some (x.2.now, r)]))
    rw [sinceLast_concat, hx]
    exact ih.request r
  · have hleft := ih.step hpunc.1 hpunc.2 hj
    show Aged delay x'.2 (sinceLast id (_ ++
      ((flushes x.2 j).filterMap TimerEvent.behaviourTime).map
        fun _ => none))
    -- only the flush of the behaviour marks the log
    rcases hcase with hf | hf | hf
    · rw [hf] at hleft ⊢
      rw [List.filterMap_nil, List.map_nil, List.append_nil]
      exact hleft
    · rw [hf] at hleft ⊢
      show Aged delay x'.2 (sinceLast id (_ ++ [none]))
      rw [sinceLast_concat]
      exact hleft
    · rw [hf] at hleft ⊢
      show Aged delay x'.2 (sinceLast id (_ ++ []))
      rw [List.append_nil]
      exact hleft

/-! ## §6. The flush of the behaviour. -/

/-- The apps of a state, message by message. -/
theorem appsOf_filterMap {α : Type} (state : Int)
    (f : α → Option PasteboardBehaviourMsg) (xs : List α) :
    appsOf state (xs.filterMap f)
      = xs.filterMap fun x =>
          ((f x).filter fun msg => msg.pasteboardState = state).map
            (·.appId) := by
  unfold appsOf
  rw [List.filter_filterMap, List.map_filterMap]

omit [ToString Uri] in
theorem appsOf_copiers (rs : List (Nat × TimedRequest Uri Want)) :
    appsOf BPS_COPY_STATE
        (rs.filterMap fun e => e.2.op.behaviour e.2.platform)
      = (copiers rs).map fun a => a.1.bundleName a.2.uid := by
  unfold copiers
  rw [appsOf_filterMap, List.map_filterMap]
  refine List.filterMap_congr fun e _ => ?_
  cases e.2.op <;> rfl

omit [ToString Uri] in
theorem appsOf_pasters (rs : List (Nat × TimedRequest Uri Want)) :
    appsOf BPS_PASTE_STATE
        (rs.filterMap fun e => e.2.op.behaviour e.2.platform)
      = (pasters rs).map fun a => a.1.bundleName a.2.uid := by
  unfold pasters
  rw [appsOf_filterMap, List.map_filterMap]
  refine List.filterMap_congr fun e _ => ?_
  cases e.2.op <;> rfl

/-- The thread's next turn flushes the behaviour, shows these names of who
copied and of who pasted, and leaves both maps empty. -/
def BehaviourShown (S : StdSort)
    (y : (PasteboardService Uri Want × TimerThread) × (Behaviour × Statistics))
    (copied pasted : List String) : Prop :=
  ∃ y' copy paste, (reportingMachine S).step y (.inr (.turn true))
      = some (y', .inl (.inr (.invokePasteBoardBehaviour y.1.2.now))
          :: (copy ++ paste).map fun e => .inr (.inl e))
    ∧ y'.2.1 = {}
    ∧ StateReported COPY_STATE copied copy
    ∧ StateReported PASTE_STATE pasted paste

/-- **The turn that flushes.** -/
theorem reporting_flush
    {y : (PasteboardService Uri Want × TimerThread) × (Behaviour × Statistics)}
    (hpc : y.1.2.pc = .asleep true) (hready : y.1.2.ready ≤ y.1.2.now) :
    (reportingMachine S).step y (.inr (.turn true))
      = (invokePasteBoardBehaviour S y.2.1).map fun z =>
          (((y.1.1, { y.1.2 with ready := y.1.2.now, pc := .flushing }),
              (z.1, y.2.2)),
            .inl (.inr (.invokePasteBoardBehaviour y.1.2.now))
              :: z.2.map fun e => .inr (.inl e)) := by
  obtain ⟨⟨s, t⟩, b, st⟩ := y
  -- the thread alone
  have hturn : timerMachine.step t (.turn true)
      = some ({ t with ready := t.now, pc := .flushing },
          [.invokePasteBoardBehaviour t.now]) := by
    refine turn_of_ready hready ?_
    unfold TimerThread.turn
    rw [show t.pc = .asleep true from hpc]
  -- the thread beside the service
  have hsource : sourceMachine.step (s, t) (.inr (.turn true))
      = some ((s, { t with ready := t.now, pc := .flushing }),
          [.inr (.invokePasteBoardBehaviour t.now)]) := by
    show (timerMachine.step t (.turn true)).map _ = _
    rw [hturn]
    rfl
  show (sourceMachine.step (s, t) (.inr (.turn true))).bind _ = _
  rw [hsource, Option.bind_some]
  show (((behaviourMachine S).par statisticsMachine).run (b, st)
    [.inl .invokePasteBoardBehaviour]).map _ = _
  show ((((invokePasteBoardBehaviour S b).map _).bind _).map _) = _
  cases hinvoke : invokePasteBoardBehaviour S b with
  | none => rfl
  | some z => simp [Machine.run]

/-- It shows the names exactly when they are reportable. -/
theorem behaviourShown_iff
    {y : (PasteboardService Uri Want × TimerThread) × (Behaviour × Statistics)}
    (hpc : y.1.2.pc = .asleep true) (hready : y.1.2.ready ≤ y.1.2.now)
    {msgs : List PasteboardBehaviourMsg} (htallies : Tallies msgs y.2.1) :
    BehaviourShown S y (appsOf BPS_COPY_STATE msgs)
        (appsOf BPS_PASTE_STATE msgs)
      ↔ Reportable (appsOf BPS_COPY_STATE msgs)
        ∧ Reportable (appsOf BPS_PASTE_STATE msgs) := by
  rw [← flushRight_iff (S := S) htallies]
  unfold BehaviourShown FlushRight
  rw [reporting_flush hpc hready]
  constructor
  · intro hyp
    obtain ⟨y', copy, paste, hstep, hempty, hcopy, hpaste⟩ := hyp
    obtain ⟨z, hz, heq⟩ := Option.map_eq_some_iff.mp hstep
    obtain ⟨hy, hos⟩ := Prod.mk.inj heq
    have hevents : z.2 = copy ++ paste := by
      refine List.map_injective_iff.mpr ?_ (List.cons.inj hos).2
      intro e e' he
      exact Sum.inl_injective (Sum.inr_injective he)
    have hb : z.1 = {} := by
      rw [← hempty, ← hy]
    refine ⟨copy, paste, ?_, hcopy, hpaste⟩
    rw [hz, ← hb, ← hevents]
  · intro hyp
    obtain ⟨copy, paste, hinvoke, hcopy, hpaste⟩ := hyp
    rw [hinvoke]
    exact ⟨_, copy, paste, rfl, rfl, hcopy, hpaste⟩

end Pending

/-- A bundle manager that knows one app. -/
def oneAppPlatform : Platform :=
  { samplePlatform with getBundleNameForUid := fun _ => some "app.of.user100" }

/-- The thread sleeps from one midnight to the next, and three seconds longer;
meanwhile an app of the user 100 copies, one of the user 101 pastes and copies,
and the clock is put forward. -/
def dayOfRequests : List (TimedRequest Nat Nat ⊕ TimerInput) :=
  [.inr (.turn true),
    .inl ⟨oneAppPlatform, .setPasteData callerOf100
      (PasteboardClient.createPlainTextData "a"), ⟨0, 0⟩, ⟨0, 2000⟩⟩,
    .inr (.elapse 40000),
    .inl ⟨samplePlatform, .getPasteData callerOf101 {}, ⟨5, 999⟩, ⟨5, 1000⟩⟩,
    .inr (.adjust 3600),
    .inl ⟨samplePlatform, .setPasteData callerOf101
      (PasteboardClient.createHtmlData "bcdefgh"), ⟨7, 0⟩, ⟨7, 505000⟩⟩,
    .inr (.elapse 46403)]

end Pasteboard
