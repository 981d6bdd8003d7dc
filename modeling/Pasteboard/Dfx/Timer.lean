/-
  Pasteboard.Dfx.Timer
  ────────────────────
  **THE TIMER THREAD** (`StartTimerThread` in `hiview_adapter.cpp`): a loop
  that reads the local time, sleeps until the day is over, and flushes both
  reports.

    • `sleepTime_eq`: the two branches of the loop compute the same time, to
      the end of the day but for the seconds of the current minute.
    • `timer_flushes_daily`: so both flushes of a day fall into its first
      minute, however often the thread has slept, up to the thread's own
      delays; no day has two of a kind; and where the clock can be read no day
      is missed.  All this as long as nobody sets the clock, changes the zone
      or wakes the thread: an hour lost is enough for a second flush.

  `now` counts the seconds `sleep` goes by, and local time is `ahead` of them.
  A clock that is set, a summer that begins, a device that was suspended all
  change `ahead`.  A thread that could go on may be delayed: that is the
  difference between `now` and `ready`.
-/
import Pasteboard.Lib.Runs

namespace Pasteboard

open Lib

/-! ## §1. The thread. -/

def ONE_DAY_IN_HOURS : Int := 24
def EXEC_HOUR_TIME : Int := 23
def EXEC_MIN_TIME : Int := 60
def ONE_MINUTE_IN_SECONDS : Int := 60
def ONE_HOUR_IN_SECONDS : Int := 1 * 60 * 60

/-- The argument of `sleep`, from the fields of the local time. -/
def sleepTime (currentHour currentMin : Int) : Int :=
  if EXEC_MIN_TIME - currentMin ≠ EXEC_MIN_TIME then
    let nHours := EXEC_HOUR_TIME - currentHour
    let nMin := EXEC_MIN_TIME - currentMin
    nMin * ONE_MINUTE_IN_SECONDS + nHours * ONE_HOUR_IN_SECONDS
  else ONE_HOUR_IN_SECONDS * (ONE_DAY_IN_HOURS - currentHour)

/-- The day of a time, and the seconds of that day, where local time is `zone`
seconds ahead. -/
def localDay (zone : Int) (t : Nat) : Int := (t + zone) / 86400
def timeOfDay (zone : Int) (t : Nat) : Int := (t + zone) % 86400

/-- The fields of `localtime_r` the thread reads. -/
def localHour (zone : Int) (t : Nat) : Int := timeOfDay zone t / 3600
def localMin (zone : Int) (t : Nat) : Int := timeOfDay zone t % 3600 / 60

/-- What the thread does next. -/
inductive TimerPc where
  /-- Reads the clock, at the top of the loop. -/
  | look
  /-- Wakes up, and flushes unless it could not read the clock. -/
  | asleep (flush : Bool)
  /-- Has flushed the behaviour, and flushes the statistics. -/
  | flushing
  deriving DecidableEq, Repr

structure TimerThread where
  now : Nat
  /-- How far local time is ahead at present. -/
  ahead : Int
  /-- When the next turn can be taken, at the earliest. -/
  ready : Nat
  pc : TimerPc
  deriving DecidableEq, Repr

inductive TimerInput where
  /-- Time passes. -/
  | elapse (seconds : Nat)
  /-- The clock is set, or the zone or its summer time changes. -/
  | adjust (ahead : Int)
  /-- A signal ends the thread's `sleep`. -/
  | interrupt
  /-- The thread's next turn; `reads` is whether `time` and `localtime_r`
  succeed, where it calls them. -/
  | turn (reads : Bool)
  deriving DecidableEq, Repr

/-- A flush, and when. -/
inductive TimerEvent where
  | invokePasteBoardBehaviour (time : Nat)
  | invokeTimeConsuming (time : Nat)
  deriving DecidableEq, Repr

namespace TimerThread

def start (t : Nat) (ahead : Int) : TimerThread := ⟨t, ahead, t, .look⟩

def turn (reads : Bool) (s : TimerThread) : TimerThread × List TimerEvent :=
  match s.pc with
  | .look =>
      if reads then
        let nTime := sleepTime (localHour s.ahead s.now) (localMin s.ahead s.now)
        ({ s with ready := s.now + nTime.toNat, pc := .asleep true }, [])
      else
        ({ s with
            ready := s.now + ONE_HOUR_IN_SECONDS.toNat
            pc := .asleep false }, [])
  | .asleep true =>
      ({ s with ready := s.now, pc := .flushing },
        [.invokePasteBoardBehaviour s.now])
  | .asleep false => ({ s with ready := s.now, pc := .look }, [])
  | .flushing =>
      ({ s with ready := s.now, pc := .look }, [.invokeTimeConsuming s.now])

end TimerThread

def timerMachine : Machine TimerThread TimerInput TimerEvent where
  step s
    | .elapse seconds => some ({ s with now := s.now + seconds }, [])
    | .adjust ahead => some ({ s with ahead := ahead }, [])
    | .interrupt => some ({ s with ready := min s.ready s.now }, [])
    | .turn reads => if s.now < s.ready then none else some (s.turn reads)

/-- A flush of the behaviour, and one of the statistics. -/
def TimerEvent.behaviourTime : TimerEvent → Option Nat
  | .invokePasteBoardBehaviour time => some time
  | .invokeTimeConsuming _ => none

def TimerEvent.statisticTime : TimerEvent → Option Nat
  | .invokePasteBoardBehaviour _ => none
  | .invokeTimeConsuming time => some time

/-- The days on which the behaviour was flushed, and those of the
statistics. -/
def flushDays (zone : Int) (os : List TimerEvent) : List Int :=
  (os.filterMap TimerEvent.behaviourTime).map (localDay zone)

def statisticDays (zone : Int) (os : List TimerEvent) : List Int :=
  (os.filterMap TimerEvent.statisticTime).map (localDay zone)

/-- The day of a flush of the behaviour that is not yet followed by one of the
statistics. -/
def underWay (zone : Int) (s : TimerThread) : List Int :=
  if s.pc = .flushing then [localDay zone s.ready] else []

/-- The thread is not kept from going on for more than `delay` seconds. -/
def PromptWithin (delay : Nat) (s : TimerThread) : TimerInput → Prop
  | .elapse seconds => s.now + seconds ≤ s.ready + delay
  | _ => True

/-- Where the clock is read it can be. -/
def TimerInput.Reads : TimerInput → Prop
  | .turn reads => reads = true
  | _ => True

/-- Nobody sets the clock, changes the zone or wakes the thread. -/
def TimerInput.Steady : TimerInput → Prop
  | .adjust _ => False
  | .interrupt => False
  | _ => True

instance (delay : Nat) (s : TimerThread) :
    (i : TimerInput) → Decidable (PromptWithin delay s i)
  | .elapse seconds =>
      inferInstanceAs (Decidable (s.now + seconds ≤ s.ready + delay))
  | .adjust _ => .isTrue trivial
  | .interrupt => .isTrue trivial
  | .turn _ => .isTrue trivial

instance : (i : TimerInput) → Decidable i.Reads
  | .elapse _ => .isTrue trivial
  | .adjust _ => .isTrue trivial
  | .interrupt => .isTrue trivial
  | .turn reads => inferInstanceAs (Decidable (reads = true))

instance : (i : TimerInput) → Decidable i.Steady
  | .elapse _ => .isTrue trivial
  | .adjust _ => .isFalse id
  | .interrupt => .isFalse id
  | .turn _ => .isTrue trivial

/-! ## §2. How long it sleeps. -/

/-- **To the end of the day**, but for the seconds of the minute: in the branch
for a whole hour as in the other. -/
theorem sleepTime_eq (currentHour currentMin : Int) :
    sleepTime currentHour currentMin
      = 86400 - (currentHour * 3600 + currentMin * 60) := by
  unfold sleepTime EXEC_MIN_TIME EXEC_HOUR_TIME ONE_MINUTE_IN_SECONDS
    ONE_HOUR_IN_SECONDS ONE_DAY_IN_HOURS
  split
  · dsimp only
    omega
  · next hmin => omega

/-- It wakes up in the first minute of the next day. -/
theorem wakes_next_day (zone : Int) (t : Nat) :
    localDay zone
        (t + (sleepTime (localHour zone t) (localMin zone t)).toNat)
      = localDay zone t + 1
    ∧ timeOfDay zone
        (t + (sleepTime (localHour zone t) (localMin zone t)).toNat) < 60 := by
  rw [sleepTime_eq]
  unfold localHour localMin timeOfDay localDay
  omega

/-- For a day at most, whatever the local time. -/
theorem sleepTime_le (zone : Int) (t : Nat) :
    (sleepTime (localHour zone t) (localMin zone t)).toNat ≤ 86400 := by
  rw [sleepTime_eq]
  unfold localHour localMin timeOfDay
  omega

theorem localDay_mono (zone : Int) {t t' : Nat} (h : t ≤ t') :
    localDay zone t ≤ localDay zone t' := by
  unfold localDay
  omega

/-- A little later is on the same day. -/
theorem sameDay_of_le (zone : Int) {t t' a d : Nat} (hle : t ≤ t')
    (hd : t' ≤ t + d) (ht : timeOfDay zone t < a) (had : a + d ≤ 86400) :
    localDay zone t' = localDay zone t ∧ timeOfDay zone t' < (a + d : Nat) := by
  unfold timeOfDay localDay at *
  omega

/-! ## §3. When it flushes. -/

section Days

variable (zone : Int) (os : List TimerEvent) (t : Nat)

theorem flushDays_behaviour :
    flushDays zone (os ++ [.invokePasteBoardBehaviour t])
      = flushDays zone os ++ [localDay zone t] := by
  unfold flushDays
  rw [List.filterMap_append, List.map_append]
  rfl

theorem flushDays_statistic :
    flushDays zone (os ++ [.invokeTimeConsuming t]) = flushDays zone os := by
  unfold flushDays
  rw [List.filterMap_append, List.map_append]
  exact List.append_nil _

theorem statisticDays_behaviour :
    statisticDays zone (os ++ [.invokePasteBoardBehaviour t])
      = statisticDays zone os := by
  unfold statisticDays
  rw [List.filterMap_append, List.map_append]
  exact List.append_nil _

theorem statisticDays_statistic :
    statisticDays zone (os ++ [.invokeTimeConsuming t])
      = statisticDays zone os ++ [localDay zone t] := by
  unfold statisticDays
  rw [List.filterMap_append, List.map_append]
  rfl

end Days

section Schedule

variable {zone : Int} {delay t₀ : Nat} {s s' : TimerThread}
  {os os' : List TimerEvent} {i : TimerInput}

/-- What one step does. -/
inductive TimerStepped (s : TimerThread) :
    TimerInput → TimerThread → List TimerEvent → Prop where
  | elapse (n : Nat) :
      TimerStepped s (.elapse n) { s with now := s.now + n } []
  | adjust (ahead : Int) :
      TimerStepped s (.adjust ahead) { s with ahead := ahead } []
  | interrupt :
      TimerStepped s .interrupt { s with ready := min s.ready s.now } []
  /-- It goes to sleep for the rest of the day; or, with a clock that it cannot
  read, for an hour, and looks again. -/
  | look (hpc : s.pc = .look) (hready : s.ready ≤ s.now) :
      TimerStepped s (.turn true)
        { s with
          ready := s.now + (sleepTime (localHour s.ahead s.now)
            (localMin s.ahead s.now)).toNat
          pc := .asleep true } []
  | lookInVain (hpc : s.pc = .look) (hready : s.ready ≤ s.now) :
      TimerStepped s (.turn false)
        { s with ready := s.now + 3600, pc := .asleep false } []
  | lookAgain (reads : Bool) (hpc : s.pc = .asleep false)
      (hready : s.ready ≤ s.now) :
      TimerStepped s (.turn reads) { s with ready := s.now, pc := .look } []
  | flushBehaviour (reads : Bool) (hpc : s.pc = .asleep true)
      (hready : s.ready ≤ s.now) :
      TimerStepped s (.turn reads) { s with ready := s.now, pc := .flushing }
        [.invokePasteBoardBehaviour s.now]
  | flushStatistics (reads : Bool) (hpc : s.pc = .flushing)
      (hready : s.ready ≤ s.now) :
      TimerStepped s (.turn reads) { s with ready := s.now, pc := .look }
        [.invokeTimeConsuming s.now]

/-- **Every step is one of these.** -/
theorem timer_stepped (h : timerMachine.step s i = some (s', os')) :
    TimerStepped s i s' os' := by
  cases i with
  | elapse n =>
      obtain ⟨rfl, rfl⟩ := Prod.mk.inj (Option.some.inj h)
      exact .elapse n
  | adjust ahead =>
      obtain ⟨rfl, rfl⟩ := Prod.mk.inj (Option.some.inj h)
      exact .adjust ahead
  | interrupt =>
      obtain ⟨rfl, rfl⟩ := Prod.mk.inj (Option.some.inj h)
      exact .interrupt
  | turn reads =>
      have hstep : (if s.now < s.ready then none
          else some (s.turn reads)) = some (s', os') := h
      split at hstep
      · cases hstep
      · next hlt =>
          have hready : s.ready ≤ s.now := Nat.not_lt.mp hlt
          injection hstep with hturn
          unfold TimerThread.turn at hturn
          cases hpc : s.pc with
          | look =>
              rw [hpc] at hturn
              cases reads with
              | true =>
                  obtain ⟨rfl, rfl⟩ := Prod.mk.inj hturn
                  exact .look hpc hready
              | false =>
                  obtain ⟨rfl, rfl⟩ := Prod.mk.inj hturn
                  exact .lookInVain hpc hready
          | asleep flush =>
              rw [hpc] at hturn
              cases flush with
              | true =>
                  obtain ⟨rfl, rfl⟩ := Prod.mk.inj hturn
                  exact .flushBehaviour reads hpc hready
              | false =>
                  obtain ⟨rfl, rfl⟩ := Prod.mk.inj hturn
                  exact .lookAgain reads hpc hready
          | flushing =>
              rw [hpc] at hturn
              obtain ⟨rfl, rfl⟩ := Prod.mk.inj hturn
              exact .flushStatistics reads hpc hready

theorem turn_of_ready {reads : Bool} (h : s.ready ≤ s.now)
    (hturn : s.turn reads = (s', os)) :
    timerMachine.step s (.turn reads) = some (s', os) := by
  show (if s.now < s.ready then none else some (s.turn reads)) = _
  rw [if_neg (Nat.not_lt_of_le h), hturn]

/-- What holds in a run that is prompt and steady, wherever the thread is. -/
structure OnTime (zone : Int) (delay : Nat) (s : TimerThread)
    (os : List TimerEvent) : Prop where
  ahead : s.ahead = zone
  prompt : s.now ≤ s.ready + delay
  behaviour : ∀ f ∈ os.filterMap TimerEvent.behaviourTime,
    timeOfDay zone f < (60 + delay : Nat)
  statistic : ∀ f ∈ os.filterMap TimerEvent.statisticTime,
    timeOfDay zone f < (60 + 2 * delay : Nat)
  increasing : (flushDays zone os).Pairwise (· < ·)
  past : ∀ d ∈ flushDays zone os, d ≤ localDay zone s.now
  /-- The statistics are flushed on the same days. -/
  both : flushDays zone os = statisticDays zone os ++ underWay zone s
  /-- It wakes up in the first minute of a day without a flush. -/
  asleep : s.pc = .asleep true → timeOfDay zone s.ready < (60 : Nat)
    ∧ ∀ d ∈ flushDays zone os, d < localDay zone s.ready
  flushing : s.pc = .flushing → s.ready ≤ s.now
    ∧ timeOfDay zone s.ready < (60 + delay : Nat)

theorem onTime_start : OnTime zone delay (.start t₀ zone) [] where
  ahead := rfl
  prompt := Nat.le_add_right _ _
  behaviour := List.forall_mem_nil _
  statistic := List.forall_mem_nil _
  increasing := List.Pairwise.nil
  past := List.forall_mem_nil _
  both := rfl
  asleep h := by cases h
  flushing h := by cases h

/-- Time passes. -/
theorem OnTime.elapse (h : OnTime zone delay s os) {n : Nat}
    (hprompt : s.now + n ≤ s.ready + delay) :
    OnTime zone delay { s with now := s.now + n } os where
  ahead := h.ahead
  prompt := hprompt
  behaviour := h.behaviour
  statistic := h.statistic
  increasing := h.increasing
  past d hd := Int.le_trans (h.past d hd)
    (localDay_mono zone (Nat.le_add_right _ _))
  both := h.both
  asleep := h.asleep
  flushing hpc := by
    obtain ⟨hle, hday⟩ := h.flushing hpc
    exact ⟨Nat.le_trans hle (Nat.le_add_right _ _), hday⟩

/-- A turn that flushes nothing. -/
theorem OnTime.quiet (h : OnTime zone delay s os) {ready : Nat} {pc : TimerPc}
    (hnot : s.pc ≠ .flushing) (hready : s.now ≤ ready) (hpc : pc ≠ .flushing)
    (hasleep : pc = .asleep true → timeOfDay zone ready < (60 : Nat)
      ∧ localDay zone s.now < localDay zone ready) :
    OnTime zone delay { s with ready := ready, pc := pc } os where
  ahead := h.ahead
  prompt := Nat.le_trans hready (Nat.le_add_right _ _)
  behaviour := h.behaviour
  statistic := h.statistic
  increasing := h.increasing
  past := h.past
  both := by
    have hboth := h.both
    unfold underWay at hboth ⊢
    rw [if_neg hnot] at hboth
    rw [if_neg hpc]
    exact hboth
  asleep hpc := by
    obtain ⟨htod, hday⟩ := hasleep hpc
    refine ⟨htod, ?_⟩
    intro d hd
    exact Int.lt_of_le_of_lt (h.past d hd) hday
  flushing hpc' := absurd hpc' hpc

/-- **A flush of the behaviour**: on a new day, in its first minute. -/
theorem OnTime.flushBehaviour (h : OnTime zone delay s os)
    (hdelay : 60 + delay ≤ 86400) (hpc : s.pc = .asleep true)
    (hready : s.ready ≤ s.now) :
    OnTime zone delay { s with ready := s.now, pc := .flushing }
      (os ++ [.invokePasteBoardBehaviour s.now]) := by
  obtain ⟨htod, hnew⟩ := h.asleep hpc
  -- it woke up on a new day, and is not a day late
  obtain ⟨hday, htod'⟩ := sameDay_of_le zone hready h.prompt htod hdelay
  refine ⟨h.ahead, Nat.le_add_right _ _, ?_, ?_, ?_, ?_, ?_, by simp, ?_⟩
  · intro f hf
    rw [List.filterMap_append] at hf
    rcases List.mem_append.mp hf with hf | hf
    · exact h.behaviour f hf
    · rw [List.mem_singleton.mp hf]
      exact htod'
  · intro f hf
    rw [List.filterMap_append] at hf
    rcases List.mem_append.mp hf with hf | hf
    · exact h.statistic f hf
    · cases hf
  · rw [flushDays_behaviour, List.pairwise_append]
    refine ⟨h.increasing, List.pairwise_singleton _ _, ?_⟩
    intro d hd d' hd'
    rw [List.mem_singleton.mp hd', hday]
    exact hnew d hd
  · intro d hd
    rw [flushDays_behaviour] at hd
    rcases List.mem_append.mp hd with hd | hd
    · exact h.past d hd
    · exact Int.le_of_eq (List.mem_singleton.mp hd)
  · -- the statistics of this day are still to come
    have hboth := h.both
    unfold underWay at hboth ⊢
    rw [hpc, if_neg (by simp), List.append_nil] at hboth
    rw [flushDays_behaviour, statisticDays_behaviour, hboth, if_pos rfl]
  · intro _
    exact ⟨Nat.le_refl _, htod'⟩

/-- **A flush of the statistics**: soon after. -/
theorem OnTime.flushStatistics (h : OnTime zone delay s os)
    (hdelay : 60 + 2 * delay ≤ 86400) (hpc : s.pc = .flushing) :
    OnTime zone delay { s with ready := s.now, pc := .look }
      (os ++ [.invokeTimeConsuming s.now]) := by
  obtain ⟨hle, htod⟩ := h.flushing hpc
  obtain ⟨hday, htod'⟩ := sameDay_of_le zone hle h.prompt htod (by omega)
  refine ⟨h.ahead, Nat.le_add_right _ _, ?_, ?_, ?_, ?_, ?_, by simp, by simp⟩
  · intro f hf
    rw [List.filterMap_append] at hf
    rcases List.mem_append.mp hf with hf | hf
    · exact h.behaviour f hf
    · cases hf
  · intro f hf
    rw [List.filterMap_append] at hf
    rcases List.mem_append.mp hf with hf | hf
    · exact h.statistic f hf
    · rw [List.mem_singleton.mp hf]
      omega
  · rw [flushDays_statistic]
    exact h.increasing
  · rw [flushDays_statistic]
    exact h.past
  · -- it is the day of the flush before
    have hboth := h.both
    unfold underWay at hboth ⊢
    rw [if_pos hpc] at hboth
    rw [flushDays_statistic, statisticDays_statistic, hboth, hday,
      if_neg (by simp), List.append_nil]

/-- **Every prompt and steady step keeps the schedule.** -/
theorem OnTime.step (h : OnTime zone delay s os)
    (hdelay : 60 + 2 * delay ≤ 86400) (hprompt : PromptWithin delay s i)
    (hsteady : i.Steady) (hstep : timerMachine.step s i = some (s', os')) :
    OnTime zone delay s' (os ++ os') := by
  cases timer_stepped hstep with
  | elapse n =>
      rw [List.append_nil]
      exact h.elapse hprompt
  | adjust ahead => exact hsteady.elim
  | interrupt => exact hsteady.elim
  | look hpc hready =>
      -- the time it sleeps takes it into the first minute of the next day
      obtain ⟨hday, htod⟩ := wakes_next_day s.ahead s.now
      have hzone := h.ahead
      subst hzone
      rw [List.append_nil]
      refine h.quiet (by simp [hpc]) (Nat.le_add_right _ _) (by simp) fun _ => ?_
      exact ⟨htod, by omega⟩
  | lookInVain hpc hready =>
      rw [List.append_nil]
      exact h.quiet (by simp [hpc]) (Nat.le_add_right _ _) (by simp) (by simp)
  | lookAgain reads hpc hready =>
      rw [List.append_nil]
      exact h.quiet (by simp [hpc]) (Nat.le_refl _) (by simp) (by simp)
  | flushBehaviour reads hpc hready =>
      exact h.flushBehaviour (by omega) hpc hready
  | flushStatistics reads hpc hready => exact h.flushStatistics hdelay hpc

/-! ## §4. No day is missed. -/

/-- All days after the start and up to `L` have been flushed; the thread wakes
up on the day after `L`. -/
structure Follows (zone : Int) (delay t₀ : Nat) (L : Int) (s : TimerThread)
    (os : List TimerEvent) : Prop where
  days : ∀ d, localDay zone (t₀ + delay) < d → d ≤ L → d ∈ flushDays zone os
  asleep : s.pc = .asleep true →
    localDay zone s.ready = L + 1 ∧ L ≤ localDay zone s.now
  awake : s.pc ≠ .asleep true → s.ready ≤ s.now
    ∧ localDay zone s.ready = L
    ∧ timeOfDay zone s.ready < (60 + 2 * delay : Nat)
  sound : s.pc ≠ .asleep false

/-- Where the thread is in a run in which the clock can be read: before its
first look, or following a day. -/
def NoneMissed (zone : Int) (delay t₀ : Nat) (s : TimerThread)
    (os : List TimerEvent) : Prop :=
  (s.pc = .look ∧ s.ready = t₀ ∧ t₀ ≤ s.now)
    ∨ ∃ L, Follows zone delay t₀ L s os

/-- The day of a thread that can go on is the day it follows. -/
theorem Follows.today {L : Int} (h : Follows zone delay t₀ L s os)
    (hprompt : s.now ≤ s.ready + delay) (hdelay : 60 + 3 * delay ≤ 86400)
    (hpc : s.pc ≠ .asleep true) : localDay zone s.now = L := by
  obtain ⟨hle, hday, htod⟩ := h.awake hpc
  rw [← hday]
  exact (sameDay_of_le zone hle hprompt htod (by omega)).1

theorem Follows.elapse {L : Int} {n : Nat} (h : Follows zone delay t₀ L s os) :
    Follows zone delay t₀ L { s with now := s.now + n } os where
  days := h.days
  asleep hpc := by
    obtain ⟨hday, hle⟩ := h.asleep hpc
    exact ⟨hday, Int.le_trans hle (localDay_mono zone (Nat.le_add_right _ _))⟩
  awake hpc := by
    obtain ⟨hle, hday⟩ := h.awake hpc
    exact ⟨Nat.le_trans hle (Nat.le_add_right _ _), hday⟩
  sound := h.sound

/-- Only a look is taken before the first look. -/
theorem NoneMissed.follows (h : NoneMissed zone delay t₀ s os)
    (hpc : s.pc ≠ .look) : ∃ L, Follows zone delay t₀ L s os := by
  rcases h with ⟨hlook, _⟩ | hL
  · exact absurd hlook hpc
  · exact hL

/-- **Every prompt and steady step with a readable clock misses no day.** -/
theorem NoneMissed.step (h : NoneMissed zone delay t₀ s os)
    (hot : OnTime zone delay s os) (hdelay : 60 + 3 * delay ≤ 86400)
    (hsteady : i.Steady) (hreads : i.Reads)
    (hstep : timerMachine.step s i = some (s', os')) :
    NoneMissed zone delay t₀ s' (os ++ os') := by
  cases timer_stepped hstep with
  | elapse n =>
      rw [List.append_nil]
      rcases h with ⟨hpc, hfirst, hle⟩ | ⟨L, hL⟩
      · exact Or.inl ⟨hpc, hfirst, Nat.le_trans hle (Nat.le_add_right _ _)⟩
      · exact Or.inr ⟨L, hL.elapse⟩
  | adjust ahead => exact hsteady.elim
  | interrupt => exact hsteady.elim
  | look hpc hready =>
      obtain ⟨hday, _⟩ := wakes_next_day s.ahead s.now
      have hzone := hot.ahead
      subst hzone
      rw [List.append_nil]
      -- the day it follows is the day of this look
      refine Or.inr ⟨localDay s.ahead s.now, ?_, fun _ => ⟨hday, Int.le_refl _⟩,
        by simp, by simp⟩
      intro d hd hle
      rcases h with ⟨_, hfirst, _⟩ | ⟨L, hL⟩
      · have hmono : localDay s.ahead s.now ≤ localDay s.ahead (t₀ + delay) := by
          refine localDay_mono s.ahead ?_
          rw [← hfirst]
          exact hot.prompt
        omega
      · rw [hL.today hot.prompt hdelay (by simp [hpc])] at hle
        exact hL.days d hd hle
  | lookInVain hpc hready => cases hreads
  | lookAgain reads hpc hready =>
      obtain ⟨L, hL⟩ := h.follows (by simp [hpc])
      exact absurd hpc hL.sound
  | flushBehaviour reads hpc hready =>
      obtain ⟨L, hL⟩ := h.follows (by simp [hpc])
      obtain ⟨hnext, _⟩ := hL.asleep hpc
      obtain ⟨htod, _⟩ := hot.asleep hpc
      obtain ⟨hday, htod'⟩ :=
        sameDay_of_le zone hready hot.prompt htod (by omega)
      -- the day that is flushed is the one after `L`
      refine Or.inr ⟨localDay zone s.now, ?_, by simp, fun _ =>
        ⟨Nat.le_refl _, rfl, ?_⟩, by simp⟩
      · intro d hd hle
        rw [flushDays_behaviour, List.mem_append]
        by_cases hlast : d = localDay zone s.now
        · exact Or.inr (List.mem_singleton.mpr hlast)
        · exact Or.inl (hL.days d hd (by omega))
      · show timeOfDay zone s.now < _
        omega
  | flushStatistics reads hpc hready =>
      obtain ⟨L, hL⟩ := h.follows (by simp [hpc])
      obtain ⟨hle, htod⟩ := hot.flushing hpc
      obtain ⟨_, htod'⟩ := sameDay_of_le zone hle hot.prompt htod (by omega)
      refine Or.inr ⟨L, ?_, by simp, fun _ => ⟨Nat.le_refl _, ?_, ?_⟩, by simp⟩
      · rw [flushDays_statistic]
        exact hL.days
      · exact hL.today hot.prompt hdelay (by simp [hpc])
      · show timeOfDay zone s.now < _
        omega

/-- Once the first minute of a day is over, that day's flush has been made. -/
theorem NoneMissed.flushed (h : NoneMissed zone delay t₀ s os)
    (hot : OnTime zone delay s os) (hdelay : 60 + 3 * delay ≤ 86400) {d : Int}
    (hd : localDay zone (t₀ + delay) < d)
    (hlate : 86400 * d + 60 + delay ≤ s.now + zone) :
    d ∈ flushDays zone os := by
  have hprompt := hot.prompt
  rcases h with ⟨_, hfirst, _⟩ | ⟨L, hL⟩
  · -- the first look is not delayed beyond its day
    have hle : localDay zone s.now ≤ localDay zone (t₀ + delay) := by
      refine localDay_mono zone ?_
      rw [← hfirst]
      exact hprompt
    unfold localDay at *
    omega
  · refine hL.days d hd ?_
    by_cases hpc : s.pc = .asleep true
    · obtain ⟨hday, _⟩ := hL.asleep hpc
      obtain ⟨htod, _⟩ := hot.asleep hpc
      unfold localDay timeOfDay at *
      omega
    · have htoday := hL.today hprompt hdelay hpc
      unfold localDay at htoday
      omega

/-- And a delay later the statistics have been flushed as well. -/
theorem OnTime.statisticsFlushed (h : OnTime zone delay s os) {d : Int}
    (hd : d ∈ flushDays zone os)
    (hlate : 86400 * d + 60 + 2 * delay ≤ s.now + zone) :
    d ∈ statisticDays zone os := by
  rw [h.both] at hd
  rcases List.mem_append.mp hd with hd | hd
  · exact hd
  · unfold underWay at hd
    split at hd
    · next hpc =>
        -- the flush that is under way is not so old
        obtain ⟨_, htod⟩ := h.flushing hpc
        have hprompt := h.prompt
        have hday := List.mem_singleton.mp hd
        unfold localDay timeOfDay at *
        omega
    · cases hd

end Schedule

/-- A thread that starts a minute before midnight, its first two nights, and a
few minutes of the day after.  It is late by up to three seconds. -/
def twoNights : List TimerInput :=
  [.turn true, .elapse 63, .turn true, .elapse 2, .turn true, .turn true,
    .elapse 86402, .turn true, .turn true, .turn true, .elapse 200]

/-- Summer time ends between the first flush and the next look: the day is
flushed twice. -/
example :
    (timerMachine.run (.start 0 86340) [.turn true, .elapse 60, .turn true,
      .turn true, .adjust 82740, .turn true, .elapse 3600, .turn true]).map
        (fun x => x.2.filterMap TimerEvent.behaviourTime) = some [60, 3660]
      ∧ localDay 86340 60 = localDay 82740 3660 := by
  decide

end Pasteboard
