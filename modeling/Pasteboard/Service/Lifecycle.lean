/-
  Pasteboard.Service.Lifecycle
  ────────────────────────────
  **START, STOP AND RETRY** (`OnStart`, `OnStop` and `Init` of
  `pasteboard_service.cpp`), with the dump commands and the timer thread that
  a start brings along.

    • An `OnStart` whose `Publish` fails posts a task that runs `Init` again,
      and only `Init`: a service that comes up by the task has no dump command
      and no timer thread.
    • `OnStop` does nothing to a service that is not running: the task stays,
      and may bring the service up after it.

  So both promises hold over a run exactly when every retry that publishes
  comes after a start that published, and not after a stop
  (`lifecycle_right_iff`).  A task fires whenever it likes once it is posted,
  also when its handler is gone.
-/
import Pasteboard.Service.AccessHistory

namespace Pasteboard

open Lib

variable {Uri Want : Type}

/-! ## §1. The dump commands. -/

/-- A command on a `σ`.  Its action is the closure it is made with, which reads
none of the arguments; `none` is a null pointer followed there. -/
structure Command (σ : Type) where
  format : List String
  help : String
  action : σ → Option String

namespace Command

variable {σ : Type}

/-- `none` is the exception of `at`. -/
def getOption (cmd : Command σ) : Option String := cmd.format[0]?

def getFormat (cmd : Command σ) : String :=
  cmd.format.foldl (fun formatStr seg => formatStr ++ seg ++ " ") ""

end Command

/-- `PasteboardDumpHelper::cmdHandler`. -/
abbrev CmdHandler (Uri Want : Type) : Type :=
  Std.TreeMap String (Command (PasteboardService Uri Want))

/-- `RegisterCommand`: `insert` keeps a command that is there. -/
def registerCommand (cmd : Command (PasteboardService Uri Want))
    (cmdHandler : CmdHandler Uri Want) : CmdHandler Uri Want :=
  cmd.getOption.elim cmdHandler fun option => cmdHandler.insertIfNew option cmd

def copyHistory : Command (PasteboardService Uri Want) where
  format := ["--copy-history"]
  help := "Dump access history last ten times."
  action s := some s.dumpHistory

def copyData (P : Platform) : Command (PasteboardService Uri Want) where
  format := ["--data"]
  help := "Show copy data details."
  action s := s.dunmpData P

/-- The conversion `%-ns`. -/
def leftAligned (n : Nat) (str : String) : String :=
  str ++ "".pushn ' ' (n - str.length)

def DUMP_RULE : String := "\n---------------------------------\n"

/-- `PasteboardDumpHelper::Dump`: what it writes to `fd`, and its result.  The
headline of the help goes to the standard output and is left out. -/
def dump (cmdHandler : CmdHandler Uri Want) (args : List String)
    (s : PasteboardService Uri Want) : Option (String × Bool) :=
  match args with
  | [] => some (DUMP_RULE ++ help, false)
  | option :: _ =>
      if option = "-h" then some (DUMP_RULE ++ help, false)
      else
        cmdHandler[option]?.elim (some (DUMP_RULE, false)) fun cmd =>
          (cmd.action s).map fun output =>
            (DUMP_RULE ++ output ++ "\n", true)
where
  help : String :=
    String.join (cmdHandler.toList.map fun entry =>
      "\n" ++ leftAligned 15 entry.2.getFormat ++ ": "
        ++ leftAligned 20 entry.2.help ++ "\n")

theorem dump_of_find {cmdHandler : CmdHandler Uri Want} {option : String}
    {cmd : Command (PasteboardService Uri Want)} {args : List String}
    {s : PasteboardService Uri Want} (hoption : option ≠ "-h")
    (hfind : cmdHandler[option]? = some cmd) :
    dump cmdHandler (option :: args) s
      = (cmd.action s).map fun output =>
          (DUMP_RULE ++ output ++ "\n", true) := by
  unfold dump
  simp only [if_neg hoption, hfind, Option.elim_some]

/-- The option answers with the action of `cmd`. -/
def Serves (cmdHandler : CmdHandler Uri Want) (option : String)
    (cmd : Command (PasteboardService Uri Want)) : Prop :=
  ∃ found, cmdHandler[option]? = some found ∧ found.action = cmd.action

/-- If the option answers at all, it does with the action of `cmd`. -/
def Unspoilt (cmdHandler : CmdHandler Uri Want) (option : String)
    (cmd : Command (PasteboardService Uri Want)) : Prop :=
  ∀ found, cmdHandler[option]? = some found → found.action = cmd.action

section Register

variable {cmdHandler : CmdHandler Uri Want} {option option' : String}
    {cmd : Command (PasteboardService Uri Want)}

theorem Serves.unspoilt (h : Serves cmdHandler option cmd) :
    Unspoilt cmdHandler option cmd := by
  intro found hfound
  obtain ⟨found', hfound', haction⟩ := h
  rw [hfound, Option.some.injEq] at hfound'
  rw [hfound']
  exact haction

theorem getElem?_registerCommand (hoption : cmd.getOption = some option) :
    (registerCommand cmd cmdHandler)[option']?
      = if option = option' ∧ option ∉ cmdHandler then some cmd
        else cmdHandler[option']? := by
  unfold registerCommand
  rw [hoption, Option.elim_some, Std.TreeMap.getElem?_insertIfNew]
  simp only [Std.LawfulEqCmp.compare_eq_iff_eq]

/-- A command that is registered answers, if nothing else has its option. -/
theorem serves_registerCommand (hoption : cmd.getOption = some option)
    (h : Unspoilt cmdHandler option cmd) :
    Serves (registerCommand cmd cmdHandler) option cmd := by
  unfold Serves
  rw [getElem?_registerCommand hoption]
  by_cases hmem : option ∈ cmdHandler
  · obtain ⟨found, hfound⟩ := Std.TreeMap.mem_iff_isSome_getElem?.mp hmem
      |> Option.isSome_iff_exists.mp
    rw [if_neg (fun hyp => hyp.2 hmem)]
    exact ⟨found, hfound, h found hfound⟩
  · rw [if_pos ⟨rfl, hmem⟩]
    exact ⟨cmd, rfl, rfl⟩

theorem registerCommand_other (hoption : cmd.getOption = some option)
    (hne : option ≠ option') :
    (registerCommand cmd cmdHandler)[option']? = cmdHandler[option']? := by
  rw [getElem?_registerCommand hoption, if_neg (fun hyp => hne hyp.1)]

end Register

/-! ## §2. The life of the service. -/

inductive ServiceRunningState where
  | STATE_NOT_START
  | STATE_RUNNING
  deriving DecidableEq, Repr

open ServiceRunningState

/-- The service as a system ability, the registered commands, and whether the
timer thread has been started. -/
structure Lifecycle (Uri Want : Type) where
  state : ServiceRunningState := STATE_NOT_START
  /-- `serviceHandler_` is not null. -/
  serviceHandler : Bool := false
  /-- Tasks posted that have not fired. -/
  posted : Nat := 0
  cmdHandler : CmdHandler Uri Want := {}
  /-- `HiViewAdapter::running_`. -/
  running : Bool := false

/-- What can be seen from outside. -/
inductive LifecycleEvent where
  | initializationFault
  | postTask
  | timerThread
  deriving DecidableEq, Repr

namespace Lifecycle

/-- `Init`: whether it succeeds is whether `Publish` does. -/
def init (publish : Bool) (s : Lifecycle Uri Want) :
    Lifecycle Uri Want × List LifecycleEvent :=
  if ¬ publish then (s, [.initializationFault])
  else ({ s with state := STATE_RUNNING }, [])

def initServiceHandler (s : Lifecycle Uri Want) : Lifecycle Uri Want :=
  if s.serviceHandler then s else { s with serviceHandler := true }

/-- `HiViewAdapter::StartTimerThread`. -/
def startTimerThread (s : Lifecycle Uri Want) :
    Lifecycle Uri Want × List LifecycleEvent :=
  if s.running then (s, []) else ({ s with running := true }, [.timerThread])

def onStart (P : Platform) (publish : Bool) (s : Lifecycle Uri Want) :
    Lifecycle Uri Want × List LifecycleEvent :=
  if s.state = STATE_RUNNING then (s, [])
  else
    let s := s.initServiceHandler
    let x := s.init publish
    if ¬ publish then
      -- the task runs `Init`, and nothing of what follows here
      ({ x.1 with posted := x.1.posted + 1 }, x.2 ++ [.postTask])
    else
      let s := x.1
      let cmdHandler := registerCommand copyHistory s.cmdHandler
      let cmdHandler := registerCommand (copyData P) cmdHandler
      let s := { s with cmdHandler := cmdHandler }
      let y := s.startTimerThread
      (y.1, x.2 ++ y.2)

def onStop (s : Lifecycle Uri Want) : Lifecycle Uri Want :=
  -- a service that is still to be started by a task keeps its task
  if s.state ≠ STATE_RUNNING then s
  else { s with serviceHandler := false, state := STATE_NOT_START }

/-- A posted task fires: `none` where there is none. -/
def retry (publish : Bool) (s : Lifecycle Uri Want) :
    Option (Lifecycle Uri Want × List LifecycleEvent) :=
  if s.posted = 0 then none
  else
    let s := { s with posted := s.posted - 1 }
    some (s.init publish)

end Lifecycle

/-- What happens to the service: a start, a stop, or a posted task that fires;
`publish` is what `Publish` answers if it is asked. -/
inductive LifecycleInput where
  | onStart (publish : Bool)
  | onStop
  | retry (publish : Bool)
  deriving DecidableEq, Repr

def lifecycleMachine (P : Platform) :
    Machine (Lifecycle Uri Want) LifecycleInput LifecycleEvent where
  step s
    | .onStart publish => some (s.onStart P publish)
    | .onStop => some (s.onStop, [])
    | .retry publish => s.retry publish

/-! ## §3. What a start promises. -/

/-- Both commands are registered and the timer thread has been started. -/
structure Lifecycle.Equipped (P : Platform) (s : Lifecycle Uri Want) :
    Prop where
  history : Serves s.cmdHandler "--copy-history" copyHistory
  data : Serves s.cmdHandler "--data" (copyData P)
  timer : s.running = true

/-- The last start or stop so far is a stop. -/
def Stopped (is : List LifecycleInput) : Prop :=
  ∃ pre post, is = pre ++ .onStop :: post
    ∧ ∀ publish, .onStart publish ∉ post

/-- A running service is equipped, and a stopped one does not run. -/
structure LifecycleGood (P : Platform) (is : List LifecycleInput)
    (s : Lifecycle Uri Want) : Prop where
  equipped : s.state = STATE_RUNNING → s.Equipped P
  stopped : Stopped is → s.state = STATE_NOT_START

/-- A retry that publishes comes after a start that publishes, and the last
start or stop before it is no stop. -/
def RetryInOrder (is : List LifecycleInput) (i : LifecycleInput) : Prop :=
  i = .retry true → .onStart true ∈ is ∧ ¬ Stopped is

/-- **In an equipped service both commands answer**, whatever follows the
option. -/
theorem Lifecycle.Equipped.dump {P : Platform} {l : Lifecycle Uri Want}
    (h : l.Equipped P) (args : List String) (s : PasteboardService Uri Want) :
    Pasteboard.dump l.cmdHandler ("--copy-history" :: args) s
        = some (DUMP_RULE ++ s.dumpHistory ++ "\n", true)
      ∧ Pasteboard.dump l.cmdHandler ("--data" :: args) s
        = (s.dunmpData P).map fun text => (DUMP_RULE ++ text ++ "\n", true) := by
  obtain ⟨⟨cmd, hfind, haction⟩, ⟨cmd', hfind', haction'⟩, _⟩ := h
  constructor
  · rw [dump_of_find (by decide) hfind, haction]
    rfl
  · rw [dump_of_find (by decide) hfind', haction']
    rfl

/-- A stop stops, a start does not, and a retry is neither. -/
theorem stopped_concat (is : List LifecycleInput) (i : LifecycleInput) :
    Stopped (is ++ [i]) ↔ i = .onStop ∨ (∃ publish, i = .retry publish)
      ∧ Stopped is := by
  constructor
  · intro hyp
    obtain ⟨pre, post, heq, hpost⟩ := hyp
    -- either the new input is the stop, or it comes after it
    cases post using List.reverseRecOn with
    | nil =>
        have hlast := List.append_inj_right' heq rfl
        exact Or.inl (List.cons.inj hlast).1
    | append_singleton post j _ =>
        rw [← List.cons_append, ← List.append_assoc] at heq
        have hlast := (List.cons.inj (List.append_inj_right' heq rfl)).1
        have hinit := List.append_inj_left' heq rfl
        subst hlast
        have hstopped : Stopped is := by
          refine ⟨pre, post, hinit, ?_⟩
          intro publish hmem
          exact hpost publish (List.mem_append_left _ hmem)
        cases i with
        | onStart publish => exact absurd (by simp) (hpost publish)
        | onStop => exact Or.inl rfl
        | retry publish => exact Or.inr ⟨⟨publish, rfl⟩, hstopped⟩
  · intro hyp
    rcases hyp with hstop | ⟨⟨publish, hretry⟩, pre, post, heq, hpost⟩
    · subst hstop
      exact ⟨is, [], rfl, fun _ => List.not_mem_nil⟩
    · subst hretry
      refine ⟨pre, post ++ [.retry publish], ?_, ?_⟩
      · rw [heq, List.append_assoc]
        rfl
      · intro publish' hmem
        rcases List.mem_append.mp hmem with hmem | hmem
        · exact hpost publish' hmem
        · cases List.mem_singleton.mp hmem

/-! ## §4. The invariant, step by step. -/

/-- What holds of a run whose retries are in order: a start that published has
equipped the service, nothing else starts the timer or takes the options, and
a service that runs has been started so, and not been stopped since. -/
structure LifecycleInv (P : Platform) (is : List LifecycleInput)
    (s : Lifecycle Uri Want) : Prop where
  started : .onStart true ∈ is → s.Equipped P
  timer : s.running = true → .onStart true ∈ is
  history : Unspoilt s.cmdHandler "--copy-history" copyHistory
  data : Unspoilt s.cmdHandler "--data" (copyData P)
  up : s.state = STATE_RUNNING → .onStart true ∈ is ∧ ¬ Stopped is

theorem LifecycleInv.good {P : Platform} {is : List LifecycleInput}
    {s : Lifecycle Uri Want} (h : LifecycleInv P is s) :
    LifecycleGood P is s where
  equipped hup := h.started (h.up hup).1
  stopped hstopped := by
    cases hstate : s.state with
    | STATE_NOT_START => rfl
    | STATE_RUNNING => exact absurd hstopped (h.up hstate).2

theorem lifecycleInv_start (P : Platform) :
    LifecycleInv P [] ({} : Lifecycle Uri Want) where
  started hmem := absurd hmem List.not_mem_nil
  timer hrunning := by cases hrunning
  history found hfound := by simp at hfound
  data found hfound := by simp at hfound
  up hup := by cases hup

namespace Lifecycle

variable {P : Platform}

theorem initServiceHandler_eq (s : Lifecycle Uri Want) :
    s.initServiceHandler = { s with serviceHandler := true } := by
  unfold initServiceHandler
  by_cases h : s.serviceHandler = true
  · rw [if_pos h, ← h]
  · rw [if_neg h]

theorem startTimerThread_fst (s : Lifecycle Uri Want) :
    s.startTimerThread.1 = { s with running := true } := by
  unfold startTimerThread
  by_cases h : s.running = true
  · rw [if_pos h, ← h]
  · rw [if_neg h]

/-- A start whose `Publish` fails only posts the task. -/
theorem onStart_false {s : Lifecycle Uri Want}
    (hdown : s.state ≠ STATE_RUNNING) :
    (s.onStart P false).1
      = { s with serviceHandler := true, posted := s.posted + 1 } := by
  unfold onStart
  rw [if_neg hdown, initServiceHandler_eq]
  rfl

theorem onStart_true {s : Lifecycle Uri Want}
    (hdown : s.state ≠ STATE_RUNNING) :
    (s.onStart P true).1
      = { s with
          serviceHandler := true
          state := STATE_RUNNING
          cmdHandler := registerCommand (copyData P)
            (registerCommand copyHistory s.cmdHandler)
          running := true } := by
  unfold onStart
  rw [if_neg hdown, initServiceHandler_eq]
  show (startTimerThread _).1 = _
  rw [startTimerThread_fst]
  rfl

/-- **A start that publishes equips the service.** -/
theorem equipped_onStart {s : Lifecycle Uri Want}
    (hdown : s.state ≠ STATE_RUNNING)
    (hhistory : Unspoilt s.cmdHandler "--copy-history" copyHistory)
    (hdata : Unspoilt s.cmdHandler "--data" (copyData P)) :
    ((s.onStart P true).1).Equipped P := by
  rw [onStart_true hdown]
  refine ⟨?_, ?_, rfl⟩
  · -- the second registration leaves the first alone
    obtain ⟨found, hfound, haction⟩ := serves_registerCommand rfl hhistory
    refine ⟨found, ?_, haction⟩
    have hoption : (copyData P : Command (PasteboardService Uri Want)).getOption
        = some "--data" := rfl
    show (registerCommand _ _)["--copy-history"]? = _
    rw [registerCommand_other hoption (by decide)]
    exact hfound
  · refine serves_registerCommand rfl ?_
    have hoption : (copyHistory : Command (PasteboardService Uri Want)).getOption
        = some "--copy-history" := rfl
    unfold Unspoilt
    rw [registerCommand_other hoption (by decide)]
    exact hdata

end Lifecycle

open Lifecycle

variable {P : Platform} {is : List LifecycleInput} {s s' : Lifecycle Uri Want}

/-- An input after which the commands and the timer are as they were, and the
service runs only if it is in order that it does. -/
theorem LifecycleInv.frame {i : LifecycleInput} (h : LifecycleInv P is s)
    (hcmd : s'.cmdHandler = s.cmdHandler) (hrunning : s'.running = s.running)
    (hstart : i = .onStart true → .onStart true ∈ is)
    (hup : s'.state = STATE_RUNNING →
      .onStart true ∈ is ∧ ¬ Stopped (is ++ [i])) :
    LifecycleInv P (is ++ [i]) s' where
  started hmem := by
    have hmem' : .onStart true ∈ is := by
      rcases List.mem_append.mp hmem with hmem | hmem
      · exact hmem
      · exact hstart (List.mem_singleton.mp hmem).symm
    obtain ⟨hhistory, hdata, htimer⟩ := h.started hmem'
    rw [← hcmd] at hhistory hdata
    rw [← hrunning] at htimer
    exact ⟨hhistory, hdata, htimer⟩
  timer htimer := by
    rw [hrunning] at htimer
    exact List.mem_append_left _ (h.timer htimer)
  history := by
    rw [hcmd]
    exact h.history
  data := by
    rw [hcmd]
    exact h.data
  up hup' := by
    obtain ⟨hmem, hstopped⟩ := hup hup'
    exact ⟨List.mem_append_left _ hmem, hstopped⟩

theorem not_stopped_onStart (is : List LifecycleInput) (publish : Bool) :
    ¬ Stopped (is ++ [.onStart publish]) := by
  rw [stopped_concat]
  simp

/-- **A start keeps the invariant**, whatever `Publish` answers. -/
theorem LifecycleInv.onStart (h : LifecycleInv P is s) (publish : Bool) :
    LifecycleInv P (is ++ [.onStart publish]) (s.onStart P publish).1 := by
  by_cases hstate : s.state = STATE_RUNNING
  · -- it runs already, so a start that published has been made before
    have hmem := (h.up hstate).1
    have hsame : (s.onStart P publish).1 = s := by
      unfold Lifecycle.onStart
      rw [if_pos hstate]
    rw [hsame]
    exact h.frame rfl rfl (fun _ => hmem)
      fun _ => ⟨hmem, not_stopped_onStart is publish⟩
  cases publish with
  | false =>
      rw [onStart_false hstate]
      refine h.frame rfl rfl (fun hi => by cases hi) ?_
      intro hup
      exact absurd hup hstate
  | true =>
      have hequipped := equipped_onStart (P := P) hstate h.history h.data
      have hmem : LifecycleInput.onStart true ∈ is ++ [.onStart true] := by
        simp
      exact ⟨fun _ => hequipped, fun _ => hmem, hequipped.history.unspoilt,
        hequipped.data.unspoilt,
        fun _ => ⟨hmem, not_stopped_onStart is true⟩⟩

/-- A stop leaves a service that does not run, with all it has registered. -/
theorem onStop_spec (s : Lifecycle Uri Want) :
    s.onStop.state = STATE_NOT_START ∧ s.onStop.cmdHandler = s.cmdHandler
      ∧ s.onStop.running = s.running := by
  unfold Lifecycle.onStop
  cases hstate : s.state with
  | STATE_NOT_START =>
      rw [if_pos (by decide)]
      exact ⟨hstate, rfl, rfl⟩
  | STATE_RUNNING =>
      rw [if_neg (by decide)]
      exact ⟨rfl, rfl, rfl⟩

/-- A retry only publishes. -/
theorem retry_cases {publish : Bool} {os : List LifecycleEvent}
    (hstep : s.retry publish = some (s', os)) :
    s'.cmdHandler = s.cmdHandler ∧ s'.running = s.running
      ∧ (publish = true → s'.state = STATE_RUNNING)
      ∧ (publish = false → s'.state = s.state) := by
  unfold Lifecycle.retry at hstep
  by_cases hposted : s.posted = 0
  · rw [if_pos hposted] at hstep
    cases hstep
  · rw [if_neg hposted] at hstep
    cases publish with
    | false =>
        cases hstep
        exact ⟨rfl, rfl, (fun hyp => by cases hyp), fun _ => rfl⟩
    | true =>
        cases hstep
        exact ⟨rfl, rfl, fun _ => rfl, fun hyp => by cases hyp⟩

theorem stopped_retry (publish : Bool) :
    Stopped (is ++ [.retry publish]) ↔ Stopped is := by
  rw [stopped_concat]
  simp

/-- **A step in order keeps the invariant.** -/
theorem lifecycle_keeps {i : LifecycleInput} {os : List LifecycleEvent}
    (h : LifecycleInv P is s) (horder : RetryInOrder is i)
    (hstep : (lifecycleMachine P).step s i = some (s', os)) :
    LifecycleInv P (is ++ [i]) s' := by
  cases i with
  | onStart publish =>
      -- whatever it publishes, a start equips what it starts
      have hs' : (s.onStart P publish).1 = s' :=
        congrArg Prod.fst (Option.some.inj hstep)
      rw [← hs']
      exact h.onStart publish
  | onStop =>
      cases hstep
      obtain ⟨hdown, hcmd, hrunning⟩ := onStop_spec s
      refine h.frame hcmd hrunning (fun hi => by cases hi) ?_
      intro hup
      rw [hdown] at hup
      cases hup
  | retry publish =>
      obtain ⟨hcmd, hrunning, htrue, hfalse⟩ := retry_cases hstep
      refine h.frame hcmd hrunning (fun hi => by cases hi) ?_
      intro hup
      rw [stopped_retry]
      cases publish with
      -- the only step that may start a service without equipping it
      | true => exact horder rfl
      | false =>
          rw [hfalse rfl] at hup
          exact h.up hup

/-- **A retry out of order leaves a state that is not good.** -/
theorem inOrder_of_good {i : LifecycleInput} {os : List LifecycleEvent}
    (h : LifecycleInv P is s)
    (hstep : (lifecycleMachine P).step s i = some (s', os))
    (hgood : LifecycleGood P (is ++ [i]) s') : RetryInOrder is i := by
  intro hi
  subst hi
  obtain ⟨_, hrunning, htrue, _⟩ := retry_cases hstep
  have hup : s'.state = STATE_RUNNING := htrue rfl
  constructor
  · -- the timer runs, and a retry has not started it
    have htimer : s'.running = true := (hgood.equipped hup).timer
    rw [hrunning] at htimer
    exact h.timer htimer
  · intro hstopped
    have hdown := hgood.stopped ((stopped_retry true).mpr hstopped)
    rw [hup] at hdown
    cases hdown

/-! ## §5. The life of the service over a run. -/

/-- **When a running service is equipped, and a stopped one stays down.**  In
every state of a run, exactly when each retry that publishes comes after a
start that published, and the last start or stop before it is no stop. -/
theorem lifecycle_right_iff {s' : Lifecycle Uri Want}
    {os : List LifecycleEvent}
    (hrun : (lifecycleMachine P).run {} is = some (s', os)) :
    (∀ pre post s₁ os₁, is = pre ++ post →
        (lifecycleMachine P).run ({} : Lifecycle Uri Want) pre
          = some (s₁, os₁) → LifecycleGood P pre s₁)
      ↔ ∀ pre i post, is = pre ++ i :: post → RetryInOrder pre i := by
  refine (lifecycleMachine P).history_always_iff (LifecycleInv P)
    (LifecycleGood P) RetryInOrder (lifecycleInv_start P) ?_ ?_ ?_ hrun
  · intro is s i s' os hinv horder hstep
    exact lifecycle_keeps hinv horder hstep
  · intro is s hinv
    exact hinv.good
  · intro is s i s' os hinv hstep hgood
    exact inOrder_of_good hinv hstep hgood

/-- The first start fails, the second publishes, and then the task fires. -/
def startsThenRetry : List LifecycleInput :=
  [.onStart false, .onStart true, .retry true]

theorem startsThenRetry_inOrder (pre : List LifecycleInput)
    (i : LifecycleInput) (post : List LifecycleInput)
    (heq : startsThenRetry = pre ++ i :: post) : RetryInOrder pre i := by
  intro hi
  subst hi
  have hpre : pre = [.onStart false, .onStart true] := by
    match pre, heq with
    | [_, _], heq =>
        injection heq with h₁ heq
        injection heq with h₂ _
        rw [h₁, h₂]
    | _ :: _ :: _ :: pre, heq =>
        injection heq with _ heq
        injection heq with _ heq
        injection heq with _ heq
        cases pre <;> cases heq
  rw [hpre]
  exact ⟨by decide, not_stopped_onStart [.onStart false] true⟩

theorem lifecycle_right_startsThenRetry :
    ∃ (s : Lifecycle String String) (os : List LifecycleEvent),
      (lifecycleMachine namedPlatform).run {} startsThenRetry = some (s, os)
        ∧ LifecycleGood namedPlatform startsThenRetry s := by
  refine ⟨_, _, rfl, ?_⟩
  exact (lifecycle_right_iff rfl).mpr startsThenRetry_inOrder
    startsThenRetry [] _ _ (List.append_nil _).symm rfl

/-- **A task that brings the service up.**  A start fails and its task
publishes: the service runs without commands and timer.  A start fails, the
service is stopped, and the task publishes: it runs after the stop. -/
theorem lifecycle_right_lateRetry :
    ¬ (∀ (P : Platform) (is : List LifecycleInput)
        (s : Lifecycle String String) (os : List LifecycleEvent),
        (lifecycleMachine P).run {} is = some (s, os) →
        s.state = STATE_RUNNING → s.Equipped P)
      ∧ ¬ (∀ (P : Platform) (is : List LifecycleInput)
        (s : Lifecycle String String) (os : List LifecycleEvent),
        (lifecycleMachine P).run {} is = some (s, os) →
        Stopped is → s.state = STATE_NOT_START) := by
  constructor
  · intro h
    have hequipped := h namedPlatform [.onStart false, .retry true] _ _ rfl rfl
    cases hequipped.timer
  · intro h
    have hstopped : Stopped [.onStart false, .onStop, .retry true] := by
      refine ⟨[.onStart false], [.retry true], rfl, ?_⟩
      intro publish
      cases publish <;> decide
    cases h namedPlatform [.onStart false, .onStop, .retry true] _ _ rfl
      hstopped

end Pasteboard
