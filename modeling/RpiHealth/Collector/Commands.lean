import RpiHealth.Collector.Output

/-! The runner of a firmware command. It asks for the child's exit in short sleeps, kills
the child at the deadline, and joins the thread that reads the output. The deadline is
the loop's only: the wait for a killed child and the join may still block. -/
namespace RpiHealth

/-- In nanoseconds. -/
def COMMAND_POLL_INTERVAL : Nat := 10000000

/-- What the child's state is found to be. -/
inductive ChildStatus where
  | exited (success : Bool)
  | running
  | failed
  deriving DecidableEq, Repr

/-- One turn of the loop: the child, and what the clock shows before and in the
computation of the sleep. -/
structure Attempt where
  status : ChildStatus
  elapsed : Nat
  later : Nat
  deriving DecidableEq, Repr

inductive CommandAct where
  | spawn (succeeds : Bool)
  | read | kill | wait | join
  | tryWait (found : ChildStatus)
  | sleep (nanos : Nat)
  deriving DecidableEq, Repr

/-- What becomes of the thread that reads the output. -/
inductive OutputReader where
  | panics
  /-- Some process holds the pipe for ever, and says nothing more. -/
  | blocked
  /-- All that is read, up to the end of the output or an error. -/
  | finished (reads : List (Except IoError Chunk))

/-- What a run meets: the spawning, whether the child's output is piped, the turns of
the loop, whether a killed child can be waited for, and the reader. -/
structure CommandHost where
  spawns : Bool
  piped : Bool
  attempts : Nat → Attempt
  reaped : Bool
  reader : OutputReader

/-- A run returns, or it is in a call that never does. -/
inductive CommandEnd where
  | returned (result : Except CommandFailure String)
  | hangs (call : CommandAct)

def napOf (timeout : Nat) (attempt : Attempt) : Nat :=
  min COMMAND_POLL_INTERVAL (timeout - attempt.later)

/-- The loop from a turn on, for as many turns as there is fuel. -/
def awaitChild (timeout : Nat) (attempts : Nat → Attempt) :
    Nat → Nat → Option (Except CommandFailure Bool × List CommandAct)
  | 0, _ => none
  | fuel + 1, turn =>
    let attempt := attempts turn
    match attempt.status with
    | .exited success => some (.ok success, [.tryWait (.exited success)])
    | .running =>
      if attempt.elapsed < timeout then
        (awaitChild timeout attempts fuel (turn + 1)).map
          (fun r => (r.1, .tryWait .running :: .sleep (napOf timeout attempt) :: r.2))
      else some (.error .timedOut, [.tryWait .running])
    | .failed => some (.error .wait, [.tryWait .failed])

/-- The text of a child that has ended. -/
def commandText (success : Bool) (read : Option (List (Except IoError Chunk))) :
    Except CommandFailure String :=
  match read.map (fun reads => (readLimitedOutput reads).1) with
  | none => .error .outputRead
  | some (.error failure) => .error failure
  | some (.ok bytes) =>
    if success then
      match String.fromUTF8? ⟨bytes.toArray⟩ with
      | some text => .ok text
      | none => .error .outputEncoding
    else .error .nonZeroExit

namespace CommandHost

/-- The join of the reader, and what follows where it returns. -/
def join (host : CommandHost)
    (next : Option (List (Except IoError Chunk)) → Except CommandFailure String) :
    CommandEnd × List CommandAct :=
  match host.reader with
  | .blocked => (.hangs .join, [])
  | .panics => (.returned (next none), [.join])
  | .finished reads => (.returned (next (some reads)), [.join])

/-- The kill and what follows it. Nobody looks at the output. -/
def giveUp (host : CommandHost) (failure : CommandFailure) : CommandEnd × List CommandAct :=
  if host.reaped then
    let joined := host.join fun _ => .error failure
    (joined.1, .kill :: .wait :: joined.2)
  else (.hangs .wait, [.kill])

/-- What follows the loop. -/
def conclude (host : CommandHost) : Except CommandFailure Bool → CommandEnd × List CommandAct
  | .ok success => host.join (commandText success)
  | .error failure => host.giveUp failure

end CommandHost

def runCommand (timeout : Nat) (host : CommandHost) (fuel : Nat) :
    Option (CommandEnd × List CommandAct) :=
  if host.spawns then
    if host.piped then
      (awaitChild timeout host.attempts fuel 0).map (fun waited =>
        let concluded := host.conclude waited.1
        (concluded.1, .spawn true :: .read :: waited.2 ++ concluded.2))
    else some (.returned (.error .outputRead), [.spawn true])
  else some (.returned (.error .spawn), [.spawn false])

/-- Another turn follows. -/
def Attempt.GoesOn (timeout : Nat) (attempt : Attempt) : Prop :=
  attempt.status = .running ∧ attempt.elapsed < timeout

/-- The clock does not go back, and a sleep takes at least as long as it was asked to. -/
structure Clocked (timeout : Nat) (attempts : Nat → Attempt) : Prop where
  within : ∀ turn, (attempts turn).GoesOn timeout →
    (attempts turn).elapsed ≤ (attempts turn).later
  slept : ∀ turn, (attempts turn).GoesOn timeout →
    (attempts turn).later + napOf timeout (attempts turn) ≤ (attempts (turn + 1)).elapsed

/-- The turns that a timeout leaves time for. -/
def turnsWithin (timeout : Nat) : Nat := timeout / COMMAND_POLL_INTERVAL + 2

/-- What is left of the run: a child nobody has waited for, a thread nobody has joined. -/
structure Unclaimed where
  child : Bool := false
  reader : Bool := false
  deriving DecidableEq, Repr

def Unclaimed.after (left : Unclaimed) : CommandAct → Unclaimed
  | .spawn succeeds => { left with child := succeeds }
  | .read => { left with reader := true }
  | .tryWait (.exited _) | .wait => { left with child := false }
  | .join => { left with reader := false }
  | _ => left

def unclaimed (acts : List CommandAct) : Unclaimed := acts.foldl Unclaimed.after {}

def nap? : CommandAct → Option Nat
  | .sleep nanos => some nanos
  | _ => none

/-- How long the run has asked to sleep. -/
def asleep (acts : List CommandAct) : Nat := (acts.filterMap nap?).sum

/-- The turn at which the loop is left. -/
structure Leaves (timeout : Nat) (attempts : Nat → Attempt) (turn : Nat) : Prop where
  before : ∀ i < turn, (attempts i).GoesOn timeout
  here : ¬ (attempts turn).GoesOn timeout

theorem leaves_unique (timeout : Nat) (attempts : Nat → Attempt) (n m : Nat)
    (first : Leaves timeout attempts n) (second : Leaves timeout attempts m) : n = m := by
  rcases Nat.lt_trichotomy n m with less | same | more
  · exact absurd (second.before n less) first.here
  · exact same
  · exact absurd (first.before m more) second.here

section

variable (timeout : Nat) (attempts : Nat → Attempt) (clocked : Clocked timeout attempts)
include clocked

/-- Every turn takes up a poll interval, or all the time that is left. -/
theorem elapsed_least (turn : Nat) (before : ∀ i < turn, (attempts i).GoesOn timeout) :
    min (turn * COMMAND_POLL_INTERVAL) timeout ≤ (attempts turn).elapsed := by
  induction turn with
  | zero => simp
  | succ n ih =>
    have reached := ih (fun i less => before i (by omega))
    have within := clocked.within n (before n (by omega))
    have slept := clocked.slept n (before n (by omega))
    rw [Nat.succ_mul]
    simp only [napOf] at slept
    omega

theorem loop_leaves : ∃ turn, Leaves timeout attempts turn ∧
    turn ≤ timeout / COMMAND_POLL_INTERVAL + 1 := by
  let last := timeout / COMMAND_POLL_INTERVAL + 1
  have late : timeout ≤ last * COMMAND_POLL_INTERVAL := by
    simp only [last, COMMAND_POLL_INTERVAL]
    omega
  have ends : ∃ turn, ¬ (attempts turn).GoesOn timeout := by
    by_contra never
    have always : ∀ i, (attempts i).GoesOn timeout := fun i => not_not.mp (fun h => never ⟨i, h⟩)
    have reached := elapsed_least timeout attempts clocked last (fun i _ => always i)
    have early := (always last).2
    omega
  classical
  let turn := Nat.find ends
  have leaves : Leaves timeout attempts turn :=
    ⟨fun i less => not_not.mp (Nat.find_min ends less), Nat.find_spec ends⟩
  refine ⟨turn, leaves, ?_⟩
  by_contra long
  have reached := elapsed_least timeout attempts clocked last
    (fun i less => leaves.before i (by omega))
  have early := (leaves.before last (by omega)).2
  omega

/-- From a turn on, the sleeps fit into the time that is left. -/
theorem naps_within (turn count : Nat) (goes : ∀ i < turn + count, (attempts i).GoesOn timeout) :
    ((List.range' turn count).map (fun i => napOf timeout (attempts i))).sum ≤
      timeout - (attempts turn).elapsed := by
  induction count generalizing turn with
  | zero => simp
  | succ n ih =>
    have later := ih (turn + 1) (fun i less => goes i (by omega))
    have within := clocked.within turn (goes turn (by omega))
    have slept := clocked.slept turn (goes turn (by omega))
    rw [List.range'_succ, List.map_cons, List.sum_cons]
    simp only [napOf] at later slept ⊢
    omega

end

def napsOf (timeout : Nat) (attempts : Nat → Attempt) (turn count : Nat) : List CommandAct :=
  (List.range' turn count).flatMap
    (fun i => [.tryWait .running, .sleep (napOf timeout (attempts i))])

/-- What the loop returns and does at its last turn. -/
def lastTurn (attempt : Attempt) : Except CommandFailure Bool × List CommandAct :=
  match attempt.status with
  | .exited success => (.ok success, [.tryWait (.exited success)])
  | .running => (.error .timedOut, [.tryWait .running])
  | .failed => (.error .wait, [.tryWait .failed])

theorem awaitChild_eq (timeout : Nat) (attempts : Nat → Attempt) (count fuel turn : Nat)
    (goes : ∀ i < count, (attempts (turn + i)).GoesOn timeout)
    (ends : ¬ (attempts (turn + count)).GoesOn timeout) (enough : count < fuel) :
    awaitChild timeout attempts fuel turn =
      some ((lastTurn (attempts (turn + count))).1,
        napsOf timeout attempts turn count ++ (lastTurn (attempts (turn + count))).2) := by
  induction count generalizing fuel turn with
  | zero =>
    obtain ⟨fuel, rfl⟩ := Nat.exists_eq_succ_of_ne_zero (by omega : fuel ≠ 0)
    simp only [Attempt.GoesOn, Nat.add_zero, not_and] at ends
    simp only [awaitChild, Nat.add_zero, napsOf, List.range'_zero, List.flatMap_nil,
      List.nil_append, lastTurn]
    cases status : (attempts turn).status with
    | exited success => rfl
    | failed => rfl
    | running => simp [ends status]
  | succ n ih =>
    obtain ⟨fuel, rfl⟩ := Nat.exists_eq_succ_of_ne_zero (by omega : fuel ≠ 0)
    have first := goes 0 (by omega)
    rw [Nat.add_zero] at first
    have moved : turn + 1 + n = turn + (n + 1) := by omega
    have rest := ih fuel (turn + 1)
      (fun i less => by
        have next := goes (i + 1) (by omega)
        rwa [show turn + 1 + i = turn + (i + 1) by omega])
      (by rwa [moved]) (by omega)
    simp only [awaitChild, first.1, first.2, if_true, rest, Option.map_some, moved]
    simp [napsOf, List.range'_succ]

/-! What a whole run leaves, and how long it sleeps. -/

theorem unclaimed_append (first second : List CommandAct) :
    unclaimed (first ++ second) = second.foldl Unclaimed.after (unclaimed first) :=
  List.foldl_append

theorem naps_after (timeout : Nat) (attempts : Nat → Attempt) (turn count : Nat)
    (left : Unclaimed) :
    (napsOf timeout attempts turn count).foldl Unclaimed.after left = left := by
  induction count generalizing turn with
  | zero => rfl
  | succ n ih =>
    rw [napsOf, List.range'_succ, List.flatMap_cons, List.foldl_append]
    exact ih (turn + 1)

theorem asleep_append (first second : List CommandAct) :
    asleep (first ++ second) = asleep first + asleep second := by
  simp [asleep]

theorem asleep_naps (timeout : Nat) (attempts : Nat → Attempt) (turn count : Nat) :
    asleep (napsOf timeout attempts turn count) =
      ((List.range' turn count).map (fun i => napOf timeout (attempts i))).sum := by
  induction count generalizing turn with
  | zero => rfl
  | succ n ih =>
    rw [napsOf, List.range'_succ, List.flatMap_cons, asleep_append, List.map_cons, List.sum_cons,
      ← ih (turn + 1)]
    rfl

theorem asleep_last (attempt : Attempt) : asleep (lastTurn attempt).2 = 0 := by
  unfold lastTurn
  split <;> rfl

/-- A child that was found to have ended has been waited for. -/
theorem last_after (attempt : Attempt) :
    (lastTurn attempt).2.foldl Unclaimed.after ⟨true, true⟩ =
      ⟨!(lastTurn attempt).1.isOk, true⟩ := by
  unfold lastTurn
  split <;> rfl

theorem conclude_asleep (host : CommandHost) (ended : Except CommandFailure Bool) :
    asleep (host.conclude ended).2 = 0 := by
  cases ended with
  | ok success => cases reader : host.reader <;> simp only [CommandHost.conclude,
      CommandHost.join, reader] <;> rfl
  | error failure =>
    simp only [CommandHost.conclude, CommandHost.giveUp]
    split
    · cases reader : host.reader <;> simp only [CommandHost.join, reader] <;> rfl
    · rfl

/-- What returns has claimed the child and the reader. -/
theorem conclude_claims (host : CommandHost) (ended : Except CommandFailure Bool)
    (result : Except CommandFailure String)
    (returns : (host.conclude ended).1 = .returned result) :
    (host.conclude ended).2.foldl Unclaimed.after ⟨!ended.isOk, true⟩ = {} := by
  cases ended with
  | ok success =>
    cases reader : host.reader <;>
      simp only [CommandHost.conclude, CommandHost.join, reader, reduceCtorEq] at returns ⊢ <;> rfl
  | error failure =>
    cases reaped : host.reaped with
    | true =>
      cases reader : host.reader <;>
        simp only [CommandHost.conclude, CommandHost.giveUp, CommandHost.join, reaped, reader,
          if_true, reduceCtorEq] at returns ⊢ <;> rfl
    | false => simp [CommandHost.conclude, CommandHost.giveUp, reaped] at returns

/-- The run of a child that could be spawned, by the turn at which the loop is left. -/
structure CommandRun (timeout : Nat) (host : CommandHost) (turn : Nat) (ending : CommandEnd)
    (acts : List CommandAct) : Prop where
  leaves : Leaves timeout host.attempts turn
  ends : ending = (host.conclude (lastTurn (host.attempts turn)).1).1
  claimed : ∀ result, ending = .returned result → unclaimed acts = {}
  naps : asleep acts ≤ timeout

theorem runCommand_spawned (timeout : Nat) (host : CommandHost) (spawns : host.spawns = true)
    (piped : host.piped = true) (clocked : Clocked timeout host.attempts) :
    ∃ turn ending acts, runCommand timeout host (turnsWithin timeout) = some (ending, acts) ∧
      CommandRun timeout host turn ending acts := by
  obtain ⟨turn, leaves, soon⟩ := loop_leaves timeout host.attempts clocked
  have looped := awaitChild_eq timeout host.attempts turn (turnsWithin timeout) 0
    (fun i less => by simpa using leaves.before i less) (by simpa using leaves.here)
    (by simp only [turnsWithin]; omega)
  rw [Nat.zero_add] at looped
  let ended := (lastTurn (host.attempts turn)).1
  refine ⟨turn, (host.conclude ended).1, [.spawn true, .read] ++
    (napsOf timeout host.attempts 0 turn ++ (lastTurn (host.attempts turn)).2) ++
      (host.conclude ended).2, ?_, leaves, rfl, fun result returns => ?_, ?_⟩
  · simp only [runCommand, spawns, piped, if_true, looped, Option.map_some]
    rfl
  · rw [unclaimed_append, unclaimed_append, List.foldl_append, naps_after]
    rw [show unclaimed [.spawn true, .read] = ⟨true, true⟩ from rfl, last_after]
    exact conclude_claims host ended result returns
  · have naps := naps_within timeout host.attempts clocked 0 turn
      (fun i less => leaves.before i (by omega))
    have none : asleep [.spawn true, .read] = 0 := rfl
    rw [asleep_append, asleep_append, asleep_append, asleep_naps, asleep_last, conclude_asleep]
    omega

theorem readLoop_error (reads : List (Except IoError Chunk)) (state : LimitedOutput)
    (failure : CommandFailure) (failed : (readLoop state reads).1 = .error failure) :
    failure = .outputRead := by
  induction reads generalizing state with
  | nil => simp [readLoop] at failed
  | cons read later ih =>
    cases read with
    | error e => exact (Except.error.inj failed).symm
    | ok chunk =>
      simp only [readLoop] at failed
      split at failed
      · simp at failed
      · exact ih _ failed

theorem readLimitedOutput_error (reads : List (Except IoError Chunk)) (failure : CommandFailure)
    (failed : (readLimitedOutput reads).1 = .error failure) :
    failure = .outputRead ∨ failure = .outputTooLarge := by
  unfold readLimitedOutput at failed
  split at failed
  · rename_i e later looped
    obtain rfl : e = failure := Except.error.inj failed
    exact .inl (readLoop_error reads {} e (by rw [looped]))
  · rename_i state later looped
    by_cases large : state.tooLarge = true
    · simp only [large, if_true] at failed
      exact .inr (Except.error.inj failed).symm
    · simp [large] at failed

theorem commandText_ok (success : Bool) (reads : Option (List (Except IoError Chunk)))
    (text : String) :
    commandText success reads = .ok text ↔ success = true ∧ ∃ all bytes, reads = some all ∧
      (readLimitedOutput all).1 = .ok bytes ∧ String.fromUTF8? ⟨bytes.toArray⟩ = some text := by
  cases reads with
  | none => simp [commandText]
  | some all =>
    cases read : (readLimitedOutput all).1 with
    | error failure => simp [commandText, read]
    | ok bytes =>
      cases success with
      | false => simp [commandText, read]
      | true =>
        cases decoded : String.fromUTF8? ⟨bytes.toArray⟩ <;> simp [commandText, read, decoded]

theorem commandText_notTimedOut (success : Bool) (reads : Option (List (Except IoError Chunk))) :
    commandText success reads ≠ .error .timedOut := by
  cases reads with
  | none => simp [commandText]
  | some all =>
    cases read : (readLimitedOutput all).1 with
    | error failure =>
      rcases readLimitedOutput_error all failure read with rfl | rfl <;> simp [commandText, read]
    | ok bytes =>
      cases success with
      | false => simp [commandText, read]
      | true =>
        cases decoded : String.fromUTF8? ⟨bytes.toArray⟩ <;> simp [commandText, read, decoded]

/-- The call that a child's status leads to and that does not return. -/
inductive CommandHost.Hangs (host : CommandHost) : ChildStatus → CommandAct → Prop
  | unreaped (status : ChildStatus) (alive : ∀ success, status ≠ .exited success)
      (reaped : host.reaped = false) : host.Hangs status .wait
  | held (status : ChildStatus)
      (waited : (∃ success, status = .exited success) ∨ host.reaped = true)
      (reader : host.reader = .blocked) : host.Hangs status .join

section Endings

variable {timeout : Nat} {host : CommandHost} {turn : Nat} {ending : CommandEnd}
  {acts : List CommandAct} (run : CommandRun timeout host turn ending acts)
include run

theorem CommandRun.ok_iff (text : String) :
    ending = .returned (.ok text) ↔ (host.attempts turn).status = .exited true ∧
      ∃ all bytes, host.reader = .finished all ∧ (readLimitedOutput all).1 = .ok bytes ∧
        String.fromUTF8? ⟨bytes.toArray⟩ = some text := by
  rw [run.ends, lastTurn]
  cases status : (host.attempts turn).status with
  | exited success =>
    cases reader : host.reader <;>
      simp [CommandHost.conclude, CommandHost.join, reader, commandText_ok]
  | _ =>
    cases reaped : host.reaped <;> cases reader : host.reader <;>
      simp [CommandHost.conclude, CommandHost.giveUp, CommandHost.join, reaped, reader]

theorem CommandRun.timedOut_iff :
    ending = .returned (.error .timedOut) ↔ (host.attempts turn).status = .running ∧
      host.reaped = true ∧ host.reader ≠ .blocked := by
  rw [run.ends, lastTurn]
  cases status : (host.attempts turn).status with
  | exited success =>
    cases reader : host.reader <;>
      simp [CommandHost.conclude, CommandHost.join, reader, commandText_notTimedOut]
  | _ =>
    cases reaped : host.reaped <;> cases reader : host.reader <;>
      simp [CommandHost.conclude, CommandHost.giveUp, CommandHost.join, reaped, reader]

theorem CommandRun.hangs_iff (call : CommandAct) :
    ending = .hangs call ↔ host.Hangs (host.attempts turn).status call := by
  rw [run.ends, lastTurn]
  constructor
  · intro hangs
    cases status : (host.attempts turn).status with
    | exited success =>
      cases reader : host.reader <;>
        simp only [status, CommandHost.conclude, CommandHost.join, reader, reduceCtorEq,
          CommandEnd.hangs.injEq] at hangs
      exact hangs ▸ .held _ (.inl ⟨success, rfl⟩) reader
    | running | failed =>
      cases reaped : host.reaped with
      | false =>
        simp only [status, CommandHost.conclude, CommandHost.giveUp, reaped, Bool.false_eq_true,
          if_false, CommandEnd.hangs.injEq] at hangs
        exact hangs ▸ .unreaped _ (by simp) reaped
      | true =>
        cases reader : host.reader <;>
          simp only [status, CommandHost.conclude, CommandHost.giveUp, CommandHost.join, reaped,
            reader, if_true, reduceCtorEq, CommandEnd.hangs.injEq] at hangs
        exact hangs ▸ .held _ (.inr reaped) reader
  · intro hangs
    cases hangs with
    | unreaped alive reaped =>
      cases status : (host.attempts turn).status with
      | exited success => exact absurd status (alive success)
      | _ => simp [CommandHost.conclude, CommandHost.giveUp, reaped]
    | held waited reader =>
      cases status : (host.attempts turn).status with
      | exited success => simp [CommandHost.conclude, CommandHost.join, reader]
      | _ =>
        have reaped : host.reaped = true := by simpa [status] using waited
        simp [CommandHost.conclude, CommandHost.giveUp, CommandHost.join, reaped, reader]

end Endings

/-- The loop is over after as many turns as fit in the timeout and two more, and sleeps no
longer than the timeout. The run then returns unless the wait for a killed child or the
join of a reader whose pipe is held blocks; what returns leaves no child unwaited for and
no thread unjoined, and has the text exactly of a child that is found to have ended well. -/
theorem command_run_ends (timeout : Nat) (host : CommandHost) (piped : host.piped = true)
    (clocked : Clocked timeout host.attempts) :
    ∃ ending acts, runCommand timeout host (turnsWithin timeout) = some (ending, acts) ∧
      asleep acts ≤ timeout ∧
      (∀ result, ending = .returned result → unclaimed acts = {}) ∧
      (∀ call, ending = .hangs call ↔ host.spawns = true ∧ ∃ turn,
        Leaves timeout host.attempts turn ∧ host.Hangs (host.attempts turn).status call) ∧
      (∀ text, ending = .returned (.ok text) ↔ host.spawns = true ∧ ∃ turn all bytes,
        Leaves timeout host.attempts turn ∧ (host.attempts turn).status = .exited true ∧
        host.reader = .finished all ∧ (readLimitedOutput all).1 = .ok bytes ∧
        String.fromUTF8? ⟨bytes.toArray⟩ = some text) ∧
      (ending = .returned (.error .timedOut) ↔ host.spawns = true ∧ ∃ turn,
        Leaves timeout host.attempts turn ∧ (host.attempts turn).status = .running ∧
        host.reaped = true ∧ host.reader ≠ .blocked) := by
  cases spawns : host.spawns with
  | false =>
    exact ⟨.returned (.error .spawn), [.spawn false], by simp [runCommand, spawns], Nat.zero_le _,
      fun _ _ => rfl, by simp, by simp, by simp⟩
  | true =>
    obtain ⟨turn, ending, acts, ran, run⟩ := runCommand_spawned timeout host spawns piped clocked
    have same := fun other leaves =>
      leaves_unique timeout host.attempts other turn leaves run.leaves
    refine ⟨ending, acts, ran, run.naps, run.claimed, fun call => ?_, fun text => ?_, ?_⟩
    · rw [run.hangs_iff]
      constructor
      · exact fun hangs => ⟨rfl, turn, run.leaves, hangs⟩
      · rintro ⟨-, other, leaves, hangs⟩
        obtain rfl := same other leaves
        exact hangs
    · rw [run.ok_iff]
      constructor
      · rintro ⟨exited, all, bytes, read⟩
        exact ⟨rfl, turn, all, bytes, run.leaves, exited, read⟩
      · rintro ⟨-, other, all, bytes, leaves, exited, read⟩
        obtain rfl := same other leaves
        exact ⟨exited, all, bytes, read⟩
    · rw [run.timedOut_iff]
      constructor
      · exact fun ⟨running, joined⟩ => ⟨rfl, turn, run.leaves, running, joined⟩
      · rintro ⟨-, other, leaves, running, joined⟩
        obtain rfl := same other leaves
        exact ⟨running, joined⟩

/-- A child that is gone at the third look, and a clock that shows whole turns. -/
def sampleChild : CommandHost where
  spawns := true
  piped := true
  attempts turn :=
    ⟨if turn < 2 then .running else .exited true, turn * 11000000, turn * 11000000⟩
  reaped := true
  reader := .finished [.ok ⟨[116, 61, 49], by decide⟩]

theorem sampleChild_clocked : Clocked 2000000000 sampleChild.attempts where
  within turn _ := Nat.le_refl _
  slept turn _ := by
    simp only [sampleChild, napOf, COMMAND_POLL_INTERVAL]
    omega

theorem command_run_ends_sample :
    ∃ ending acts, runCommand 2000000000 sampleChild (turnsWithin 2000000000) =
        some (ending, acts) ∧
      asleep acts ≤ 2000000000 ∧
      (∀ result, ending = .returned result → unclaimed acts = {}) ∧
      (∀ call, ending = .hangs call ↔ sampleChild.spawns = true ∧ ∃ turn,
        Leaves 2000000000 sampleChild.attempts turn ∧
        sampleChild.Hangs (sampleChild.attempts turn).status call) ∧
      (∀ text, ending = .returned (.ok text) ↔ sampleChild.spawns = true ∧ ∃ turn all bytes,
        Leaves 2000000000 sampleChild.attempts turn ∧
        (sampleChild.attempts turn).status = .exited true ∧
        sampleChild.reader = .finished all ∧ (readLimitedOutput all).1 = .ok bytes ∧
        String.fromUTF8? ⟨bytes.toArray⟩ = some text) ∧
      (ending = .returned (.error .timedOut) ↔ sampleChild.spawns = true ∧ ∃ turn,
        Leaves 2000000000 sampleChild.attempts turn ∧
        (sampleChild.attempts turn).status = .running ∧
        sampleChild.reaped = true ∧ sampleChild.reader ≠ .blocked) :=
  command_run_ends 2000000000 sampleChild rfl sampleChild_clocked

end RpiHealth
