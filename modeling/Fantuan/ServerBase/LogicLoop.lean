import Fantuan.Lib.Run
import Fantuan.Lib.Threads
import Mathlib.Algebra.Group.Pi.Basic
import Mathlib.Data.List.Basic

/-! The commands of a loop. Any thread may push one, which takes two steps: the command enters the list,
then the semaphore is released. The thread of the loop takes two steps as well: it waits, then it pops.
-/
namespace Fantuan.ServerBase.LogicLoop
open Lib.Run Lib.Threads

section
variable {Command : Type}

/-- What a thread calls; _OnCommand and _Loop may make such calls themselves. -/
inductive Call (Command : Type) where
  | pushCommand (pCommand : Command)
  | stop
  deriving DecidableEq

/-- What is done under m_csCommandList is one instruction, and so is a call of the system. -/
inductive Instr (Command : Type) where
  | pushBack (pCommand : Command)
  | releaseSemaphore
  | setQuit
  | testQuit
  | waitForSingleObject
  | pop
  | onCommand
  | delete
  | loop
  deriving DecidableEq

inductive WaitResult where
  | object0 | timeout | failed
  deriving DecidableEq

/-- What the wait returns, and the calls that the command or the loop makes. -/
structure Answer (Command : Type) where
  dwRet : WaitResult
  calls : List (Call Command)
  deriving DecidableEq

/-- pCommand is the variable of _ThreadMain. The last three fields are history: what was put into the
list, what _OnCommand was called with, and what was deleted. -/
structure Loop (Command : Type) where
  commandList : List Command
  commandSemaphore : Option Nat
  bQuit : Bool
  pCommand : Option Command
  entered : List Command
  executed : List (Option Command)
  deleted : List (Option Command)
  deriving DecidableEq

def maxInt : Nat := 2147483647

def program : Call Command → List (Instr Command)
  | .pushCommand pCommand => [.pushBack pCommand]
  | .stop => [.setQuit]

-- there is no semaphore before Start, and at its maximum the count stays
def releaseSemaphore : Option Nat → Option Nat
  | some count => some (if count < maxInt then count + 1 else count)
  | none => none

def exec : Instr Command → Answer Command → Loop Command → Loop Command × List (Instr Command)
  | .pushBack pCommand, _, s =>
    ({s with
      commandList := s.commandList ++ [pCommand]
      entered := s.entered ++ [pCommand]},[.releaseSemaphore])
  | .releaseSemaphore, _, s => ({s with commandSemaphore := releaseSemaphore s.commandSemaphore},[])
  | .setQuit, _, s => ({s with bQuit := true},[])
  | .testQuit, _, s => (s,if s.bQuit then [] else [.waitForSingleObject])
  -- a wait is satisfied only where the count is above 0
  | .waitForSingleObject, answer, s =>
    match answer.dwRet, s.commandSemaphore with
    | .object0, some (count + 1) => ({s with commandSemaphore := some count},[.pop])
    | _, _ => (s,[.loop])
  | .pop, _, s =>
    match s.commandList with
    | pCommand :: rest => ({s with commandList := rest, pCommand := some pCommand},[.onCommand])
    -- the assertion on the semaphore, which leaves pCommand as it was
    | [] => (s,[.onCommand])
  | .onCommand, answer, s =>
    ({s with executed := s.executed ++ [s.pCommand]},answer.calls.flatMap program ++ [.delete])
  | .delete, _, s => ({s with deleted := s.deleted ++ [s.pCommand]},[.waitForSingleObject])
  | .loop, answer, s => (s,answer.calls.flatMap program ++ [.testQuit])

abbrev State (Command : Type) := Pool (Loop Command) (Instr Command)

inductive Action (Command : Type) where
  | start
  | call (made : Call Command)
  | thread (thread : Nat) (answer : Answer Command)
  deriving DecidableEq

def create : State Command := ⟨⟨[],none,false,none,[],[],[]⟩,[]⟩

def step (s : State Command) : Action Command → State Command
  -- Start is called once
  | .start =>
    match s.shared.commandSemaphore with
    | none => Pool.spawn [.testQuit] {s with shared := {s.shared with commandSemaphore := some 0}}
    | some _ => s
  | .call made => s.spawn (program made)
  | .thread thread answer => s.resume exec thread answer

/-- Where a thread stands between the two steps of PushCommand, or the loop in its turn. -/
inductive Phase where
  | release | turn | pop | execute | delete
  deriving DecidableEq

def Phase.once (phase : Phase) : Phase → Nat := Pi.single phase 1

@[simp] theorem Phase.once_apply (phase other : Phase) : phase.once other = if other = phase then 1 else 0 :=
  Pi.single_apply phase 1 other

def load : Instr Command → Phase → Nat
  | .releaseSemaphore => Phase.once .release
  | .testQuit | .waitForSingleObject | .loop => Phase.once .turn
  | .pop => Phase.once .pop
  | .onCommand => Phase.once .execute
  | .delete => Phase.once .delete
  | .pushBack _ | .setQuit => 0

structure Sound (s : Loop Command) (ahead : Phase → Nat) : Prop where
  counted : s.commandSemaphore.getD 0 + ahead .pop + ahead .release ≤ s.commandList.length
  single : ahead .turn + ahead .pop + ahead .execute + ahead .delete ≤ s.commandSemaphore.toList.length
  ordered : s.entered.map some =
    s.deleted ++ List.replicate (ahead .execute + ahead .delete) s.pCommand ++ s.commandList.map some
  called : s.executed = s.deleted ++ List.replicate (ahead .delete) s.pCommand

private theorem program_load (made : Call Command) : weigh load (program made) = 0 := by
  cases made <;> rfl

private theorem calls_load (calls : List (Call Command)) (instr : Instr Command) :
    weigh load (calls.flatMap program ++ [instr]) = load instr := by
  induction calls with
  | nil => exact add_zero _
  | cons made calls ih =>
    rw [weigh,List.map_append,List.sum_append] at ih
    rw [weigh,List.flatMap_cons,List.append_assoc,List.map_append,List.map_append,List.sum_append,
      List.sum_append,ih]
    change weigh load (program made) + _ = _
    rw [program_load,zero_add]

private theorem semaphore_once (commandSemaphore : Option Nat) : commandSemaphore.toList.length ≤ 1 := by
  cases commandSemaphore <;> simp

private theorem pushBack_sound (pCommand : Command) (s : Loop Command) (ahead : Phase → Nat)
    (sound : Sound s ahead) :
    Sound {s with
      commandList := s.commandList ++ [pCommand]
      entered := s.entered ++ [pCommand]} (ahead + Phase.once .release) := by
  obtain ⟨counted,single,ordered,called⟩ := sound
  constructor
  case counted =>
    simp
    omega
  case single => simpa using single
  case ordered => simp [ordered]
  case called => simpa using called

private theorem release_sound (s : Loop Command) (others : Phase → Nat)
    (sound : Sound s (others + Phase.once .release)) :
    Sound {s with commandSemaphore := releaseSemaphore s.commandSemaphore} others := by
  obtain ⟨counted,single,ordered,called⟩ := sound
  simp at counted single ordered called
  cases handle : s.commandSemaphore with
  | none =>
    constructor <;> simp [releaseSemaphore,handle] at *
    · omega
    · omega
    · exact ordered
    · exact called
  | some count =>
    have above : (if count < maxInt then count + 1 else count) ≤ count + 1 := by
      split <;> omega
    constructor <;> simp [releaseSemaphore,handle] at *
    · omega
    · exact single
    · exact ordered
    · exact called

private theorem wait_sound (s : Loop Command) (others : Phase → Nat) (count : Nat)
    (positive : s.commandSemaphore = some (count + 1))
    (sound : Sound s (others + Phase.once .turn)) :
    Sound {s with commandSemaphore := some count} (others + Phase.once .pop) := by
  obtain ⟨counted,single,ordered,called⟩ := sound
  simp [positive] at counted single ordered called
  constructor <;> simp
  · omega
  · omega
  · exact ordered
  · exact called

private theorem busy_alone (s : Loop Command) (others : Phase → Nat) (phase : Phase)
    (busy : phase = .pop ∨ phase = .execute ∨ phase = .delete) (sound : Sound s (others + phase.once)) :
    others .execute = 0 ∧ others .delete = 0 := by
  have opened := semaphore_once s.commandSemaphore
  have single := sound.single
  obtain rfl | rfl | rfl := busy <;> simp at single <;> omega

private theorem pop_sound (s : Loop Command) (others : Phase → Nat) (sound : Sound s (others + Phase.once .pop)) :
    ∃ pCommand rest, s.commandList = pCommand :: rest ∧
      Sound {s with commandList := rest, pCommand := some pCommand} (others + Phase.once .execute) := by
  have free := busy_alone s others .pop (.inl rfl) sound
  obtain ⟨counted,single,ordered,called⟩ := sound
  simp at counted single ordered called
  cases queued : s.commandList with
  | nil =>
    rw [queued,List.length_nil] at counted
    omega
  | cons pCommand rest =>
    refine ⟨pCommand,rest,rfl,?_⟩
    simp [free,queued] at counted single ordered called
    constructor <;> simp [free]
    · omega
    · omega
    · exact ordered
    · exact called

private theorem onCommand_sound (s : Loop Command) (others : Phase → Nat)
    (sound : Sound s (others + Phase.once .execute)) :
    Sound {s with executed := s.executed ++ [s.pCommand]} (others + Phase.once .delete) := by
  have free := busy_alone s others .execute (.inr (.inl rfl)) sound
  obtain ⟨counted,single,ordered,called⟩ := sound
  simp at counted single ordered called
  simp [free] at ordered called
  constructor <;> simp [free]
  · omega
  · omega
  · exact ordered
  · exact called

private theorem delete_sound (s : Loop Command) (others : Phase → Nat)
    (sound : Sound s (others + Phase.once .delete)) :
    Sound {s with deleted := s.deleted ++ [s.pCommand]} (others + Phase.once .turn) := by
  have free := busy_alone s others .delete (.inr (.inr rfl)) sound
  obtain ⟨counted,single,ordered,called⟩ := sound
  simp at counted single ordered called
  simp [free] at ordered called
  constructor <;> simp [free]
  · omega
  · omega
  · exact ordered
  · exact called

/-- A step of the loop from which it goes on to another one of its turn. -/
private theorem turn_sound (s : Loop Command) (others more : Phase → Nat) (sound : Sound s (others + Phase.once .turn))
    (fewer : more = 0 ∨ more = Phase.once .turn) : Sound s (others + more) := by
  obtain rfl | rfl := fewer
  · obtain ⟨counted,single,ordered,called⟩ := sound
    simp at counted single ordered called
    constructor <;> simp
    · omega
    · omega
    · exact ordered
    · exact called
  · exact sound

theorem exec_sound (instr : Instr Command) (answer : Answer Command) (s : Loop Command)
    (others : Phase → Nat) (sound : Sound s (others + load instr)) :
    Sound (exec instr answer s).1 (others + weigh load (exec instr answer s).2) := by
  cases instr with
  | pushBack pCommand =>
    rw [exec]
    exact pushBack_sound pCommand s others sound
  | releaseSemaphore => exact release_sound s others sound
  | setQuit => exact ⟨sound.counted,sound.single,sound.ordered,sound.called⟩
  | testQuit =>
    apply turn_sound s others _ sound
    rw [exec]
    split
    · exact .inl rfl
    · exact .inr rfl
  | waitForSingleObject =>
    rw [exec]
    split
    · rename_i count _ positive
      exact wait_sound s others count positive sound
    · exact sound
  | pop =>
    obtain ⟨pCommand,rest,queued,after⟩ := pop_sound s others sound
    simp only [exec,queued]
    exact after
  | onCommand =>
    rw [exec,calls_load]
    exact onCommand_sound s others sound
  | delete => exact delete_sound s others sound
  | loop =>
    rw [exec,calls_load]
    exact sound

private theorem start_sound (s : Loop Command) (ahead : Phase → Nat) (unstarted : s.commandSemaphore = none)
    (sound : Sound s ahead) :
    Sound {s with commandSemaphore := some 0} (Phase.once .turn + ahead) := by
  obtain ⟨counted,single,ordered,called⟩ := sound
  simp [unstarted] at counted single
  constructor <;> simp
  · omega
  · omega
  · simpa using ordered
  · exact called

theorem step_sound (s : State Command) (action : Action Command) (sound : Sound s.shared (s.pending load)) :
    Sound (step s action).shared ((step s action).pending load) := by
  cases action with
  | start =>
    rw [step]
    split
    · rename_i unstarted
      rw [spawn_pending]
      exact start_sound s.shared _ unstarted sound
    · exact sound
  | call made =>
    rw [step,spawn_pending,program_load,zero_add]
    exact sound
  | thread thread answer =>
    apply resume_kept exec load Sound thread answer s _ sound
    intro instr others _
    exact exec_sound instr answer s.shared others

theorem run_sound (actions : List (Action Command)) :
    Sound (run step create actions).shared ((run step create actions).pending load) := by
  apply run_invariant step (fun _ _ => True) (fun s => Sound s.shared (s.pending load)) _ create actions
    (guarded_true _ _ _)
  · exact ⟨Nat.le_refl _,Nat.le_refl _,rfl,rfl⟩
  · intro s action sound _
    exact step_sound s action sound

/-- Waits that were satisfied and whose pop is still to come. -/
def satisfied (s : State Command) : Nat := s.pending load .pop

/-- The command that was popped and is not deleted yet. -/
def inHand (s : State Command) : List (Option Command) :=
  List.replicate (s.pending load .execute + s.pending load .delete) s.shared.pCommand

/-- The part of it that _OnCommand has been called with. -/
def inCall (s : State Command) : List (Option Command) :=
  List.replicate (s.pending load .delete) s.shared.pCommand

private theorem next_satisfied (s : State Command) (thread : Nat) (next : s.next thread = some .pop) :
    0 < satisfied s := by
  let answer : Answer Command := ⟨.timeout,[]⟩
  obtain ⟨others,pending,_⟩ := resume_pending exec load thread answer s .pop next
  rw [satisfied,pending]
  exact Nat.lt_of_lt_of_le Nat.one_pos (Nat.le_add_left _ _)

/-- Whatever the threads do and in whatever order: the count and the satisfied waits together are at most
the commands in the list, so that a pop finds one; and what entered the list is what was executed and
deleted, then the command in hand, then the list. -/
theorem commands_in_order (actions : List (Action Command)) :
    let s := run step create actions
    s.shared.commandSemaphore.getD 0 + satisfied s ≤ s.shared.commandList.length ∧
    (∀ thread, s.next thread = some .pop → s.shared.commandList ≠ []) ∧
    s.shared.entered.map some = s.shared.deleted ++ inHand s ++ s.shared.commandList.map some ∧
    s.shared.executed = s.shared.deleted ++ inCall s ∧
    (inHand s).length ≤ 1 := by
  intro s
  have sound := run_sound actions
  have counted : s.shared.commandSemaphore.getD 0 + satisfied s ≤ s.shared.commandList.length :=
    Nat.le_trans (Nat.le_add_right _ _) sound.counted
  refine ⟨counted,?_,sound.ordered,sound.called,?_⟩
  · intro thread next empty
    have waited := next_satisfied s thread next
    rw [empty,List.length_nil] at counted
    omega
  · have single := sound.single
    have opened := semaphore_once s.shared.commandSemaphore
    rw [inHand,List.length_replicate]
    change s.pending load .turn + s.pending load .pop + s.pending load .execute + s.pending load .delete
      ≤ s.shared.commandSemaphore.toList.length at single
    omega

-- thread 1 is the loop, thread 0 a call of PushCommand; the command pushes another one
example :
    let thread n calls : Action Nat := .thread n ⟨.object0,calls⟩
    let s := run step create
      [.start,.call (.pushCommand 7),thread 0 [],thread 1 [],thread 0 [],thread 1 [],thread 1 [],
        thread 1 [.pushCommand 8],thread 1 [],thread 1 []]
    s.shared.executed = [some 7] ∧ inHand s = [some 7] ∧ s.shared.commandList = [8] := by
  decide

end

end Fantuan.ServerBase.LogicLoop
