import Fantuan.Lib.Run
import Mathlib.Data.List.Sort
import Mathlib.Data.UInt

/-! The profilers of functions. A thread keeps the frames of its calls on its own stack, what they cost is
added to profilers that all threads share, and so is the variable that GetTickTime reads the counter into.
-/
namespace Fantuan.Tool.PerfCounter
open Lib.Run

def funcProfilerMax : Nat := 32768

structure FuncProfiler where
  callCount : UInt32
  timeCost : UInt64
  deriving DecidableEq

structure FrameProfiler (Func : Type) where
  funcProfiler : Option Func
  timeStart : UInt64
  subTimeCostTotal : UInt64
  deriving DecidableEq

/-- Where a thread is in a constructor or a destructor. A GetTickTime has queried the counter and has still
to read it back in entering, leaving and settling; charging is in front of the critical section. -/
inductive Phase (Func : Type) where
  | running
  | entering (funcProfiler : Option Func)
  | leaving
  | charging (frame : FrameProfiler Func) (timeCost : UInt64)
  | returning (timeStart : UInt64)
  | settling (timeStart : UInt64)
  deriving DecidableEq

/-- The first frame is g_pLastFrameProfiler, and each is the callee of the one behind it. -/
structure Thread (Func : Type) where
  frames : List (FrameProfiler Func)
  phase : Phase Func

/-- funcs are those that are in m_arrayFuncProfiler; overrun is a write behind its end. -/
structure Counter (Func : Type) where
  currTime : UInt64
  funcs : List Func
  profilers : Func → FuncProfiler
  overrun : Bool

/-- What a thread has read, or that it has added a cost. -/
inductive Event (Func : Type) where
  | entered (funcProfiler : Option Func) (time : UInt64)
  | left (time : UInt64)
  | charged
  | settled (time : UInt64)

/-- A thread calls or returns from a function, or goes on in what it is doing; now is what a query of the
counter would show. -/
inductive Move (Func : Type) where
  | construct (func : Func)
  | enter (funcProfiler : Option Func) (now : UInt64)
  | leave (now : UInt64)
  | next (now : UInt64)

section
variable {Func : Type}

/-- A call with the time for which it was the innermost one. -/
structure Call (Func : Type) where
  func : Option Func
  own : UInt64

/-- What the profilers are for: the time between two readings of a thread belongs to the call that is then
the innermost one, but for the time that a destructor spends on itself. -/
structure Sampler (Func : Type) where
  calls : Nat → List (Call Func)
  ended : Nat → Option (Call Func)
  since : Nat → UInt64
  counts : Func → UInt32
  costs : Func → UInt64

def lasts (time : UInt64) : List (Call Func) → List (Call Func)
  | [] => []
  | call :: callers => {call with own := call.own + time} :: callers

/-- What the sampler has for frames whose thread was last heard of at a time. -/
def measured : List (FrameProfiler Func) → UInt64 → List (Call Func)
  | [], _ => []
  | frame :: callers, last =>
    ⟨frame.funcProfiler,last - frame.timeStart - frame.subTimeCostTotal⟩ :: measured callers frame.timeStart

/-- Up to when the frames of a thread have been measured. -/
def mark (since : UInt64) : Phase Func → UInt64
  | .running | .entering _ | .leaving => since
  | .charging frame _ => frame.timeStart
  | .returning timeStart | .settling timeStart => timeStart

def dying : Phase Func → Option (Call Func)
  | .charging frame timeCost => some ⟨frame.funcProfiler,timeCost - frame.subTimeCostTotal⟩
  | .running | .entering _ | .leaving | .returning _ | .settling _ => none

theorem lasts_measured (frames : List (FrameProfiler Func)) (last now : UInt64) :
    lasts (now - last) (measured frames last) = measured frames now := by
  cases frames with
  | nil => rfl
  | cons frame callers =>
    have total : last - frame.timeStart - frame.subTimeCostTotal + (now - last) =
        now - frame.timeStart - frame.subTimeCostTotal := by
      grind
    rw [measured,measured,lasts,total]

/-- What a callee took, with the time until its caller was told of it, is none of the caller's own. -/
theorem measured_settled (caller : FrameProfiler Func) (callers : List (FrameProfiler Func))
    (timeStart now : UInt64) :
    measured ({caller with
        subTimeCostTotal := caller.subTimeCostTotal + (now - timeStart)} :: callers) now =
      measured (caller :: callers) timeStart := by
  have own : now - caller.timeStart - (caller.subTimeCostTotal + (now - timeStart)) =
      timeStart - caller.timeStart - caller.subTimeCostTotal := by
    grind
  rw [measured,measured,own]

/-- The frames of a thread one inside the other: what is counted against one was over before its callee began. -/
def Nested : List (FrameProfiler Func) → UInt64 → Prop
  | [], _ => True
  | frame :: callers, last =>
    frame.timeStart.toNat + frame.subTimeCostTotal.toNat ≤ last.toNat ∧ Nested callers frame.timeStart

theorem nested_later (frames : List (FrameProfiler Func)) (last now : UInt64) (later : last.toNat ≤ now.toNat)
    (nested : Nested frames last) : Nested frames now := by
  cases frames with
  | nil => trivial
  | cons frame callers => exact ⟨Nat.le_trans nested.1 later,nested.2⟩

/-- The frames of a thread end where it last read the counter, and none has more counted against it than it has
lasted. -/
structure Tidy (since : UInt64) (thread : Thread Func) : Prop where
  nested : Nested thread.frames (mark since thread.phase)
  past : (mark since thread.phase).toNat ≤ since.toNat
  charged : ∀ frame timeCost, thread.phase = .charging frame timeCost →
    frame.subTimeCostTotal.toNat ≤ timeCost.toNat

private theorem entered_tidy (since now : UInt64) (frames : List (FrameProfiler Func)) (funcProfiler : Option Func)
    (later : since.toNat ≤ now.toNat) (tidy : Tidy since ⟨frames,.entering funcProfiler⟩) :
    Tidy now ⟨⟨funcProfiler,now,0⟩ :: frames,.running⟩ where
  nested := ⟨by simp [mark],nested_later frames since now later tidy.nested⟩
  past := Nat.le_refl _
  charged := fun _ _ same => by cases same

private theorem left_tidy (since now : UInt64) (frame : FrameProfiler Func) (callers : List (FrameProfiler Func))
    (later : since.toNat ≤ now.toNat) (tidy : Tidy since ⟨frame :: callers,.leaving⟩) :
    Tidy now ⟨callers,.charging frame (now - frame.timeStart)⟩ := by
  obtain ⟨⟨inside,nested⟩,-,-⟩ := tidy
  simp only [mark] at inside
  have began : frame.timeStart ≤ now := UInt64.le_iff_toNat_le.mpr (by omega)
  have cost := UInt64.toNat_sub_of_le _ _ began
  refine ⟨nested,?_,?_⟩
  · simp only [mark]
    omega
  · intro other timeCost same
    cases same
    omega

private theorem settled_tidy (since now timeStart : UInt64) (caller : FrameProfiler Func)
    (callers : List (FrameProfiler Func)) (later : since.toNat ≤ now.toNat)
    (tidy : Tidy since ⟨caller :: callers,.settling timeStart⟩) :
    Tidy now ⟨{caller with
      subTimeCostTotal := caller.subTimeCostTotal + (now - timeStart)} :: callers,.running⟩ := by
  obtain ⟨⟨inside,nested⟩,past,-⟩ := tidy
  simp only [mark] at inside past
  have took := UInt64.toNat_sub_of_le now timeStart (UInt64.le_iff_toNat_le.mpr (by omega))
  have small := now.toNat_lt
  have total : (caller.subTimeCostTotal + (now - timeStart)).toNat =
      caller.subTimeCostTotal.toNat + (now - timeStart).toNat := by
    rw [UInt64.toNat_add]
    exact Nat.mod_eq_of_lt (by omega)
  refine ⟨⟨?_,nested⟩,Nat.le_refl _,fun _ _ same => by cases same⟩
  simp only [mark,total]
  omega

end

section
variable {Func : Type} [DecidableEq Func]

def charge (frame : FrameProfiler Func) (timeCost : UInt64) (profilers : Func → FuncProfiler) :
    Func → FuncProfiler :=
  match frame.funcProfiler with
  | some func => Function.update profilers func
      ⟨(profilers func).callCount + 1,(profilers func).timeCost + (timeCost - frame.subTimeCostTotal)⟩
  | none => profilers

def construct (func : Func) (counter : Counter Func) : Counter Func :=
  if func ∈ counter.funcs then counter
  else if counter.funcs.length < funcProfilerMax then {counter with funcs := counter.funcs ++ [func]}
  else {counter with overrun := true}

-- the static profiler of a function is constructed before a frame of it
def exec (counter : Counter Func) (thread : Thread Func) :
    Move Func → Counter Func × Thread Func × Option (Event Func)
  | .construct func => (construct func counter,thread,none)
  | .enter funcProfiler now =>
    if thread.phase = .running ∧ ∀ func ∈ funcProfiler, func ∈ counter.funcs then
      ({counter with currTime := now},{thread with phase := .entering funcProfiler},none)
    else (counter,thread,none)
  | .leave now =>
    if thread.phase = .running ∧ thread.frames ≠ [] then
      ({counter with currTime := now},{thread with phase := .leaving},none)
    else (counter,thread,none)
  | .next now =>
    match thread.phase, thread.frames with
    | .entering funcProfiler, frames =>
      (counter,⟨⟨funcProfiler,counter.currTime,0⟩ :: frames,.running⟩,some (.entered funcProfiler counter.currTime))
    | .leaving, frame :: callers =>
      (counter,⟨callers,.charging frame (counter.currTime - frame.timeStart)⟩,some (.left counter.currTime))
    | .charging frame timeCost, frames =>
      ({counter with profilers := charge frame timeCost counter.profilers},
        ⟨frames,if frames = [] then .running else .returning frame.timeStart⟩,some .charged)
    | .returning timeStart, frames => ({counter with currTime := now},⟨frames,.settling timeStart⟩,none)
    | .settling timeStart, caller :: callers =>
      (counter,⟨{caller with
          subTimeCostTotal := caller.subTimeCostTotal + (counter.currTime - timeStart)} :: callers,.running⟩,
        some (.settled counter.currTime))
    | _, _ => (counter,thread,none)

def Sampler.add (call : Call Func) (s : Sampler Func) : Sampler Func :=
  match call.func with
  | some func => {s with
      counts := Function.update s.counts func (s.counts func + 1)
      costs := Function.update s.costs func (s.costs func + call.own)}
  | none => s

def sample (thread : Nat) (s : Sampler Func) : Event Func → Sampler Func
  | .entered func time => {s with
      calls := Function.update s.calls thread (⟨func,0⟩ :: lasts (time - s.since thread) (s.calls thread))
      since := Function.update s.since thread time}
  | .left time =>
    let measured := lasts (time - s.since thread) (s.calls thread)
    {s with
      calls := Function.update s.calls thread measured.tail
      ended := Function.update s.ended thread measured.head?
      since := Function.update s.since thread time}
  | .charged =>
    match s.ended thread with
    | some call => {s.add call with ended := Function.update s.ended thread none}
    | none => s
  | .settled time => {s with since := Function.update s.since thread time}

structure State (Func : Type) where
  counter : Counter Func
  threads : Nat → Thread Func
  sampler : Sampler Func

def init : State Func where
  counter := ⟨0,[],fun _ => ⟨0,0⟩,false⟩
  threads := fun _ => ⟨[],.running⟩
  sampler := ⟨fun _ => [],fun _ => none,fun _ => 0,fun _ => 0,fun _ => 0⟩

def step (s : State Func) (action : Nat × Move Func) : State Func :=
  let (counter,thread,event) := exec s.counter (s.threads action.1) action.2
  ⟨counter,Function.update s.threads action.1 thread,event.elim s.sampler (sample action.1 s.sampler)⟩

/-- PerfCounter::Print: the functions with what they cost, the dearest first. -/
def print (counter : Counter Func) : List (Func × FuncProfiler) :=
  (counter.funcs.map fun func => (func,counter.profilers func)).mergeSort
    fun lhs rhs => decide (rhs.2.timeCost ≤ lhs.2.timeCost)

structure Follows (sampler : Sampler Func) (number : Nat) (thread : Thread Func) : Prop where
  calls : sampler.calls number = measured thread.frames (mark (sampler.since number) thread.phase)
  ended : sampler.ended number = dying thread.phase

structure Exact (s : State Func) : Prop where
  follows : ∀ number, Follows s.sampler number (s.threads number)
  profilers : ∀ func, s.counter.profilers func = ⟨s.sampler.counts func,s.sampler.costs func⟩

theorem add_calls (call : Call Func) (s : Sampler Func) :
    (s.add call).calls = s.calls ∧ (s.add call).ended = s.ended ∧ (s.add call).since = s.since := by
  rw [Sampler.add]
  split <;> exact ⟨rfl,rfl,rfl⟩

theorem sample_other (thread number : Nat) (apart : number ≠ thread) (s : Sampler Func) (event : Event Func) :
    (sample thread s event).calls number = s.calls number ∧
      (sample thread s event).ended number = s.ended number ∧
      (sample thread s event).since number = s.since number := by
  cases event with
  | entered func time => simp [sample,Function.update_of_ne apart]
  | left time => simp [sample,Function.update_of_ne apart]
  | settled time => simp [sample,Function.update_of_ne apart]
  | charged =>
    rw [sample]
    cases s.ended thread with
    | none => exact ⟨rfl,rfl,rfl⟩
    | some call =>
      obtain ⟨calls,-,since⟩ := add_calls call s
      simp [calls,since,Function.update_of_ne apart]

/-- What a destructor adds is what the sampler has measured. -/
theorem charge_exact (frame : FrameProfiler Func) (timeCost : UInt64) (profilers : Func → FuncProfiler)
    (s : Sampler Func) (same : ∀ func, profilers func = ⟨s.counts func,s.costs func⟩) (func : Func) :
    let added := s.add ⟨frame.funcProfiler,timeCost - frame.subTimeCostTotal⟩
    charge frame timeCost profilers func = ⟨added.counts func,added.costs func⟩ := by
  rw [charge,Sampler.add]
  cases frame.funcProfiler with
  | none => exact same func
  | some called =>
    by_cases this : func = called
    · subst this
      simp [same]
    · simp [same,Function.update_of_ne this]

private theorem exec_exact (counter : Counter Func) (thread : Thread Func) (sampler : Sampler Func)
    (number : Nat) (move : Move Func) (follows : Follows sampler number thread)
    (profilers : ∀ func, counter.profilers func = ⟨sampler.counts func,sampler.costs func⟩) :
    let moved := exec counter thread move
    let sampled := moved.2.2.elim sampler (sample number sampler)
    Follows sampled number moved.2.1 ∧
      ∀ func, moved.1.profilers func = ⟨sampled.counts func,sampled.costs func⟩ := by
  obtain ⟨calls,ended⟩ := follows
  cases move with
  | construct func =>
    refine ⟨⟨calls,ended⟩,?_⟩
    intro other
    change (construct func counter).profilers other = _
    rw [construct]
    split
    · exact profilers other
    · split <;> exact profilers other
  | enter funcProfiler now =>
    simp only [exec]
    split
    next free =>
      rw [free.1] at calls ended
      exact ⟨⟨calls,ended⟩,profilers⟩
    next => exact ⟨⟨calls,ended⟩,profilers⟩
  | leave now =>
    simp only [exec]
    split
    next free =>
      rw [free.1] at calls ended
      exact ⟨⟨calls,ended⟩,profilers⟩
    next => exact ⟨⟨calls,ended⟩,profilers⟩
  | next now =>
    obtain ⟨frames,phase⟩ := thread
    cases phase with
    | running => exact ⟨⟨calls,ended⟩,profilers⟩
    | entering funcProfiler =>
      refine ⟨⟨?_,ended⟩,profilers⟩
      simp only [mark] at calls
      simp [exec,sample,measured,mark,calls,lasts_measured]
    | leaving =>
      cases frames with
      | nil => exact ⟨⟨calls,ended⟩,profilers⟩
      | cons frame callers =>
        simp only [mark] at calls
        have total := lasts_measured (frame :: callers) (sampler.since number) counter.currTime
        refine ⟨⟨?_,?_⟩,profilers⟩
        · simp only [exec,Option.elim_some,sample,calls,total,Function.update_self]
          rfl
        · simp only [exec,Option.elim_some,sample,calls,total,Function.update_self]
          rfl
    | charging frame timeCost =>
      simp only [mark] at calls
      have gone : sampler.ended number = some ⟨frame.funcProfiler,timeCost - frame.subTimeCostTotal⟩ := ended
      obtain ⟨same,-,since⟩ := add_calls ⟨frame.funcProfiler,timeCost - frame.subTimeCostTotal⟩ sampler
      simp only [exec,Option.elim_some,sample,gone]
      refine ⟨⟨?_,?_⟩,charge_exact frame timeCost counter.profilers sampler profilers⟩
      · cases frames with
        | nil => simp [same,calls,measured]
        | cons caller callers => simp [same,calls,mark]
      · cases frames with
        | nil => simp [dying]
        | cons caller callers => simp [dying]
    | returning timeStart => exact ⟨⟨calls,ended⟩,profilers⟩
    | settling timeStart =>
      cases frames with
      | nil => exact ⟨⟨calls,ended⟩,profilers⟩
      | cons caller callers =>
        simp only [mark] at calls
        refine ⟨⟨?_,ended⟩,profilers⟩
        simp [exec,sample,calls,mark,measured_settled]

private theorem step_exact (s : State Func) (action : Nat × Move Func) (exact : Exact s) :
    Exact (step s action) := by
  obtain ⟨follows,profilers⟩ := exact
  obtain ⟨number,move⟩ := action
  obtain ⟨moved,same⟩ := exec_exact s.counter (s.threads number) s.sampler number move (follows number) profilers
  refine ⟨?_,same⟩
  intro other
  by_cases this : other = number
  · subst this
    simpa [step] using moved
  · obtain ⟨calls,ended⟩ := follows other
    have apart : (step s (number,move)).threads other = s.threads other := Function.update_of_ne this _ _
    rw [apart]
    change Follows ((exec s.counter (s.threads number) move).2.2.elim s.sampler (sample number s.sampler)) _ _
    cases (exec s.counter (s.threads number) move).2.2 with
    | none => exact ⟨calls,ended⟩
    | some event =>
      obtain ⟨kept,gone,since⟩ := sample_other number other this s.sampler event
      constructor
      · rw [Option.elim_some,kept,since]
        exact calls
      · rw [Option.elim_some,gone]
        exact ended

def named (thread : Thread Func) : List (Option Func) :=
  (match thread.phase with
    | .entering funcProfiler => [funcProfiler]
    | .charging frame _ => [frame.funcProfiler]
    | .running | .leaving | .returning _ | .settling _ => []) ++ thread.frames.map FrameProfiler.funcProfiler

structure Listed (s : State Func) : Prop where
  distinct : s.counter.funcs.Nodup
  named : ∀ number, ∀ funcProfiler ∈ named (s.threads number), ∀ func ∈ funcProfiler, func ∈ s.counter.funcs
  unused : ∀ func, func ∉ s.counter.funcs → s.counter.profilers func = ⟨0,0⟩

theorem construct_funcs (func : Func) (counter : Counter Func) (distinct : counter.funcs.Nodup) :
    counter.funcs ⊆ (construct func counter).funcs ∧ (construct func counter).funcs.Nodup ∧
      (construct func counter).profilers = counter.profilers := by
  rw [construct]
  split
  next => exact ⟨List.Subset.refl _,distinct,rfl⟩
  next unlisted =>
    split
    · refine ⟨List.subset_append_left _ _,?_,rfl⟩
      exact List.nodup_append.mpr ⟨distinct,List.nodup_singleton _,fun a member b single same =>
        unlisted (List.mem_singleton.mp single ▸ same ▸ member)⟩
    · exact ⟨List.Subset.refl _,distinct,rfl⟩

private theorem exec_listed (counter : Counter Func) (thread : Thread Func) (move : Move Func)
    (distinct : counter.funcs.Nodup) :
    let moved := exec counter thread move
    counter.funcs ⊆ moved.1.funcs ∧ moved.1.funcs.Nodup ∧
      (∀ funcProfiler ∈ named moved.2.1, funcProfiler ∈ named thread ∨ ∀ func ∈ funcProfiler, func ∈ counter.funcs) ∧
      ∀ func, some func ∉ named thread → moved.1.profilers func = counter.profilers func := by
  have still : counter.funcs ⊆ counter.funcs ∧ counter.funcs.Nodup ∧
      (∀ funcProfiler ∈ named thread, funcProfiler ∈ named thread ∨ ∀ func ∈ funcProfiler, func ∈ counter.funcs) ∧
      ∀ func, some func ∉ named thread → counter.profilers func = counter.profilers func :=
    ⟨List.Subset.refl _,distinct,fun _ member => .inl member,fun _ _ => rfl⟩
  cases move with
  | construct func =>
    obtain ⟨more,single,same⟩ := construct_funcs func counter distinct
    exact ⟨more,single,still.2.2.1,fun other _ => congrFun same other⟩
  | enter funcProfiler now =>
    simp only [exec]
    split
    next free =>
      refine ⟨List.Subset.refl _,distinct,?_,fun _ _ => rfl⟩
      intro other member
      rcases List.mem_append.mp member with new | old
      · rw [List.mem_singleton.mp new]
        exact .inr free.2
      · exact .inl (List.mem_append_right _ old)
    next => exact still
  | leave now =>
    simp only [exec]
    split
    next free =>
      refine ⟨List.Subset.refl _,distinct,?_,fun _ _ => rfl⟩
      intro other member
      exact .inl (List.mem_append_right _ (by simpa [named] using member))
    next => exact still
  | next now =>
    obtain ⟨frames,phase⟩ := thread
    cases phase with
    | running => exact still
    | entering funcProfiler =>
      refine ⟨List.Subset.refl _,distinct,?_,fun _ _ => rfl⟩
      intro other member
      exact .inl (by simpa [exec,named] using member)
    | leaving =>
      cases frames with
      | nil => exact still
      | cons frame callers =>
        refine ⟨List.Subset.refl _,distinct,?_,fun _ _ => rfl⟩
        intro other member
        exact .inl (by simpa [exec,named] using member)
    | charging frame timeCost =>
      refine ⟨List.Subset.refl _,distinct,?_,?_⟩
      · intro other member
        refine .inl (List.mem_append_right _ ?_)
        cases frames with
        | nil => simp [exec,named] at member
        | cons caller callers => simpa [exec,named] using member
      · intro func absent
        change charge frame timeCost counter.profilers func = _
        rw [charge]
        cases charged : frame.funcProfiler with
        | none => rfl
        | some called =>
          have apart : func ≠ called := by
            intro same
            exact absent (by simp [named,charged,same])
          exact Function.update_of_ne apart _ _
    | returning timeStart =>
      refine ⟨List.Subset.refl _,distinct,?_,fun _ _ => rfl⟩
      intro other member
      exact .inl (by simpa [exec,named] using member)
    | settling timeStart =>
      cases frames with
      | nil => exact still
      | cons caller callers =>
        refine ⟨List.Subset.refl _,distinct,?_,fun _ _ => rfl⟩
        intro other member
        exact .inl (by simpa [exec,named] using member)

private theorem step_listed (s : State Func) (action : Nat × Move Func) (listed : Listed s) :
    Listed (step s action) := by
  obtain ⟨distinct,names,unused⟩ := listed
  obtain ⟨number,move⟩ := action
  obtain ⟨more,single,moved,kept⟩ := exec_listed s.counter (s.threads number) move distinct
  refine ⟨single,?_,?_⟩
  · intro other funcProfiler member func some
    by_cases this : other = number
    · subst this
      have here : (step s (other,move)).threads other = (exec s.counter (s.threads other) move).2.1 :=
        Function.update_self _ _ _
      rw [here] at member
      rcases moved funcProfiler member with old | new
      · exact more (names other funcProfiler old func some)
      · exact more (new func some)
    · have apart : (step s (number,move)).threads other = s.threads other := Function.update_of_ne this _ _
      rw [apart] at member
      exact more (names other funcProfiler member func some)
  · intro func absent
    have before : func ∉ s.counter.funcs := fun member => absent (more member)
    refine (kept func ?_).trans (unused func before)
    intro member
    exact before (names number _ member func rfl)

private theorem exec_kept (counter : Counter Func) (thread : Thread Func) (move : Move Func)
    (other : ∀ func, move ≠ .construct func) :
    (exec counter thread move).1.funcs = counter.funcs ∧ (exec counter thread move).1.overrun = counter.overrun := by
  cases move with
  | construct func => exact absurd rfl (other func)
  | enter funcProfiler now =>
    simp only [exec]
    split <;> exact ⟨rfl,rfl⟩
  | leave now =>
    simp only [exec]
    split <;> exact ⟨rfl,rfl⟩
  | next now =>
    obtain ⟨frames,phase⟩ := thread
    cases phase <;> cases frames <;> exact ⟨rfl,rfl⟩

private theorem step_construct (s : State Func) (action : Nat × Move Func)
    (within : (step s action).counter.overrun = false) :
    s.counter.overrun = false ∧ s.counter.funcs ⊆ (step s action).counter.funcs ∧
      ∀ func, action.2 = .construct func → func ∈ (step s action).counter.funcs := by
  obtain ⟨number,move⟩ := action
  change (exec s.counter (s.threads number) move).1.overrun = false at within
  change _ ∧ s.counter.funcs ⊆ (exec s.counter (s.threads number) move).1.funcs ∧
    ∀ func, _ → func ∈ (exec s.counter (s.threads number) move).1.funcs
  by_cases constructs : ∃ func, move = .construct func
  · obtain ⟨func,rfl⟩ := constructs
    change (construct func s.counter).overrun = false at within
    change _ ∧ _ ⊆ (construct func s.counter).funcs ∧ ∀ other, _ → other ∈ (construct func s.counter).funcs
    rw [construct] at within ⊢
    split at within
    next listed =>
      rw [if_pos listed]
      exact ⟨within,List.Subset.refl _,fun other same => by cases same; exact listed⟩
    next unlisted =>
      split at within
      next room =>
        rw [if_neg unlisted,if_pos room]
        exact ⟨within,List.subset_append_left _ _,fun other same => by cases same; simp⟩
      next full => cases within
  · have other (func : Func) : move ≠ .construct func := fun same => constructs ⟨func,same⟩
    obtain ⟨funcs,overrun⟩ := exec_kept s.counter (s.threads number) move other
    rw [overrun] at within
    rw [funcs]
    exact ⟨within,List.Subset.refl _,fun func same => absurd same (other func)⟩

/-- Within the array, the profiler of every function that was constructed is in it. -/
theorem constructed_listed (actions : List (Nat × Move Func)) (s : State Func)
    (within : (run step s actions).counter.overrun = false) :
    s.counter.overrun = false ∧ s.counter.funcs ⊆ (run step s actions).counter.funcs ∧
      ∀ number func, (number,.construct func) ∈ actions → func ∈ (run step s actions).counter.funcs := by
  induction actions generalizing s with
  | nil => exact ⟨within,List.Subset.refl _,fun _ _ member => absurd member List.not_mem_nil⟩
  | cons action actions ih =>
    obtain ⟨first,later,listed⟩ := ih (step s action) within
    obtain ⟨before,more,new⟩ := step_construct s action first
    refine ⟨before,fun func member => later (more member),?_⟩
    intro number func member
    rcases List.mem_cons.mp member with here | there
    · exact later (new func (by rw [← here]))
    · exact listed number func there

omit [DecidableEq Func] in
theorem print_sorted (counter : Counter Func) :
    (print counter).Pairwise fun lhs rhs => rhs.2.timeCost ≤ lhs.2.timeCost := by
  have sorted : (print counter).Pairwise fun lhs rhs => decide (rhs.2.timeCost ≤ lhs.2.timeCost) = true := by
    refine List.pairwise_mergeSort ?_ ?_ _
    · intro first second third above below
      exact decide_eq_true (UInt64.le_trans (of_decide_eq_true below) (of_decide_eq_true above))
    · intro first second
      rcases UInt64.le_total second.2.timeCost first.2.timeCost with above | below
      · simp [above]
      · simp [below]
  exact sorted.imp of_decide_eq_true

/-- What Print shows in any state of any run: every function that a profiler was constructed for, once, with
its calls that have ended and the time for which they were the innermost ones, sorted by that time. -/
theorem print_measured (actions : List (Nat × Move Func))
    (within : (run step init actions).counter.overrun = false) :
    let s := run step init actions
    (print s.counter).Perm (s.counter.funcs.map fun func => (func,⟨s.sampler.counts func,s.sampler.costs func⟩)) ∧
      (print s.counter).Pairwise (fun lhs rhs => rhs.2.timeCost ≤ lhs.2.timeCost) ∧
      s.counter.funcs.Nodup ∧
      (∀ number func, (number,.construct func) ∈ actions → func ∈ s.counter.funcs) ∧
      ∀ func, func ∉ s.counter.funcs → s.sampler.counts func = 0 ∧ s.sampler.costs func = 0 := by
  intro s
  have exact : Exact s := run_invariant step (fun _ _ => True) Exact
    (fun state action holds _ => step_exact state action holds) init actions (guarded_true step init actions)
    ⟨fun _ => ⟨rfl,rfl⟩,fun _ => rfl⟩
  have listed : Listed s := run_invariant step (fun _ _ => True) Listed
    (fun state action holds _ => step_listed state action holds) init actions (guarded_true step init actions)
    ⟨List.nodup_nil,by simp [init,named],fun _ _ => rfl⟩
  refine ⟨?_,?_,listed.distinct,(constructed_listed actions init within).2.2,?_⟩
  · have lines : (s.counter.funcs.map fun func => (func,s.counter.profilers func)) =
        s.counter.funcs.map fun func => (func,⟨s.sampler.counts func,s.sampler.costs func⟩) :=
      List.map_congr_left fun func _ => congrArg (Prod.mk func) (exact.profilers func)
    rw [← lines]
    exact List.mergeSort_perm _ _
  · exact print_sorted s.counter
  · intro func absent
    have zero := (exact.profilers func).symm.trans (listed.unused func absent)
    exact ⟨congrArg FuncProfiler.callCount zero,congrArg FuncProfiler.timeCost zero⟩

/-- A call inside another one, while a second thread reads the counter in between. -/
def nestedCalls : List (Nat × Move Bool) :=
  [(0,.construct true),(0,.construct false),(0,.enter (some true) 10),(0,.next 10),
    (0,.enter (some false) 12),(0,.next 12),(1,.enter (some false) 13),(0,.leave 15),(1,.next 15),(0,.next 15),
    (0,.next 16),(0,.next 17),(0,.next 17),(0,.leave 20),(0,.next 20)]

theorem print_measured_nested :
    let s := run step init nestedCalls
    (print s.counter).Perm (s.counter.funcs.map fun func => (func,⟨s.sampler.counts func,s.sampler.costs func⟩)) :=
  (print_measured nestedCalls (by decide)).1

/-- GetTickTime gives the thread no time before the last one that it gave it. The counter does not have to go back for
that: what another thread was shown by it may be stored late. -/
def Forward (number : Nat) (s : State Func) (action : Nat × Move Func) : Prop :=
  s.sampler.since number ≤ (step s action).sampler.since number

instance (number : Nat) (s : State Func) : DecidablePred (Forward number s) :=
  fun _ => inferInstanceAs (Decidable (_ ≤ _))

private theorem exec_tidy (counter : Counter Func) (thread : Thread Func) (sampler : Sampler Func)
    (number : Nat) (move : Move Func) (tidy : Tidy (sampler.since number) thread) :
    let moved := exec counter thread move
    let sampled := moved.2.2.elim sampler (sample number sampler)
    sampler.since number ≤ sampled.since number → Tidy (sampled.since number) moved.2.1 := by
  intro moved sampled forward
  have later := UInt64.le_iff_toNat_le.mp forward
  cases move with
  | construct func => exact tidy
  -- both begin to read the counter
  | enter | leave =>
    simp only [moved,sampled,exec]
    split
    next free =>
      obtain ⟨nested,past,-⟩ := tidy
      rw [free.1] at nested past
      exact ⟨nested,past,fun _ _ same => by cases same⟩
    next => exact tidy
  | next now =>
    obtain ⟨frames,phase⟩ := thread
    cases phase with
    | running => exact tidy
    | entering funcProfiler =>
      simp only [moved,sampled,exec,Option.elim_some,sample,Function.update_self] at later ⊢
      exact entered_tidy _ _ frames funcProfiler later tidy
    | leaving =>
      cases frames with
      | nil => exact tidy
      | cons frame callers =>
        simp only [moved,sampled,exec,Option.elim_some,sample,Function.update_self] at later ⊢
        exact left_tidy _ _ frame callers later tidy
    | charging frame timeCost =>
      have since : (sample number sampler .charged).since number = sampler.since number := by
        rw [sample]
        cases sampler.ended number with
        | none => rfl
        | some call => rw [(add_calls call sampler).2.2]
      obtain ⟨nested,past,-⟩ := tidy
      simp only [moved,sampled,exec,Option.elim_some,since]
      cases frames with
      | nil => exact ⟨trivial,Nat.le_refl _,fun _ _ same => by cases same⟩
      | cons caller callers => exact ⟨nested,past,fun _ _ same => by cases same⟩
    | returning timeStart => exact ⟨tidy.nested,tidy.past,fun _ _ same => by cases same⟩
    | settling timeStart =>
      cases frames with
      | nil => exact tidy
      | cons caller callers =>
        simp only [moved,sampled,exec,Option.elim_some,sample,Function.update_self] at later ⊢
        exact settled_tidy _ _ timeStart caller callers later tidy

private theorem step_tidy (number : Nat) (s : State Func) (action : Nat × Move Func)
    (tidy : Tidy (s.sampler.since number) (s.threads number)) (forward : Forward number s action) :
    Tidy ((step s action).sampler.since number) ((step s action).threads number) := by
  obtain ⟨thread,move⟩ := action
  by_cases this : number = thread
  · subst this
    have moved := exec_tidy s.counter (s.threads number) s.sampler number move tidy forward
    simpa [step] using moved
  · have apart : (step s (thread,move)).threads number = s.threads number := Function.update_of_ne this _ _
    have since : (step s (thread,move)).sampler.since number = s.sampler.since number := by
      change ((exec s.counter (s.threads thread) move).2.2.elim s.sampler (sample thread s.sampler)).since number = _
      cases (exec s.counter (s.threads thread) move).2.2 with
      | none => rfl
      | some event => exact (sample_other thread number this s.sampler event).2.2
    rw [apart,since]
    exact tidy

/-- A thread that is given no time before its last one, whatever the others store in between, takes away no more in
any of its destructors than the call has lasted. -/
theorem charge_unwrapped (actions : List (Nat × Move Func)) (number : Nat)
    (forward : Guarded step (Forward number) init actions) (frame : FrameProfiler Func) (timeCost : UInt64)
    (charging : ((run step init actions).threads number).phase = .charging frame timeCost) :
    frame.subTimeCostTotal ≤ timeCost := by
  have tidy := run_invariant step (Forward number)
    (fun s => Tidy (s.sampler.since number) (s.threads number)) (step_tidy number) init actions forward
    ⟨trivial,Nat.le_refl _,fun _ _ same => by cases same⟩
  exact UInt64.le_iff_toNat_le.mpr (tidy.charged frame timeCost charging)

/-- The callee took 5 of the 10 that the caller has lasted. -/
theorem charge_unwrapped_nested : ∃ frame timeCost,
    ((run step init nestedCalls).threads 0).phase = .charging frame timeCost ∧ frame.funcProfiler = some true ∧
      frame.subTimeCostTotal = 5 ∧ timeCost = 10 ∧ frame.subTimeCostTotal ≤ timeCost :=
  ⟨⟨some true,10,5⟩,10,rfl,rfl,rfl,rfl,charge_unwrapped nestedCalls 0 (by decide) _ _ rfl⟩

/-- What a second thread was shown at 11 is stored after 13, which the destructor of the callee was shown and has still
to read back. The counter has only gone forward, and 2^64 - 1 of the 5 of the caller count as the callee's. -/
def lateStore : List (Nat × Move Bool) :=
  [(0,.construct true),(0,.construct false),(0,.enter (some true) 10),(0,.next 10),
    (0,.enter (some false) 12),(0,.next 12),(0,.leave 13),(0,.next 13),(0,.next 13),(0,.next 13),
    (1,.enter (some false) 11),(0,.next 14),(0,.leave 15),(0,.next 15)]

example : ((run step init lateStore).threads 0).phase = .charging ⟨some true,10,0 - 1⟩ 5 := by decide

end

end Fantuan.Tool.PerfCounter
