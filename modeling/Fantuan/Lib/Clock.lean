import Fantuan.Lib.Run
import Mathlib.Algebra.Group.Nat.Defs

/-! A clock of 32 bits that counts milliseconds, deadlines on it, and runs with the time that has really
passed. For each object of a timed run it is known since when the object has been in its phase.
-/
namespace Fantuan.Lib.Clock
open Lib.Run

def shown (time : Nat) : UInt32 := UInt32.ofNat time

/-- Both times are in the same turn of the clock, or their order is that of what it shows. -/
def InOrder (deadline now : Nat) : Prop :=
  deadline / 2^32 = now / 2^32 ∨
    deadline / 2^32 < now / 2^32 ∧ deadline % 2^32 ≤ now % 2^32 ∨
    now / 2^32 < deadline / 2^32 ∧ now % 2^32 < deadline % 2^32

theorem shown_toNat (time : Nat) : (shown time).toNat = time % 2^32 := UInt32.toNat_ofNat'

theorem shown_add (time : Nat) (timeout : UInt32) : shown time + timeout = shown (time + timeout.toNat) := by
  rw [← UInt32.toNat_inj,UInt32.toNat_add,shown_toNat,shown_toNat,Nat.mod_add_mod]

/-- The comparison on the clock is right just when the times are in order. -/
theorem reached_right_iff (deadline now : Nat) :
    (shown deadline ≤ shown now ↔ deadline ≤ now) ↔ InOrder deadline now := by
  rw [UInt32.le_iff_toNat_le,shown_toNat,shown_toNat,InOrder]
  omega

def passed (start now : UInt32) : Nat := (now - start).toNat

/-- The shorter of the two ways around the clock. -/
def apart (left right : UInt32) : Nat := min (passed left right) (passed right left)

theorem passed_toNat (start now : UInt32) : passed start now = (2^32 - start.toNat + now.toNat) % 2^32 :=
  UInt32.toNat_sub ..

theorem passed_shown (start now : Nat) (later : start ≤ now) :
    passed (shown start) (shown now) = (now - start) % 2^32 := by
  rw [passed_toNat,shown_toNat,shown_toNat]
  omega

/-- Halves can be told apart, because the two ways add up to an even number. -/
theorem half_passed_iff (start now : UInt32) : passed start now / 2 = apart start now / 2 ↔ passed start now ≤ 2^31 := by
  have bounds := And.intro start.toNat_lt now.toNat_lt
  rw [apart,passed_toNat,passed_toNat]
  omega

structure Timed (State : Type) where
  state : State
  now : Nat
  since : Nat → Nat

section
variable {State Action Phase : Type} [DecidableEq Phase] (step : State → Action → State)
  (elapsed : Action → Nat) (retime : Nat → Action → Action) (phase : State → Nat → Phase)

/-- An action takes its time, and is carried out with what the clock then shows. -/
def timedStep (t : Timed State) (action : Action) : Timed State :=
  let now := t.now + elapsed action
  let next := step t.state (retime now action)
  ⟨next,now,fun object => if phase next object = phase t.state object then t.since object else now⟩

theorem timed_reached (t : Timed State) (actions : List Action) : ∃ others,
    (run (timedStep step elapsed retime phase) t actions).state = run step t.state others := by
  induction actions generalizing t with
  | nil => exact ⟨[],rfl⟩
  | cons action actions ih =>
    obtain ⟨others,same⟩ := ih (timedStep step elapsed retime phase t action)
    exact ⟨retime (t.now + elapsed action) action :: others,same⟩

/-- The stamp of an object in a phase shows since when it has been in it. -/
def Stamped (inPhase : Phase → Prop) (stamp : State → Nat → UInt32) (t : Timed State) : Prop :=
  ∀ object, inPhase (phase t.state object) → stamp t.state object = shown (t.since object)

/-- An object that stays in the phase keeps its stamp, and another is stamped when it enters. -/
def Stamps (inPhase : Phase → Prop) (stamp : State → Nat → UInt32) (now : Nat) (s next : State) : Prop :=
  ∀ object, inPhase (phase next object) →
    phase s object = phase next object ∧ stamp next object = stamp s object ∨
      phase s object ≠ phase next object ∧ stamp next object = shown now

theorem timedStep_stamped (inPhase : Phase → Prop) (stamp : State → Nat → UInt32) (t : Timed State)
    (action : Action) (stamps : Stamps phase inPhase stamp (t.now + elapsed action) t.state
      (step t.state (retime (t.now + elapsed action) action)))
    (stamped : Stamped phase inPhase stamp t) :
    Stamped phase inPhase stamp (timedStep step elapsed retime phase t action) := by
  intro object inside
  change inPhase (phase (step t.state (retime (t.now + elapsed action) action)) object) at inside
  change stamp (step t.state (retime (t.now + elapsed action) action)) object =
    shown (if phase (step t.state (retime (t.now + elapsed action) action)) object = phase t.state object then
      t.since object else t.now + elapsed action)
  rcases stamps object inside with ⟨stays,kept⟩ | ⟨enters,new⟩
  · rw [if_pos stays.symm,kept]
    exact stamped object (by rw [stays]; exact inside)
  · rw [if_neg (Ne.symm enters),new]

end

end Fantuan.Lib.Clock
