import Mathlib.Logic.Basic

/-! Runs of a deterministic transition system, with a guard on its steps.
An invariant that every guarded step preserves holds after every guarded run.
-/
namespace Fantuan.Lib.Run

variable {State Action : Type}

def run (step : State → Action → State) : State → List Action → State
  | state, [] => state
  | state, action :: actions => run step (step state action) actions

def Guarded (step : State → Action → State) (guard : State → Action → Prop) :
    State → List Action → Prop
  | _, [] => True
  | state, action :: actions =>
    guard state action ∧ Guarded step guard (step state action) actions

instance decidableGuarded (step : State → Action → State) (guard : State → Action → Prop)
    [∀ state, DecidablePred (guard state)] :
    (state : State) → (actions : List Action) → Decidable (Guarded step guard state actions)
  | _, [] => inferInstanceAs (Decidable True)
  | state, action :: actions =>
    have := decidableGuarded step guard (step state action) actions
    inferInstanceAs (Decidable (_ ∧ _))

theorem run_invariant (step : State → Action → State) (guard : State → Action → Prop)
    (invariant : State → Prop)
    (kept : ∀ state action, invariant state → guard state action → invariant (step state action))
    (state : State) (actions : List Action) (guarded : Guarded step guard state actions)
    (start : invariant state) : invariant (run step state actions) := by
  induction actions generalizing state with
  | nil => exact start
  | cons action actions ih =>
    obtain ⟨first,rest⟩ := guarded
    exact ih _ rest (kept state action start first)

theorem guarded_append (step : State → Action → State) (guard : State → Action → Prop)
    (state : State) (earlier : List Action) (action : Action) (later : List Action)
    (guarded : Guarded step guard state (earlier ++ action :: later)) :
    Guarded step guard state earlier ∧ guard (run step state earlier) action ∧
      Guarded step guard (step (run step state earlier) action) later := by
  induction earlier generalizing state with
  | nil => exact ⟨trivial,guarded⟩
  | cons first rest ih =>
    obtain ⟨start,others⟩ := guarded
    obtain ⟨before,here,after⟩ := ih _ others
    exact ⟨⟨start,before⟩,here,after⟩

theorem guarded_join (step : State → Action → State) (guard : State → Action → Prop)
    (state : State) (earlier later : List Action) (before : Guarded step guard state earlier)
    (after : Guarded step guard (run step state earlier) later) :
    Guarded step guard state (earlier ++ later) := by
  induction earlier generalizing state with
  | nil => exact after
  | cons action earlier ih =>
    obtain ⟨first,rest⟩ := before
    exact ⟨first,ih _ rest after⟩

theorem guarded_true (step : State → Action → State) (state : State) (actions : List Action) :
    Guarded step (fun _ _ => True) state actions := by
  induction actions generalizing state with
  | nil => trivial
  | cons action actions ih => exact ⟨trivial,ih _⟩

theorem guarded_invariant (step : State → Action → State) (guard property : State → Action → Prop)
    (invariant : State → Prop)
    (kept : ∀ state action, invariant state → guard state action → invariant (step state action))
    (holds : ∀ state action, invariant state → guard state action → property state action)
    (state : State) (actions : List Action) (guarded : Guarded step guard state actions)
    (start : invariant state) : Guarded step property state actions := by
  induction actions generalizing state with
  | nil => trivial
  | cons action actions ih =>
    obtain ⟨first,rest⟩ := guarded
    exact ⟨holds state action start first,ih _ rest (kept state action start first)⟩

theorem guarded_and (step : State → Action → State) (left right : State → Action → Prop) (state : State)
    (actions : List Action) (first : Guarded step left state actions) (second : Guarded step right state actions) :
    Guarded step (fun state action => left state action ∧ right state action) state actions := by
  induction actions generalizing state with
  | nil => trivial
  | cons action actions ih => exact ⟨⟨first.1,second.1⟩,ih _ first.2 second.2⟩

/-- Where the steps that keep the invariant are the guarded ones, and just these have the property. -/
theorem guarded_congr (step : State → Action → State) (guard property : State → Action → Prop)
    (invariant : State → Prop)
    (kept : ∀ state action, invariant state → guard state action → invariant (step state action))
    (same : ∀ state action, invariant state → (property state action ↔ guard state action))
    (state : State) (actions : List Action) (start : invariant state) :
    Guarded step property state actions ↔ Guarded step guard state actions := by
  induction actions generalizing state with
  | nil => exact Iff.rfl
  | cons action actions ih =>
    rw [Guarded,Guarded,same state action start]
    apply and_congr_right
    intro first
    exact ih _ (kept state action start first)

/-- In a run whose steps are enabled, where those of them that are guarded keep the invariant and just
these have the property. -/
theorem guarded_within (step : State → Action → State) (enabled guard property : State → Action → Prop)
    (invariant : State → Prop)
    (kept : ∀ state action, invariant state → enabled state action → guard state action → invariant (step state action))
    (same : ∀ state action, invariant state → enabled state action → (property state action ↔ guard state action))
    (state : State) (actions : List Action) (within : Guarded step enabled state actions) (start : invariant state) :
    Guarded step property state actions ↔ Guarded step guard state actions := by
  induction actions generalizing state with
  | nil => exact Iff.rfl
  | cons action actions ih =>
    obtain ⟨here,later⟩ := within
    rw [Guarded,Guarded,same state action start here]
    apply and_congr_right
    intro first
    exact ih _ later (kept state action start here first)

/-- Along a run that keeps the invariant, what comes to the same at each step comes to the same. -/
theorem guarded_iff (step : State → Action → State) (guard left right : State → Action → Prop)
    (invariant : State → Prop)
    (kept : ∀ state action, invariant state → guard state action → invariant (step state action))
    (same : ∀ state action, invariant state → guard state action → (left state action ↔ right state action))
    (state : State) (actions : List Action) (guarded : Guarded step guard state actions)
    (start : invariant state) : Guarded step left state actions ↔ Guarded step right state actions := by
  induction actions generalizing state with
  | nil => exact Iff.rfl
  | cons action actions ih =>
    obtain ⟨first,rest⟩ := guarded
    rw [Guarded,Guarded,same state action start first,ih _ rest (kept state action start first)]

theorem guarded_forall (step : State → Action → State) (guard : Action → Prop) (state : State)
    (actions : List Action) :
    Guarded step (fun _ action => guard action) state actions ↔ ∀ action ∈ actions, guard action := by
  induction actions generalizing state with
  | nil => simp [Guarded]
  | cons action actions ih => rw [Guarded,ih,List.forall_mem_cons]

def count (step : State → Action → State) (mark : State → State → Bool) : State → List Action → Nat
  | _, [] => 0
  | state, action :: actions =>
    (if mark state (step state action) then 1 else 0) + count step mark (step state action) actions

theorem run_append (step : State → Action → State) (state : State) (earlier later : List Action) :
    run step state (earlier ++ later) = run step (run step state earlier) later := by
  induction earlier generalizing state with
  | nil => rfl
  | cons action earlier ih => exact ih _

/-- Where every guarded step leads back to the state it started from. -/
theorem guarded_fixed (step : State → Action → State) (guard : State → Action → Prop)
    (state : State) (fixed : ∀ action, guard state action → step state action = state)
    (actions : List Action) :
    Guarded step guard state actions ↔ ∀ action ∈ actions, guard state action := by
  induction actions with
  | nil => simp [Guarded]
  | cons action actions ih =>
    rw [Guarded,List.forall_mem_cons]
    apply and_congr_right
    intro first
    rw [fixed action first]
    exact ih

/-- What the guarded steps leave as it is and the others raise is in the end what it was exactly in a guarded run. -/
theorem measure_iff (step : State → Action → State) (guard : State → Action → Prop) (invariant : State → Prop)
    (measure : State → Nat) (kept : ∀ state action, invariant state → invariant (step state action))
    (same : ∀ state action, invariant state → guard state action → measure (step state action) = measure state)
    (more : ∀ state action, invariant state → ¬ guard state action → measure state < measure (step state action))
    (state : State) (actions : List Action) (start : invariant state) :
    measure state ≤ measure (run step state actions) ∧
      (measure (run step state actions) = measure state ↔ Guarded step guard state actions) := by
  induction actions generalizing state with
  | nil => exact ⟨Nat.le_refl _,fun _ => trivial,fun _ => rfl⟩
  | cons action actions ih =>
    obtain ⟨grows,iff⟩ := ih (step state action) (kept state action start)
    change measure state ≤ measure (run step (step state action) actions) ∧
      (measure (run step (step state action) actions) = measure state ↔ _ ∧ _)
    by_cases guarded : guard state action
    · rw [same state action start guarded] at grows iff
      exact ⟨grows,iff.trans (and_iff_right guarded).symm⟩
    · have raised := Nat.lt_of_lt_of_le (more state action start guarded) grows
      exact ⟨Nat.le_of_lt raised,fun back => absurd back (Nat.ne_of_gt raised),
        fun both => absurd both.1 guarded⟩

end Fantuan.Lib.Run
