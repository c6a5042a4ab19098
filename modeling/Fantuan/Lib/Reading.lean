import Mathlib.Logic.Function.Basic

/-! Code that reads on or gives up with NULL, and writes into a state either way. Giving up
keeps what is written so far; a write outside the state has no result.
-/
namespace Fantuan.Lib.Reading

inductive Result (σ α : Type) where
  | undefined
  | null (state : σ)
  | value (result : α) (state : σ)
  deriving DecidableEq

def Check (σ α : Type) := σ → Result σ α

variable {σ τ α β γ : Type}

def Result.andThen (next : α → Check σ β) : Result σ α → Result σ β
  | .undefined => .undefined
  | .null state => .null state
  | .value result state => next result state

instance : Monad (Check σ) where
  pure result := fun state => .value result state
  bind check next := fun state => (check state).andThen next

def Check.run (check : Check σ α) (state : σ) : Result σ α := check state

/-- Goes on with a value, gives up without one. -/
def orNull : Option α → Check σ α
  | some result => pure result
  | none => fun state => .null state

/-- none: outside the state. -/
def write (update : σ → Option σ) : Check σ Unit := fun state =>
  match update state with
  | some next => .value () next
  | none => .undefined

def alter (update : σ → σ) : Check σ Unit := fun state => .value () (update state)

def look (view : σ → α) : Check σ α := fun state => .value (view state) state

def Result.within (update : τ → σ) : Result τ α → Result σ α
  | .undefined => .undefined
  | .null part => .null (update part)
  | .value result part => .value result (update part)

def within (view : σ → Option τ) (update : τ → σ → σ) (check : Check τ α) : Check σ α :=
  fun state =>
    match view state with
    | none => .undefined
    | some part => (check part).within fun part => update part state

@[ext] theorem check_ext (first second : Check σ α)
    (same : ∀ state, first.run state = second.run state) : first = second := funext same

@[simp] theorem run_pure (result : α) (state : σ) :
    (pure result : Check σ α).run state = .value result state := rfl

@[simp] theorem run_bind (check : Check σ α) (next : α → Check σ β) (state : σ) :
    (check >>= next).run state = (check.run state).andThen next := rfl

@[simp] theorem undefined_andThen (next : α → Check σ β) :
    (Result.undefined : Result σ α).andThen next = .undefined := rfl

@[simp] theorem null_andThen (next : α → Check σ β) (state : σ) :
    (Result.null state : Result σ α).andThen next = .null state := rfl

@[simp] theorem value_andThen (next : α → Check σ β) (result : α) (state : σ) :
    (Result.value result state).andThen next = (next result).run state := rfl

theorem andThen_pure (check : Check σ α) : (check >>= fun result => pure result) = check := by
  ext state
  change (check state).andThen (fun result => pure result) = check state
  cases check state <;> rfl

theorem andThen_assoc (check : Check σ α) (next : α → Check σ β) (last : β → Check σ γ) :
    check >>= next >>= last = check >>= fun result => next result >>= last := by
  ext state
  change ((check state).andThen next).andThen last = (check state).andThen _
  cases check state <;> rfl

instance : LawfulMonad (Check σ) :=
  LawfulMonad.mk' _ andThen_pure (fun _ _ => rfl) andThen_assoc

@[simp] theorem run_orNull_some (result : α) (state : σ) :
    (orNull (some result) : Check σ α).run state = .value result state := rfl

@[simp] theorem run_orNull_none (state : σ) :
    (orNull none : Check σ α).run state = .null state := rfl

@[simp] theorem run_alter (update : σ → σ) (state : σ) :
    (alter update).run state = .value () (update state) := rfl

@[simp] theorem run_look (view : σ → α) (state : σ) :
    (look view).run state = .value (view state) state := rfl

theorem run_write (update : σ → Option σ) (state : σ) :
    (write update).run state = (update state).elim .undefined (.value ()) := by
  unfold Check.run write
  cases update state <;> rfl

theorem run_within (view : σ → Option τ) (update : τ → σ → σ) (check : Check τ α) (state : σ) :
    (within view update check).run state = (view state).elim .undefined
      fun part => (check.run part).within fun part => update part state := by
  unfold Check.run within
  cases view state <;> rfl

theorem within_bind_pure (view : σ → Option τ) (update : τ → σ → σ) (check : Check τ Unit)
    (result : α) : within view update (check >>= fun _ => pure result) =
      within view update check >>= fun _ => pure result := by
  ext state
  rw [run_bind,run_within,run_within]
  cases view state with
  | none => rfl
  | some part =>
    simp only [Option.elim_some,run_bind]
    cases check.run part <;> rfl

end Fantuan.Lib.Reading
