import Fantuan.Lib.Run
import Fantuan.Tool.ObjectPool

/-! The pool of objects with its counters of 16 bits, beside the objects that its callers hold. The critical
section makes Allocate and Free single steps.
-/
namespace Fantuan.Tool.PoolCounts
open Lib.Run ObjectPool

/-- An object that is created is none of those created before. -/
structure Counted where
  objectList : List Object
  created : Nat
  maxSize : UInt16
  usedSize : UInt16
  deriving DecidableEq

def new (objectMax : UInt16) : Counted := ⟨[],0,objectMax,0⟩

def Counted.allocate (pool : Counted) : Option Object × Counted :=
  if pool.usedSize < pool.maxSize then
    match pool.objectList with
    | [] => (some pool.created,{pool with created := pool.created + 1, usedSize := pool.usedSize + 1})
    | object :: rest => (some object,{pool with objectList := rest, usedSize := pool.usedSize + 1})
  else (none,pool)

def Counted.free (object : Object) (pool : Counted) : Counted :=
  {pool with objectList := pool.objectList ++ [object], usedSize := pool.usedSize - 1}

def Counted.pool (pool : Counted) : Pool :=
  ⟨pool.objectList,pool.created,pool.maxSize.toNat,pool.usedSize.toNat⟩

/-- The pool, and what Allocate returned and was not yet freed. -/
structure State where
  pool : Counted
  held : List Object
  deriving DecidableEq

inductive Action where
  | allocate
  | free (object : Object)
  deriving DecidableEq

def create (objectMax : UInt16) : State := ⟨new objectMax,[]⟩

def step (s : State) : Action → State
  | .allocate => ⟨s.pool.allocate.2,s.pool.allocate.1.toList ++ s.held⟩
  | .free object => ⟨s.pool.free object,s.held.erase object⟩

def FreesHeld (s : State) : Action → Prop
  | .allocate => True
  | .free object => object ∈ s.held

instance (s : State) : DecidablePred (FreesHeld s)
  | .allocate => inferInstanceAs (Decidable True)
  | .free _ => inferInstanceAs (Decidable (_ ∈ _))

/-- What Allocate returns nobody holds, and it returns NULL exactly where the maximum is held. Each step
counts the objects held, and the counter goes up or down by one without turning over. -/
def Serves (s : State) (action : Action) : Prop :=
  s.pool.usedSize.toNat = s.held.length ∧
  (step s action).pool.usedSize.toNat = (step s action).held.length ∧
  match action with
  | .allocate =>
    (∀ object, s.pool.allocate.1 = some object → object ∉ s.held ∧
      (step s action).pool.usedSize.toNat = s.pool.usedSize.toNat + 1) ∧
    (s.pool.allocate.1 = none ↔ s.held.length = s.pool.maxSize.toNat)
  | .free _ => (step s action).pool.usedSize.toNat + 1 = s.pool.usedSize.toNat

/-- What is held was created and is not in the list of free objects. -/
structure Sound (s : State) : Prop where
  sound : s.pool.pool.Sound
  held : ∀ object, object ∈ s.held ↔ s.pool.pool.Held object
  distinct : s.held.Nodup
  counted : s.pool.usedSize.toNat = s.held.length
  bounded : s.held.length ≤ s.pool.maxSize.toNat

theorem used_unturned (pool : Counted) (room : pool.usedSize < pool.maxSize) :
    (pool.usedSize + 1).toNat = pool.usedSize.toNat + 1 := by
  have below : pool.usedSize.toNat < pool.maxSize.toNat := UInt16.lt_iff_toNat_lt.mp room
  have small := pool.maxSize.toNat_lt
  rw [UInt16.toNat_add]
  exact Nat.mod_eq_of_lt (by simp; omega)

/-- Allocate is the one of the pool with natural numbers: below the maximum the counter does not turn over. -/
theorem allocate_pool (pool : Counted) :
    pool.pool.allocate = (pool.allocate.1,pool.allocate.2.pool) := by
  by_cases room : pool.usedSize < pool.maxSize
  · have below : pool.usedSize.toNat < pool.maxSize.toNat := UInt16.lt_iff_toNat_lt.mp room
    have unturned := used_unturned pool room
    cases list : pool.objectList <;>
      simp [Pool.allocate,Counted.allocate,Counted.pool,room,below,list,unturned]
  · have full : ¬ pool.usedSize.toNat < pool.maxSize.toNat := fun below =>
      room (UInt16.lt_iff_toNat_lt.mpr below)
    simp [Pool.allocate,Counted.allocate,Counted.pool,room,full]

theorem free_pool (object : Object) (pool : Counted) : (pool.free object).pool = pool.pool.release object := by
  have wrapped : (pool.usedSize - 1).toNat = (pool.usedSize.toNat + (2^16 - 1)) % 2^16 := by
    rw [UInt16.toNat_sub]
    simp [Nat.add_comm]
  simp [Counted.pool,Counted.free,Pool.release,wrapped]

theorem allocate_cases (pool : Counted) :
    pool.maxSize ≤ pool.usedSize ∧ pool.allocate = (none,pool) ∨
      ∃ object next, pool.allocate = (some object,next) ∧ next.maxSize = pool.maxSize ∧
        next.usedSize.toNat = pool.usedSize.toNat + 1 ∧ pool.usedSize < pool.maxSize := by
  by_cases room : pool.usedSize < pool.maxSize
  · have unturned := used_unturned pool room
    cases list : pool.objectList with
    | nil =>
      refine .inr ⟨pool.created,
        {pool with created := pool.created + 1, usedSize := pool.usedSize + 1},?_,rfl,unturned,room⟩
      simp [Counted.allocate,room,list]
    | cons object rest =>
      refine .inr ⟨object,{pool with objectList := rest, usedSize := pool.usedSize + 1},?_,rfl,unturned,room⟩
      simp [Counted.allocate,room,list]
  · exact .inl ⟨UInt16.not_lt.mp room,by rw [Counted.allocate,if_neg room]⟩

private theorem create_sound (objectMax : UInt16) : Sound (create objectMax) := by
  refine ⟨new_sound objectMax.toNat,?_,List.nodup_nil,rfl,Nat.zero_le _⟩
  intro object
  exact iff_of_false List.not_mem_nil (new_held objectMax.toNat object)

section
variable (s : State) (sound : Sound s)
include sound

private theorem allocate_step : Sound (step s .allocate) ∧ Serves s .allocate := by
  obtain ⟨full,refused⟩ | ⟨object,next,taken,max,up,room⟩ := allocate_cases s.pool
  · have same : step s .allocate = s := by
      rw [step,refused]
      rfl
    have most : s.held.length = s.pool.maxSize.toNat := by
      have least := UInt16.le_iff_toNat_le.mp full
      have counted := sound.counted
      have bounded := sound.bounded
      omega
    refine ⟨same.symm ▸ sound,sound.counted,same.symm ▸ sound.counted,?_,?_⟩
    · intro object taken
      rw [refused] at taken
      cases taken
    · rw [refused]
      exact iff_of_true rfl most
  · have stepped : step s .allocate = ⟨next,object :: s.held⟩ := by
      rw [step,taken]
      rfl
    have fewer : s.held.length < s.pool.maxSize.toNat := by
      rw [← sound.counted]
      exact UInt16.lt_iff_toNat_lt.mp room
    have given : s.pool.pool.allocate = (some object,next.pool) := by
      rw [allocate_pool,taken]
    obtain ⟨after,unheld,held⟩ := allocate_sound s.pool.pool next.pool object sound.sound given
    have fresh : object ∉ s.held := fun member => unheld ((sound.held object).mp member)
    have counted : next.usedSize.toNat = (object :: s.held).length := by
      rw [up,sound.counted,List.length_cons]
    rw [Serves,stepped]
    refine ⟨⟨after,?_,List.nodup_cons.mpr ⟨fresh,sound.distinct⟩,counted,?_⟩,sound.counted,counted,?_,?_⟩
    · intro other
      rw [held,List.mem_cons,sound.held,or_comm]
    · change s.held.length + 1 ≤ next.maxSize.toNat
      rw [max]
      exact fewer
    · intro other same
      rw [taken] at same
      obtain rfl : object = other := Option.some.inj same
      exact ⟨fresh,up⟩
    · rw [taken]
      exact iff_of_false (Option.some_ne_none object) (Nat.ne_of_lt fewer)

private theorem free_step (object : Object) (holds : object ∈ s.held) :
    Sound (step s (.free object)) ∧ Serves s (.free object) := by
  obtain ⟨after,held⟩ := release_sound s.pool.pool object sound.sound ((sound.held object).mp holds)
  have fewer : (s.held.erase object).length + 1 = s.held.length := List.length_erase_add_one holds
  have down : (s.pool.free object).usedSize.toNat + 1 = s.pool.usedSize.toNat := by
    have used := congrArg Pool.usedSize (free_pool object s.pool)
    have small := s.pool.usedSize.toNat_lt
    have counted := sound.counted
    change (s.pool.free object).usedSize.toNat = (s.pool.usedSize.toNat + (2^16 - 1)) % 2^16 at used
    omega
  have counted : (s.pool.free object).usedSize.toNat = (s.held.erase object).length := by
    have before := sound.counted
    omega
  refine ⟨⟨?_,?_,sound.distinct.erase object,counted,?_⟩,sound.counted,counted,down⟩
  · change (s.pool.free object).pool.Sound
    rw [free_pool]
    exact after
  · intro other
    change other ∈ s.held.erase object ↔ (s.pool.free object).pool.Held other
    rw [free_pool,held,← sound.held,sound.distinct.mem_erase_iff,and_comm]
  · change (s.held.erase object).length ≤ s.pool.maxSize.toNat
    have before := sound.bounded
    omega

theorem step_sound (action : Action) (frees : FreesHeld s action) :
    Sound (step s action) ∧ Serves s action := by
  cases action with
  | allocate => exact allocate_step s sound
  | free object => exact free_step s sound object frees

end

/-- In every run in which callers free only what they hold, each step serves, and the counter is the number of
objects held. -/
theorem pool_serves (objectMax : UInt16) (actions : List Action)
    (frees : Guarded step FreesHeld (create objectMax) actions) :
    Guarded step Serves (create objectMax) actions ∧
      (run step (create objectMax) actions).pool.usedSize.toNat =
        (run step (create objectMax) actions).held.length := by
  have kept : ∀ s action, Sound s → FreesHeld s action → Sound (step s action) :=
    fun s action sound frees => (step_sound s sound action frees).1
  constructor
  · apply guarded_invariant step FreesHeld Serves Sound kept _ _ actions frees (create_sound objectMax)
    intro s action sound frees
    exact (step_sound s sound action frees).2
  · exact (run_invariant step FreesHeld Sound kept _ actions frees (create_sound objectMax)).counted

/-- A pool of one object: the second caller gets NULL, and the object again after it was freed. -/
theorem pool_serves_one :
    let actions : List Action := [.allocate,.allocate,.free 0,.allocate]
    Guarded step Serves (create 1) actions ∧ (run step (create 1) actions).held = [0] :=
  ⟨(pool_serves 1 [.allocate,.allocate,.free 0,.allocate] (by decide)).1,by decide⟩

end Fantuan.Tool.PoolCounts
