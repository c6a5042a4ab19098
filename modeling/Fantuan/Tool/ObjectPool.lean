import Mathlib.Algebra.Group.Nat.Defs
import Mathlib.Data.Finset.Card
import Mathlib.Data.Finset.Range

/-! The pool of preallocated objects. An object is the number under which it was
created; Free puts it at the end of the list from whose front Allocate takes.
-/
namespace Fantuan.Tool.ObjectPool

abbrev Object := Nat

structure Pool where
  objectList : List Object
  created : Nat
  maxSize : Nat
  usedSize : Nat

def new (objectMax : Nat) : Pool := ⟨[],0,objectMax,0⟩

def Pool.allocate (pool : Pool) : Option Object × Pool :=
  if pool.usedSize < pool.maxSize then
    match pool.objectList with
    | [] => (some pool.created,{pool with created := pool.created + 1, usedSize := pool.usedSize + 1})
    | object :: rest => (some object,{pool with objectList := rest, usedSize := pool.usedSize + 1})
  else (none,pool)

theorem Pool.allocate_cases (pool : Pool) (sum : pool.usedSize + pool.objectList.length = pool.maxSize) :
    pool.objectList = [] ∧ pool.allocate = (none,pool) ∨
      ∃ object rest, pool.objectList = object :: rest ∧ pool.usedSize < pool.maxSize ∧
        pool.allocate = (some object,{pool with objectList := rest, usedSize := pool.usedSize + 1}) := by
  cases list : pool.objectList with
  | nil =>
    rw [list,List.length_nil] at sum
    exact .inl ⟨rfl,by rw [Pool.allocate,if_neg (by omega)]⟩
  | cons object rest =>
    rw [list,List.length_cons] at sum
    refine .inr ⟨object,rest,rfl,by omega,?_⟩
    rw [Pool.allocate,if_pos (by omega),list]

-- m_iUsedSize is a uint16
def Pool.release (object : Object) (pool : Pool) : Pool :=
  {pool with objectList := pool.objectList ++ [object], usedSize := (pool.usedSize + (2^16 - 1)) % 2^16}

def Pool.Held (pool : Pool) (object : Object) : Prop :=
  object < pool.created ∧ object ∉ pool.objectList

instance (pool : Pool) (object : Object) : Decidable (pool.Held object) :=
  inferInstanceAs (Decidable (_ ∧ _))

/-- The free objects are all created, each in the list once. -/
structure Pool.Sound (pool : Pool) : Prop where
  distinct : pool.objectList.Nodup
  known : ∀ object ∈ pool.objectList, object < pool.created

theorem new_sound (objectMax : Nat) : (new objectMax).Sound := ⟨by simp [new],by simp [new]⟩

theorem new_held (objectMax : Nat) (object : Object) : ¬ (new objectMax).Held object := by
  simp [Pool.Held,new]

theorem allocate_sound (pool rest : Pool) (object : Object) (sound : pool.Sound)
    (taken : pool.allocate = (some object,rest)) :
    rest.Sound ∧ ¬ pool.Held object ∧
      ∀ other, rest.Held other ↔ pool.Held other ∨ other = object := by
  have distinct := sound.distinct
  have known := sound.known
  rw [Pool.allocate] at taken
  split at taken
  · split at taken
    next empty =>
      obtain ⟨rfl,rfl⟩ : pool.created = object ∧ _ = rest := by simpa using taken
      refine ⟨⟨by simp [empty],by simp [empty]⟩,by simp [Pool.Held],fun other => ?_⟩
      simp only [Pool.Held,empty,List.not_mem_nil,not_false_eq_true,and_true]
      exact Nat.lt_succ_iff_lt_or_eq
    next first free list =>
      obtain ⟨rfl,rfl⟩ : first = object ∧ _ = rest := by simpa using taken
      rw [list,List.nodup_cons] at distinct
      have inside : first < pool.created := known first (by simp [list])
      refine ⟨⟨distinct.2,fun other member => known other (by simp [list,member])⟩,?_,fun other => ?_⟩
      · simp [Pool.Held,list]
      · simp only [Pool.Held,list,List.mem_cons,not_or]
        constructor
        · rintro ⟨bound,absent⟩
          by_cases same : other = first
          · exact .inr same
          · exact .inl ⟨bound,same,absent⟩
        · rintro (⟨bound,-,absent⟩ | rfl)
          · exact ⟨bound,absent⟩
          · exact ⟨inside,distinct.1⟩
  · simp at taken

theorem release_sound (pool : Pool) (object : Object) (sound : pool.Sound)
    (held : pool.Held object) :
    (pool.release object).Sound ∧
      ∀ other, (pool.release object).Held other ↔ pool.Held other ∧ other ≠ object := by
  obtain ⟨inside,absent⟩ := held
  refine ⟨⟨?_,?_⟩,fun other => ?_⟩
  · refine List.nodup_append.mpr ⟨sound.distinct,by simp,fun first member second last => ?_⟩
    obtain rfl := List.mem_singleton.mp last
    rintro rfl
    exact absent member
  · intro other member
    rcases List.mem_append.mp member with old | last
    · exact sound.known other old
    · obtain rfl := List.mem_singleton.mp last
      exact inside
  · simp only [Pool.Held,Pool.release,List.mem_append,List.mem_singleton,not_or]
    tauto

def Pool.heldObjects (pool : Pool) : Finset Object :=
  (Finset.range pool.created).filter fun object => pool.Held object

theorem mem_heldObjects (pool : Pool) (object : Object) :
    object ∈ pool.heldObjects ↔ pool.Held object := by
  rw [Pool.heldObjects,Finset.mem_filter,Finset.mem_range]
  exact and_iff_right_of_imp And.left

theorem allocate_card (pool rest : Pool) (object : Object) (sound : pool.Sound)
    (taken : pool.allocate = (some object,rest)) :
    rest.heldObjects.card = pool.heldObjects.card + 1 := by
  obtain ⟨-,unheld,held⟩ := allocate_sound pool rest object sound taken
  have joined : rest.heldObjects = insert object pool.heldObjects := by
    ext other
    rw [Finset.mem_insert,mem_heldObjects,mem_heldObjects,held,or_comm]
  rw [joined,Finset.card_insert_of_notMem]
  rwa [mem_heldObjects]

theorem release_card (pool : Pool) (object : Object) (sound : pool.Sound)
    (held : pool.Held object) :
    (pool.release object).heldObjects.card + 1 = pool.heldObjects.card := by
  have left : (pool.release object).heldObjects = pool.heldObjects.erase object := by
    ext other
    rw [Finset.mem_erase,mem_heldObjects,mem_heldObjects,
      (release_sound pool object sound held).2,and_comm]
  rw [left]
  exact Finset.card_erase_add_one ((mem_heldObjects pool object).mpr held)

end Fantuan.Tool.ObjectPool
