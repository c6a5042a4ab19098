import Fantuan.Lib.Run
import Fantuan.Lib.Shelves
import Mathlib.Algebra.Group.Nat.Defs
import Mathlib.Data.UInt

/-! The memory pool: a block of a power of two bytes behind a node that records the list it is freed to.
A node is the number under which it was allocated, and so is the block behind it.
-/
namespace Fantuan.Tool.MemoryPool
open Lib.Run Lib.Shelves

/-- for (; i < 31 && iNumber != 0; ++i), where left is 31 - i -/
def numberPowerLoop : Nat → UInt32 → UInt8 → UInt8
  | 0, _, i => i
  | left + 1, number, i => if number = 0 then i else numberPowerLoop left (number >>> 1) (i + 1)

def numberPower (number : UInt32) : UInt8 := numberPowerLoop 31 number 0

/-- room is the number of bytes behind the node. -/
structure Node where
  index : UInt8
  room : Nat
  deriving DecidableEq

def sizeofNode : UInt32 := 8

def alignedMalloc (size : UInt32) (index : UInt8) : Node := ⟨index,size.toNat - sizeofNode.toNat⟩

/-- held are the blocks that were allocated and not freed since: no function reads it. undefined is set
where a header is used that Init has not initialised, or what was not allocated is freed. -/
structure Pool where
  minPower : UInt32
  maxPower : UInt32
  count : Nat
  headers : UInt8 → List Nat
  headerCount : UInt32
  nodes : List Node
  held : List Nat
  undefined : Bool

def init (min max : UInt32) : Pool :=
  let minPower := (numberPower min).toUInt32
  let maxPower := (numberPower max).toUInt32
  ⟨minPower,maxPower,0,fun _ => [],maxPower - minPower + 1,[],[],false⟩

def outside (index : UInt8) (s : Pool) : Bool := decide (s.headerCount ≤ index.toUInt32)

def classPower (size : UInt32) (s : Pool) : UInt8 :=
  if (numberPower size).toUInt32 < s.minPower then s.minPower.toUInt8 else numberPower size

def allocate (size : UInt32) (s : Pool) : Option Nat × Pool :=
  if s.maxPower < (numberPower size).toUInt32 then (none,s)
  else
    let power := classPower size s
    let index := (power.toUInt32 - s.minPower).toUInt8
    match s.headers index with
    | node :: rest =>
      (some node,{s with
        headers := Function.update s.headers index rest
        held := node :: s.held
        undefined := s.undefined || outside index s})
    | [] =>
      (some s.nodes.length,{s with
        nodes := s.nodes ++ [alignedMalloc (sizeofNode + 1 <<< power.toUInt32) index]
        count := s.count + 1
        held := s.nodes.length :: s.held
        undefined := s.undefined || outside index s})

def free (block : Nat) (s : Pool) : Pool :=
  match s.nodes[block]? with
  | none => {s with undefined := true}
  | some node =>
    {s with
      headers := Function.update s.headers node.index (block :: s.headers node.index)
      held := s.held.erase block
      undefined := s.undefined || outside node.index s}

inductive Action where
  | allocate (size : UInt32)
  | free (block : Nat)
  deriving DecidableEq

def step (s : Pool) : Action → Pool
  | .allocate size => (allocate size s).2
  | .free block => free block s

private theorem i_next (i : UInt8) (left : Nat) (small : i.toNat + (left + 1) ≤ 31) :
    (i + 1).toNat = i.toNat + 1 := by
  rw [UInt8.toNat_add]
  change (i.toNat + 1) % 2^8 = _
  omega

theorem numberPowerLoop_bounds (left : Nat) (number : UInt32) (i : UInt8) (small : i.toNat + left ≤ 31) :
    i.toNat ≤ (numberPowerLoop left number i).toNat ∧
      (numberPowerLoop left number i).toNat ≤ i.toNat + left := by
  induction left generalizing number i with
  | zero => exact ⟨Nat.le_refl _,Nat.le_refl _⟩
  | succ left ih =>
    rw [numberPowerLoop]
    split
    · omega
    · have next := i_next i left small
      have rest := ih (number >>> 1) (i + 1) (by omega)
      omega

theorem numberPowerLoop_le (left : Nat) (number : UInt32) (i : UInt8) (small : i.toNat + left ≤ 31)
    (k : Nat) (below : k < left) :
    (numberPowerLoop left number i).toNat ≤ i.toNat + k ↔ number.toNat < 2^k := by
  induction left generalizing number i k with
  | zero => omega
  | succ left ih =>
    have next := i_next i left small
    rw [numberPowerLoop]
    split
    · rename_i zero
      rw [zero]
      exact iff_of_true (Nat.le_add_right _ _) (Nat.two_pow_pos k)
    · rename_i nonzero
      have positive : number.toNat ≠ 0 := fun zero => nonzero (UInt32.toNat_inj.mp zero)
      have half : (number >>> 1).toNat = number.toNat / 2 := by
        rw [UInt32.toNat_shiftRight]
        rfl
      cases k with
      | zero =>
        have lower := (numberPowerLoop_bounds left (number >>> 1) (i + 1) (by omega)).1
        rw [Nat.pow_zero]
        omega
      | succ k =>
        have rest := ih (number >>> 1) (i + 1) (by omega) k (by omega)
        rw [half,Nat.div_lt_iff_lt_mul Nat.two_pos,← Nat.pow_succ] at rest
        rw [← rest,next]
        omega

theorem numberPower_cap (number : UInt32) : (numberPower number).toNat ≤ 31 :=
  (numberPowerLoop_bounds 31 number 0 (Nat.le_refl 31)).2

/-- Below the cap the power is the number of bits. -/
theorem numberPower_le (number : UInt32) (k : Nat) (below : k < 31) :
    (numberPower number).toNat ≤ k ↔ number.toNat < 2^k := by
  have counted := numberPowerLoop_le 31 number 0 (Nat.le_refl 31) k below
  change _ ≤ 0 + k ↔ _ at counted
  rw [Nat.zero_add] at counted
  exact counted

theorem numberPower_mono (left right : UInt32) (ordered : left ≤ right) :
    (numberPower left).toNat ≤ (numberPower right).toNat := by
  rw [UInt32.le_iff_toNat_le] at ordered
  obtain below | capped := Nat.lt_or_ge (numberPower right).toNat 31
  · have bits := (numberPower_le right _ below).mp (Nat.le_refl _)
    exact (numberPower_le left _ below).mpr (Nat.lt_of_le_of_lt ordered bits)
  · exact Nat.le_trans (numberPower_cap left) capped

theorem numberPower_room (number : UInt32) (small : number.toNat ≤ 2^31) :
    number.toNat ≤ 2^(numberPower number).toNat := by
  obtain below | capped := Nat.lt_or_ge (numberPower number).toNat 31
  · exact Nat.le_of_lt ((numberPower_le number _ below).mp (Nat.le_refl _))
  · rw [Nat.le_antisymm (numberPower_cap number) capped]
    exact small

theorem numberPower_capped (number : UInt32) : (numberPower number).toNat = 31 ↔ 2^30 ≤ number.toNat := by
  have cap := numberPower_cap number
  have below := numberPower_le number 30 (by decide)
  omega

def Pool.stock (s : Pool) : Stock UInt8 := ⟨s.nodes.map Node.index,s.headers,s.held⟩

/-- Every node has the room of its class, and every class has a header. -/
structure Fitted (min max : UInt32) (s : Pool) : Prop where
  defined : s.undefined = false
  minPower : s.minPower = (numberPower min).toUInt32
  maxPower : s.maxPower = (numberPower max).toUInt32
  headerCount : s.headerCount = s.maxPower - s.minPower + 1
  stock : s.stock.Sound
  sized : ∀ node ∈ s.nodes,
    node.index.toUInt32 < s.headerCount ∧ node.room = 2^(node.index.toNat + s.minPower.toNat)

theorem init_fitted (min max : UInt32) : Fitted min max (init min max) :=
  ⟨rfl,rfl,rfl,rfl,empty_sound,fun _ member => absurd member List.not_mem_nil⟩

section
variable (min max : UInt32) (ordered : min ≤ max) (s : Pool) (fitted : Fitted min max s)
include ordered fitted

theorem powers : s.minPower.toNat ≤ s.maxPower.toNat ∧ s.maxPower.toNat ≤ 31 ∧
    s.headerCount.toNat = s.maxPower.toNat - s.minPower.toNat + 1 := by
  have mono := numberPower_mono min max ordered
  have cap := numberPower_cap max
  have low : s.minPower.toNat = (numberPower min).toNat := by rw [fitted.minPower]; rfl
  have high : s.maxPower.toNat = (numberPower max).toNat := by rw [fitted.maxPower]; rfl
  rw [fitted.headerCount,UInt32.toNat_add,UInt32.toNat_sub,low,high]
  refine ⟨mono,cap,?_⟩
  change ((2^32 - _ + _) % 2^32 + 1) % 2^32 = _
  omega

theorem class_index (size : UInt32) (served : ¬ s.maxPower < (numberPower size).toUInt32) :
    (classPower size s).toNat = Nat.max (numberPower size).toNat s.minPower.toNat ∧
      ((classPower size s).toUInt32 - s.minPower).toUInt8.toNat + s.minPower.toNat =
        (classPower size s).toNat ∧
      outside ((classPower size s).toUInt32 - s.minPower).toUInt8 s = false := by
  obtain ⟨mono,cap,count⟩ := powers min max ordered s fitted
  have low : s.minPower.toNat = (numberPower min).toNat := by rw [fitted.minPower]; rfl
  rw [UInt32.lt_iff_toNat_lt,UInt8.toNat_toUInt32] at served
  have power : (classPower size s).toNat = Nat.max (numberPower size).toNat s.minPower.toNat := by
    rw [classPower]
    split
    · rename_i small
      rw [UInt32.lt_iff_toNat_lt,UInt8.toNat_toUInt32] at small
      rw [UInt32.toNat_toUInt8,Nat.mod_eq_of_lt (by omega)]
      exact (Nat.max_eq_right (Nat.le_of_lt small)).symm
    · rename_i large
      rw [UInt32.lt_iff_toNat_lt,UInt8.toNat_toUInt32] at large
      exact (Nat.max_eq_left (Nat.le_of_not_lt large)).symm
  have bounds : s.minPower.toNat ≤ (classPower size s).toNat ∧ (classPower size s).toNat ≤ s.maxPower.toNat := by
    rw [power]
    exact ⟨Nat.le_max_right ..,Nat.max_le.mpr ⟨Nat.le_of_not_lt served,mono⟩⟩
  have index : ((classPower size s).toUInt32 - s.minPower).toUInt8.toNat =
      (classPower size s).toNat - s.minPower.toNat := by
    rw [UInt32.toNat_toUInt8,UInt32.toNat_sub,UInt8.toNat_toUInt32]
    omega
  refine ⟨power,by omega,?_⟩
  rw [outside,decide_eq_false_iff_not,UInt32.le_iff_toNat_le,UInt8.toNat_toUInt32,index,count]
  omega

end

theorem block_room (power : UInt8) (index : UInt8) (small : power.toNat ≤ 31) :
    alignedMalloc (sizeofNode + 1 <<< power.toUInt32) index = ⟨index,2^power.toNat⟩ := by
  have bound : 2^power.toNat ≤ 2^31 := Nat.pow_le_pow_right Nat.two_pos small
  have shifted : ((1 : UInt32) <<< power.toUInt32).toNat = 2^power.toNat := by
    rw [UInt32.toNat_shiftLeft,UInt8.toNat_toUInt32]
    change 1 <<< (power.toNat % 32) % 2^32 = _
    rw [Nat.mod_eq_of_lt (by omega : power.toNat < 32),Nat.one_shiftLeft]
    exact Nat.mod_eq_of_lt (by omega)
  rw [alignedMalloc,UInt32.toNat_add,shifted]
  change Node.mk index ((8 + 2^power.toNat) % 2^32 - 8) = _
  rw [Nat.mod_eq_of_lt (by omega),Nat.add_sub_cancel_left]

theorem allocate_refused (size : UInt32) (s : Pool) (refused : s.maxPower < (numberPower size).toUInt32) :
    allocate size s = (none,s) := by
  rw [allocate,if_pos refused]

section
variable (min max : UInt32) (ordered : min ≤ max) (s : Pool) (fitted : Fitted min max s) (size : UInt32)
  (served : ¬ s.maxPower < (numberPower size).toUInt32)
include served

theorem allocate_take :
    let index := ((classPower size s).toUInt32 - s.minPower).toUInt8
    (allocate size s).1 = some (s.stock.take index).1 ∧
      (allocate size s).2.stock = (s.stock.take index).2 := by
  intro index
  have shelf : s.stock.free index = s.headers index := rfl
  have made : s.stock.classes.length = s.nodes.length := List.length_map _
  rw [allocate,if_neg served,Stock.take,shelf,made]
  change (match s.headers index with | node :: rest => _ | [] => _ : Option Nat × Pool).1 = _ ∧
    Pool.stock (match s.headers index with | node :: rest => _ | [] => _ : Option Nat × Pool).2 = _
  cases s.headers index with
  | nil =>
    refine ⟨rfl,?_⟩
    rw [Pool.stock,List.map_append]
    rfl
  | cons node rest => exact ⟨rfl,rfl⟩

theorem allocate_frame :
    let power := classPower size s
    let index := (power.toUInt32 - s.minPower).toUInt8
    let after := (allocate size s).2
    (after.minPower = s.minPower ∧ after.maxPower = s.maxPower ∧ after.headerCount = s.headerCount) ∧
      after.undefined = (s.undefined || outside index s) ∧
      ∀ node ∈ after.nodes, node ∈ s.nodes ∨
        node = alignedMalloc (sizeofNode + 1 <<< power.toUInt32) index := by
  intro power index after
  have same : after = (allocate size s).2 := rfl
  rw [allocate,if_neg served] at same
  change after = (match s.headers index with | node :: rest => _ | [] => _ : Option Nat × Pool).2 at same
  cases shelf : s.headers index with
  | nil =>
    rw [shelf] at same
    rw [same]
    refine ⟨⟨rfl,rfl,rfl⟩,rfl,?_⟩
    intro node member
    obtain before | new := List.mem_append.mp member
    · exact .inl before
    · exact .inr (List.mem_singleton.mp new)
  | cons first rest =>
    rw [shelf] at same
    rw [same]
    exact ⟨⟨rfl,rfl,rfl⟩,rfl,fun _ member => .inl member⟩

end

section
variable (min max : UInt32) (ordered : min ≤ max) (s : Pool) (fitted : Fitted min max s)
include ordered fitted

theorem allocate_fitted (size : UInt32) : Fitted min max (allocate size s).2 := by
  by_cases served : s.maxPower < (numberPower size).toUInt32
  · rw [allocate_refused size s served]
    exact fitted
  · obtain ⟨power,index,inside⟩ := class_index min max ordered s fitted size served
    obtain ⟨mono,cap,_⟩ := powers min max ordered s fitted
    obtain ⟨⟨low,high,count⟩,undefined,nodes⟩ := allocate_frame s size served
    have small : (classPower size s).toNat ≤ 31 := by
      rw [UInt32.lt_iff_toNat_lt,UInt8.toNat_toUInt32] at served
      rw [power]
      exact Nat.max_le.mpr ⟨by omega,by omega⟩
    refine ⟨?_,low.trans fitted.minPower,high.trans fitted.maxPower,?_,?_,?_⟩
    · rw [undefined,fitted.defined,inside,Bool.or_false]
    · rw [low,high,count]
      exact fitted.headerCount
    · rw [(allocate_take s size served).2]
      exact take_sound _ s.stock fitted.stock
    · intro node member
      rw [low,count]
      obtain before | new := nodes node member
      · exact fitted.sized node before
      · rw [new,block_room _ _ small]
        rw [outside,decide_eq_false_iff_not] at inside
        exact ⟨UInt32.not_le.mp inside,by rw [index]⟩

/-- What is given has the room of its power, fresh or recycled, and nobody holds it. -/
theorem allocate_given (size : UInt32) (served : ¬ s.maxPower < (numberPower size).toUInt32) :
    ∃ block node, (allocate size s).1 = some block ∧ block ∉ s.held ∧
      (allocate size s).2.nodes[block]? = some node ∧
      node.room = 2^Nat.max (numberPower size).toNat s.minPower.toNat := by
  obtain ⟨power,index,_⟩ := class_index min max ordered s fitted size served
  obtain ⟨result,stock⟩ := allocate_take s size served
  obtain ⟨apart,own,_⟩ := take_class ((classPower size s).toUInt32 - s.minPower).toUInt8 s.stock fitted.stock
  rw [← stock] at own
  change ((allocate size s).2.nodes.map Node.index)[_]? = _ at own
  rw [List.getElem?_map] at own
  obtain ⟨node,found,same⟩ := Option.map_eq_some_iff.mp own
  have sized := ((allocate_fitted min max ordered s fitted size).sized node (List.mem_of_getElem? found)).2
  rw [same,(allocate_frame s size served).1.1,index,power] at sized
  exact ⟨_,node,result,apart,found,sized⟩

omit ordered in
theorem free_given (block : Nat) (node : Node) (found : s.nodes[block]? = some node) :
    (free block s).stock = s.stock.give node.index block ∧ (free block s).undefined = false := by
  have inside := (fitted.sized node (List.mem_of_getElem? found)).1
  rw [free,found]
  refine ⟨rfl,?_⟩
  change (s.undefined || outside node.index s) = false
  rw [fitted.defined,outside,Bool.false_or,decide_eq_false_iff_not]
  exact UInt32.not_le.mpr inside

omit ordered in
theorem free_fitted (block : Nat) (holds : block ∈ s.held) : Fitted min max (free block s) := by
  have made := fitted.stock.known block holds
  change block < (s.nodes.map Node.index).length at made
  rw [List.length_map] at made
  have found := List.getElem?_eq_getElem made
  obtain ⟨stock,defined⟩ := free_given min max s fitted block _ found
  refine ⟨defined,?_,?_,?_,?_,?_⟩
  · rw [free,found]
    exact fitted.minPower
  · rw [free,found]
    exact fitted.maxPower
  · rw [free,found]
    exact fitted.headerCount
  · rw [stock]
    apply give_sound _ _ _ fitted.stock holds
    change (s.nodes.map Node.index)[block]? = _
    rw [List.getElem?_map,found]
    rfl
  · rw [free,found]
    exact fitted.sized

end

def Frees (s : Pool) : Action → Prop
  | .allocate _ => True
  | .free block => block ∈ s.held

def Served (max : UInt32) (s : Pool) : Action → Prop
  | .allocate size =>
    (size ≤ max → (allocate size s).1 ≠ none) ∧
      ∀ block, (allocate size s).1 = some block → block ∉ s.held ∧
        ∃ node, (allocate size s).2.nodes[block]? = some node ∧ size.toNat ≤ node.room
  | .free block =>
    ∃ node, s.nodes[block]? = some node ∧ node.room = 2^(node.index.toNat + s.minPower.toNat) ∧
      (free block s).headers = Function.update s.headers node.index (block :: s.headers node.index)

/-- What is promised of a step: the headers it uses are initialised, and the held blocks are distinct. -/
def Promised (max : UInt32) (s : Pool) (action : Action) : Prop :=
  (step s action).undefined = false ∧ (step s action).held.Nodup ∧ Served max s action

/-- A request is beyond the largest block where its power is capped. -/
def Beyond (max : UInt32) (action : Action) : Prop :=
  2^30 ≤ max.toNat ∧ ∃ size, action = .allocate size ∧ 2^31 < size.toNat

section
variable (min max : UInt32) (ordered : min ≤ max) (s : Pool) (fitted : Fitted min max s)
include fitted

include ordered in
private theorem step_fitted (action : Action) (frees : Frees s action) : Fitted min max (step s action) := by
  cases action with
  | allocate size => exact allocate_fitted min max ordered s fitted size
  | free block => exact free_fitted min max s fitted block frees

theorem served_free (block : Nat) (holds : block ∈ s.held) : Served max s (.free block) := by
  have made := fitted.stock.known block holds
  change block < (s.nodes.map Node.index).length at made
  rw [List.length_map] at made
  have found := List.getElem?_eq_getElem made
  refine ⟨s.nodes[block],found,(fitted.sized _ (List.getElem_mem made)).2,?_⟩
  rw [free,found]

include ordered

theorem served_allocate (size : UInt32) :
    Served max s (.allocate size) ↔ ¬ Beyond max (.allocate size) := by
  have high : s.maxPower.toNat = (numberPower max).toNat := by rw [fitted.maxPower]; rfl
  have capped := numberPower_capped max
  have cap := numberPower_cap size
  have cap' := numberPower_cap max
  constructor
  · intro ⟨_,given⟩ ⟨large,other,same,beyond⟩
    obtain rfl : size = other := Action.allocate.inj same
    have power := (numberPower_capped size).mpr (by omega)
    have served : ¬ s.maxPower < (numberPower size).toUInt32 := by
      rw [UInt32.lt_iff_toNat_lt,UInt8.toNat_toUInt32]
      omega
    obtain ⟨block,node,result,_,found,room⟩ := allocate_given min max ordered s fitted size served
    obtain ⟨_,node',found',enough⟩ := given block result
    obtain rfl : node = node' := Option.some.inj (found.symm.trans found')
    obtain ⟨mono,small,_⟩ := powers min max ordered s fitted
    have largest : Nat.max 31 s.minPower.toNat = 31 := Nat.max_eq_left (Nat.le_trans mono small)
    rw [room,power,largest] at enough
    omega
  · intro within
    by_cases served : s.maxPower < (numberPower size).toUInt32
    · rw [Served,allocate_refused size s served]
      refine ⟨?_,fun _ given => by cases given⟩
      intro fits _
      have mono := numberPower_mono size max fits
      rw [UInt32.lt_iff_toNat_lt,UInt8.toNat_toUInt32] at served
      omega
    · obtain ⟨block,node,result,apart,found,room⟩ := allocate_given min max ordered s fitted size served
      rw [UInt32.lt_iff_toNat_lt,UInt8.toNat_toUInt32] at served
      rw [Served,result]
      refine ⟨fun _ => Option.some_ne_none block,?_⟩
      intro other given
      obtain rfl : block = other := Option.some.inj given
      refine ⟨apart,node,found,?_⟩
      have small : size.toNat ≤ 2^31 := by
        by_contra large
        have power := (numberPower_capped size).mpr (by omega)
        exact within ⟨by omega,size,rfl,by omega⟩
      rw [room]
      exact Nat.le_trans (numberPower_room size small)
        (Nat.pow_le_pow_right Nat.two_pos (Nat.le_max_left ..))

private theorem promised_iff (action : Action) (frees : Frees s action) :
    Promised max s action ↔ ¬ Beyond max action := by
  have after := step_fitted min max ordered s fitted action frees
  have kept : Promised max s action ↔ Served max s action :=
    ⟨fun promised => promised.2.2,fun served => ⟨after.defined,after.stock.held,served⟩⟩
  rw [kept]
  cases action with
  | allocate size => exact served_allocate min max ordered s fitted size
  | free block =>
    refine iff_of_true (served_free min max s fitted block frees) ?_
    rintro ⟨_,size,other,_⟩
    cases other

end

/-- The pool keeps its promise in every run of callers who free what they hold, exactly where no request
exceeds 2^31 bytes or the pool ends below 2^30. -/
theorem promised_runs (min max : UInt32) (ordered : min ≤ max) (actions : List Action)
    (frees : Guarded step Frees (init min max) actions) :
    Guarded step (Promised max) (init min max) actions ↔
      max.toNat < 2^30 ∨ ∀ size, .allocate size ∈ actions → size.toNat ≤ 2^31 := by
  have pointwise := guarded_iff step Frees (Promised max) (fun _ action => ¬ Beyond max action)
    (Fitted min max) (fun s action fitted frees => step_fitted min max ordered s fitted action frees)
    (fun s action fitted frees => promised_iff min max ordered s fitted action frees)
    (init min max) actions frees (init_fitted min max)
  rw [pointwise,guarded_forall]
  constructor
  · intro within
    obtain small | large := Nat.lt_or_ge max.toNat (2^30)
    · exact .inl small
    · refine .inr fun size member => ?_
      by_contra beyond
      exact within _ member ⟨large,size,rfl,by omega⟩
  · rintro (small | within) action member ⟨large,size,rfl,beyond⟩
    · omega
    · have bound := within size member
      omega

theorem promised_runs_small :
    Guarded step (Promised 64) (init 8 64) [.allocate 5,.free 0,.allocate 8] :=
  (promised_runs 8 64 (by decide) [.allocate 5,.free 0,.allocate 8]
    ⟨trivial,List.mem_singleton.mpr rfl,trivial,trivial⟩).mpr (.inl (by decide))

/-- From Init(1, 2^30) on, a request of 2^31 + 1 bytes is served with a block of 2^31. -/
theorem largest_unserved :
    ¬ Promised (2^30) (init 1 (2^30)) (.allocate (2^31 + 1)) ∧
      (allocate (2^31 + 1) (init 1 (2^30))).1 = some 0 ∧
      (allocate (2^31 + 1) (init 1 (2^30))).2.nodes = [⟨30,2^31⟩] := by
  have served : (allocate (2^31 + 1) (init 1 (2^30))).1 = some 0 := by decide +kernel
  have nodes : (allocate (2^31 + 1) (init 1 (2^30))).2.nodes = [⟨30,2^31⟩] := by decide +kernel
  refine ⟨?_,served,nodes⟩
  intro promised
  obtain ⟨_,node,found,enough⟩ := promised.2.2.2 0 served
  rw [nodes] at found
  obtain rfl : (⟨30,2^31⟩ : Node) = node := Option.some.inj found
  exact absurd enough (by decide)

end Fantuan.Tool.MemoryPool
