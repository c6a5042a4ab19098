import Fantuan.Lib.Run
import Mathlib.Algebra.Group.Nat.Defs
import Mathlib.Data.Finset.Card
import Mathlib.Logic.Function.Basic

/-! The actors of a map: the pool of actor ids, the array of bound actors and the count of avatars.
An actor is a number; its object lives on when it is not bound.
-/
namespace Fantuan.RegionServer.MapActors
open Lib.Run

/-- The fields of the union, from its lowest byte. -/
structure ActorId where
  sequence : UInt8
  actorIndex : UInt16
  actorType : UInt8
  deriving DecidableEq

def ActorId.zero : ActorId := ⟨0,0,0⟩

def ActorId.value (id : ActorId) : Nat :=
  id.sequence.toNat + 2^8 * id.actorIndex.toNat + 2^24 * id.actorType.toNat

def ActorId.index (id : ActorId) : Nat := id.actorIndex.toNat

theorem value_index (left right : ActorId) (same : left.value = right.value) :
    left.index = right.index := by
  have bounds := And.intro left.sequence.toNat_lt right.sequence.toNat_lt
  have indexes := And.intro left.actorIndex.toNat_lt right.actorIndex.toNat_lt
  unfold ActorId.value at same
  unfold ActorId.index
  omega

-- ACTOR_TYPE_AVATAR and ACTOR_TYPE_NPC
def actorTypeAvatar : UInt8 := 0

structure Actor where
  actorId : ActorId
  actorType : UInt8
  bound : Bool
  deriving DecidableEq

def Actor.isAvatar (actor : Actor) : Bool := actor.actorType == actorTypeAvatar

/-- undefined is set where an access lies outside the array or the front of an empty list is taken. -/
structure Map where
  actorMax : Nat
  actorIndexMax : Nat
  arrayActor : Nat → Option Nat
  actorIdPool : List ActorId
  avatarCount : Nat
  actors : Nat → Actor
  undefined : Bool

/-- An id of the pool as Init makes it: the index is a uint16. -/
def newId (i : Nat) : ActorId := ⟨0,UInt16.ofNat i,0⟩

def init (playerMax : UInt16) (types : Nat → UInt8) : Map :=
  ⟨playerMax.toNat * 10,0,fun _ => none,(List.range (playerMax.toNat * 10)).map newId,0,
    fun actor => ⟨.zero,types actor,false⟩,false⟩

def allocActorId (front : ActorId) (actorType : UInt8) : ActorId :=
  {front with sequence := front.sequence + 1, actorType := actorType}

-- BindActor returns 0 always
def bindActor (actor : Nat) (s : Map) : Map :=
  match s.actorIdPool with
  | [] => {s with undefined := true}
  | front :: rest =>
    let id := allocActorId front (s.actors actor).actorType
    {s with
      actorIdPool := rest
      actors := Function.update s.actors actor {s.actors actor with actorId := id, bound := true}
      arrayActor := Function.update s.arrayActor id.index (some actor)
      actorIndexMax := if s.actorIndexMax < id.index then id.index else s.actorIndexMax
      avatarCount := if (s.actors actor).isAvatar then s.avatarCount + 1 else s.avatarCount
      undefined := s.undefined || decide (s.actorMax ≤ id.index)}

def unbindActor (actor : Nat) (s : Map) : Map :=
  let id := (s.actors actor).actorId
  {s with
    arrayActor := Function.update s.arrayActor id.index none
    actorIdPool := s.actorIdPool ++ [id]
    actors := Function.update s.actors actor {s.actors actor with actorId := .zero, bound := false}
    avatarCount := if (s.actors actor).isAvatar then s.avatarCount - 1 else s.avatarCount
    undefined := s.undefined || decide (s.actorMax ≤ id.index)}

inductive Action where
  | bindActor (actor : Nat)
  | unbindActor (actor : Nat)
  deriving DecidableEq

def step (s : Map) : Action → Map
  | .bindActor actor => bindActor actor s
  | .unbindActor actor => unbindActor actor s

def Map.index (s : Map) (actor : Nat) : Nat := (s.actors actor).actorId.index

def Map.Bound (s : Map) (actor : Nat) : Prop := (s.actors actor).bound = true

def Map.poolIndexes (s : Map) : List Nat := s.actorIdPool.map ActorId.index

/-- The indexes are parted between the bound actors and the pool, and the array and the count follow. -/
structure Parted (s : Map) : Prop where
  defined : s.undefined = false
  pooled : s.poolIndexes.Nodup
  apart : ∀ actor, s.Bound actor → s.index actor ∉ s.poolIndexes
  distinct : ∀ left right, s.Bound left → s.Bound right → s.index left = s.index right → left = right
  covered : ∀ index, index < s.actorMax ↔
    index ∈ s.poolIndexes ∨ ∃ actor, s.Bound actor ∧ s.index actor = index
  arrayed : ∀ index, index < s.actorMax → ∀ actor,
    s.arrayActor index = some actor ↔ s.Bound actor ∧ s.index actor = index
  avatars : ∃ avatars : Finset Nat, s.avatarCount = avatars.card ∧
    ∀ actor, actor ∈ avatars ↔ s.Bound actor ∧ (s.actors actor).isAvatar = true

theorem ids_distinct (s : Map) (parted : Parted s) (left right : Nat) (first : s.Bound left)
    (second : s.Bound right) (same : (s.actors left).actorId.value = (s.actors right).actorId.value) :
    left = right :=
  parted.distinct left right first second (value_index _ _ same)

theorem free_null (s : Map) (parted : Parted s) (index : Nat) (free : index ∈ s.poolIndexes) :
    s.arrayActor index = none := by
  cases found : s.arrayActor index with
  | none => rfl
  | some actor =>
    have inside := (parted.covered index).mpr (.inl free)
    obtain ⟨bound,same⟩ := (parted.arrayed index inside actor).mp found
    rw [← same] at free
    exact absurd free (parted.apart actor bound)

structure Described (s : Map) : Prop where
  parted : Parted s
  ids : ∀ left right, s.Bound left → s.Bound right →
    (s.actors left).actorId.value = (s.actors right).actorId.value → left = right
  free : ∀ index ∈ s.poolIndexes, s.arrayActor index = none

theorem described_iff (s : Map) : Described s ↔ Parted s := by
  constructor
  · exact Described.parted
  · intro parted
    exact ⟨parted,ids_distinct s parted,free_null s parted⟩

/-- Where an actor is bound with an id from the pool and unbound while it is bound. -/
def Proper (s : Map) : Action → Prop
  | .bindActor actor => s.actorIdPool ≠ [] ∧ ¬ s.Bound actor
  | .unbindActor actor => s.Bound actor

section
variable (s : Map) (actor : Nat) (front : ActorId) (rest : List ActorId)
  (pool : s.actorIdPool = front :: rest)
include pool

theorem bind_pool : (bindActor actor s).actorIdPool = rest := by
  rw [bindActor,pool]

theorem bind_actors : (bindActor actor s).actors = Function.update s.actors actor
    {s.actors actor with
      actorId := allocActorId front (s.actors actor).actorType
      bound := true} := by
  rw [bindActor,pool]

theorem bind_actor : (bindActor actor s).actors actor =
    {s.actors actor with actorId := allocActorId front (s.actors actor).actorType, bound := true} := by
  rw [bind_actors s actor front rest pool,Function.update_self]

theorem bind_other (other : Nat) (apart : other ≠ actor) :
    (bindActor actor s).actors other = s.actors other := by
  rw [bind_actors s actor front rest pool,Function.update_of_ne apart]

theorem bind_index : (bindActor actor s).index actor = front.index := by
  rw [Map.index,bind_actor s actor front rest pool]
  rfl

theorem bind_bound (other : Nat) :
    (bindActor actor s).Bound other ↔ other = actor ∨ s.Bound other := by
  by_cases same : other = actor
  · rw [same,Map.Bound,bind_actor s actor front rest pool]
    simp
  · rw [Map.Bound,bind_other s actor front rest pool other same]
    simp [same,Map.Bound]

theorem bind_array (index : Nat) : (bindActor actor s).arrayActor index =
    if index = front.index then some actor else s.arrayActor index := by
  rw [bindActor,pool]
  by_cases same : index = front.index
  · rw [if_pos same,same]
    exact Function.update_self ..
  · rw [if_neg same]
    exact Function.update_of_ne same ..

theorem bind_avatars (other : Nat) :
    ((bindActor actor s).actors other).isAvatar = (s.actors other).isAvatar := by
  by_cases same : other = actor
  · rw [same,bind_actor s actor front rest pool]
    rfl
  · rw [bind_other s actor front rest pool other same]

end

section
variable (s : Map) (actor : Nat)

theorem unbind_actor : (unbindActor actor s).actors actor =
    {s.actors actor with actorId := .zero, bound := false} := Function.update_self ..

theorem unbind_other (other : Nat) (apart : other ≠ actor) :
    (unbindActor actor s).actors other = s.actors other := Function.update_of_ne apart ..

theorem unbind_bound (other : Nat) :
    (unbindActor actor s).Bound other ↔ other ≠ actor ∧ s.Bound other := by
  by_cases same : other = actor
  · rw [same,Map.Bound,unbind_actor]
    simp
  · rw [Map.Bound,unbind_other s actor other same]
    simp [same,Map.Bound]

theorem unbind_index (other : Nat) (apart : other ≠ actor) :
    (unbindActor actor s).index other = s.index other := by
  rw [Map.index,unbind_other s actor other apart]
  rfl

theorem unbind_pool : (unbindActor actor s).poolIndexes = s.poolIndexes ++ [s.index actor] :=
  List.map_append

theorem unbind_array (index : Nat) : (unbindActor actor s).arrayActor index =
    if index = s.index actor then none else s.arrayActor index := by
  by_cases same : index = s.index actor
  · rw [if_pos same,same]
    exact Function.update_self ..
  · rw [if_neg same]
    exact Function.update_of_ne same ..

theorem unbind_avatars (other : Nat) :
    ((unbindActor actor s).actors other).isAvatar = (s.actors other).isAvatar := by
  by_cases same : other = actor
  · rw [same,unbind_actor]
    rfl
  · rw [unbind_other s actor other same]

end

/-- Who was bound before keeps its index, which is not the one that is given out. -/
private theorem bind_older (s : Map) (actor : Nat) (front : ActorId) (rest : List ActorId)
    (pool : s.actorIdPool = front :: rest) (parted : Parted s) (unbound : ¬ s.Bound actor) (other : Nat)
    (bound : s.Bound other) : (bindActor actor s).index other = s.index other ∧ s.index other ≠ front.index := by
  have apart : other ≠ actor := fun same => unbound (same ▸ bound)
  refine ⟨?_,?_⟩
  · rw [Map.index,bind_other s actor front rest pool other apart]
    rfl
  · intro same
    apply parted.apart other bound
    rw [Map.poolIndexes,pool,List.map_cons,same]
    exact List.mem_cons_self

private theorem bind_counted (s : Map) (actor : Nat) (front : ActorId) (rest : List ActorId)
    (pool : s.actorIdPool = front :: rest) (parted : Parted s) (unbound : ¬ s.Bound actor) :
    ∃ avatars : Finset Nat, (bindActor actor s).avatarCount = avatars.card ∧
      ∀ other, other ∈ avatars ↔ (bindActor actor s).Bound other ∧ ((bindActor actor s).actors other).isAvatar := by
  obtain ⟨avatars,count,members⟩ := parted.avatars
  have counted : (bindActor actor s).avatarCount =
      if (s.actors actor).isAvatar then s.avatarCount + 1 else s.avatarCount := by
    rw [bindActor,pool]
  rw [counted]
  by_cases avatar : (s.actors actor).isAvatar = true
  · have new : actor ∉ avatars := fun member => unbound ((members actor).mp member).1
    refine ⟨insert actor avatars,?_,?_⟩
    · rw [if_pos avatar,Finset.card_insert_of_notMem new,count]
    · intro other
      rw [Finset.mem_insert,members,bind_bound s actor front rest pool,
        bind_avatars s actor front rest pool]
      constructor
      · rintro (rfl | ⟨bound,kind⟩)
        · exact ⟨.inl rfl,avatar⟩
        · exact ⟨.inr bound,kind⟩
      · rintro ⟨rfl | bound,kind⟩
        · exact .inl rfl
        · exact .inr ⟨bound,kind⟩
  · refine ⟨avatars,?_,?_⟩
    · rw [if_neg avatar,count]
    · intro other
      rw [members,bind_bound s actor front rest pool,bind_avatars s actor front rest pool]
      constructor
      · rintro ⟨bound,kind⟩
        exact ⟨.inr bound,kind⟩
      · rintro ⟨rfl | bound,kind⟩
        · exact absurd kind avatar
        · exact ⟨bound,kind⟩

private theorem bind_parted (s : Map) (actor : Nat) (front : ActorId) (rest : List ActorId)
    (pool : s.actorIdPool = front :: rest) (parted : Parted s) (unbound : ¬ s.Bound actor) :
    Parted (bindActor actor s) := by
  have indexes : s.poolIndexes = front.index :: rest.map ActorId.index := by
    rw [Map.poolIndexes,pool,List.map_cons]
  have left : (bindActor actor s).poolIndexes = rest.map ActorId.index := by
    rw [Map.poolIndexes,bind_pool s actor front rest pool]
  have maximum : (bindActor actor s).actorMax = s.actorMax := by rw [bindActor,pool]
  have inside : front.index < s.actorMax :=
    (parted.covered _).mpr (.inl (by rw [indexes]; exact List.mem_cons_self))
  have older := bind_older s actor front rest pool parted unbound
  have split := parted.pooled
  rw [indexes,List.nodup_cons] at split
  refine ⟨?_,?_,?_,?_,?_,?_,?_⟩
  · rw [bindActor,pool]
    change (s.undefined || decide (s.actorMax ≤ front.index)) = false
    rw [parted.defined,Bool.false_or,decide_eq_false_iff_not]
    omega
  · rw [left]
    exact split.2
  · intro other bound
    rw [left]
    obtain rfl | before := (bind_bound s actor front rest pool other).mp bound
    · rw [bind_index s other front rest pool]
      exact split.1
    · rw [(older other before).1]
      intro listed
      exact parted.apart other before (by rw [indexes]; exact List.mem_cons_of_mem _ listed)
  · intro first second bound bound' same
    obtain rfl | before := (bind_bound s actor front rest pool first).mp bound
    · obtain rfl | before' := (bind_bound s first front rest pool second).mp bound'
      · rfl
      · rw [bind_index s first front rest pool,(older second before').1] at same
        exact absurd same.symm (older second before').2
    · obtain rfl | before' := (bind_bound s actor front rest pool second).mp bound'
      · rw [bind_index s second front rest pool,(older first before).1] at same
        exact absurd same (older first before).2
      · rw [(older first before).1,(older second before').1] at same
        exact parted.distinct first second before before' same
  · intro index
    rw [maximum,parted.covered index,indexes,left,List.mem_cons]
    constructor
    · rintro ((rfl | listed) | ⟨other,bound,same⟩)
      · exact .inr ⟨actor,(bind_bound s actor front rest pool actor).mpr (.inl rfl),
          bind_index s actor front rest pool⟩
      · exact .inl listed
      · exact .inr ⟨other,(bind_bound s actor front rest pool other).mpr (.inr bound),
          (older other bound).1.trans same⟩
    · rintro (listed | ⟨other,bound,same⟩)
      · exact .inl (.inr listed)
      · obtain rfl | before := (bind_bound s actor front rest pool other).mp bound
        · rw [bind_index s other front rest pool] at same
          exact .inl (.inl same.symm)
        · exact .inr ⟨other,before,(older other before).1.symm.trans same⟩
  · intro index below other
    rw [maximum] at below
    rw [bind_array s actor front rest pool,bind_bound s actor front rest pool]
    by_cases here : index = front.index
    · rw [if_pos here,here]
      constructor
      · intro same
        obtain rfl : actor = other := Option.some.inj same
        exact ⟨.inl rfl,bind_index s actor front rest pool⟩
      · rintro ⟨rfl | before,same⟩
        · rfl
        · rw [(older other before).1] at same
          exact absurd same (older other before).2
    · rw [if_neg here,parted.arrayed index below other]
      constructor
      · rintro ⟨before,same⟩
        exact ⟨.inr before,(older other before).1.trans same⟩
      · rintro ⟨rfl | before,same⟩
        · rw [bind_index s other front rest pool] at same
          exact absurd same.symm here
        · exact ⟨before,(older other before).1.symm.trans same⟩
  · exact bind_counted s actor front rest pool parted unbound

private theorem unbind_parted (s : Map) (actor : Nat) (parted : Parted s) (bound : s.Bound actor) :
    Parted (unbindActor actor s) := by
  have inside : s.index actor < s.actorMax := (parted.covered _).mpr (.inr ⟨actor,bound,rfl⟩)
  have other (second : Nat) (still : (unbindActor actor s).Bound second) :
      s.Bound second ∧ (unbindActor actor s).index second = s.index second ∧
        s.index second ≠ s.index actor := by
    obtain ⟨apart,before⟩ := (unbind_bound s actor second).mp still
    exact ⟨before,unbind_index s actor second apart,
      fun same => apart (parted.distinct second actor before bound same)⟩
  have stays (second : Nat) (before : s.Bound second) (apart : s.index second ≠ s.index actor) :
      (unbindActor actor s).Bound second :=
    (unbind_bound s actor second).mpr ⟨fun same => apart (congrArg s.index same),before⟩
  refine ⟨?_,?_,?_,?_,?_,?_,?_⟩
  · change (s.undefined || decide (s.actorMax ≤ s.index actor)) = false
    rw [parted.defined,Bool.false_or,decide_eq_false_iff_not]
    omega
  · rw [unbind_pool]
    exact List.nodup_append.mpr ⟨parted.pooled,List.nodup_singleton _,fun first listed second new same =>
      parted.apart actor bound (by rw [← List.mem_singleton.mp new,← same]; exact listed)⟩
  · intro second still
    obtain ⟨before,index,apart⟩ := other second still
    rw [unbind_pool,index,List.mem_append,List.mem_singleton]
    rintro (listed | same)
    · exact parted.apart second before listed
    · exact apart same
  · intro first second still still' same
    obtain ⟨before,index,_⟩ := other first still
    obtain ⟨before',index',_⟩ := other second still'
    rw [index,index'] at same
    exact parted.distinct first second before before' same
  · intro index
    change index < s.actorMax ↔ _
    rw [parted.covered index,unbind_pool,List.mem_append,List.mem_singleton]
    constructor
    · rintro (listed | ⟨second,before,rfl⟩)
      · exact .inl (.inl listed)
      · by_cases same : s.index second = s.index actor
        · exact .inl (.inr same)
        · have still := stays second before same
          exact .inr ⟨second,still,(other second still).2.1⟩
    · rintro ((listed | rfl) | ⟨second,still,rfl⟩)
      · exact .inl listed
      · exact .inr ⟨actor,bound,rfl⟩
      · obtain ⟨before,index,_⟩ := other second still
        exact .inr ⟨second,before,index.symm⟩
  · intro index below second
    rw [unbind_array]
    by_cases here : index = s.index actor
    · rw [if_pos here]
      constructor
      · intro found
        cases found
      · rintro ⟨still,same⟩
        obtain ⟨_,index',apart⟩ := other second still
        exact absurd (index'.symm.trans (same.trans here)) apart
    · rw [if_neg here,parted.arrayed index below second]
      constructor
      · rintro ⟨before,rfl⟩
        have still := stays second before here
        exact ⟨still,(other second still).2.1⟩
      · rintro ⟨still,same⟩
        obtain ⟨before,index',_⟩ := other second still
        exact ⟨before,index'.symm.trans same⟩
  · obtain ⟨avatars,count,members⟩ := parted.avatars
    change ∃ avatars : Finset Nat, (if (s.actors actor).isAvatar then s.avatarCount - 1 else s.avatarCount) =
      avatars.card ∧ _
    by_cases avatar : (s.actors actor).isAvatar = true
    · have member : actor ∈ avatars := (members actor).mpr ⟨bound,avatar⟩
      refine ⟨avatars.erase actor,?_,?_⟩
      · rw [if_pos avatar,Finset.card_erase_of_mem member,count]
      · intro second
        rw [Finset.mem_erase,members,unbind_bound,unbind_avatars,and_assoc]
    · refine ⟨avatars,?_,?_⟩
      · rw [if_neg avatar,count]
      · intro second
        rw [members,unbind_bound,unbind_avatars]
        constructor
        · rintro ⟨before,kind⟩
          exact ⟨⟨fun same => avatar (same ▸ kind),before⟩,kind⟩
        · rintro ⟨⟨_,before⟩,kind⟩
          exact ⟨before,kind⟩

/-- Bound once more, an actor leaves the index it had to nobody. -/
private theorem rebind_unparted (s : Map) (actor : Nat) (front : ActorId) (rest : List ActorId)
    (pool : s.actorIdPool = front :: rest) (parted : Parted s) (bound : s.Bound actor) :
    ¬ Parted (bindActor actor s) := by
  intro after
  have maximum : (bindActor actor s).actorMax = s.actorMax := by rw [bindActor,pool]
  have inside : s.index actor < (bindActor actor s).actorMax := by
    rw [maximum]
    exact (parted.covered _).mpr (.inr ⟨actor,bound,rfl⟩)
  have unlisted := parted.apart actor bound
  rw [Map.poolIndexes,pool,List.map_cons,List.mem_cons,not_or] at unlisted
  obtain listed | ⟨other,still,same⟩ := (after.covered _).mp inside
  · rw [Map.poolIndexes,bind_pool s actor front rest pool] at listed
    exact unlisted.2 listed
  · by_cases itself : other = actor
    · rw [itself,bind_index s actor front rest pool] at same
      exact unlisted.1 same.symm
    · obtain again | before := (bind_bound s actor front rest pool other).mp still
      · exact itself again
      · have index : (bindActor actor s).index other = s.index other := by
          rw [Map.index,bind_other s actor front rest pool other itself]
          rfl
        exact itself (parted.distinct other actor before bound (index.symm.trans same))

/-- Unbound once more, an actor gives back an index that is in the pool, in use or not there at all. -/
private theorem reunbind_unparted (s : Map) (actor : Nat) (parted : Parted s)
    (unbound : ¬ s.Bound actor) : ¬ Parted (unbindActor actor s) := by
  intro after
  have listed : s.index actor ∈ (unbindActor actor s).poolIndexes := by
    rw [unbind_pool]
    simp
  have inside : s.index actor < s.actorMax := (after.covered _).mpr (.inl listed)
  obtain before | ⟨other,before,same⟩ := (parted.covered _).mp inside
  · have twice := after.pooled
    rw [unbind_pool] at twice
    exact (List.nodup_append.mp twice).2.2 _ before _ (List.mem_singleton.mpr rfl) rfl
  · have apart : other ≠ actor := fun itself => unbound (itself ▸ before)
    have still := (unbind_bound s actor other).mpr ⟨apart,before⟩
    apply after.apart other still
    rw [unbind_index s actor other apart,same]
    exact listed

/-- What is promised of a step: a bind without an id is refused, and the parts are kept. -/
def Kept (s : Map) (action : Action) : Prop :=
  Described (step s action) ∧
    ∀ actor, action = .bindActor actor → s.actorIdPool = [] → step s action = s

private theorem kept_iff (s : Map) (action : Action) (parted : Parted s) :
    Kept s action ↔ Proper s action := by
  rw [Kept,described_iff]
  cases action with
  | bindActor actor =>
    cases pool : s.actorIdPool with
    | nil =>
      constructor
      · intro ⟨after,_⟩
        have defined := after.defined
        rw [step,bindActor,pool] at defined
        cases defined
      · intro proper
        exact absurd pool proper.1
    | cons front rest =>
      have left : s.actorIdPool ≠ [] := by rw [pool]; exact List.cons_ne_nil front rest
      constructor
      · intro ⟨after,_⟩
        exact ⟨left,fun bound => rebind_unparted s actor front rest pool parted bound after⟩
      · intro proper
        exact ⟨bind_parted s actor front rest pool parted proper.2,fun _ _ empty => by cases empty⟩
  | unbindActor actor =>
    constructor
    · intro ⟨after,_⟩
      by_contra unbound
      exact reunbind_unparted s actor parted unbound after
    · intro bound
      exact ⟨unbind_parted s actor parted bound,fun _ other => by cases other⟩

theorem newId_index (i : Nat) : (newId i).index = i % 2^16 := UInt16.toNat_ofNat'

private theorem init_parted (playerMax : UInt16) (types : Nat → UInt8) :
    Parted (init playerMax types) ↔ playerMax.toNat ≤ 6553 := by
  have indexes : (init playerMax types).poolIndexes =
      (List.range (playerMax.toNat * 10)).map fun i => i % 2^16 := by
    change ((List.range _).map newId).map ActorId.index = _
    rw [List.map_map]
    exact List.map_congr_left fun i _ => newId_index i
  have unbound (actor : Nat) : ¬ (init playerMax types).Bound actor := Bool.false_ne_true
  constructor
  · intro parted
    by_contra beyond
    have inside : 2^16 < (init playerMax types).actorMax := by
      change 2^16 < playerMax.toNat * 10
      omega
    obtain listed | ⟨actor,bound,_⟩ := (parted.covered _).mp inside
    · rw [indexes] at listed
      obtain ⟨i,_,same⟩ := List.mem_map.mp listed
      omega
    · exact unbound actor bound
  · intro below
    have same : (init playerMax types).poolIndexes = List.range (playerMax.toNat * 10) := by
      rw [indexes]
      have small : ∀ i ∈ List.range (playerMax.toNat * 10), i % 2^16 = id i := by
        intro i member
        have before := List.mem_range.mp member
        rw [id,Nat.mod_eq_of_lt (by omega)]
      rw [List.map_congr_left small,List.map_id]
    refine ⟨rfl,?_,fun actor bound => absurd bound (unbound actor),
      fun first _ bound => absurd bound (unbound first),?_,?_,∅,rfl,?_⟩
    · rw [same]
      exact List.nodup_range
    · intro index
      rw [same,List.mem_range]
      constructor
      · exact .inl
      · rintro (before | ⟨actor,bound,_⟩)
        · exact before
        · exact absurd bound (unbound actor)
    · intro index _ actor
      constructor
      · intro found
        cases found
      · rintro ⟨bound,_⟩
        exact absurd bound (unbound actor)
    · intro actor
      constructor
      · intro member
        exact absurd member (Finset.notMem_empty actor)
      · rintro ⟨bound,_⟩
        exact absurd bound (unbound actor)

/-- The indexes stay parted and a bind without an id is refused, exactly where the indexes of Init fit
16 bits, no bind finds the pool empty, and what is bound is unbound and the other way round. -/
theorem parted_iff (playerMax : UInt16) (types : Nat → UInt8) (actions : List Action) :
    Described (init playerMax types) ∧ Guarded step Kept (init playerMax types) actions ↔
      playerMax.toNat ≤ 6553 ∧ Guarded step Proper (init playerMax types) actions := by
  rw [described_iff,init_parted]
  apply and_congr_right
  intro below
  apply guarded_congr step Proper Kept Parted
  · intro s action parted proper
    exact ((kept_iff s action parted).mpr proper).1.parted
  · exact kept_iff
  · exact (init_parted playerMax types).mpr below

/-- A player maximum of 0 leaves the pool empty; one of 6554 gives two ids the index 0. -/
theorem init_unparted :
    ¬ Kept (init 0 fun _ => actorTypeAvatar) (.bindActor 0) ∧
      ¬ Described (init 6554 fun _ => actorTypeAvatar) ∧
      (newId 0).index = (newId 65536).index ∧ 65536 < (init 6554 fun _ => actorTypeAvatar).actorMax := by
  refine ⟨?_,?_,(newId_index 0).trans (newId_index 65536).symm,by decide⟩
  · intro ⟨after,_⟩
    exact Bool.false_ne_true after.parted.defined.symm
  · rw [described_iff,init_parted]
    decide

end Fantuan.RegionServer.MapActors
