import Fantuan.Lib.Links
import Fantuan.Lib.Run

/-! The connections of an acceptor: created or taken from the free list for an accept, in use, closed.
A connection is the number under which Connection::Create made it.
-/
namespace Fantuan.StarNet.Acceptors
open Lib.Links Lib.Run

/-- iorefs_ or connected_ is not 0, and acceptor_ is not NULL. -/
structure Connection where
  busy : Bool
  acceptor : Bool
  deriving DecidableEq

/-- pending is the connection of context_ while an AcceptEx is outstanding; inUse are those that the
handler was given, released those that Connection::Delete took. -/
structure Acceptor where
  iorefs : Int
  running : Bool
  totalConnection : UInt32
  freeConnection : SList Nat
  connections : Nat → Connection
  created : Nat
  released : List Nat
  pending : Option Nat
  inUse : List Nat

/-- What Connection::Create and AcceptEx answer. -/
structure Answers where
  create : Bool
  acceptEx : Bool
  deriving DecidableEq

def init : Acceptor := ⟨0,false,0,SList.empty,fun _ => ⟨false,false⟩,0,[],none,[]⟩

def Acceptor.mark (connection : Nat) (busy : Bool) (s : Acceptor) : Acceptor :=
  {s with
    connections := Function.update s.connections connection {s.connections connection with busy := busy}}

def close (connection : Nat) (s : Acceptor) : Acceptor :=
  if (s.connections connection).busy then s
  else if (s.connections connection).acceptor then
    {s with freeConnection := s.freeConnection.push connection}
  else {s with released := connection :: s.released}

/-- The part of Accept that posts the request for a connection. -/
def post (answers : Answers) (connection : Nat) (s : Acceptor) : Acceptor :=
  if answers.acceptEx then {s with iorefs := s.iorefs + 1, pending := some connection}
  else
    let closed := close connection s
    {closed with
      freeConnection := closed.freeConnection.push connection
      totalConnection := s.totalConnection + 1
      running := false}

def create (s : Acceptor) : Acceptor :=
  {s with
    created := s.created + 1
    connections := Function.update s.connections s.created ⟨false,true⟩}

theorem create_new (s : Acceptor) : (create s).connections s.created = ⟨false,true⟩ :=
  Function.update_self ..

theorem create_other (s : Acceptor) (connection : Nat) (other : connection ≠ s.created) :
    (create s).connections connection = s.connections connection :=
  Function.update_of_ne other ..

def accept (answers : Answers) (s : Acceptor) : Acceptor :=
  match s.freeConnection.pop with
  | (some connection,free) =>
    post answers connection {s with freeConnection := free, totalConnection := s.totalConnection - 1}
  | (none,_) =>
    if answers.create then post answers s.created (create s) else {s with running := false}

/-- An accept completes with a client or with a failure; the last operation of a connection that has
been disconnected completes. -/
inductive Action where
  | start (answers : Answers)
  | stop
  | accepted (answers : Answers) (setsockopt : Bool)
  | acceptFailed
  | disconnected (connection : Nat)
  | close (connection : Nat)
  deriving DecidableEq

-- a Start that waits for iorefs_ is a later step
def step (s : Acceptor) : Action → Acceptor
  | .start answers => if s.running ∨ s.iorefs ≠ 0 then s else accept answers {s with running := true}
  | .stop => {s with running := false}
  | .accepted answers setsockopt =>
    match s.pending with
    | none => s
    | some connection =>
      let next := accept answers {s with pending := none}
      let told := if setsockopt then
          {next.mark connection true with inUse := connection :: next.inUse}
        else next
      {told with iorefs := told.iorefs - 1}
  | .acceptFailed => {s with pending := none}
  | .disconnected connection =>
    if connection ∈ s.inUse then s.mark connection false else s
  | .close connection =>
    if connection ∈ s.inUse ∧ (s.connections connection).busy = false then
      close connection {s with inUse := s.inUse.erase connection}
    else s

def drain : Nat → Acceptor → Option Acceptor
  | 0, _ => none
  | fuel + 1, s =>
    if s.freeConnection.depth = 0 then some s
    else
      match s.freeConnection.pop with
      | (some connection,free) => drain fuel (close connection {s with freeConnection := free})
      | (none,_) => none

/-- Destroy once nothing else happens any more: a wait whose condition fails does not end. -/
def destroy (fuel : Nat) (s : Acceptor) : Option Acceptor :=
  if s.iorefs ≠ 0 then none
  else if s.freeConnection.depth ≠ s.totalConnection.toNat then none
  else drain fuel {s with running := false}

/-- Each connection is in one place: on the free list, pending, or in use. -/
def Placed (s : Acceptor) : Prop :=
  ∃ free, s.freeConnection.Holds free ∧ ∀ connection,
    free.count connection + s.pending.toList.count connection + s.inUse.count connection =
      if connection < s.created then 1 else 0

def Total (s : Acceptor) : Prop := s.totalConnection.toNat + s.released.length = s.created

/-- Where every connection has been closed, Destroy ends and has released each. -/
def Drains (s : Acceptor) : Prop :=
  s.pending = none → s.inUse = [] → ∃ fuel after, destroy fuel s = some after ∧
    after.released.Perm (List.range s.created)

structure Accounted (s : Acceptor) : Prop where
  placed : Placed s
  total : Total s
  drains : Drains s

/-- The step posts an accept, which takes a connection to be had. -/
def Posts (s : Acceptor) : Action → Option Answers
  | .start answers => if s.running ∨ s.iorefs ≠ 0 then none else some answers
  | .accepted answers _ => if s.pending.isSome then some answers else none
  | _ => none

def Creates (s : Acceptor) (action : Action) : Prop :=
  ∃ answers, Posts s action = some answers ∧ s.freeConnection.head = none ∧ answers.create = true

/-- No accept is refused and none completes with a failure. -/
structure Succeeds (s : Acceptor) (action : Action) : Prop where
  posted : ∀ answers, Posts s action = some answers →
    (s.freeConnection.head ≠ none ∨ answers.create = true) → answers.acceptEx = true
  taken : ∀ answers setsockopt, action = .accepted answers setsockopt → s.pending ≠ none →
    setsockopt = true
  completed : action = .acceptFailed → s.pending = none

/-- What holds while every accept succeeds, with the entries of the free list and the connection whose
accept the worker is completing. -/
structure Sound (s : Acceptor) (free : List Nat) (hand : Option Nat) : Prop where
  holds : s.freeConnection.Holds free
  once : ∀ connection, free.count connection + s.pending.toList.count connection +
    hand.toList.count connection + s.inUse.count connection = if connection < s.created then 1 else 0
  quiet : ∀ connection, connection ∈ free ∨ s.pending = some connection →
    (s.connections connection).busy = false
  owned : ∀ connection, connection < s.created → (s.connections connection).acceptor = true
  refs : s.iorefs = s.pending.toList.length + hand.toList.length
  kept : s.released = []
  unused : s.created = 0 → s.totalConnection = 0

private theorem init_sound : Sound init [] none where
  holds := empty_holds
  once := fun _ => rfl
  quiet := by
    intro connection place
    simp [init] at place
  owned := fun _ before => absurd before (Nat.not_lt_zero _)
  refs := rfl
  kept := rfl
  unused := fun _ => rfl

private theorem place_created (s : Acceptor) (free : List Nat) (hand : Option Nat)
    (sound : Sound s free hand) (connection : Nat)
    (place : connection ∈ free ++ s.pending.toList ++ hand.toList ++ s.inUse) :
    connection < s.created := by
  have once := sound.once connection
  have some := List.count_pos_iff.mpr place
  rw [List.count_append,List.count_append,List.count_append] at some
  by_contra beyond
  rw [if_neg beyond] at once
  omega

private theorem close_quiet (connection : Nat) (s : Acceptor)
    (quiet : (s.connections connection).busy = false)
    (owned : (s.connections connection).acceptor = true) :
    close connection s = {s with freeConnection := s.freeConnection.push connection} := by
  rw [close,quiet,if_neg Bool.false_ne_true,owned,if_pos rfl]

/-- The refused connection is pushed by Close and then once more. -/
private theorem post_refused (answers : Answers) (connection : Nat) (s : Acceptor)
    (quiet : (s.connections connection).busy = false)
    (owned : (s.connections connection).acceptor = true) (refused : answers.acceptEx = false)
    (entries : List Nat) : ¬ (post answers connection s).freeConnection.Holds entries := by
  rw [post,refused,if_neg Bool.false_ne_true]
  change ¬ ((close connection s).freeConnection.push connection).Holds entries
  rw [close_quiet connection s quiet owned]
  exact push_twice connection s.freeConnection entries

private theorem accept_pop (answers : Answers) (s : Acceptor) (connection : Nat) (popped : SList Nat)
    (pop : s.freeConnection.pop = (some connection,popped)) :
    accept answers s = post answers connection
      {s with freeConnection := popped, totalConnection := s.totalConnection - 1} := by
  rw [accept,pop]

private theorem accept_create (answers : Answers) (s : Acceptor)
    (pop : s.freeConnection.pop = (none,s.freeConnection)) :
    accept answers s =
      if answers.create then post answers s.created (create s) else {s with running := false} := by
  rw [accept,pop]

private theorem accept_refused (answers : Answers) (s : Acceptor) (free : List Nat)
    (holds : s.freeConnection.Holds free)
    (quiet : ∀ connection ∈ free, (s.connections connection).busy = false)
    (owned : ∀ connection ∈ free, (s.connections connection).acceptor = true)
    (posted : s.freeConnection.head ≠ none ∨ answers.create = true)
    (refused : answers.acceptEx = false) (entries : List Nat) :
    ¬ (accept answers s).freeConnection.Holds entries := by
  cases free with
  | nil =>
    obtain head | created := posted
    · exact absurd holds.chain head
    · rw [accept_create answers s (pop_nil _ holds),if_pos created]
      exact post_refused answers s.created (create s) (congrArg Connection.busy (create_new s))
        (congrArg Connection.acceptor (create_new s)) refused entries
  | cons connection rest =>
    obtain ⟨popped,pop,_⟩ := pop_cons _ connection rest holds
    rw [accept_pop answers s connection popped pop]
    exact post_refused answers connection
      {s with freeConnection := popped, totalConnection := s.totalConnection - 1} (quiet connection List.mem_cons_self)
      (owned connection List.mem_cons_self) refused entries

private theorem accept_sound (answers : Answers) (s : Acceptor) (free : List Nat) (hand : Option Nat)
    (sound : Sound s free hand) (idle : s.pending = none)
    (accepted : s.freeConnection.head ≠ none ∨ answers.create = true → answers.acceptEx = true) :
    ∃ left, Sound (accept answers s) left hand := by
  have inside := place_created s free hand sound
  obtain ⟨holds,once,quiet,owned,refs,kept,unused⟩ := sound
  rw [idle] at once quiet refs inside
  cases free with
  | nil =>
    rw [accept_create answers s (pop_nil _ holds)]
    by_cases created : answers.create = true
    · refine ⟨[],?_⟩
      rw [if_pos created,post,if_pos (accepted (.inr created))]
      refine ⟨holds,?_,?_,?_,?_,kept,fun zero => absurd zero (Nat.succ_ne_zero _)⟩
      · intro connection
        have before := once connection
        change [].count connection + [s.created].count connection + hand.toList.count connection +
          s.inUse.count connection = if connection < s.created + 1 then 1 else 0
        simp only [List.count_nil,Option.toList_none,List.count_singleton,beq_iff_eq] at before ⊢
        split at before <;> split <;> split <;> omega
      · rintro connection (listed | new)
        · cases listed
        · obtain rfl : s.created = connection := Option.some.inj new
          exact congrArg Connection.busy (create_new s)
      · intro connection before
        by_cases new : connection = s.created
        · rw [new]
          exact congrArg Connection.acceptor (create_new s)
        · change ((create s).connections connection).acceptor = true
          rw [create_other s connection new]
          exact owned connection (Nat.lt_of_le_of_ne (Nat.le_of_lt_succ before) new)
      · change s.iorefs + 1 = _
        rw [refs]
        simp [Int.add_comm]
    · refine ⟨[],?_⟩
      rw [if_neg created]
      refine ⟨holds,?_,?_,owned,?_,kept,unused⟩ <;> rw [idle]
      · exact once
      · exact quiet
      · exact refs
  | cons connection rest =>
    obtain ⟨popped,pop,left⟩ := pop_cons _ connection rest holds
    have exists_ : s.freeConnection.head ≠ none := by
      rw [holds.chain.1]
      exact Option.some_ne_none connection
    rw [accept_pop answers s connection popped pop,post,if_pos (accepted (.inl exists_))]
    refine ⟨rest,left,?_,?_,owned,?_,kept,?_⟩
    · intro other
      have before := once other
      simp only [List.count_cons,Option.toList_none,Option.toList_some,List.count_nil] at before ⊢
      rw [← before]
      omega
    · rintro other (listed | waiting)
      · exact quiet other (.inl (List.mem_cons_of_mem _ listed))
      · obtain rfl : connection = other := Option.some.inj waiting
        exact quiet connection (.inl List.mem_cons_self)
    · change s.iorefs + 1 = _
      rw [refs]
      simp [Int.add_comm]
    · intro zero
      have before := inside connection (by simp)
      change s.created = 0 at zero
      omega

private theorem taken_sound (s : Acceptor) (free : List Nat) (connection : Nat)
    (sound : Sound s free none) (waiting : s.pending = some connection) :
    Sound {s with pending := none} free (some connection) := by
  obtain ⟨holds,once,quiet,owned,refs,kept,unused⟩ := sound
  rw [waiting] at once refs
  refine ⟨holds,?_,?_,owned,refs,kept,unused⟩
  · intro other
    have before := once other
    simp only [Option.toList_none,List.count_nil,Nat.add_zero] at before ⊢
    exact before
  · rintro other (listed | nothing)
    · exact quiet other (.inl listed)
    · cases nothing

private theorem told_sound (s : Acceptor) (free : List Nat) (connection : Nat)
    (sound : Sound s free (some connection)) :
    Sound {s.mark connection true with
      inUse := connection :: s.inUse
      iorefs := s.iorefs - 1} free none := by
  obtain ⟨holds,once,quiet,owned,refs,kept,unused⟩ := sound
  have apart (other : Nat) (place : other ∈ free ∨ s.pending = some other) : other ≠ connection := by
    rintro rfl
    have before := once other
    rw [Option.toList_some,List.count_singleton_self] at before
    obtain listed | waiting := place
    · have some := List.count_pos_iff.mpr listed
      split at before <;> omega
    · rw [waiting,Option.toList_some,List.count_singleton_self] at before
      split at before <;> omega
  refine ⟨holds,?_,?_,?_,?_,kept,unused⟩
  · intro other
    have before := once other
    change free.count other + s.pending.toList.count other + 0 + (connection :: s.inUse).count other = _
    change _ = if other < s.created then 1 else 0
    rw [← before,Option.toList_some,List.count_cons,List.count_cons,List.count_nil]
    omega
  · intro other place
    change (Function.update s.connections connection _ other).busy = false
    rw [Function.update_of_ne (apart other place)]
    exact quiet other place
  · intro other before
    change (Function.update s.connections connection _ other).acceptor = true
    by_cases same : other = connection
    · rw [same,Function.update_self]
      exact owned connection (same ▸ before)
    · rw [Function.update_of_ne same]
      exact owned other before
  · change s.iorefs - 1 = (s.pending.toList.length : Int) + 0
    rw [refs]
    simp

private theorem disconnected_sound (s : Acceptor) (free : List Nat) (connection : Nat)
    (sound : Sound s free none) : Sound (s.mark connection false) free none := by
  obtain ⟨holds,once,quiet,owned,refs,kept,unused⟩ := sound
  refine ⟨holds,once,?_,?_,refs,kept,unused⟩ <;> intro other place
  · change (Function.update s.connections connection _ other).busy = false
    by_cases same : other = connection
    · rw [same,Function.update_self]
    · rw [Function.update_of_ne same]
      exact quiet other place
  · change (Function.update s.connections connection _ other).acceptor = true
    by_cases same : other = connection
    · rw [same,Function.update_self]
      exact owned connection (same ▸ place)
    · rw [Function.update_of_ne same]
      exact owned other place

private theorem close_sound (s : Acceptor) (free : List Nat) (connection : Nat)
    (sound : Sound s free none) (used : connection ∈ s.inUse)
    (idle : (s.connections connection).busy = false) :
    Sound (close connection {s with inUse := s.inUse.erase connection}) (connection :: free) none := by
  have inside := place_created s free none sound connection (by simp [used])
  obtain ⟨holds,once,quiet,owned,refs,kept,unused⟩ := sound
  have some := List.count_pos_iff.mpr used
  have absent : connection ∉ free := by
    intro listed
    have twice := List.count_pos_iff.mpr listed
    have before := once connection
    split at before <;> omega
  rw [close_quiet connection {s with inUse := s.inUse.erase connection} idle (owned connection inside)]
  refine ⟨push_holds connection _ free absent holds,?_,?_,owned,refs,kept,unused⟩
  · intro other
    have before := once other
    change (connection :: free).count other + s.pending.toList.count other + 0 +
      (s.inUse.erase connection).count other = if other < s.created then 1 else 0
    rw [← before]
    by_cases same : other = connection
    · rw [same,List.count_cons_self,List.count_erase_self]
      change _ = _ + 0 + _
      omega
    · rw [List.count_cons_of_ne (Ne.symm same),List.count_erase_of_ne same]
      rfl
  · rintro other (listed | waiting)
    · rcases List.mem_cons.mp listed with rfl | rest
      · exact idle
      · exact quiet other (.inl rest)
    · exact quiet other (.inr waiting)

private theorem idle_pending (s : Acceptor) (free : List Nat) (sound : Sound s free none)
    (idle : s.iorefs = 0) : s.pending = none := by
  have refs := sound.refs
  rw [idle] at refs
  cases waiting : s.pending with
  | none => rfl
  | some connection =>
    rw [waiting] at refs
    cases refs

private theorem step_sound (s : Acceptor) (free : List Nat) (action : Action)
    (sound : Sound s free none) (succeeds : Succeeds s action) :
    ∃ left, Sound (step s action) left none := by
  cases action with
  | start answers =>
    rw [step]
    split
    case isTrue => exact ⟨free,sound⟩
    case isFalse starts =>
      obtain ⟨running,refs⟩ := not_or.mp starts
      have posts : Posts s (.start answers) = some answers := if_neg starts
      exact accept_sound answers {s with running := true} free none
        ⟨sound.holds,sound.once,sound.quiet,sound.owned,sound.refs,sound.kept,sound.unused⟩
        (idle_pending s free sound (not_not.mp refs)) (succeeds.posted answers posts)
  | stop =>
    exact ⟨free,sound.holds,sound.once,sound.quiet,sound.owned,sound.refs,sound.kept,sound.unused⟩
  | accepted answers setsockopt =>
    rw [step]
    cases waiting : s.pending with
    | none => exact ⟨free,sound⟩
    | some connection =>
      have posts : Posts s (.accepted answers setsockopt) = some answers := by rw [Posts,waiting]; rfl
      obtain rfl : setsockopt = true := succeeds.taken answers setsockopt rfl (by simp [waiting])
      obtain ⟨left,next⟩ := accept_sound answers {s with pending := none} free (some connection)
        (taken_sound s free connection sound waiting) rfl (succeeds.posted answers posts)
      exact ⟨left,told_sound _ left connection next⟩
  | acceptFailed =>
    have nothing := succeeds.completed rfl
    have same : step s .acceptFailed = s := by
      rw [step,← nothing]
    rw [same]
    exact ⟨free,sound⟩
  | disconnected connection =>
    rw [step]
    split
    · exact ⟨free,disconnected_sound s free connection sound⟩
    · exact ⟨free,sound⟩
  | close connection =>
    rw [step]
    split
    case isTrue closes => exact ⟨connection :: free,close_sound s free connection sound closes.1 closes.2⟩
    case isFalse => exact ⟨free,sound⟩

private theorem sound_placed (s : Acceptor) (free : List Nat) (sound : Sound s free none) : Placed s :=
  ⟨free,sound.holds,fun connection => sound.once connection⟩

private theorem placed_succeeds (s : Acceptor) (free : List Nat) (action : Action)
    (sound : Sound s free none) (placed : Placed (step s action)) : Succeeds s action := by
  obtain ⟨entries,holds,once⟩ := placed
  have inside := place_created s free none sound
  have posted : ∀ answers, Posts s action = some answers →
      (s.freeConnection.head ≠ none ∨ answers.create = true) → answers.acceptEx = true := by
    intro answers posts had
    by_contra refused
    have refused : answers.acceptEx = false := by simpa using refused
    have owned (connection : Nat) (listed : connection ∈ free) :
        (s.connections connection).acceptor = true :=
      sound.owned connection (inside connection (by simp [listed]))
    have quiet (connection : Nat) (listed : connection ∈ free) :
        (s.connections connection).busy = false := sound.quiet connection (.inl listed)
    cases action with
    | start given =>
      rw [Posts] at posts
      split at posts
      · cases posts
      case isFalse starts =>
        cases posts
        rw [step,if_neg starts] at holds
        exact accept_refused answers {s with running := true} free sound.holds quiet owned had refused
          entries holds
    | accepted given setsockopt =>
      rw [Posts] at posts
      split at posts
      case isTrue some =>
        cases posts
        obtain ⟨connection,waiting⟩ := Option.isSome_iff_exists.mp some
        rw [step,waiting] at holds
        apply accept_refused answers {s with pending := none} free sound.holds quiet owned had refused
          entries
        cases setsockopt <;> exact holds
      · cases posts
    | stop => cases posts
    | acceptFailed => cases posts
    | disconnected connection => cases posts
    | close connection => cases posts
  refine ⟨posted,?_,?_⟩
  · rintro answers setsockopt rfl waits
    obtain ⟨connection,waiting⟩ := Option.ne_none_iff_exists'.mp waits
    by_contra failed
    have failed : setsockopt = false := by simpa using failed
    have posts : Posts s (.accepted answers setsockopt) = some answers := by rw [Posts,waiting]; rfl
    obtain ⟨left,next⟩ := accept_sound answers {s with pending := none} free (some connection)
      (taken_sound s free connection sound waiting) rfl (posted answers posts)
    have before := next.once connection
    rw [step,waiting,failed] at holds once
    obtain rfl : entries = left := holds_unique _ entries left holds next.holds
    have lost : entries.count connection +
        (accept answers {s with pending := none}).pending.toList.count connection +
        (accept answers {s with pending := none}).inUse.count connection =
      if connection < (accept answers {s with pending := none}).created then 1 else 0 := once connection
    rw [Option.toList_some,List.count_singleton_self] at before
    have known : connection < (accept answers {s with pending := none}).created :=
      place_created _ entries (some connection) next connection (by simp)
    rw [if_pos known] at before lost
    omega
  · rintro rfl
    cases waiting : s.pending with
    | none => rfl
    | some connection =>
      obtain rfl : entries = free := holds_unique _ entries free holds sound.holds
      have before := sound.once connection
      have lost : entries.count connection + 0 + s.inUse.count connection =
        if connection < s.created then 1 else 0 := once connection
      rw [waiting,Option.toList_some,List.count_singleton_self] at before
      rw [if_pos (inside connection (by simp [waiting]))] at before lost
      omega

theorem placed_iff (actions : List Action) :
    Guarded step (fun s action => Placed (step s action)) init actions ↔
      Guarded step Succeeds init actions := by
  apply guarded_congr step Succeeds _ (fun s => ∃ free, Sound s free none)
  · intro s action ⟨free,sound⟩ succeeds
    exact step_sound s free action sound succeeds
  · intro s action ⟨free,sound⟩
    constructor
    · exact placed_succeeds s free action sound
    · intro succeeds
      obtain ⟨left,next⟩ := step_sound s free action sound succeeds
      exact sound_placed _ left next
  · exact ⟨[],init_sound⟩

private theorem turn_sound (s : Acceptor) (connection : Nat) (rest : List Nat) (popped : SList Nat)
    (sound : Sound s (connection :: rest) none) (left : popped.Holds rest) :
    Sound (close connection {s with freeConnection := popped}) (connection :: rest) none := by
  have inside := place_created s _ none sound connection (by simp)
  obtain ⟨holds,once,quiet,owned,refs,kept,unused⟩ := sound
  have absent : connection ∉ rest := by
    intro listed
    have twice := List.count_pos_iff.mpr listed
    have before := once connection
    rw [List.count_cons_self,if_pos inside] at before
    omega
  rw [close_quiet connection {s with freeConnection := popped} (quiet connection (.inl List.mem_cons_self))
    (owned connection inside)]
  exact ⟨push_holds connection popped rest absent left,once,quiet,owned,refs,kept,unused⟩

private theorem drain_released (fuel : Nat) (s after : Acceptor) (free : List Nat)
    (sound : Sound s free none) (ended : drain fuel s = some after) : after.released = [] := by
  induction fuel generalizing s with
  | zero => cases ended
  | succ fuel ih =>
    rw [drain] at ended
    split at ended
    · rw [← Option.some.inj ended]
      exact sound.kept
    · cases free with
      | nil =>
        rw [pop_nil _ sound.holds] at ended
        cases ended
      | cons connection rest =>
        obtain ⟨popped,pop,left⟩ := pop_cons _ connection rest sound.holds
        rw [pop] at ended
        exact ih _ (turn_sound s connection rest popped sound left) ended

/-- Destroy releases nothing, whether it ends or not. -/
theorem destroy_released (fuel : Nat) (s after : Acceptor) (free : List Nat)
    (sound : Sound s free none) (ended : destroy fuel s = some after) : after.released = [] := by
  rw [destroy] at ended
  split at ended
  · cases ended
  · split at ended
    · cases ended
    · exact drain_released fuel {s with running := false} after free
        ⟨sound.holds,sound.once,sound.quiet,sound.owned,sound.refs,sound.kept,sound.unused⟩ ended

private theorem unused_places (s : Acceptor) (free : List Nat) (sound : Sound s free none)
    (unused : s.created = 0) : free = [] ∧ s.pending = none ∧ s.inUse = [] := by
  have inside := place_created s free none sound
  rw [unused] at inside
  have empty := List.eq_nil_iff_forall_not_mem.mpr fun connection member =>
    Nat.not_lt_zero _ (inside connection member)
  simp only [List.append_eq_nil_iff,Option.toList_eq_nil_iff] at empty
  exact ⟨empty.1.1.1,empty.1.1.2,empty.2⟩

theorem drains_iff (s : Acceptor) (free : List Nat) (sound : Sound s free none) :
    Drains s ↔ (s.pending = none → s.inUse = [] → s.created = 0) := by
  constructor
  · intro drains idle closed
    obtain ⟨fuel,after,ended,released⟩ := drains idle closed
    rw [destroy_released fuel s after free sound ended] at released
    have size := released.length_eq
    rw [List.length_nil,List.length_range] at size
    exact size.symm
  · intro nothing idle closed
    have unused := nothing idle closed
    obtain ⟨rfl,_,_⟩ := unused_places s free sound unused
    have depth : s.freeConnection.depth = 0 := sound.holds.counted
    have refs : s.iorefs = 0 := by rw [sound.refs,idle]; rfl
    have total : s.freeConnection.depth = s.totalConnection.toNat := by
      rw [depth,sound.unused unused]
      rfl
    refine ⟨1,{s with running := false},?_,?_⟩
    · rw [destroy,if_neg (not_not.mpr refs),if_neg (not_not.mpr total),drain]
      exact if_pos depth
    · change s.released.Perm _
      rw [sound.kept,unused]
      exact List.Perm.refl []

private theorem unused_accounted (s : Acceptor) (free : List Nat) (sound : Sound s free none)
    (unused : s.created = 0) : Accounted s where
  placed := sound_placed s free sound
  total := by rw [Total,sound.unused unused,sound.kept,unused]; rfl
  drains := (drains_iff s free sound).mpr fun _ _ => unused

private theorem unused_step (s : Acceptor) (action : Action) (sound : Sound s [] none)
    (unused : s.created = 0) (creates : ¬ Creates s action) :
    Succeeds s action ∧ (step s action).created = 0 := by
  obtain ⟨_,pending,inUse⟩ := unused_places s [] sound unused
  have head : s.freeConnection.head = none := sound.holds.chain
  refine ⟨⟨?_,fun _ _ _ some => absurd pending some,fun _ => pending⟩,?_⟩
  · rintro answers posts (some | create)
    · exact absurd head some
    · exact absurd ⟨answers,posts,head,create⟩ creates
  · cases action with
    | start answers =>
      rw [step]
      split
      · exact unused
      case isFalse starts =>
        have refused : answers.create ≠ true := fun create =>
          creates ⟨answers,if_neg starts,head,create⟩
        rw [accept_create answers {s with running := true} (pop_nil _ sound.holds),if_neg refused]
        exact unused
    | stop => exact unused
    | accepted answers setsockopt =>
      rw [step,pending]
      exact unused
    | acceptFailed => exact unused
    | disconnected connection =>
      rw [step,inUse]
      exact unused
    | close connection =>
      rw [step,inUse]
      exact unused

/-- The first connection created is not counted. -/
private theorem creates_unaccounted (s : Acceptor) (action : Action) (sound : Sound s [] none)
    (unused : s.created = 0) (creates : Creates s action) : ¬ Accounted (step s action) := by
  obtain ⟨answers,posts,head,created⟩ := creates
  obtain ⟨_,pending,_⟩ := unused_places s [] sound unused
  intro ⟨placed,total,_⟩
  have accepted := (placed_succeeds s [] action sound placed).posted answers posts (.inr created)
  cases action with
  | start given =>
    rw [Posts] at posts
    split at posts
    · cases posts
    case isFalse starts =>
      cases posts
      rw [step,if_neg starts,accept_create answers {s with running := true} (pop_nil _ sound.holds),
        if_pos created,post,if_pos accepted] at total
      change s.totalConnection.toNat + s.released.length = s.created + 1 at total
      rw [sound.unused unused,sound.kept,unused] at total
      cases total
  | accepted given setsockopt =>
    rw [Posts,pending] at posts
    cases posts
  | stop => cases posts
  | acceptFailed => cases posts
  | disconnected connection => cases posts
  | close connection => cases posts

/-- The connections are accounted for until the first one is created; each is in one place until an
accept is refused or fails. -/
theorem accounted_iff (actions : List Action) :
    (Guarded step (fun s action => Accounted (step s action)) init actions ↔
      Guarded step (fun s action => ¬ Creates s action) init actions) ∧
    (Guarded step (fun s action => Placed (step s action)) init actions ↔
      Guarded step Succeeds init actions) := by
  refine ⟨?_,placed_iff actions⟩
  apply guarded_congr step _ _ (fun s => Sound s [] none ∧ s.created = 0)
  · intro s action ⟨sound,unused⟩ creates
    obtain ⟨succeeds,still⟩ := unused_step s action sound unused creates
    obtain ⟨left,next⟩ := step_sound s [] action sound succeeds
    obtain ⟨rfl,_,_⟩ := unused_places _ left next still
    exact ⟨next,still⟩
  · intro s action ⟨sound,unused⟩
    constructor
    · intro accounted creates
      exact creates_unaccounted s action sound unused creates accounted
    · intro creates
      obtain ⟨succeeds,still⟩ := unused_step s action sound unused creates
      obtain ⟨left,next⟩ := step_sound s [] action sound succeeds
      exact unused_accounted _ left next still
  · exact ⟨init_sound,rfl⟩

def allowed : Answers := ⟨true,true⟩

/-- A client comes and goes, and its connection is accepted again. -/
def reused : List Action :=
  [.start allowed,.accepted allowed true,.disconnected 0,.close 0,.accepted allowed true]

/-- A client comes when no second connection can be created, and goes. -/
def closed : List Action :=
  [.start allowed,.accepted ⟨false,true⟩ true,.disconnected 0,.close 0]

theorem started_unaccounted :
    ¬ Accounted (run step init [.start allowed]) ∧
      (run step init reused).totalConnection = 4294967295 ∧ (run step init reused).created = 2 ∧
      (run step init closed).pending = none ∧ (run step init closed).inUse = [] ∧
      (∀ fuel, destroy fuel (run step init closed) = none) ∧
      ¬ Placed (run step init [.start ⟨true,false⟩]) := by
  refine ⟨?_,rfl,rfl,rfl,rfl,fun _ => rfl,?_⟩
  · intro accounted
    have total := accounted.total
    change 0 + 0 = 1 at total
    cases total
  · rintro ⟨entries,holds,_⟩
    exact push_twice 0 SList.empty entries holds

end Fantuan.StarNet.Acceptors
