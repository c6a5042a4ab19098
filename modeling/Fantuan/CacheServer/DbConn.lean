import Fantuan.CacheServer.EventResults

/-! A DB connection: its worker thread from one round of the loop to the next, and the handles that MySQL gives
it. mysql_init gives a new handle each time.
-/
namespace Fantuan.CacheServer.DbConn
open Lib.Run CacheDBEvent EventResults

structure Handle where
  connected : Bool
  selected : Bool
  closes : Nat

/-- What MySQL answers to an attempt: mysql_init has memory, the server is reached, and it has the database. -/
structure Attempt where
  memory : Bool
  reached : Bool
  found : Bool
  deriving DecidableEq

/-- last is the last attempt, and failed says that something has failed since the last one that succeeded. -/
structure Conn where
  mySQL : Option Nat
  handles : Nat → Handle
  next : Nat
  last : Option Attempt
  failed : Bool
  deleted : Bool

def initial : Conn where
  mySQL := none
  handles _ := ⟨false,false,0⟩
  next := 0
  last := none
  failed := false
  deleted := false

namespace Conn

def change (s : Conn) (handle : Nat) (update : Handle → Handle) : Conn :=
  {s with handles := Function.update s.handles handle (update (s.handles handle))}

def mysqlInit (s : Conn) : Conn where
  mySQL := some s.next
  handles := Function.update s.handles s.next ⟨false,false,0⟩
  next := s.next + 1
  last := s.last
  failed := s.failed
  deleted := s.deleted

def mysqlRealConnect (handle : Nat) (s : Conn) : Conn := s.change handle fun data => {data with connected := true}

def mysqlSelectDb (handle : Nat) (s : Conn) : Conn := s.change handle fun data => {data with selected := true}

def mysqlClose (handle : Nat) (s : Conn) : Conn := s.change handle fun data => {data with closes := data.closes + 1}

end Conn

def initConnector (attempt : Attempt) (s : Conn) : Bool × Conn :=
  if attempt.memory then
    if attempt.reached then
      if attempt.found then (true,((s.mysqlInit.mysqlRealConnect s.next).mysqlSelectDb s.next))
      else (false,(s.mysqlInit.mysqlRealConnect s.next).mysqlClose s.next)
    else (false,s.mysqlInit)
  else (false,{s with mySQL := none})

def deleteConnector (s : Conn) : Conn :=
  match s.mySQL with
  | some handle => {s.mysqlClose handle with mySQL := none}
  | none => s

/-- Up to the event: whether the round goes on to it. -/
def connect (attempt : Attempt) (s : Conn) : Bool × Conn :=
  match s.mySQL with
  | some _ => (true,s)
  | none =>
    let tried := initConnector attempt s
    (tried.1,{tried.2 with last := some attempt, failed := !tried.1})

/-- PopFromDBEventProcessingList gives an event or none; its query has the answer that comes with it. -/
def fire (popped : Option (EventData × Answer)) (s : Conn) : Conn :=
  match popped with
  | some (data,answer) => if fails answer data = true then {deleteConnector s with failed := true} else s
  | none => s

def round (attempt : Attempt) (popped : Option (EventData × Answer)) (s : Conn) : Conn :=
  let connected := connect attempt s
  if connected.1 = true then fire popped connected.2 else connected.2

def destroy (s : Conn) : Conn :=
  match s.mySQL with
  | some handle => {s.mysqlClose handle with deleted := true}
  | none => {s with deleted := true}

inductive Action
  | round (attempt : Attempt) (popped : Option (EventData × Answer))
  | destroy

/-- After Destroy the pool deletes the connection. -/
def step (s : Conn) (action : Action) : Conn :=
  if s.deleted = true then s
  else
    match action with
    | .round attempt popped => round attempt popped s
    | .destroy => destroy s

/-- The connector has been connected, has its database, and has not been closed. -/
def Ready (s : Conn) : Prop := ∃ handle, s.mySQL = some handle ∧ s.handles handle = ⟨true,true,0⟩

/-- An event is taken with a connector that is ready, and after a failure only once another attempt has succeeded. -/
def Taken (s : Conn) : Action → Prop
  | .round attempt (some _) =>
    (connect attempt s).1 = true → Ready (connect attempt s).2 ∧ (connect attempt s).2.failed = false
  | _ => True

def Safe (s : Conn) (action : Action) : Prop :=
  s.deleted = false → Taken s action ∧ ∀ handle, ((step s action).handles handle).closes ≤ 1

/-- With a connector, an event is taken only if the last attempt has succeeded; and the connection is not destroyed
with the handle of one that has not found its database. -/
def Steady (s : Conn) (action : Action) : Prop :=
  s.deleted = false → s.mySQL ≠ none → ∀ attempt, s.last = some attempt →
    match action with
    | .round _ (some _) => attempt.reached = true ∧ attempt.found = true
    | .round _ none => True
    | .destroy => attempt.reached = true → attempt.found = true

def Attempt.handle (attempt : Attempt) : Handle where
  connected := attempt.reached
  selected := attempt.reached && attempt.found
  closes := if attempt.reached && !attempt.found then 1 else 0

structure Sound (s : Conn) : Prop where
  once : ∀ handle, (s.handles handle).closes ≤ 1
  held : s.deleted = false → ∀ handle, s.mySQL = some handle → ∃ attempt, s.last = some attempt ∧
    s.handles handle = attempt.handle ∧ s.failed = !(attempt.reached && attempt.found)

def Attempt.succeeds (attempt : Attempt) : Bool := attempt.memory && attempt.reached && attempt.found

theorem connect_none (attempt : Attempt) (s : Conn) (free : s.mySQL = none) :
    connect attempt s = (attempt.succeeds,
      {s with
        mySQL := if attempt.memory = true then some s.next else none
        handles := if attempt.memory = true then Function.update s.handles s.next attempt.handle else s.handles
        next := if attempt.memory = true then s.next + 1 else s.next
        last := some attempt
        failed := !attempt.succeeds}) := by
  obtain ⟨memory,reached,found⟩ := attempt
  cases memory <;> cases reached <;> cases found <;>
    simp [connect,free,initConnector,Conn.mysqlInit,Conn.mysqlRealConnect,Conn.mysqlSelectDb,Conn.mysqlClose,
      Conn.change,Attempt.handle,Attempt.succeeds,Function.update_idem]

theorem connect_some (attempt : Attempt) (s : Conn) (handle : Nat) (held : s.mySQL = some handle) :
    connect attempt s = (true,s) := by
  rw [connect,held]

theorem attempt_once (attempt : Attempt) : attempt.handle.closes ≤ 1 := by
  rw [Attempt.handle]
  dsimp only
  split <;> omega

theorem connect_sound (attempt : Attempt) (s : Conn) (sound : Sound s) : Sound (connect attempt s).2 := by
  cases held : s.mySQL with
  | some handle =>
    rw [connect_some attempt s handle held]
    exact sound
  | none =>
    rw [connect_none attempt s held]
    refine ⟨fun handle => ?_,fun _ handle mine => ?_⟩
    · dsimp only
      split
      · by_cases same : handle = s.next
        · rw [same,Function.update_self]
          exact attempt_once attempt
        · rw [Function.update_of_ne same]
          exact sound.once handle
      · exact sound.once handle
    · dsimp only at mine
      by_cases memory : attempt.memory = true
      · rw [if_pos memory] at mine
        obtain rfl := Option.some.inj mine
        refine ⟨attempt,rfl,?_,?_⟩
        · dsimp only
          rw [if_pos memory,Function.update_self]
        · rw [Attempt.succeeds,memory,Bool.true_and]
      · rw [if_neg memory] at mine
        cases mine

/-- A connector with which a round goes on is ready just if the last attempt has succeeded. -/
theorem ready_iff (attempt : Attempt) (s : Conn) (sound : Sound s) (alive : s.deleted = false) :
    ((connect attempt s).1 = true → Ready (connect attempt s).2 ∧ (connect attempt s).2.failed = false) ↔
      (s.mySQL ≠ none → ∀ last, s.last = some last → last.reached = true ∧ last.found = true) := by
  cases held : s.mySQL with
  | some handle =>
    obtain ⟨last,same,data,failed⟩ := sound.held alive handle held
    rw [connect_some attempt s handle held]
    dsimp only
    constructor
    · intro ready _ other other'
      obtain ⟨-,fine⟩ := ready rfl
      obtain rfl := Option.some.inj (same.symm.trans other')
      rw [failed] at fine
      simpa using fine
    · intro succeeded _
      obtain ⟨reached,found⟩ := succeeded (by simp) last same
      refine ⟨⟨handle,held,?_⟩,?_⟩
      · rw [data,Attempt.handle,reached,found]
        rfl
      · rw [failed,reached,found]
        rfl
  | none =>
    rw [connect_none attempt s held]
    refine iff_of_true (fun succeeds => ?_) (fun some => absurd rfl some)
    dsimp only at succeeds ⊢
    have parts := succeeds
    rw [Attempt.succeeds,Bool.and_eq_true,Bool.and_eq_true] at parts
    obtain ⟨⟨memory,reached⟩,found⟩ := parts
    refine ⟨⟨s.next,if_pos memory,?_⟩,?_⟩
    · dsimp only
      rw [if_pos memory,Function.update_self,Attempt.handle,reached,found]
      rfl
    · rw [succeeds]
      rfl

theorem close_once (s : Conn) (handle : Nat) (sound : Sound s) :
    (∀ other, ((s.mysqlClose handle).handles other).closes ≤ 1) ↔ (s.handles handle).closes = 0 := by
  constructor
  · intro once
    have here := once handle
    rw [Conn.mysqlClose,Conn.change] at here
    dsimp only at here
    rw [Function.update_self] at here
    exact Nat.le_zero.mp (Nat.le_of_succ_le_succ here)
  · intro open' other
    rw [Conn.mysqlClose,Conn.change]
    dsimp only
    by_cases same : other = handle
    · rw [same,Function.update_self]
      exact Nat.succ_le_succ (Nat.le_zero.mpr open')
    · rw [Function.update_of_ne same]
      exact sound.once other

theorem fire_sound (popped : Option (EventData × Answer)) (s : Conn) (sound : Sound s)
    (ready : popped ≠ none → Ready s) : Sound (fire popped s) := by
  cases popped with
  | none => exact sound
  | some event =>
    rw [fire]
    dsimp only
    split
    · obtain ⟨handle,held,data⟩ := ready (by simp)
      rw [deleteConnector,held]
      dsimp only
      have once := (close_once s handle sound).mpr (congrArg Handle.closes data)
      exact ⟨once,fun _ other mine => by cases mine⟩
    · exact sound

theorem round_sound (attempt : Attempt) (popped : Option (EventData × Answer)) (s : Conn) (sound : Sound s)
    (ready : popped ≠ none → (connect attempt s).1 = true → Ready (connect attempt s).2) :
    Sound (round attempt popped s) := by
  have connected := connect_sound attempt s sound
  rw [round]
  split
  next succeeded => exact fire_sound popped _ connected fun some => ready some succeeded
  · exact connected

theorem destroy_once (s : Conn) (handle : Nat) (sound : Sound s) (alive : s.deleted = false)
    (held : s.mySQL = some handle) (attempt : Attempt) (last : s.last = some attempt) :
    (∀ other, ((destroy s).handles other).closes ≤ 1) ↔ (attempt.reached = true → attempt.found = true) := by
  obtain ⟨other,same,data,-⟩ := sound.held alive handle held
  obtain rfl := Option.some.inj (last.symm.trans same)
  rw [destroy,held]
  refine (close_once s handle sound).trans ?_
  rw [data,Attempt.handle]
  cases attempt.reached <;> cases attempt.found <;> decide

theorem step_alive (s : Conn) (action : Action) (alive : s.deleted = false) :
    step s action = match action with
      | .round attempt popped => round attempt popped s
      | .destroy => destroy s := by
  unfold step
  rw [if_neg (by rw [alive]; exact Bool.false_ne_true)]

theorem step_deleted (s : Conn) (action : Action) (deleted : ¬ s.deleted = false) : step s action = s := by
  unfold step
  rw [if_pos (Bool.eq_true_of_not_eq_false deleted)]

theorem destroy_deleted (s : Conn) : (destroy s).deleted = true := by
  rw [destroy]
  split <;> rfl

theorem step_safe_iff (s : Conn) (action : Action) (sound : Sound s) : Safe s action ↔ Steady s action := by
  by_cases alive : s.deleted = false
  · rw [Safe,Steady,imp_iff_right alive,imp_iff_right alive,step_alive s action alive]
    cases action with
    | round attempt popped =>
      cases popped with
      | none =>
        refine iff_of_true ⟨trivial,?_⟩ fun _ _ _ => trivial
        exact (round_sound attempt none s sound fun some => absurd rfl some).once
      | some event =>
        rw [← ready_iff attempt s sound alive]
        refine and_iff_left_of_imp fun taken => ?_
        exact (round_sound attempt (some event) s sound fun _ goes => (taken goes).1).once
    | destroy =>
      refine (and_iff_right trivial).trans ?_
      cases held : s.mySQL with
      | none =>
        refine iff_of_true ?_ fun some => absurd rfl some
        rw [destroy,held]
        exact sound.once
      | some handle =>
        obtain ⟨attempt,last,-⟩ := sound.held alive handle held
        rw [destroy_once s handle sound alive held attempt last]
        constructor
        · intro found _ other other'
          obtain rfl := Option.some.inj (last.symm.trans other')
          exact found
        · intro found
          exact found (by simp) attempt last
  · exact iff_of_true (fun alive' => absurd alive' alive) fun alive' => absurd alive' alive

theorem step_sound (s : Conn) (action : Action) (sound : Sound s) (steady : Steady s action) :
    Sound (step s action) := by
  have safe := (step_safe_iff s action sound).mpr steady
  by_cases alive : s.deleted = false
  · obtain ⟨taken,once⟩ := safe alive
    rw [step_alive s action alive] at once ⊢
    cases action with
    | round attempt popped =>
      refine round_sound attempt popped s sound fun some goes => ?_
      cases popped with
      | none => exact absurd rfl some
      | some event => exact (taken goes).1
    | destroy =>
      refine ⟨once,fun alive' => ?_⟩
      dsimp only at alive'
      rw [destroy_deleted] at alive'
      cases alive'
  · rw [step_deleted s action alive]
    exact sound

theorem initial_sound : Sound initial :=
  ⟨fun _ => Nat.zero_le 1,fun _ _ none => by cases none⟩

/-- A connection is used as it should be exactly in the runs in which no event is taken with the handle of an
attempt that has failed, and it is not destroyed with one that has been closed. -/
theorem conn_safe_iff (actions : List Action) :
    Guarded step Safe initial actions ↔ Guarded step Steady initial actions :=
  guarded_congr step Steady Safe Sound step_sound step_safe_iff initial actions initial_sound

/-- The database is not there: the next event is fired with the handle that has been closed, which is then closed
once more. -/
theorem conn_safe_unselected :
    let lost : Action := .round ⟨true,true,false⟩ none
    let event : Action := .round ⟨true,true,true⟩ (some (.avatarCreate [] ⟨0,[]⟩,none))
    ¬ Guarded step Safe initial [lost,event] ∧ ((run step initial [lost,event]).handles 0).closes = 2 := by
  refine ⟨?_,rfl⟩
  rintro ⟨-,second,-⟩
  have once := (second rfl).2 0
  exact absurd once (by decide)

end Fantuan.CacheServer.DbConn
