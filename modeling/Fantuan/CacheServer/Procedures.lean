import Fantuan.Lib.Reservations

/-! The tables of the database and the procedures, whose statements are steps. A thread serves one
connection and has the variables of the procedure that is called; names are equal where their keys are.
-/
namespace Fantuan.CacheServer.Procedures
open Lib.Reservations

structure Account (Name : Type) where
  accountId : Nat
  accountName : Name
  deriving DecidableEq

structure Avatar (Name : Type) where
  avatarId : Nat
  accountId : Nat
  avatarName : Name
  lastChannel : UInt8
  deriving DecidableEq

/-- With the AUTO_INCREMENT of each table. -/
structure Database (Name : Type) where
  account : List (Account Name)
  avatar : List (Avatar Name)
  nextAccountId : Nat
  nextAvatarId : Nat
  deriving DecidableEq

/-- A call fails, or it returns no result set, avatars or an id. -/
inductive Result (Name : Type) where
  | error
  | nothing
  | avatars (rows : List (Avatar Name))
  | lastInsertId (avatarId : Nat)
  deriving DecidableEq

inductive Call (Name : Type) where
  | getAvatarList (accountName : Name)
  | createAvatar (accountName avatarName : Name)
  deriving DecidableEq

/-- Where a thread is: before the first statement of a call, before the if of SP_GetAvatarList, before the
second select of SP_CreateAvatar, or before its if. An accountId of none is NULL. -/
inductive Thread (Name : Type) where
  | idle
  | called (call : Call Name)
  | listing (accountName : Name) (accountId : Option Nat)
  | creating (accountId : Option Nat) (avatarName : Name)
  | checked (accountId : Option Nat) (avatarName : Name) (check : Nat)
  | returned (result : Result Name)
  deriving DecidableEq

section
variable {Name Key : Type} [DecidableEq Key] (key : Name → Key)

def Database.empty : Database Name := ⟨[],[],1,2⟩

/-- A scalar subquery of several rows is an error, and one of none is NULL. -/
def scalar : List Nat → Option (Option Nat)
  | [] => some none
  | [accountId] => some (some accountId)
  | _ => none

def accountsOf (name : Name) (db : Database Name) : List (Account Name) :=
  db.account.filter fun account => key account.accountName = key name

def avatarsOf (name : Name) (db : Database Name) : List (Avatar Name) :=
  db.avatar.filter fun avatar => key avatar.avatarName = key name

def selectAccountId (name : Name) (db : Database Name) : Option (Option Nat) :=
  scalar ((accountsOf key name db).map Account.accountId)

def insertAccount (name : Name) (db : Database Name) : Database Name :=
  {db with account := db.account ++ [⟨db.nextAccountId,name⟩], nextAccountId := db.nextAccountId + 1}

def insertAvatar (accountId : Nat) (name : Name) (db : Database Name) : Database Name :=
  {db with avatar := db.avatar ++ [⟨db.nextAvatarId,accountId,name,0⟩], nextAvatarId := db.nextAvatarId + 1}

/-- accountId_ != 0 -/
def nonzero : Option Nat → Option Nat
  | some accountId => if accountId ≠ 0 then some accountId else none
  | none => none

-- select into leaves CheckInt at 0 where no row is found, and is an error where several are; a NULL cannot
-- be inserted into accountId
def statement (db : Database Name) : Thread Name → Database Name × Thread Name
  | .called (.getAvatarList accountName) =>
    match selectAccountId key accountName db with
    | some accountId => (db,.listing accountName accountId)
    | none => (db,.returned .error)
  | .called (.createAvatar accountName avatarName) =>
    match selectAccountId key accountName db with
    | some accountId => (db,.creating accountId avatarName)
    | none => (db,.returned .error)
  | .listing accountName accountId =>
    match nonzero accountId with
    | some accountId =>
      (db,.returned (.avatars (db.avatar.filter fun avatar => avatar.accountId = accountId)))
    | none => (insertAccount accountName db,.returned .nothing)
  | .creating accountId avatarName =>
    match avatarsOf key avatarName db with
    | [] => (db,.checked accountId avatarName 0)
    | [_] => (db,.checked accountId avatarName 1)
    | _ => (db,.returned .error)
  | .checked accountId avatarName check =>
    if check = 0 then
      match accountId with
      | some accountId => (insertAvatar accountId avatarName db,.returned (.lastInsertId db.nextAvatarId))
      | none => (db,.returned .error)
    else (db,.returned .nothing)
  | .idle => (db,.idle)
  | .returned result => (db,.returned result)

structure Server (Name : Type) where
  db : Database Name
  threads : List (Thread Name)

def Thread.free : Thread Name → Bool
  | .idle | .returned _ => true
  | _ => false

def execute (thread : Nat) (s : Server Name) : Server Name :=
  match s.threads[thread]? with
  | some state =>
    let next := statement key s.db state
    ⟨next.1,s.threads.set thread next.2⟩
  | none => s

def init (threads : Nat) : Server Name := ⟨.empty,List.replicate threads .idle⟩

/-- Names of accounts and of avatars are distinct, and every avatar has an account. -/
structure Database.Consistent (db : Database Name) : Prop where
  accounts : (db.account.map fun account => key account.accountName).Nodup
  avatars : (db.avatar.map fun avatar => key avatar.avatarName).Nodup
  owned : ∀ avatar ∈ db.avatar, avatar.accountId ∈ db.account.map Account.accountId

/-- The name that a thread is about to insert into account. -/
def pendingAccount : Thread Name → Option Key
  | .listing accountName accountId => if nonzero accountId = none then some (key accountName) else none
  | _ => none

/-- The name that a thread is about to insert into avatar. -/
def pendingAvatar : Thread Name → Option Key
  | .checked (some _) avatarName 0 => some (key avatarName)
  | _ => none

/-- m_iEventId of the events that call the procedure. -/
def Call.eventId : Call Name → UInt32
  | .getAvatarList _ => 1
  | .createAvatar _ _ => 2

/-- The same of the procedure that a thread is in. -/
def Thread.eventId : Thread Name → Option UInt32
  | .called call => some call.eventId
  | .listing _ _ => some 1
  | .creating _ _ | .checked _ _ _ => some 2
  | .idle | .returned _ => none

def Single (s : Server Name) : Prop := ∀ (first second : Nat) (eventId : UInt32),
  s.threads[first]?.bind Thread.eventId = some eventId → s.threads[second]?.bind Thread.eventId = some eventId →
    first = second

/-- The account that a thread is to insert an avatar for. -/
def accountIdOf : Thread Name → Option Nat
  | .creating accountId _ | .checked accountId _ _ => accountId
  | _ => none

/-- What is about to be inserted is new, and an avatar's account is known. -/
structure Tidy (s : Server Name) : Prop where
  consistent : s.db.Consistent key
  account : ∀ (thread : Nat) found, s.threads[thread]?.bind (pendingAccount key) = some found →
    found ∉ s.db.account.map fun account => key account.accountName
  avatar : ∀ (thread : Nat) found, s.threads[thread]?.bind (pendingAvatar key) = some found →
    found ∉ s.db.avatar.map fun avatar => key avatar.avatarName
  known : ∀ (thread : Nat) accountId, s.threads[thread]?.bind accountIdOf = some accountId →
    accountId ∈ s.db.account.map Account.accountId
  positive : 0 < s.db.nextAccountId ∧ ∀ account ∈ s.db.account, account.accountId ≠ 0

omit [DecidableEq Key] in
theorem init_tidy (threads : Nat) : Tidy key (init threads : Server Name) := by
  have nobody {Found : Type} (wait : Thread Name → Option Found) (quiet : wait .idle = none) (thread : Nat)
      (found : Found) : (List.replicate threads Thread.idle)[thread]?.bind wait ≠ some found := by
    intro waits
    obtain ⟨state,here,holds⟩ := Option.bind_eq_some_iff.mp waits
    rw [List.eq_of_mem_replicate (List.mem_of_getElem? here),quiet] at holds
    cases holds
  exact ⟨⟨.nil,.nil,fun _ member => absurd member List.not_mem_nil⟩,
    fun thread found waits => absurd waits (nobody _ rfl thread found),
    fun thread found waits => absurd waits (nobody _ rfl thread found),
    fun thread found waits => absurd waits (nobody _ rfl thread found),
    Nat.one_pos,fun _ member => absurd member List.not_mem_nil⟩

theorem absent_account (name : Name) (db : Database Name) (empty : accountsOf key name db = []) :
    key name ∉ db.account.map fun account => key account.accountName := by
  intro member
  obtain ⟨account,inside,same⟩ := List.mem_map.mp member
  have found : account ∈ accountsOf key name db := List.mem_filter.mpr ⟨inside,decide_eq_true same⟩
  rw [empty] at found
  cases found

theorem absent_avatar (name : Name) (db : Database Name) (empty : avatarsOf key name db = []) :
    key name ∉ db.avatar.map fun avatar => key avatar.avatarName := by
  intro member
  obtain ⟨avatar,inside,same⟩ := List.mem_map.mp member
  have found : avatar ∈ avatarsOf key name db := List.mem_filter.mpr ⟨inside,decide_eq_true same⟩
  rw [empty] at found
  cases found

theorem selectAccountId_cases (name : Name) (db : Database Name) (accountId : Option Nat)
    (selected : selectAccountId key name db = some accountId) :
    accountId = none ∧ accountsOf key name db = [] ∨
      ∃ account ∈ db.account, accountId = some account.accountId := by
  rw [selectAccountId] at selected
  match found : accountsOf key name db with
  | [] =>
    rw [found] at selected
    exact .inl ⟨(Option.some.inj selected).symm,rfl⟩
  | [account] =>
    rw [found] at selected
    have member : account ∈ accountsOf key name db := by rw [found]; exact List.mem_cons_self
    exact .inr ⟨account,(List.mem_filter.mp member).1,(Option.some.inj selected).symm⟩
  | first :: second :: rest =>
    rw [found] at selected
    cases selected

section
variable (s : Server Name) (thread : Nat) (state next : Thread Name)
  (here : s.threads[thread]? = some state) (tidy : Tidy key s)
include here tidy

omit [DecidableEq Key] in
theorem moved_tidy
    (account : ∀ found, pendingAccount key next = some found →
      found ∉ s.db.account.map fun account => key account.accountName)
    (avatar : ∀ found, pendingAvatar key next = some found →
      found ∉ s.db.avatar.map fun avatar => key avatar.avatarName)
    (known : ∀ accountId, accountIdOf next = some accountId → accountId ∈ s.db.account.map Account.accountId) :
    Tidy key ⟨s.db,s.threads.set thread next⟩ := by
  refine ⟨tidy.consistent,?_,?_,?_,tidy.positive⟩
  all_goals
    intro other found holds
    rw [holds_set s.threads _ thread state next here] at holds
    split at holds
  · exact account found holds
  · exact tidy.account other found holds
  · exact avatar found holds
  · exact tidy.avatar other found holds
  · exact known found holds
  · exact tidy.known other found holds

omit [DecidableEq Key] in
theorem quiet_tidy (account : pendingAccount key next = none) (avatar : pendingAvatar key next = none)
    (known : ∀ accountId, accountIdOf next = some accountId → accountId ∈ s.db.account.map Account.accountId) :
    Tidy key ⟨s.db,s.threads.set thread next⟩ := by
  apply moved_tidy key s thread state next here tidy _ _ known
  · rw [account]
    exact fun _ waits => by cases waits
  · rw [avatar]
    exact fun _ waits => by cases waits

theorem listing_tidy (accountName : Name) (accountId : Option Nat)
    (selected : selectAccountId key accountName s.db = some accountId) :
    Tidy key ⟨s.db,s.threads.set thread (.listing accountName accountId)⟩ := by
  obtain ⟨rfl,empty⟩ | ⟨account,member,rfl⟩ := selectAccountId_cases key accountName s.db accountId selected
  · apply moved_tidy key s thread state _ here tidy
    · intro found waits
      rw [← Option.some.inj waits]
      exact absent_account key accountName s.db empty
    · intro found waits
      cases waits
    · intro found held
      cases held
  · apply quiet_tidy key s thread state _ here tidy
    · rw [pendingAccount,nonzero,if_pos (tidy.positive.2 account member)]
      rfl
    · rfl
    · intro found held
      cases held

theorem creating_tidy (accountName avatarName : Name) (accountId : Option Nat)
    (selected : selectAccountId key accountName s.db = some accountId) :
    Tidy key ⟨s.db,s.threads.set thread (.creating accountId avatarName)⟩ := by
  apply quiet_tidy key s thread state _ here tidy rfl rfl
  intro found held
  obtain ⟨rfl,_⟩ | ⟨account,member,rfl⟩ := selectAccountId_cases key accountName s.db accountId selected
  · cases held
  · rw [← Option.some.inj held]
    exact List.mem_map_of_mem member

omit [DecidableEq Key] in
theorem known_account (accountId : Nat) (held : accountIdOf state = some accountId) :
    accountId ∈ s.db.account.map Account.accountId := by
  apply tidy.known thread
  rw [here]
  exact held

theorem checked_tidy (accountId : Option Nat) (avatarName : Name) (same : state = .creating accountId avatarName)
    (empty : avatarsOf key avatarName s.db = []) :
    Tidy key ⟨s.db,s.threads.set thread (.checked accountId avatarName 0)⟩ := by
  apply moved_tidy key s thread state _ here tidy
  · intro found waits
    cases waits
  · intro found waits
    cases accountId with
    | none => cases waits
    | some accountId =>
      rw [← Option.some.inj waits]
      exact absent_avatar key avatarName s.db empty
  · intro found held
    apply known_account key s thread state here tidy
    rw [same]
    exact held

variable (single : Single s)
include single

omit [DecidableEq Key] tidy in
/-- Nobody else is about to insert where a thread is about to do so. -/
theorem single_other {Found : Type} (wait : Thread Name → Option Found) (eventId : UInt32)
    (inside : state.eventId = some eventId) (waits : ∀ other, wait other ≠ none → other.eventId = some eventId)
    (quiet : wait next = none) (other : Nat) : (s.threads.set thread next)[other]?.bind wait = none := by
  rw [holds_set s.threads wait thread state next here]
  split
  · exact quiet
  next different =>
    by_contra pending
    cases there : s.threads[other]? with
    | none =>
      rw [there] at pending
      exact pending rfl
    | some data =>
      rw [there] at pending
      apply different
      apply single other thread eventId
      · rw [there]
        exact waits data pending
      · rw [here]
        exact inside

omit [DecidableEq Key] in
theorem insertAccount_tidy (accountName : Name) (accountId : Option Nat)
    (same : state = .listing accountName accountId) (null : nonzero accountId = none) :
    Tidy key ⟨insertAccount accountName s.db,s.threads.set thread (.returned .nothing)⟩ := by
  have fresh : key accountName ∉ s.db.account.map fun account => key account.accountName := by
    apply tidy.account thread
    rw [here,same]
    exact if_pos null
  have more (accountId : Nat) (member : accountId ∈ s.db.account.map Account.accountId) :
      accountId ∈ (insertAccount accountName s.db).account.map Account.accountId := by
    rw [insertAccount,List.map_append]
    exact List.mem_append_left _ member
  refine ⟨⟨?_,tidy.consistent.avatars,fun avatar member => more _ (tidy.consistent.owned avatar member)⟩,?_,?_,?_,
    Nat.succ_pos _,?_⟩
  · rw [insertAccount,List.map_append]
    exact tidy.consistent.accounts.append (List.nodup_singleton _) (List.disjoint_singleton.mpr fresh)
  · intro other found waits
    change (s.threads.set thread (.returned .nothing))[other]?.bind _ = _ at waits
    rw [single_other s thread state _ here single (pendingAccount key) 1 (by rw [same]; rfl) _ rfl other] at waits
    · cases waits
    · intro data pending
      cases data with
      | listing => rfl
      | _ => exact absurd rfl pending
  · exact (quiet_tidy key s thread state _ here tidy rfl rfl fun _ held => by cases held).avatar
  · intro other found held
    exact more found ((quiet_tidy key s thread state (.returned .nothing) here tidy rfl rfl
      fun _ held => by cases held).known other found held)
  · intro account member
    obtain before | new := List.mem_append.mp member
    · exact tidy.positive.2 account before
    · rw [List.mem_singleton.mp new]
      exact Nat.ne_of_gt tidy.positive.1

omit [DecidableEq Key] in
theorem insertAvatar_tidy (accountId : Nat) (avatarName : Name)
    (same : state = .checked (some accountId) avatarName 0) :
    Tidy key ⟨insertAvatar accountId avatarName s.db,
      s.threads.set thread (.returned (.lastInsertId s.db.nextAvatarId))⟩ := by
  have fresh : key avatarName ∉ s.db.avatar.map fun avatar => key avatar.avatarName := by
    apply tidy.avatar thread
    rw [here,same]
    rfl
  have quiet := quiet_tidy key s thread state (.returned (.lastInsertId s.db.nextAvatarId)) here tidy rfl rfl
    fun _ held => by cases held
  refine ⟨⟨tidy.consistent.accounts,?_,?_⟩,quiet.account,?_,quiet.known,tidy.positive⟩
  · rw [insertAvatar,List.map_append]
    exact tidy.consistent.avatars.append (List.nodup_singleton _) (List.disjoint_singleton.mpr fresh)
  · intro avatar member
    obtain before | new := List.mem_append.mp member
    · exact tidy.consistent.owned avatar before
    · rw [List.mem_singleton.mp new]
      exact known_account key s thread state here tidy accountId (by rw [same]; rfl)
  · intro other found waits
    change (s.threads.set thread (.returned _))[other]?.bind _ = _ at waits
    rw [single_other s thread state _ here single (pendingAvatar key) 2 (by rw [same]; rfl) _ rfl other] at waits
    · cases waits
    · intro data pending
      cases data with
      | checked => rfl
      | _ => exact absurd rfl pending

end

theorem statement_tidy (s : Server Name) (thread : Nat) (state : Thread Name)
    (here : s.threads[thread]? = some state) (tidy : Tidy key s) (single : Single s) :
    Tidy key ⟨(statement key s.db state).1,s.threads.set thread (statement key s.db state).2⟩ := by
  have quiet (result : Result Name) : Tidy key ⟨s.db,s.threads.set thread (.returned result)⟩ :=
    quiet_tidy key s thread state _ here tidy rfl rfl fun _ held => by cases held
  have still : Tidy key ⟨s.db,s.threads.set thread state⟩ := by
    obtain ⟨inside,found⟩ := List.getElem?_eq_some_iff.mp here
    rw [← found,List.set_getElem_self]
    exact tidy
  cases same : state with
  | idle =>
    rw [same] at still
    exact still
  | returned result =>
    rw [same] at still
    exact still
  | called call =>
    cases call with
    | getAvatarList accountName =>
      rw [statement]
      cases selected : selectAccountId key accountName s.db with
      | none => exact quiet .error
      | some accountId => exact listing_tidy key s thread state here tidy accountName accountId selected
    | createAvatar accountName avatarName =>
      rw [statement]
      cases selected : selectAccountId key accountName s.db with
      | none => exact quiet .error
      | some accountId => exact creating_tidy key s thread state here tidy accountName avatarName accountId selected
  | listing accountName accountId =>
    rw [statement]
    cases null : nonzero accountId with
    | none => exact insertAccount_tidy key s thread state here tidy single accountName accountId same null
    | some found => exact quiet _
  | creating accountId avatarName =>
    rw [statement]
    match empty : avatarsOf key avatarName s.db with
    | [] => exact checked_tidy key s thread state here tidy accountId avatarName same empty
    | [_] =>
      apply quiet_tidy key s thread state _ here tidy rfl
      · cases accountId <;> rfl
      · intro found held
        exact known_account key s thread state here tidy found (by rw [same]; exact held)
    | _ :: _ :: _ => exact quiet .error
  | checked accountId avatarName check =>
    rw [statement.eq_def]
    dsimp only
    by_cases free : check = 0
    · rw [if_pos free]
      cases accountId with
      | none => exact quiet .error
      | some accountId =>
        exact insertAvatar_tidy key s thread state here tidy single accountId avatarName (by rw [same,free])
    · rw [if_neg free]
      exact quiet .nothing

theorem execute_tidy (s : Server Name) (thread : Nat) (tidy : Tidy key s) (single : Single s) :
    Tidy key (execute key thread s) := by
  rw [execute]
  cases here : s.threads[thread]? with
  | none => exact tidy
  | some state => exact statement_tidy key s thread state here tidy single

/-- A statement does not lead into another procedure. -/
theorem statement_eventId (db : Database Name) (state : Thread Name) (eventId : UInt32)
    (inside : (statement key db state).2.eventId = some eventId) : state.eventId = some eventId := by
  revert inside
  fun_cases statement key db state
  all_goals
    intro inside
    first | exact inside | cases inside

end

end Fantuan.CacheServer.Procedures
