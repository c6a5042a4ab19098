import Fantuan.GateServer.Indexes
import Mathlib.Algebra.Group.Nat.Defs
import Mathlib.Data.Finset.Card
import Mathlib.Data.Finset.Range

/-! The counters of the gate. They are the numbers of allocated sessions as long as no pass
finds more than one session to clear: such a pass clears the last one again for each.
-/
namespace Fantuan.GateServer.SessionCounts
open Lib.Table Lib.Drain Lib.Run ServerBase.ServerCommon Tool.ObjectPool ServerLoop Session Commands
  SessionSteps Indexes

def allocatedSessions (s : Gate) (temporary : Bool) : Finset Object :=
  (Finset.range s.sessionPool.created).filter fun session =>
    s.sessionPool.Held session ∧ (s.sessions session).tempSession = temporary

/-- The counters are right and within their maxima, and the pool has a session for whatever
they admit. -/
structure Counted (config : Config) (s : Gate) : Prop where
  tempSessions : s.tempSessionCount.toNat = (allocatedSessions s true).card
  sessions : s.sessionCount.toNat = (allocatedSessions s false).card
  tempMax : s.tempSessionCount ≤ tempSessionMax config
  max : s.sessionCount ≤ sessionMax config
  admitsTemp : s.tempSessionCount < tempSessionMax config → s.sessionPool.allocate.1.isSome
  admits : s.sessionCount < sessionMax config → s.sessionPool.allocate.1.isSome

def SinglePass (s : Gate) : Action → Prop
  | .pass => s.finalizingQueue.length ≤ 1
  | _ => True

instance (s : Gate) : DecidablePred (SinglePass s)
  | .pass => inferInstanceAs (Decidable (_ ≤ _))
  | .onConnect _ | .onData _ _ _ | .onDisconnect _ | .disconnect _ | .shutdown | .gateAllocReq _ _
  | .gateReleaseReq _ _ | .regionBindReq _ _ | .checkSessionState | .reportState | .tick _ =>
    inferInstanceAs (Decidable True)

structure Sound (config : Config) (s : Gate) : Prop where
  indexed : Indexed config s
  pool : s.sessionPool.Sound
  held : ∀ session, s.sessionPool.Held session ↔ (s.sessions session).state ≠ .none
  idle : ∀ session, (s.sessions session).state = .none → (s.sessions session).finalizing = false
  distinct : s.finalizingQueue.Nodup
  queued : ∀ session, session ∈ s.finalizingQueue ↔ (s.sessions session).finalizing = true
  listed : ∀ accountName session, find accountName s.sessionMapByName = some session →
    (s.sessions session).tempSession = false ∧ (s.sessions session).accountName = accountName
  tempCount : s.tempSessionCount.toNat = (allocatedSessions s true).card
  count : s.sessionCount.toNat = (allocatedSessions s false).card
  usedSize : s.sessionPool.usedSize = (allocatedSessions s true).card + (allocatedSessions s false).card
  tempMax : s.tempSessionCount ≤ tempSessionMax config
  max : s.sessionCount ≤ sessionMax config

theorem init_sound (config : Config) : Sound config (init config) := by
  have none (session : Object) : ¬ (init config).sessionPool.Held session := by
    rintro ⟨inside,absent⟩
    exact absent (List.mem_range.mpr inside)
  have empty (temporary : Bool) : allocatedSessions (init config) temporary = ∅ := by
    apply Finset.filter_eq_empty_iff.mpr
    rintro session - ⟨held,-⟩
    exact none session held
  refine ⟨init_indexed config,⟨List.nodup_range,fun _ => List.mem_range.mp⟩,?_,?_,?_,?_,?_,?_,?_,?_,?_,?_⟩
  · exact fun session => ⟨fun held => absurd held (none session),fun use => absurd rfl use⟩
  · exact fun _ _ => rfl
  · exact List.nodup_nil
  · simp [init,blankSession]
  · simp [init]
  · rw [empty]
    rfl
  · rw [empty]
    rfl
  · rw [empty,empty]
    rfl
  · exact UInt16.zero_le
  · exact UInt16.zero_le

theorem mem_allocated (s : Gate) (temporary : Bool) (session : Object) :
    session ∈ allocatedSessions s temporary ↔
      s.sessionPool.Held session ∧ (s.sessions session).tempSession = temporary := by
  rw [allocatedSessions,Finset.mem_filter,Finset.mem_range]
  exact and_iff_right_of_imp fun held => held.1.1

theorem allocated_same (s t : Gate) (temporary : Bool)
    (held : ∀ session, t.sessionPool.Held session ↔ s.sessionPool.Held session)
    (kinds : ∀ session, (t.sessions session).tempSession = (s.sessions session).tempSession) :
    allocatedSessions t temporary = allocatedSessions s temporary := by
  ext session
  rw [mem_allocated,mem_allocated,held,kinds]

theorem allocated_insert (s t : Gate) (session : Object) (temporary : Bool)
    (held : ∀ other, t.sessionPool.Held other ↔ s.sessionPool.Held other ∨ other = session)
    (unheld : ¬ s.sessionPool.Held session)
    (kind : (t.sessions session).tempSession = temporary)
    (others : ∀ other, other ≠ session → t.sessions other = s.sessions other) :
    (allocatedSessions t temporary).card = (allocatedSessions s temporary).card + 1 ∧
      allocatedSessions t (!temporary) = allocatedSessions s (!temporary) := by
  have absent (kind : Bool) : session ∉ allocatedSessions s kind := by
    rw [mem_allocated]
    exact fun member => unheld member.1
  have joined : allocatedSessions t temporary = Insert.insert session (allocatedSessions s temporary) := by
    ext other
    rw [Finset.mem_insert,mem_allocated,mem_allocated,held]
    by_cases same : other = session
    · subst same
      simp [kind]
    · simp [same,others other same]
  refine ⟨?_,?_⟩
  · rw [joined,Finset.card_insert_of_notMem (absent temporary)]
  · ext other
    rw [mem_allocated,mem_allocated,held]
    by_cases same : other = session
    · subst same
      simp [kind,unheld]
    · simp [same,others other same]

theorem allocated_erase (s t : Gate) (session : Object) (temporary : Bool)
    (held : ∀ other, t.sessionPool.Held other ↔ s.sessionPool.Held other ∧ other ≠ session)
    (present : s.sessionPool.Held session)
    (kind : (s.sessions session).tempSession = temporary)
    (others : ∀ other, other ≠ session → t.sessions other = s.sessions other) :
    (allocatedSessions t temporary).card + 1 = (allocatedSessions s temporary).card ∧
      allocatedSessions t (!temporary) = allocatedSessions s (!temporary) := by
  have back : ∀ other, s.sessionPool.Held other ↔ t.sessionPool.Held other ∨ other = session := by
    intro other
    rw [held]
    by_cases same : other = session
    · simp [same,present]
    · simp [same]
  have gone : ¬ t.sessionPool.Held session := by
    rw [held]
    simp
  obtain ⟨card,rest⟩ := allocated_insert t s session temporary back gone kind
    fun other different => (others other different).symm
  exact ⟨card.symm,rest.symm⟩

theorem sound_used (config : Config) (s : Gate) (sound : Sound config s) (session : Object)
    (held : (s.sessions session).state ≠ .none ∨ Named session s.sessionMapByName) :
    (s.sessions session).state ≠ .none := by
  rcases held with used | ⟨accountName,found⟩
  · exact used
  · intro none
    have account := (sound.listed accountName session found).1
    rw [sound.indexed.blank session none] at account
    cases account

theorem update_sound (config : Config) (s t : Gate) (session : Object)
    (change : GateSession → GateSession) (sound : Sound config s)
    (kept : Kept s.sessionMapByName session (s.sessions session) (change (s.sessions session)))
    (indexed : Indexed config t) (pool : t.sessionPool = s.sessionPool)
    (names : t.sessionMapByName = s.sessionMapByName)
    (counts : t.sessionCount = s.sessionCount ∧ t.tempSessionCount = s.tempSessionCount)
    (sessions : t.sessions = (s.update session change).sessions)
    (distinct : t.finalizingQueue.Nodup)
    (queued : ∀ other, other ∈ t.finalizingQueue ↔ (t.sessions other).finalizing = true)
    (idle : (s.sessions session).state = .none → (t.sessions session).finalizing = false) :
    Sound config t := by
  have here : t.sessions session = change (s.sessions session) := by
    rw [sessions,update_same]
  have there (other : Object) (different : other ≠ session) : t.sessions other = s.sessions other := by
    rw [sessions,update_other s session other change different]
  have kinds (other : Object) : (t.sessions other).tempSession = (s.sessions other).tempSession := by
    by_cases same : other = session
    · rw [same,here,kept.tempSession]
    · rw [there other same]
  have states (other : Object) : (t.sessions other).state = .none ↔ (s.sessions other).state = .none := by
    by_cases same : other = session
    · rw [same,here,kept.used]
    · rw [there other same]
  have counted (temporary : Bool) : allocatedSessions t temporary = allocatedSessions s temporary :=
    allocated_same s t temporary (fun _ => by rw [pool]) kinds
  refine ⟨indexed,by rw [pool]; exact sound.pool,?_,?_,distinct,queued,?_,?_,?_,?_,?_,?_⟩
  · intro other
    rw [pool,ne_eq,states]
    exact sound.held other
  · intro other none
    rw [states] at none
    by_cases same : other = session
    · subst same
      exact idle none
    · rw [there other same]
      exact sound.idle other none
  · intro accountName other found
    rw [names] at found
    obtain ⟨account,name⟩ := sound.listed accountName other found
    refine ⟨by rw [kinds,account],?_⟩
    by_cases same : other = session
    · subst same
      rw [here]
      rcases kept.accountName with unchanged | connecting | found'
      · rw [unchanged,name]
      · rw [sound.indexed.connecting other connecting] at account
        cases account
      · rw [← name,(sound.listed _ other found').2]
    · rw [there other same,name]
  · rw [counts.2,counted,sound.tempCount]
  · rw [counts.1,counted,sound.count]
  · rw [pool,counted,counted,sound.usedSize]
  · rw [counts.2]
    exact sound.tempMax
  · rw [counts.1]
    exact sound.max

theorem sessionStep_sound (config : Config) (s t : Gate) (step : SessionStep s t)
    (sound : Sound config s) : Sound config t := by
  have indexed := sessionStep_indexed config s t step sound.indexed
  cases step with
  | change session change still kept =>
    refine update_sound config s _ session change sound kept indexed rfl rfl ⟨rfl,rfl⟩ rfl
      sound.distinct ?_ ?_
    · intro other
      change other ∈ s.finalizingQueue ↔ _
      rw [sound.queued]
      by_cases same : other = session
      · subst same
        rw [update_same,still]
      · rw [update_other s session other change same]
    · intro none
      rw [update_same,still]
      exact sound.idle session none
  | queue session active held =>
    have used := sound_used config s sound session held
    have absent : session ∉ s.finalizingQueue := by
      rw [sound.queued,active]
      decide
    refine update_sound config s _ session (fun data => {data with finalizing := true}) sound
      ⟨rfl,rfl,.rfl,id,.inl rfl⟩ indexed rfl rfl ⟨rfl,rfl⟩ rfl ?_ ?_ (fun none => absurd none used)
    · refine List.nodup_append.mpr ⟨sound.distinct,by simp,fun other member last equal same => ?_⟩
      obtain rfl := List.mem_singleton.mp equal
      exact absent (same ▸ member)
    · intro other
      change other ∈ s.finalizingQueue ++ [session] ↔
        ((s.update session fun data => {data with finalizing := true}).sessions other).finalizing = true
      rw [List.mem_append,List.mem_singleton,sound.queued]
      by_cases same : other = session
      · subst same
        simp
      · rw [update_other s session other _ same]
        simp [same]
  | note event => exact {sound with indexed := indexed}
  | mark undefined => exact {sound with indexed := indexed}
  | clock currTime => exact {sound with indexed := indexed}
  | stop => exact {sound with indexed := indexed}
  | line connection state => exact {sound with indexed := indexed}
  | give session connection => exact {sound with indexed := indexed}
  | unmap session => exact {sound with indexed := indexed}

theorem does_sound (config : Config) (s t : Gate) (does : Does s t) (sound : Sound config s) :
    Sound config t := by
  induction does with
  | refl => exact sound
  | tail _ step ih => exact sessionStep_sound config _ _ step ih

theorem taken_held (config : Config) (s t : Gate) (session : Object) (rest : List Object)
    (sound : Sound config s) (list : s.sessionPool.objectList = session :: rest)
    (room : s.sessionPool.usedSize < s.sessionPool.maxSize)
    (pool : t.sessionPool = {s.sessionPool with
      objectList := rest, usedSize := s.sessionPool.usedSize + 1}) :
    (s.sessions session).state = .none ∧ t.sessionPool.Sound ∧ ¬ s.sessionPool.Held session ∧
      ∀ other, t.sessionPool.Held other ↔ s.sessionPool.Held other ∨ other = session := by
  have taken : s.sessionPool.allocate = (some session,t.sessionPool) := by
    rw [Pool.allocate,if_pos room,list,pool]
  obtain ⟨still,unheld,held⟩ := allocate_sound _ _ session sound.pool taken
  refine ⟨?_,still,unheld,held⟩
  by_contra use
  exact unheld ((sound.held session).mpr use)

theorem enroll_sound (config : Config) (s t : Gate) (session : Object) (rest : List Object)
    (temporary : Bool) (sound : Sound config s) (indexed : Indexed config t)
    (list : s.sessionPool.objectList = session :: rest)
    (room : s.sessionPool.usedSize < s.sessionPool.maxSize)
    (pool : t.sessionPool = {s.sessionPool with
      objectList := rest, usedSize := s.sessionPool.usedSize + 1})
    (queue : t.finalizingQueue = s.finalizingQueue)
    (used : (t.sessions session).state ≠ .none)
    (active : (t.sessions session).finalizing = false)
    (kind : (t.sessions session).tempSession = temporary)
    (others : ∀ other, other ≠ session → t.sessions other = s.sessions other)
    (listed : ∀ accountName other, find accountName t.sessionMapByName = some other →
      (t.sessions other).tempSession = false ∧ (t.sessions other).accountName = accountName)
    (tempCount : t.tempSessionCount.toNat =
      s.tempSessionCount.toNat + if temporary then 1 else 0)
    (count : t.sessionCount.toNat = s.sessionCount.toNat + if temporary then 0 else 1)
    (tempMax : t.tempSessionCount ≤ tempSessionMax config)
    (max : t.sessionCount ≤ sessionMax config) : Sound config t := by
  obtain ⟨none,still,unheld,held⟩ := taken_held config s t session rest sound list room pool
  obtain ⟨card,rest'⟩ := allocated_insert s t session temporary held unheld kind others
  have idle := sound.idle session none
  refine ⟨indexed,still,?_,?_,by rw [queue]; exact sound.distinct,?_,listed,?_,?_,?_,tempMax,max⟩
  · intro other
    rw [held,sound.held]
    by_cases same : other = session
    · subst same
      simp [used]
    · rw [others other same]
      simp [same]
  · intro other blank
    by_cases same : other = session
    · subst same
      exact absurd blank used
    · rw [others other same] at blank ⊢
      exact sound.idle other blank
  · intro other
    rw [queue,sound.queued]
    by_cases same : other = session
    · subst same
      rw [idle,active]
    · rw [others other same]
  · rw [tempCount,sound.tempCount]
    cases temporary with
    | true => exact card.symm
    | false => exact congrArg Finset.card rest'.symm
  · rw [count,sound.count]
    cases temporary with
    | true => exact congrArg Finset.card rest'.symm
    | false => exact card.symm
  · rw [pool]
    change s.sessionPool.usedSize + 1 = _
    have used := sound.usedSize
    cases temporary with
    | true =>
      rw [Bool.not_true] at rest'
      rw [rest',card]
      omega
    | false =>
      rw [Bool.not_false] at rest'
      rw [rest',card]
      omega

theorem admitted_sound (config : Config) (s : Gate) (session connection : Nat) (rest : List Object)
    (sound : Sound config s) (indexed : Indexed config (admitted session rest connection s))
    (room : s.tempSessionCount < tempSessionMax config)
    (list : s.sessionPool.objectList = session :: rest)
    (free : s.sessionPool.usedSize < s.sessionPool.maxSize) :
    Sound config (admitted session rest connection s) := by
  obtain ⟨none,-,-,-⟩ := taken_held config s (take rest s) session rest sound list free rfl
  have result : admitted session rest connection s =
      {(setClient session connection (take rest s)).update session
          (connected connection s.currTime) with
        tempSessionCount := s.tempSessionCount + 1} := by
    rw [admitted,onConnection_unused session connection (take rest s) none]
    rfl
  rw [result] at indexed ⊢
  have more : (s.tempSessionCount + 1).toNat = s.tempSessionCount.toNat + 1 := by
    have bound := UInt16.lt_iff_toNat_lt.mp room
    have limit := (tempSessionMax config).toNat_lt
    rw [UInt16.toNat_add]
    change (s.tempSessionCount.toNat + 1) % _ = _
    omega
  refine enroll_sound config s _ session rest true sound indexed list free rfl rfl ?_ ?_ ?_ ?_ ?_ more
    rfl ?_ sound.max
  · change (Function.update s.sessions session _ session).state ≠ _
    rw [Function.update_self]
    simp [connected]
  · change (Function.update s.sessions session _ session).finalizing = _
    rw [Function.update_self]
    exact sound.idle session none
  · change (Function.update s.sessions session _ session).tempSession = _
    rw [Function.update_self]
    rfl
  · exact fun other different => Function.update_of_ne different ..
  · intro accountName other found
    have old := sound.listed accountName other found
    have different : other ≠ session := by
      rintro rfl
      rw [sound.indexed.blank other none] at old
      cases old.1
    change (Function.update s.sessions session _ other).tempSession = _ ∧
      (Function.update s.sessions session _ other).accountName = _
    rw [Function.update_of_ne different]
    exact old
  · rw [UInt16.le_iff_toNat_le]
    change (s.tempSessionCount + 1).toNat ≤ _
    rw [more]
    exact UInt16.lt_iff_toNat_lt.mp room

theorem allot_sound (env : Env) (s : Gate) (loginSessionId : UInt32) (accountName : WString)
    (session : Object) (rest : List Object) (sound : Sound env.config s)
    (fresh : find accountName s.sessionMapByName = none)
    (room : s.sessionCount < sessionMax env.config)
    (list : s.sessionPool.objectList = session :: rest)
    (free : s.sessionPool.usedSize < s.sessionPool.maxSize)
    (indexed : Indexed env.config (onGateAllocReq env session loginSessionId accountName
      (allot accountName session rest s))) :
    Sound env.config (onGateAllocReq env session loginSessionId accountName
      (allot accountName session rest s)) := by
  obtain ⟨none,-,-,-⟩ := taken_held env.config s (take rest s) session rest sound list free rfl
  let given := (allot accountName session rest s).update session (allocated loginSessionId accountName)
  have data : given.sessions session = allocated loginSessionId accountName (s.sessions session) :=
    update_same ..
  have others (other : Object) (different : other ≠ session) : given.sessions other = s.sessions other :=
    update_other (allot accountName session rest s) session other _ different
  have more : (s.sessionCount + 1).toNat = s.sessionCount.toNat + 1 := by
    have bound := UInt16.lt_iff_toNat_lt.mp room
    have limit := (sessionMax env.config).toNat_lt
    rw [UInt16.toNat_add]
    change (s.sessionCount.toNat + 1) % _ = _
    omega
  have enrolled (t : Gate) (indexed : Indexed env.config t) (state : SessionState)
      (used : state ≠ .none) (same : t.toLoop = {given.toLoop with sessions := t.sessions})
      (here : t.sessions session = {given.sessions session with state := state})
      (there : ∀ other, other ≠ session → t.sessions other = given.sessions other) :
      Sound env.config t := by
    rw [data] at here
    refine enroll_sound env.config s t session rest false sound indexed list free
      (congrArg Loop.sessionPool same) ?_ ?_ ?_ ?_ ?_ ?_ ?_ ?_ ?_ ?_
    · rw [congrArg Loop.finalizingQueue same]
      rfl
    · rw [here]
      exact used
    · rw [here]
      exact sound.idle session none
    · rw [here]
      rfl
    · intro other different
      rw [there other different,others other different]
    · intro name other found
      rw [congrArg Loop.sessionMapByName same] at found
      rcases find_insert_elim accountName name session other _ found with old | ⟨rfl,rfl,-⟩
      · have listed := sound.listed name other old
        have different : other ≠ session := by
          rintro rfl
          rw [sound.indexed.blank other none] at listed
          cases listed.1
        rw [there other different,others other different]
        exact listed
      · rw [here]
        exact ⟨rfl,rfl⟩
    · rw [congrArg Loop.tempSessionCount same]
      rfl
    · rw [congrArg Loop.sessionCount same]
      exact more
    · rw [congrArg Loop.tempSessionCount same]
      exact sound.tempMax
    · rw [congrArg Loop.sessionCount same,UInt16.le_iff_toNat_le]
      change (s.sessionCount + 1).toNat ≤ _
      rw [more]
      exact UInt16.lt_iff_toNat_lt.mp room
  rw [onGateAllocReq_unused env session loginSessionId accountName (allot accountName session rest s)
    none] at indexed ⊢
  dsimp only at indexed ⊢
  split
  next success =>
    rw [if_pos success] at indexed
    refine enrolled _ indexed .gateAllocAck (by decide) rfl ?_ ?_
    · exact update_same ..
    · exact fun other different => update_other _ session other _ different
  next failure =>
    rw [if_neg failure] at indexed
    refine enrolled _ indexed .onGateAllocReq (by decide) rfl ?_ fun _ _ => rfl
    change given.sessions session = _
    rw [data]
    rfl

/-- The state after the only queued session is cleared. -/
def cleared (session : Object) (s : Gate) : Gate :=
  {s with toLoop := {clearSession session s.toLoop with finalizingQueue := []}}

theorem cleared_sound (config : Config) (s : Gate) (session : Object) (sound : Sound config s)
    (queue : s.finalizingQueue = [session]) (indexed : Indexed config (cleared session s)) :
    Sound config (cleared session s) := by
  have active : (s.sessions session).finalizing = true := by
    rw [← sound.queued,queue]
    exact List.mem_singleton_self session
  have used : (s.sessions session).state ≠ .none := by
    intro none
    rw [sound.idle session none] at active
    cases active
  have present := (sound.held session).mpr used
  obtain ⟨still,held⟩ := release_sound s.sessionPool session sound.pool present
  have here : (cleared session s).sessions session = (s.sessions session).clear :=
    Function.update_self ..
  have there (other : Object) (different : other ≠ session) :
      (cleared session s).sessions other = s.sessions other := Function.update_of_ne different ..
  obtain ⟨card,rest⟩ := allocated_erase s (cleared session s) session (s.sessions session).tempSession
    held present rfl there
  have usedSize := sound.usedSize
  have tempCount := sound.tempCount
  have count := sound.count
  have fewer : (cleared session s).tempSessionCount.toNat =
        (allocatedSessions (cleared session s) true).card ∧
      (cleared session s).sessionCount.toNat = (allocatedSessions (cleared session s) false).card ∧
      (cleared session s).tempSessionCount.toNat ≤ s.tempSessionCount.toNat ∧
      (cleared session s).sessionCount.toNat ≤ s.sessionCount.toNat ∧
      s.sessionPool.usedSize = (allocatedSessions (cleared session s) true).card +
        (allocatedSessions (cleared session s) false).card + 1 := by
    change (if (s.sessions session).tempSession then s.tempSessionCount - 1
          else s.tempSessionCount).toNat = _ ∧
      (if (s.sessions session).tempSession then s.sessionCount else s.sessionCount - 1).toNat = _ ∧
      (if (s.sessions session).tempSession then s.tempSessionCount - 1
          else s.tempSessionCount).toNat ≤ _ ∧
      (if (s.sessions session).tempSession then s.sessionCount else s.sessionCount - 1).toNat ≤ _ ∧ _
    cases kind : (s.sessions session).tempSession with
    | true =>
      rw [kind] at card rest
      rw [Bool.not_true] at rest
      have less : (s.tempSessionCount - 1).toNat = s.tempSessionCount.toNat - 1 :=
        UInt16.toNat_sub_of_le _ _ (by rw [UInt16.le_iff_toNat_le]; change 1 ≤ _; omega)
      rw [if_pos rfl,if_pos rfl,less,rest]
      omega
    | false =>
      rw [kind] at card rest
      rw [Bool.not_false] at rest
      have less : (s.sessionCount - 1).toNat = s.sessionCount.toNat - 1 :=
        UInt16.toNat_sub_of_le _ _ (by rw [UInt16.le_iff_toNat_le]; change 1 ≤ _; omega)
      rw [if_neg Bool.false_ne_true,if_neg Bool.false_ne_true,less,rest]
      omega
  obtain ⟨tempCount',count',tempLess,less,size⟩ := fewer
  refine ⟨indexed,still,?_,?_,List.nodup_nil,?_,?_,tempCount',count',?_,?_,?_⟩
  · intro other
    refine (held other).trans ?_
    rw [sound.held]
    by_cases same : other = session
    · subst same
      rw [here]
      simp [GateSession.clear]
    · rw [there other same]
      simp [same]
  · intro other none
    by_cases same : other = session
    · rw [same,here]
      rfl
    · rw [there other same] at none ⊢
      exact sound.idle other none
  · intro other
    change other ∈ [] ↔ _
    by_cases same : other = session
    · rw [same,here]
      simp [GateSession.clear]
    · rw [there other same,← sound.queued,queue]
      simp [same]
  · intro accountName other found
    have old : find accountName s.sessionMapByName = some other ∧ other ≠ session := by
      change find accountName (if (s.sessions session).tempSession = false then
        erase (s.sessions session).accountName s.sessionMapByName else s.sessionMapByName) = _ at found
      split at found
      next account =>
        obtain ⟨different,before⟩ := find_erase_elim _ _ _ _ found
        refine ⟨before,?_⟩
        rintro rfl
        exact different (sound.listed accountName other before).2.symm
      next temporary =>
        refine ⟨found,?_⟩
        rintro rfl
        exact temporary (sound.listed accountName other found).1
    rw [there other old.2]
    exact sound.listed accountName other old.1
  · change (s.sessionPool.usedSize + (2^16 - 1)) % 2^16 = _
    have bound := sound.indexed.usage.1
    omega
  · exact UInt16.le_iff_toNat_le.mpr (tempLess.trans (UInt16.le_iff_toNat_le.mp sound.tempMax))
  · exact UInt16.le_iff_toNat_le.mpr (less.trans (UInt16.le_iff_toNat_le.mp sound.max))

theorem pass_sound (env : Env) (s : Gate) (sound : Sound env.config s)
    (single : s.finalizingQueue.length ≤ 1) : Sound env.config (step env s .pass) := by
  have drained : Sound env.config {s with toLoop := clearFinalizing s.toLoop} := by
    cases queue : s.finalizingQueue with
    | nil =>
      have same : clearFinalizing s.toLoop = s.toLoop := by
        rw [clearFinalizing,queue,drainBack,← queue]
      rw [same]
      exact sound
    | cons session rest =>
      obtain rfl : rest = [] := by
        rw [queue,List.length_cons] at single
        exact List.length_eq_zero_iff.mp (by omega)
      have same : clearFinalizing s.toLoop =
          {clearSession session s.toLoop with finalizingQueue := []} := by
        rw [clearFinalizing,queue,drainBack_singleton]
      rw [same]
      have inside := sound.indexed.queue session (by rw [queue]; exact List.mem_singleton_self session)
      exact cleared_sound env.config s session sound queue
        {clearSession_indexed env.config s session sound.indexed inside with queue := by simp [cleared]}
  rw [step,loopPass]
  split
  · exact {drained with indexed := {drained.indexed with}}
  · exact drained

theorem step_sound (env : Env) (s : Gate) (action : Action) (sound : Sound env.config s)
    (single : SinglePass s action) : Sound env.config (step env s action) := by
  have indexed := step_indexed env s action sound.indexed
  by_cases plain : plainAction action = true
  · exact does_sound env.config _ _ (step_does env s action sound.indexed plain) sound
  · cases action with
    | onConnect connection =>
      rcases onConnect_cases env connection s sound.indexed with
        does | ⟨session,rest,-,room,list,free,result⟩
      · exact does_sound env.config _ _ does sound
      · rw [result] at indexed ⊢
        have accepted : Sound env.config (accept connection s) :=
          sessionStep_sound env.config _ _ (.line s connection _ (.inr rfl)) sound
        exact admitted_sound env.config _ session connection rest accepted indexed room list free
    | gateAllocReq loginSessionId accountName =>
      have asks := gateAllocReq_asks env loginSessionId accountName s sound.indexed
      have asked : Sound env.config (s.note (.gateAllocReq loginSessionId accountName)) :=
        {sound with indexed := {sound.indexed with}}
      generalize step env s (.gateAllocReq loginSessionId accountName) = t at asks indexed ⊢
      cases asks with
      | stopped => exact sound
      | duplicate => exact asked
      | full => exact {asked with indexed := indexed}
      | crash => exact {asked with indexed := indexed}
      | allocated session rest running fresh room list free =>
        exact allot_sound env _ loginSessionId accountName session rest asked fresh room list free indexed
    | pass => exact pass_sound env s sound single
    | _ => exact absurd rfl plain

theorem run_sound (env : Env) (actions : List Action)
    (guarded : Guarded (step env) SinglePass (init env.config) actions) :
    Sound env.config (run (step env) (init env.config) actions) :=
  run_invariant (step env) SinglePass (Sound env.config) (step_sound env) _ actions guarded
    (init_sound env.config)

/-- The maximum for accounts leaves room for connections in the pool. -/
def Fitting (config : Config) : Prop := (sessionMax config).toNat ≤ poolMax config

theorem fitting_of_small (config : Config) (small : config.sessionMax.toNat < 2^15) :
    Fitting config := by
  have five : (config.sessionMax / 5).toNat = config.sessionMax.toNat / 5 := UInt16.toNat_div ..
  rw [Fitting,sessionMax,poolMax,UInt16.toNat_add,five,UInt16.toNat_mul]
  change _ ≤ config.sessionMax.toNat * 2 % 2^16
  have least := Nat.div_mul_le_self config.sessionMax.toNat 5
  rw [Nat.mod_eq_of_lt (by omega),Nat.mod_eq_of_lt (by omega)]
  omega

theorem maxima_sum (config : Config) (fitting : Fitting config) :
    (tempSessionMax config).toNat + (sessionMax config).toNat = poolMax config := by
  have less : (tempSessionMax config).toNat = poolMax config - (sessionMax config).toNat :=
    UInt16.toNat_sub_of_le _ _ (UInt16.le_iff_toNat_le.mpr fitting)
  rw [less]
  exact Nat.sub_add_cancel fitting

theorem sound_counted (config : Config) (s : Gate) (fitting : Fitting config)
    (sound : Sound config s) : Counted config s := by
  have sum := maxima_sum config fitting
  have size := sound.indexed.maxSize
  have usedSize := sound.usedSize
  have tempCount := sound.tempCount
  have count := sound.count
  have tempMax := UInt16.le_iff_toNat_le.mp sound.tempMax
  have max := UInt16.le_iff_toNat_le.mp sound.max
  have gives (room : s.sessionPool.usedSize < s.sessionPool.maxSize) :
      s.sessionPool.allocate.1.isSome := by
    rw [Pool.allocate,if_pos room]
    split <;> rfl
  refine ⟨tempCount,count,sound.tempMax,sound.max,?_,?_⟩
  · intro room
    have less := UInt16.lt_iff_toNat_lt.mp room
    exact gives (by omega)
  · intro room
    have less := UInt16.lt_iff_toNat_lt.mp room
    exact gives (by omega)

/-- The counters are right in every run whose passes clear at most one session each. -/
theorem session_counts (env : Env) (fitting : Fitting env.config) (actions : List Action)
    (guarded : Guarded (step env) SinglePass (init env.config) actions) :
    Counted env.config (run (step env) (init env.config) actions) :=
  sound_counted env.config _ fitting (run_sound env actions guarded)

/-- A client logs in, and leaves after the pass that clears its temporary session. -/
def loginAndLeave : List Action :=
  [.onConnect 1,.gateAllocReq 10 [97],.onData 1 (.token [97]) 0,.pass,.onDisconnect 1,.pass]

theorem session_counts_loginAndLeave :
    Counted sampleEnv.config (run (step sampleEnv) (init sampleEnv.config) loginAndLeave) :=
  session_counts sampleEnv (fitting_of_small sampleEnv.config (by decide)) loginAndLeave
    (by decide +kernel)

/-- The client leaves before the pass: the session of the account is cleared twice, and the
temporary one never. -/
theorem session_counts_leaveEarly :
    ¬ Counted sampleEnv.config (run (step sampleEnv) (init sampleEnv.config)
      [.onConnect 1,.gateAllocReq 10 [97],.onData 1 (.token [97]) 0,.onDisconnect 1,.pass]) := by
  intro counted
  have temp := counted.tempSessions
  revert temp
  decide +kernel

end Fantuan.GateServer.SessionCounts
