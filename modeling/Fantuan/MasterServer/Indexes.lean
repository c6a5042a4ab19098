import Fantuan.Lib.Index
import Fantuan.MasterServer.Deletion
import Fantuan.MasterServer.Handlers

/-! The player indexes of the master server: by name, by session, of the login server, of
each gate and of each region. A player is in use from its allocation to its deletion.
-/
namespace Fantuan.MasterServer.Indexes
open Lib.Table Lib.Index Lib.Drain ServerBase.ServerCommon Tool.ObjectPool
open PlayerFsm Context ServerLoop Player Commands Deletion PlayerSteps Handlers

def Live (s : Loop) (player : Object) : Prop := s.playerContextPool.Held player

def sessionOf (s : Loop) (player : Object) : UInt32 := (s.contexts player).sessionId

def AtLogin (s : Loop) (player : Object) : Prop :=
  Live s player ∧ home (s.contexts player).state = .login

def AtGate (gate : UInt8) (s : Loop) (player : Object) : Prop :=
  Live s player ∧ home (s.contexts player).state = .gate ∧ (s.contexts player).gateServerId = gate

def AtRegion (channel region : UInt8) (s : Loop) (player : Object) : Prop :=
  Live s player ∧ inRegion (s.contexts player).state = true ∧
    (s.contexts player).lastChannelId = channel ∧ (s.contexts player).regionServerId = region

/-- The indexes hold exactly the live players, each under its name or session and each at
the login server or at its gate; a region lists only players who are in it. -/
structure Agree (s : Loop) : Prop where
  byName : Indexes s.playerContextByName (Live s) fun player => (s.contexts player).accountName
  bySessionId : Indexes s.playerContextBySessionId (Live s) (sessionOf s)
  login : Indexes (loginPlayers s) (AtLogin s) (sessionOf s)
  gates : ∀ gate, Indexes (gatePlayers gate s) (AtGate gate s) (sessionOf s)
  regions : ∀ channel region,
    Lists (regionPlayers channel region s) (AtRegion channel region s) (sessionOf s)
  placed : ∀ player, Live s player → home (s.contexts player).state ≠ .nowhere

structure Sound (s : Loop) : Prop extends Agree s where
  pool : s.playerContextPool.Sound
  cleared : ∀ player, ¬ Live s player → s.contexts player = .clear
  queued : ∀ player ∈ s.finalizingQueue, Live s player
  inside : ∀ gate player, AtGate gate s player → gate.toNat < serverCountMax

/-- A step for one player that leaves his place in the indexes. -/
structure Steady (player : Object) (s t : Loop) : Prop where
  pool : t.playerContextPool = s.playerContextPool
  byName : t.playerContextByName = s.playerContextByName
  bySessionId : t.playerContextBySessionId = s.playerContextBySessionId
  login : loginPlayers t = loginPlayers s
  gates : ∀ gate, gatePlayers gate t = gatePlayers gate s
  others : ∀ other, other ≠ player → t.contexts other = s.contexts other
  sessionId : sessionOf t player = sessionOf s player
  accountName : (t.contexts player).accountName = (s.contexts player).accountName
  home : home (t.contexts player).state = home (s.contexts player).state
  gate : PlayerSteps.home (s.contexts player).state = .gate →
    (t.contexts player).gateServerId = (s.contexts player).gateServerId
  regions : ∀ channel region key other, find key (regionPlayers channel region t) = some other →
    other ≠ player ∧ find key (regionPlayers channel region s) = some other ∨
      other = player ∧ sessionOf t player = key ∧ AtRegion channel region t player
  queue : ∀ other ∈ t.finalizingQueue, other ∈ s.finalizingQueue ∨ other = player

section
variable (env : Env) (guarded : Prop) (player : Object)

theorem wait_home (state next : PlayerState) (reached : transition state .regionLeaveAck = some next) :
    home next = home state ∧ inRegion next = true := by
  have rows : ∀ row ∈ initStateMachine state, row.1 = .regionLeaveAck →
      home row.2 = home state ∧ inRegion row.2 = true := by
    cases state <;> decide
  exact rows _ (transition_mem state next .regionLeaveAck reached) rfl

theorem steady_context (s t : Loop) (sound : Sound s) (live : Live s player)
    (pool : t.playerContextPool = s.playerContextPool)
    (byName : t.playerContextByName = s.playerContextByName)
    (bySessionId : t.playerContextBySessionId = s.playerContextBySessionId)
    (login : loginPlayers t = loginPlayers s) (gates : ∀ gate, gatePlayers gate t = gatePlayers gate s)
    (regions : ∀ channel region, regionPlayers channel region t = regionPlayers channel region s)
    (queue : ∀ other ∈ t.finalizingQueue, other ∈ s.finalizingQueue ∨ other = player)
    (others : ∀ other, other ≠ player → t.contexts other = s.contexts other)
    (sessionId : sessionOf t player = sessionOf s player)
    (accountName : (t.contexts player).accountName = (s.contexts player).accountName)
    (place : home (t.contexts player).state = home (s.contexts player).state)
    (gate : home (s.contexts player).state = .gate →
      (t.contexts player).gateServerId = (s.contexts player).gateServerId)
    (inside : inRegion (s.contexts player).state = true → inRegion (t.contexts player).state = true ∧
      (t.contexts player).lastChannelId = (s.contexts player).lastChannelId ∧
      (t.contexts player).regionServerId = (s.contexts player).regionServerId) :
    Steady player s t := by
  refine ⟨pool,byName,bySessionId,login,gates,others,sessionId,accountName,place,gate,?_,queue⟩
  intro channel region key other found
  rw [regions] at found
  by_cases same : other = player
  · subst other
    obtain ⟨⟨-,state,rfl,rfl⟩,keys⟩ := sound.regions channel region key player found
    obtain ⟨stays,channels,servers⟩ := inside state
    refine .inr ⟨rfl,sessionId.trans keys,?_,stays,channels,servers⟩
    rw [Live,pool]
    exact live
  · exact .inl ⟨same,found⟩

theorem steady_state (s : Loop) (sound : Sound s) (live : Live s player) (next : PlayerState)
    (place : home next = home (s.contexts player).state)
    (inside : inRegion (s.contexts player).state = true → inRegion next = true) :
    Steady player s (setState player next s) := by
  have context : (setState player next s).contexts player = {s.contexts player with state := next} :=
    update_same ..
  refine steady_context player s _ sound live rfl rfl rfl rfl (fun _ => rfl) (fun _ _ => rfl)
    (fun _ member => .inl member) (fun other different => update_other s player other _ different)
    ?_ ?_ ?_ ?_ ?_
  · rw [sessionOf,context,sessionOf]
  · rw [context]
  · rw [context]
    exact place
  · rw [context]
    exact fun _ => rfl
  · rw [context]
    exact fun stays => ⟨inside stays,rfl,rfl⟩

theorem regionPlayers_drop (s : Loop) (channel region : UInt8) (key : UInt32) (other : Object)
    (found : find key (regionPlayers channel region
      (deletePlayerFromRegionServerContext player s)) = some other) :
    find key (regionPlayers channel region s) = some other ∧
      ¬ (key = sessionOf s player ∧ channel = (s.contexts player).lastChannelId ∧
        region = (s.contexts player).regionServerId) := by
  rw [deletePlayerFromRegionServerContext,regionPlayers_updateRegion] at found
  split at found
  next here =>
    obtain ⟨different,found⟩ := find_erase_elim _ key other _ found
    exact ⟨found,fun both => different both.1⟩
  next elsewhere =>
    refine ⟨found,fun both => elsewhere ⟨both.2.1,both.2.2,?_⟩⟩
    cases context : s.channelContext channel with
    | some context => rfl
    | none =>
      rw [regionPlayers,context] at found
      simp at found

theorem steady_refl (s : Loop) (sound : Sound s) (live : Live s player) : Steady player s s :=
  steady_context player s s sound live rfl rfl rfl rfl (fun _ => rfl) (fun _ _ => rfl)
    (fun _ member => .inl member) (fun _ _ => rfl) rfl rfl rfl (fun _ => rfl) fun stays => ⟨stays,rfl,rfl⟩

theorem change_steady (s : Loop) (change : MasterPlayerContext → MasterPlayerContext)
    (kept : Kept (s.contexts player) (change (s.contexts player))) (sound : Sound s) (live : Live s player) :
    Steady player s (s.update player change) := by
  refine steady_context player s _ sound live rfl rfl rfl rfl (fun _ => rfl) (fun _ _ => rfl)
    (fun _ member => .inl member) (fun other different => update_other s player other _ different)
    ?_ ?_ ?_ ?_ ?_
  · rw [sessionOf,update_same,kept.sessionId,sessionOf]
  · rw [update_same,kept.accountName]
  · rw [update_same,kept.state]
  · rw [update_same]
    exact kept.gate
  · rw [update_same,kept.state]
    exact fun stays => ⟨stays,kept.region stays⟩

/-- The player's own region lists him. -/
theorem enter_steady (s : Loop) (entered : (s.contexts player).state = .regionEnterReq) (sound : Sound s)
    (live : Live s player) : Steady player s (addPlayerToRegionServerContext player s) := by
  have kept := steady_refl player s sound live
  have inside : inRegion (s.contexts player).state = true := by
    rw [entered]
    rfl
  refine {kept with regions := ?_}
  intro channel region key other found
  rw [addPlayerToRegionServerContext,regionPlayers_updateRegion] at found
  split at found
  next here =>
    rcases find_insert_elim _ key player other _ found with before | ⟨rfl,rfl,-⟩
    · exact kept.regions channel region key other before
    · exact .inr ⟨rfl,rfl,live,inside,here.1.symm,here.2.1.symm⟩
  next => exact kept.regions channel region key other found

theorem retire_steady (s : Loop) (logout : Bool) (sound : Sound s) (live : Live s player) :
    Steady player s (addPlayerToFinalizingQueue player
      (sendIf env logout player (.cacheOnLogoutReq (s.contexts player).sessionId) s)) := by
  let marks : MasterPlayerContext → MasterPlayerContext := fun context => {context with finalizing := true}
  have context : (addPlayerToFinalizingQueue player (sendIf env logout player
      (.cacheOnLogoutReq (s.contexts player).sessionId) s)).contexts = (s.update player marks).contexts := by
    cases logout <;> rfl
  have own := (congrFun context player).trans (update_same s player marks)
  refine steady_context player s _ sound live ?_ ?_ ?_ ?_ (fun _ => ?_) (fun _ _ => ?_)
    (fun other member => ?_) (fun other different => ?_) ?_ ?_ ?_ (fun _ => ?_) (fun stays => ?_)
  · cases logout <;> rfl
  · cases logout <;> rfl
  · cases logout <;> rfl
  · cases logout <;> rfl
  · cases logout <;> rfl
  · cases logout <;> rfl
  · cases logout <;> simpa [addPlayerToFinalizingQueue,sendIf,send,Loop.update] using member
  · rw [context]
    exact update_other s player other marks different
  · rw [sessionOf,own,sessionOf]
  · rw [own]
  · rw [own]
  · rw [own]
  · rw [own]
    exact ⟨stays,rfl,rfl⟩

/-- The player's own region no longer lists him, and none else did. -/
theorem answer_steady (s : Loop) (next : PlayerState) (reached : reaches .onRegionLeaveReq player s = some next)
    (sound : Sound s) (live : Live s player) :
    Steady player s (deletePlayerFromRegionServerContext player (setState player next s)) := by
  have targets := leave_transition _ next reached
  have named := update_same s player fun context => {context with state := next}
  have context : (deletePlayerFromRegionServerContext player (setState player next s)).contexts player =
    {s.contexts player with state := next} := named
  refine {steady_refl player s sound live with
    others := fun other different =>
      update_other s player other (fun context => {context with state := next}) different
    sessionId := ?_
    accountName := ?_
    home := ?_
    gate := ?_
    regions := ?_}
  · rw [sessionOf,context,sessionOf]
  · rw [context]
  · rw [context]
    rcases targets with ⟨before,rfl⟩ | ⟨before,rfl⟩ <;> rw [before] <;> rfl
  · rw [context]
    exact fun _ => rfl
  · intro channel region key other found
    obtain ⟨before,spared⟩ := regionPlayers_drop player (setState player next s) channel region key other found
    by_cases same : other = player
    · subst other
      obtain ⟨⟨-,-,channels,servers⟩,keys⟩ := sound.regions channel region key player before
      refine absurd ⟨?_,?_,?_⟩ spared
      · rw [sessionOf,setState,named]
        exact keys.symm
      · rw [setState,named]
        exact channels.symm
      · rw [setState,named]
        exact servers.symm
    · exact .inl ⟨same,before⟩

theorem playerStep_steady (s t : Loop) (step : PlayerStep env guarded player s t) (sound : Sound s)
    (live : Live s player) : Steady player s t := by
  have kept := steady_refl player s sound live
  cases step with
  | note | say => exact {kept with}
  | count gate change same =>
    refine {kept with gates := fun other => ?_}
    rw [gatePlayers_updateGate]
    split
    next here =>
      subst here
      rw [gatePlayers]
      cases s.gateServerContext other with
      | some context => exact same context
      | none => rfl
    next => rfl
  | change change spared => exact change_steady player s change spared sound live
  | move event next plain reached =>
    have classes := plain_transition _ next event plain reached
    exact steady_state player s sound live next classes.home classes.inRegion
  | drop =>
    refine {kept with regions := ?_}
    intro channel region key other found
    exact kept.regions channel region key other
      (regionPlayers_drop player s channel region key other found).1
  | enter entered => exact enter_steady player s entered sound live
  | wait next active reached =>
    have classes := wait_home _ next reached
    exact steady_state player s sound live next classes.1 fun _ => classes.2
  | retire logout => exact retire_steady env player s logout sound live
  | login active asked =>
    have said : Steady player s (setState player .cacheLoginReq s) :=
      steady_state player s sound live .cacheLoginReq (by rw [asked]; rfl)
        (fun stays => by rw [asked] at stays; cases stays)
    exact {said with}
  | answer next reached => exact answer_steady player s next reached sound live

theorem live_same (s t : Loop) (pool : t.playerContextPool = s.playerContextPool) (other : Object) :
    Live t other ↔ Live s other := by
  rw [Live,pool,Live]

theorem steady_sound (s t : Loop) (steady : Steady player s t) (sound : Sound s)
    (live : Live s player) : Sound t := by
  have lives := live_same s t steady.pool
  have session : ∀ other, sessionOf t other = sessionOf s other := by
    intro other
    by_cases same : other = player
    · rw [same,steady.sessionId]
    · rw [sessionOf,steady.others other same,sessionOf]
  have name : ∀ other, (t.contexts other).accountName = (s.contexts other).accountName := by
    intro other
    by_cases same : other = player
    · rw [same,steady.accountName]
    · rw [steady.others other same]
  have place : ∀ other, home (t.contexts other).state = home (s.contexts other).state := by
    intro other
    by_cases same : other = player
    · rw [same,steady.home]
    · rw [steady.others other same]
  have atGate : ∀ gate other, AtGate gate t other ↔ AtGate gate s other := by
    intro gate other
    rw [AtGate,AtGate,lives other,place other]
    by_cases same : other = player
    · subst other
      constructor
      · rintro ⟨alive,here,own⟩
        exact ⟨alive,here,(steady.gate here).symm.trans own⟩
      · rintro ⟨alive,here,own⟩
        exact ⟨alive,here,(steady.gate here).trans own⟩
    · rw [steady.others other same]
  constructor
  · constructor
    · rw [steady.byName]
      exact indexes_congr sound.byName lives fun other _ => name other
    · rw [steady.bySessionId]
      exact indexes_congr sound.bySessionId lives fun other _ => session other
    · rw [steady.login]
      refine indexes_congr sound.login (fun other => ?_) fun other _ => session other
      rw [AtLogin,AtLogin,lives other,place other]
    · intro gate
      rw [steady.gates]
      exact indexes_congr (sound.gates gate) (atGate gate) fun other _ => session other
    · intro channel region key other found
      rcases steady.regions channel region key other found with ⟨different,before⟩ | ⟨rfl,keys,here⟩
      · obtain ⟨⟨alive,inside⟩,keys⟩ := sound.regions channel region key other before
        refine ⟨⟨(lives other).mpr alive,?_⟩,(session other).trans keys⟩
        rw [steady.others other different]
        exact inside
      · exact ⟨here,keys⟩
    · intro other alive
      rw [place]
      exact sound.placed other ((lives other).mp alive)
  · rw [steady.pool]
    exact sound.pool
  · intro other dead
    have different : other ≠ player := by
      rintro rfl
      exact dead ((lives other).mpr live)
    rw [steady.others other different]
    exact sound.cleared other fun alive => dead ((lives other).mpr alive)
  · intro other member
    rcases steady.queue other member with before | rfl
    · exact (lives other).mpr (sound.queued other before)
    · exact (lives other).mpr live
  · intro gate other here
    exact sound.inside gate other ((atGate gate other).mp here)

structure SameKeys (s t : Loop) : Prop where
  pool : t.playerContextPool = s.playerContextPool
  byName : t.playerContextByName = s.playerContextByName
  bySessionId : t.playerContextBySessionId = s.playerContextBySessionId
  configured : ∀ gate, (t.gateServerContext gate).isSome = (s.gateServerContext gate).isSome

theorem playerStep_configured (s t : Loop) (step : PlayerStep env guarded player s t) (gate : UInt8) :
    (t.gateServerContext gate).isSome = (s.gateServerContext gate).isSome := by
  cases step with
  | count other change =>
    rw [updateGate]
    dsimp only
    by_cases same : gate = other
    · rw [same,Function.update_self,Option.isSome_map]
    · rw [Function.update_of_ne same]
  | retire leaves => cases leaves <;> rfl
  | _ => rfl

theorem does_sound (s t : Loop) (does : Does env guarded player s t) (sound : Sound s)
    (live : Live s player) : Sound t ∧ SameKeys s t := by
  induction does with
  | refl => exact ⟨sound,rfl,rfl,rfl,fun _ => rfl⟩
  | tail _ step ih =>
    obtain ⟨before,keys⟩ := ih
    have alive := (live_same s _ keys.pool player).mpr live
    have steady := playerStep_steady env guarded player _ _ step before alive
    refine ⟨steady_sound player _ _ steady before alive,steady.pool.trans keys.pool,
      steady.byName.trans keys.byName,steady.bySessionId.trans keys.bySessionId,fun gate => ?_⟩
    rw [playerStep_configured env guarded player _ _ step gate,keys.configured gate]

structure Switched (gate : UInt8) (gateSessionId : UInt32) (s t : Loop) : Prop where
  contexts : t.contexts = Function.update s.contexts player
    {s.contexts player with state := .gateAllocNtf, sessionId := gateSessionId}
  pool : t.playerContextPool = s.playerContextPool
  byName : t.playerContextByName = s.playerContextByName
  bySessionId : t.playerContextBySessionId =
    insert gateSessionId player (erase (sessionOf s player) s.playerContextBySessionId)
  login : loginPlayers t = erase (sessionOf s player) (loginPlayers s)
  gates : ∀ other, gatePlayers other t =
    if other = gate then insert gateSessionId player (gatePlayers gate s) else gatePlayers other s
  regions : ∀ channel region, regionPlayers channel region t = regionPlayers channel region s
  queue : t.finalizingQueue = s.finalizingQueue

theorem switch_switched (s : Loop) (gate : UInt8) (gateSessionId : UInt32) (sound : Sound s)
    (live : Live s player) (configured : (s.gateServerContext gate).isSome = true)
    (top : serverId gateSessionId = gate) :
    Switched player gate gateSessionId s (loginSession2GateSession player (sessionOf s player)
      gateSessionId (setState player .gateAllocNtf s)) := by
  have found : find (sessionOf s player) s.playerContextBySessionId = some player :=
    indexes_found sound.bySessionId player live
  obtain ⟨context,here⟩ := Option.isSome_iff_exists.mp configured
  rw [loginSession2GateSession,top]
  simp only [setState,Loop.update,here,updateGate,found,Option.isSome_some,if_true]
  refine ⟨?_,rfl,rfl,rfl,rfl,fun other => ?_,fun _ _ => rfl,rfl⟩
  · simp only [Function.update_idem,Function.update_self]
  · rw [gatePlayers]
    by_cases same : other = gate
    · rw [if_pos same,same,gatePlayers,here]
      dsimp only
      rw [Function.update_self]
      rfl
    · rw [if_neg same,gatePlayers]
      dsimp only
      rw [Function.update_of_ne same]

section
variable {player} {s t : Loop} {gate : UInt8} {gateSessionId : UInt32}

theorem Switched.context (switched : Switched player gate gateSessionId s t) : t.contexts player =
    {s.contexts player with state := .gateAllocNtf, sessionId := gateSessionId} := by
  rw [switched.contexts,Function.update_self]

theorem Switched.session (switched : Switched player gate gateSessionId s t) :
    sessionOf t player = gateSessionId := by
  rw [sessionOf,switched.context]

theorem Switched.other (switched : Switched player gate gateSessionId s t) (other : Object)
    (different : other ≠ player) : t.contexts other = s.contexts other := by
  rw [switched.contexts,Function.update_of_ne different]

theorem Switched.sessions (switched : Switched player gate gateSessionId s t) (other : Object)
    (different : other ≠ player) : sessionOf t other = sessionOf s other := by
  rw [sessionOf,switched.other other different,sessionOf]

theorem asked_away (state : (s.contexts player).state = .gateAllocAck) (other : UInt8) :
    ¬ AtGate other s player := by
  intro here
  have place := here.2.1
  rw [state] at place
  cases place

theorem switched_name (switched : Switched player gate gateSessionId s t) (other : Object) :
    (t.contexts other).accountName = (s.contexts other).accountName := by
  by_cases same : other = player
  · rw [same,switched.context]
  · rw [switched.other other same]

theorem switched_bySessionId (switched : Switched player gate gateSessionId s t) (sound : Sound s)
    (live : Live s player)
    (fresh : gateSessionId = sessionOf s player ∨ find gateSessionId s.playerContextBySessionId = none) :
    Indexes t.playerContextBySessionId (Live t) (sessionOf t) := by
  have erased : Indexes (erase (sessionOf s player) s.playerContextBySessionId)
      (fun other => Live s other ∧ other ≠ player) (sessionOf s) :=
    indexes_erase sound.bySessionId player live (fun _ => Iff.rfl) fun _ _ => rfl
  rw [switched.bySessionId]
  refine indexes_insert erased gateSessionId player ?_ (by simp) (fun other => ?_) switched.session switched.sessions
  · rw [find_erase]
    split
    · rfl
    next different => exact fresh.resolve_left different
  · rw [live_same s t switched.pool other]
    by_cases same : other = player
    · simp [same,live]
    · simp [same]

theorem switched_login (switched : Switched player gate gateSessionId s t) (sound : Sound s) (live : Live s player)
    (state : (s.contexts player).state = .gateAllocAck) : Indexes (loginPlayers t) (AtLogin t) (sessionOf t) := by
  have atLogin : AtLogin s player := ⟨live,by rw [state]; rfl⟩
  rw [switched.login]
  refine indexes_erase sound.login player atLogin (fun other => ?_) switched.sessions
  rw [AtLogin,AtLogin,live_same s t switched.pool other]
  by_cases same : other = player
  · simp [same,switched.context,home,deletePlace]
  · simp [same,switched.other other same]

/-- The gate has nobody under the session. -/
theorem switched_nobody (sound : Sound s) (live : Live s player)
    (state : (s.contexts player).state = .gateAllocAck)
    (fresh : gateSessionId = sessionOf s player ∨ find gateSessionId s.playerContextBySessionId = none)
    (other : Object) : find gateSessionId (gatePlayers gate s) ≠ some other := by
  intro found
  obtain ⟨here,keys⟩ := (sound.gates gate gateSessionId other).mp found
  rcases fresh with same | unused
  · have twin : other = player :=
      indexes_unique sound.bySessionId other player here.1 live (keys.trans same)
    rw [twin] at here
    exact asked_away state gate here
  · have listed := indexes_found sound.bySessionId other here.1
    rw [keys,unused] at listed
    cases listed

theorem switched_gates (switched : Switched player gate gateSessionId s t) (sound : Sound s) (live : Live s player)
    (state : (s.contexts player).state = .gateAllocAck) (own : (s.contexts player).gateServerId = gate)
    (fresh : gateSessionId = sessionOf s player ∨ find gateSessionId s.playerContextBySessionId = none)
    (other : UInt8) : Indexes (gatePlayers other t) (AtGate other t) (sessionOf t) := by
  have lives := live_same s t switched.pool
  rw [switched.gates]
  split
  next here =>
    subst here
    refine indexes_insert (sound.gates other) gateSessionId player
      (Option.eq_none_iff_forall_ne_some.mpr (switched_nobody sound live state fresh)) (asked_away state other)
      (fun one => ?_) switched.session switched.sessions
    rw [AtGate,AtGate,lives one]
    by_cases same : one = player
    · simp [same,switched.context,home,deletePlace,own,live]
    · simp [same,switched.other one same]
  next different =>
    refine indexes_congr (sound.gates other) (fun one => ?_) fun one here => ?_
    · rw [AtGate,AtGate,lives one]
      by_cases same : one = player
      · simp [same,switched.context,own,Ne.symm different]
      · simp [switched.other one same]
    · refine switched.sessions one ?_
      rintro rfl
      exact asked_away state other here

theorem switched_regions (switched : Switched player gate gateSessionId s t) (sound : Sound s)
    (state : (s.contexts player).state = .gateAllocAck) (channel region : UInt8) :
    Lists (regionPlayers channel region t) (AtRegion channel region t) (sessionOf t) := by
  intro key other found
  rw [switched.regions] at found
  obtain ⟨⟨alive,inside⟩,keys⟩ := sound.regions channel region key other found
  have different : other ≠ player := by
    rintro rfl
    have stays := inside.1
    rw [state] at stays
    cases stays
  refine ⟨⟨(live_same s t switched.pool other).mpr alive,?_⟩,(switched.sessions other different).trans keys⟩
  rw [switched.other other different]
  exact inside

end

theorem switch_sound (s t : Loop) (gate : UInt8) (gateSessionId : UInt32)
    (switched : Switched player gate gateSessionId s t) (sound : Sound s) (live : Live s player)
    (state : (s.contexts player).state = .gateAllocAck) (own : (s.contexts player).gateServerId = gate)
    (small : gate.toNat < serverCountMax) (fresh : gateSessionId = sessionOf s player ∨
      find gateSessionId s.playerContextBySessionId = none) : Sound t := by
  have lives := live_same s t switched.pool
  constructor
  · constructor
    · rw [switched.byName]
      exact indexes_congr sound.byName lives fun other _ => switched_name switched other
    · exact switched_bySessionId switched sound live fresh
    · exact switched_login switched sound live state
    · exact switched_gates switched sound live state own fresh
    · exact switched_regions switched sound state
    · intro other alive
      by_cases same : other = player
      · rw [same,switched.context]
        simp [home,deletePlace]
      · rw [switched.other other same]
        exact sound.placed other ((lives other).mp alive)
  · rw [switched.pool]
    exact sound.pool
  · intro other dead
    have different : other ≠ player := by
      rintro rfl
      exact dead ((lives other).mpr live)
    rw [switched.other other different]
    exact sound.cleared other fun alive => dead ((lives other).mpr alive)
  · intro other member
    rw [switched.queue] at member
    exact (lives other).mpr (sound.queued other member)
  · intro other one here
    by_cases same : one = player
    · have here := here.2.2
      rw [same,switched.context] at here
      rw [← here,own]
      exact small
    · rw [AtGate,lives one,switched.other one same] at here
      exact sound.inside other one here

structure Joined (sessionId : UInt32) (accountName : WString) (s t : Loop) : Prop where
  contexts : ∃ context : MasterPlayerContext, t.contexts = Function.update s.contexts player context ∧
    context.sessionId = sessionId ∧ context.accountName = accountName ∧ context.state = .onLoginReq
  allocated : s.playerContextPool.allocate = (some player,t.playerContextPool)
  byName : t.playerContextByName = insert accountName player s.playerContextByName
  bySessionId : t.playerContextBySessionId = insert sessionId player s.playerContextBySessionId
  login : loginPlayers t = insert sessionId player (loginPlayers s)
  gates : ∀ gate, gatePlayers gate t = gatePlayers gate s
  regions : ∀ channel region, regionPlayers channel region t = regionPlayers channel region s
  queue : t.finalizingQueue = s.finalizingQueue

theorem joined_sound (s t : Loop) (sessionId : UInt32) (accountName : WString)
    (joined : Joined player sessionId accountName s t) (sound : Sound s)
    (newName : find accountName s.playerContextByName = none)
    (newSession : find sessionId s.playerContextBySessionId = none) : Sound t ∧ Live t player := by
  obtain ⟨context,contexts,session,name,state⟩ := joined.contexts
  obtain ⟨pool,unheld,held⟩ := allocate_sound _ _ _ sound.pool joined.allocated
  have dead : ¬ Live s player := unheld
  have lives : ∀ other, Live t other ↔ Live s other ∨ other = player := held
  have own : t.contexts player = context := by rw [contexts,Function.update_self]
  have others : ∀ other, other ≠ player → t.contexts other = s.contexts other := by
    intro other different
    rw [contexts,Function.update_of_ne different]
  have sessions : ∀ other, other ≠ player → sessionOf t other = sessionOf s other := by
    intro other different
    rw [sessionOf,others other different,sessionOf]
  have ownSession : sessionOf t player = sessionId := by rw [sessionOf,own,session]
  have nobody : ∀ other, find sessionId (loginPlayers s) ≠ some other := by
    intro other found
    obtain ⟨here,keys⟩ := (sound.login sessionId other).mp found
    have listed := indexes_found sound.bySessionId other here.1
    rw [keys,newSession] at listed
    cases listed
  refine ⟨⟨⟨?_,?_,?_,fun gate => ?_,fun channel region => ?_,fun other alive => ?_⟩,pool,
    fun other gone => ?_,fun other member => ?_,fun gate one here => ?_⟩,(lives player).mpr (.inr rfl)⟩
  · rw [joined.byName]
    refine indexes_insert sound.byName accountName player newName dead lives (by rw [own,name])
      fun other different => by rw [others other different]
  · rw [joined.bySessionId]
    exact indexes_insert sound.bySessionId sessionId player newSession dead lives ownSession sessions
  · rw [joined.login]
    refine indexes_insert sound.login sessionId player (Option.eq_none_iff_forall_ne_some.mpr nobody)
      (fun here => dead here.1) (fun other => ?_) ownSession sessions
    rw [AtLogin,AtLogin,lives other]
    by_cases same : other = player
    · simp [same,own,state,home,deletePlace]
    · simp [same,others other same]
  · rw [joined.gates]
    refine indexes_congr (sound.gates gate) (fun other => ?_) fun other here => sessions other ?_
    · rw [AtGate,AtGate,lives other]
      by_cases same : other = player
      · simp [same,own,state,home,deletePlace,dead]
      · simp [same,others other same]
    · rintro rfl
      exact dead here.1
  · intro key other found
    rw [joined.regions] at found
    obtain ⟨⟨alive,inside⟩,keys⟩ := sound.regions channel region key other found
    have different : other ≠ player := by
      rintro rfl
      exact dead alive
    refine ⟨⟨(lives other).mpr (.inl alive),?_⟩,(sessions other different).trans keys⟩
    rw [others other different]
    exact inside
  · by_cases same : other = player
    · rw [same,own,state]
      simp [home,deletePlace]
    · rw [others other same]
      exact sound.placed other (((lives other).mp alive).resolve_right same)
  · have different : other ≠ player := by
      rintro rfl
      exact gone ((lives other).mpr (.inr rfl))
    rw [others other different]
    exact sound.cleared other fun alive => gone ((lives other).mpr (.inl alive))
  · rw [joined.queue] at member
    exact (lives other).mpr (.inl (sound.queued other member))
  · by_cases same : one = player
    · have place := here.2.1
      rw [same,own,state] at place
      cases place
    · rw [AtGate,lives one,others one same] at here
      exact sound.inside gate one ⟨here.1.resolve_right same,here.2⟩

theorem inRegion_deletes (state : PlayerState) (inside : inRegion state = true) :
    deletesFromRegion state = true := by
  cases state <;> first | rfl | cases inside

theorem deletePlace_home (state : PlayerState) (other : state ≠ .gateAllocAck) :
    deletePlace state = home state := by
  cases state <;> first | rfl | exact absurd rfl other

/-- DeletePlayer takes a live player out of every index, unless he waits for the switch to
his gate. -/
theorem deleted_sound (s t : Loop) (deleted : Deleted player s t) (sound : Sound s)
    (live : Live s player) (settled : (s.contexts player).state ≠ .gateAllocAck) :
    Sound {t with finalizingQueue := []} := by
  obtain ⟨pool,held⟩ := release_sound _ player sound.pool live
  rw [← deleted.pool] at pool held
  have lives : ∀ other, Live t other ↔ Live s other ∧ other ≠ player := held
  have place := deletePlace_home _ settled
  have others : ∀ other, other ≠ player → t.contexts other = s.contexts other := by
    intro other different
    rw [deleted.contexts,Function.update_of_ne different]
  have sessions : ∀ other, other ≠ player → sessionOf t other = sessionOf s other := by
    intro other different
    rw [sessionOf,others other different,sessionOf]
  have atLogin : ∀ other, AtLogin t other ↔ AtLogin s other ∧ other ≠ player := by
    intro other
    rw [AtLogin,AtLogin,lives other]
    by_cases same : other = player
    · simp [same]
    · simp [same,others other same]
  have atGate : ∀ gate other, AtGate gate t other ↔ AtGate gate s other ∧ other ≠ player := by
    intro gate other
    rw [AtGate,AtGate,lives other]
    by_cases same : other = player
    · simp [same]
    · simp [same,others other same]
  have away {belongs : Object → Prop} (absent : ¬ belongs player) (other : Object) :
      belongs other ∧ other ≠ player ↔ belongs other :=
    ⟨And.left,fun member => ⟨member,fun same => absent (same ▸ member)⟩⟩
  have forgotten : Agree t := by
    refine ⟨?_,?_,?_,fun gate => ?_,fun channel region key other found => ?_,fun other alive => ?_⟩
    · rw [deleted.byName]
      exact indexes_erase sound.byName player live lives fun other different => by
        rw [others other different]
    · rw [deleted.bySessionId]
      exact indexes_erase sound.bySessionId player live lives sessions
    · rw [deleted.login]
      split
      next here =>
        exact indexes_erase sound.login player ⟨live,place.symm.trans here⟩ atLogin sessions
      next elsewhere =>
        have absent : ¬ AtLogin s player := fun here => elsewhere (place.trans here.2)
        refine indexes_congr sound.login (fun other => (atLogin other).trans (away absent other))
          fun other here => sessions other ?_
        rintro rfl
        exact absent here
    · rw [deleted.gates]
      split
      next here =>
        refine indexes_erase (sound.gates gate) player ⟨live,place.symm.trans here.1,here.2.1.symm⟩
          (atGate gate) sessions
      next elsewhere =>
        have absent : ¬ AtGate gate s player := fun here =>
          elsewhere ⟨place.trans here.2.1,here.2.2.symm,sound.inside gate player here⟩
        refine indexes_congr (sound.gates gate) (fun other => (atGate gate other).trans (away absent other))
          fun other here => sessions other ?_
        rintro rfl
        exact absent here
    · rw [deleted.regions] at found
      have before : find key (regionPlayers channel region s) = some other := by
        split at found
        · exact (find_erase_elim _ key other _ found).2
        · exact found
      obtain ⟨⟨alive,inside,channels,servers⟩,keys⟩ := sound.regions channel region key other before
      have different : other ≠ player := by
        rintro rfl
        rw [if_pos] at found
        · exact (find_erase_elim _ key other _ found).1 keys.symm
        · refine ⟨inRegion_deletes _ inside,channels.symm,servers.symm,?_⟩
          cases context : s.channelContext channel with
          | some context => rfl
          | none =>
            rw [regionPlayers,context] at before
            simp at before
      refine ⟨⟨(lives other).mpr ⟨alive,different⟩,?_⟩,(sessions other different).trans keys⟩
      rw [others other different]
      exact ⟨inside,channels,servers⟩
    · obtain ⟨before,different⟩ := (lives other).mp alive
      rw [others other different]
      exact sound.placed other before
  refine ⟨⟨forgotten.byName,forgotten.bySessionId,forgotten.login,forgotten.gates,forgotten.regions,
    forgotten.placed⟩,pool,fun other gone => ?_,by simp,fun gate one here => ?_⟩
  · change t.contexts other = .clear
    by_cases same : other = player
    · rw [same,deleted.contexts,Function.update_self]
    · rw [others other same]
      exact sound.cleared other fun alive => gone ((lives other).mpr ⟨alive,same⟩)
  · exact sound.inside gate one ((atGate gate one).mp here).1

end

end Fantuan.MasterServer.Indexes
