import Fantuan.Lib.Run
import Fantuan.MasterServer.Indexes

/-! The indexes over whole runs. They agree as long as new sessions are new, a gate's
answer names a session of that gate, and no pass finds two players to delete or one
whose switch to the gate failed.
-/
namespace Fantuan.MasterServer.IndexRuns
open Lib.Table Lib.Index Lib.Run Lib.Drain StarNet.Packet ServerBase.ServerCommon
open Tool.ObjectPool PlayerFsm Context ServerLoop Player Commands Deletion PlayerSteps Handlers Indexes

instance (env : Env) (player : Object) (gate : UInt8) (s : Loop) :
    Decidable (Switches env player gate s) :=
  decidable_of_iff (gate ≠ 0 ∧ (s.contexts player).state = .gateAllocReq ∧
    (env.config.getGateConfigItem gate).isSome = true ∧ env.net s.log.length = true ∧
    env.net (s.log.length + 1) = true)
    ⟨fun ⟨a,b,c,d,e⟩ => ⟨a,b,c,d,e⟩,fun ⟨a,b,c,d,e⟩ => ⟨a,b,c,d,e⟩⟩

/-- An accepted login has a new session; a gate that takes a player names a session of its
own, which is new unless it is the player's. -/
def OrderlyCommand (env : Env) (s : Loop) : Command → Prop
  | .onLoginReq sessionId accountName =>
    s.loginServerContext.isConnected = true → find accountName s.playerContextByName = none →
      s.playerContextPool.allocate.1.isSome = true → find sessionId s.playerContextBySessionId = none
  | .gateAllocAck gate loginSessionId accountName gateSessionId =>
    ∀ player ∈ find accountName s.playerContextByName, sessionOf s player = loginSessionId →
      Switches env player gate s → serverId gateSessionId = gate ∧
        gate.toNat < serverCountMax ∧ (s.gateServerContext gate).isSome = true ∧
        (gateSessionId = loginSessionId ∨ find gateSessionId s.playerContextBySessionId = none)
  | _ => True

def Orderly (env : Env) (s : Loop) : Action → Prop
  | .command command => s.shutdownStatus = .notShutdown → OrderlyCommand env s command
  | .pass => s.finalizingQueue.length ≤ 1 ∧
      ∀ player ∈ s.finalizingQueue, (s.contexts player).state ≠ .gateAllocAck

instance (env : Env) (s : Loop) : DecidablePred (OrderlyCommand env s)
  | .onLoginReq _ _ => inferInstanceAs (Decidable (_ → _ → _ → _ = _))
  | .gateAllocAck _ _ _ _ => inferInstanceAs (Decidable (∀ player ∈ find _ _, _ → _ → _ ∧ _ ∧ _ ∧ (_ ∨ _)))
  | .shutdown | .onLoginReport _ | .onGateReport _ _ | .onGateLoginReq _ | .onRegionAllocAck _ _ _
  | .onRegionLeaveReq _ | .onRegionPlayerFailReq _ | .onSessionDisconnect _ | .packetForward _ _ _
  | .other => inferInstanceAs (Decidable True)

instance (env : Env) (s : Loop) : DecidablePred (Orderly env s)
  | .command _ => inferInstanceAs (Decidable (_ → _))
  | .pass => inferInstanceAs (Decidable (_ ∧ ∀ player ∈ _, _))

structure SameIndexes (s t : Loop) : Prop where
  contexts : t.contexts = s.contexts
  pool : t.playerContextPool = s.playerContextPool
  byName : t.playerContextByName = s.playerContextByName
  bySessionId : t.playerContextBySessionId = s.playerContextBySessionId
  login : loginPlayers t = loginPlayers s
  gates : ∀ gate, gatePlayers gate t = gatePlayers gate s
  regions : ∀ channel region, regionPlayers channel region t = regionPlayers channel region s
  queue : t.finalizingQueue = s.finalizingQueue

section
variable (env : Env)

theorem same_sound (s t : Loop) (same : SameIndexes s t) (sound : Sound s) : Sound t := by
  obtain ⟨⟨byName,bySessionId,login,gates,regions,placed⟩,pool,cleared,queued,inside⟩ := sound
  have lives : Live t = Live s := funext fun other => propext (live_same s t same.pool other)
  have atLogin : AtLogin t = AtLogin s := by
    funext other
    rw [AtLogin,AtLogin,lives,same.contexts]
  have atGate : ∀ gate, AtGate gate t = AtGate gate s := by
    intro gate
    funext other
    rw [AtGate,AtGate,lives,same.contexts]
  have atRegion : ∀ channel region, AtRegion channel region t = AtRegion channel region s := by
    intro channel region
    funext other
    rw [AtRegion,AtRegion,lives,same.contexts]
  have sessions : sessionOf t = sessionOf s := by
    funext other
    rw [sessionOf,sessionOf,same.contexts]
  refine ⟨⟨?_,?_,?_,fun gate => ?_,fun channel region => ?_,?_⟩,?_,?_,?_,fun gate => ?_⟩
  · rw [same.byName,lives,same.contexts]
    exact byName
  · rw [same.bySessionId,lives,sessions]
    exact bySessionId
  · rw [same.login,atLogin,sessions]
    exact login
  · rw [same.gates,atGate,sessions]
    exact gates gate
  · rw [same.regions,atRegion,sessions]
    exact regions channel region
  · rw [lives,same.contexts]
    exact placed
  · rw [same.pool]
    exact pool
  · rw [lives,same.contexts]
    exact cleared
  · rw [same.queue,lives]
    exact queued
  · rw [atGate]
    exact inside gate

theorem forSession_sound (s : Loop) (sessionId : UInt32) (handle : Object → Loop → Loop)
    (sound : Sound s) (does : ∀ player, Does env False player s (handle player s)) :
    Sound (forSession sessionId handle s) := by
  rw [forSession]
  split
  next player found =>
    have live := ((sound.bySessionId sessionId player).mp found).1
    exact (does_sound env False player s _ (does player) sound live).1
  next => exact sound

theorem free_open (s : Loop) (player : Object) (running : s.shutdownStatus ≠ .readyForShutdown) :
    Open False player s := ⟨False.elim,running⟩

theorem shutdowns_sound (players : List Object) (s : Loop)
    (running : s.shutdownStatus ≠ .readyForShutdown) (live : ∀ player ∈ players, Live s player)
    (sound : Sound s) :
    Sound (players.foldl (fun s player => shutdownPlayer env player s) s) := by
  induction players generalizing s with
  | nil => exact sound
  | cons player players ih =>
    have does := shutdownPlayer_does env False player s (free_open s player running)
    obtain ⟨after,keys⟩ := does_sound env False player s _ does sound (live player List.mem_cons_self)
    rw [List.foldl_cons]
    refine ih _ ?_ (fun other member => ?_) after
    · rw [does_status env False player s _ does]
      exact running
    · exact (live_same s _ keys.pool other).mpr (live other (List.mem_cons_of_mem player member))

theorem onCommandShutdown_sound (s : Loop) (sound : Sound s) : Sound (onCommandShutdown env s) := by
  have started : Sound {s with shutdownStatus := .startShutdown} :=
    same_sound s _ ⟨rfl,rfl,rfl,rfl,rfl,fun _ => rfl,fun _ _ => rfl,rfl⟩ sound
  rw [onCommandShutdown]
  refine shutdowns_sound env _ _ (by simp) (fun player member => ?_) started
  obtain ⟨name,found⟩ := (mem_values _ _).mp member
  exact ((sound.byName name player).mp found).1

theorem onCommandOnLoginReq_sound (s : Loop) (sessionId : UInt32) (accountName : WString)
    (running : s.shutdownStatus ≠ .readyForShutdown)
    (orderly : OrderlyCommand env s (.onLoginReq sessionId accountName)) (sound : Sound s) :
    Sound (onCommandOnLoginReq env sessionId accountName s) := by
  have told (message : Message) : Sound (send env none message s) :=
    same_sound s _ ⟨rfl,rfl,rfl,rfl,rfl,fun _ => rfl,fun _ _ => rfl,rfl⟩ sound
  rw [onCommandOnLoginReq]
  cases connected : s.loginServerContext.isConnected with
  | false => exact told _
  | true =>
    rw [Bool.not_true,if_neg Bool.false_ne_true]
    cases found : find accountName s.playerContextByName with
    | some player =>
      have live : Live s player := ((sound.byName accountName player).mp found).1
      let refused := send env none (.onLoginFailedAck sessionId 2) s
      exact (does_sound env False player refused _ (shutdownPlayer_does env False player refused
        (free_open refused player running)) (told _) live).1
    | none =>
      cases allocated : s.playerContextPool.allocate with
      | mk taken pool =>
        cases taken with
        | none => exact told _
        | some player =>
          have fresh := orderly connected found (by rw [allocated]; rfl)
          have dead : ¬ Live s player := (allocate_sound _ _ _ sound.pool allocated).2.1
          dsimp only
          generalize placed : ({s with
            playerContextPool := pool
            playerContextByName := insert accountName player s.playerContextByName
            playerContextBySessionId := insert sessionId player s.playerContextBySessionId
            loginServerContext := {s.loginServerContext with
              players := insert sessionId player s.loginServerContext.players}
            log := .allocated player :: s.log} : Loop) = t
          have contexts : t.contexts = s.contexts := by rw [← placed]
          have state : (t.contexts player).state = .none := by
            rw [contexts,sound.cleared player dead]
            rfl
          have status : t.shutdownStatus ≠ .readyForShutdown := by rw [← placed]; exact running
          have joined : Joined player sessionId accountName s (named player sessionId accountName t) := by
            rw [← placed]
            refine ⟨⟨{s.contexts player with
              sessionId := sessionId, accountName := accountName, state := .onLoginReq},?_,rfl,rfl,rfl⟩,
              allocated,rfl,rfl,rfl,fun _ => rfl,fun _ _ => rfl,rfl⟩
            simp only [named,setState,Loop.update,Function.update_idem,Function.update_self]
          obtain ⟨joins,live⟩ := joined_sound player s _ sessionId accountName joined sound found fresh
          have does := onLoginReq_does env False player t sessionId accountName state status
          exact (does_sound env False player _ _ does joins live).1

theorem onCommandGateAllocAck_sound (s : Loop) (gate : UInt8) (loginSessionId : UInt32)
    (accountName : WString) (gateSessionId : UInt32) (running : s.shutdownStatus ≠ .readyForShutdown)
    (orderly : OrderlyCommand env s (.gateAllocAck gate loginSessionId accountName gateSessionId))
    (sound : Sound s) :
    Sound (onCommandGateAllocAck env gate loginSessionId accountName gateSessionId s) := by
  rw [onCommandGateAllocAck]
  split
  next player found =>
    have live := ((sound.byName accountName player).mp found).1
    split
    next same =>
      rcases gateAllocAck_does env False player s gate gateSessionId (free_open s player running) with
        does | ⟨switches,t,does,context,switched⟩
      · exact (does_sound env False player s _ does sound live).1
      · obtain ⟨top,small,configured,fresh⟩ := orderly player found same switches
        obtain ⟨after,keys⟩ := does_sound env False player s t does sound live
        have alive := (live_same s t keys.pool player).mpr live
        have session : sessionOf t player = (s.contexts player).sessionId := by
          rw [sessionOf,context]
        rw [switched,← session]
        have frame := switch_switched player t gate gateSessionId after alive
          (by rw [keys.configured]; exact configured) top
        refine switch_sound player t _ gate gateSessionId frame after alive (by rw [context])
          (by rw [context]) small ?_
        rw [session,same,keys.bySessionId]
        exact fresh
    next => exact sound
  next => exact sound

theorem onCommand_sound (s : Loop) (command : Command) (orderly : Orderly env s (.command command))
    (sound : Sound s) : Sound (onCommand env command s) := by
  unfold onCommand
  split
  · exact sound
  next opened =>
    have opened : s.shutdownStatus = .notShutdown := by simpa using opened
    have running : s.shutdownStatus ≠ .readyForShutdown := by rw [opened]; simp
    cases command with
    | shutdown => exact onCommandShutdown_sound env s sound
    | onLoginReport => exact same_sound s _ ⟨rfl,rfl,rfl,rfl,rfl,fun _ => rfl,fun _ _ => rfl,rfl⟩ sound
    | onGateReport serverId sessionCount =>
      dsimp only [onCommandOnGateReport]
      split
      · exact same_sound s _ ⟨rfl,rfl,rfl,rfl,rfl,fun _ => rfl,fun _ _ => rfl,rfl⟩ sound
      · refine same_sound s _ ⟨rfl,rfl,rfl,rfl,rfl,fun gate => ?_,fun _ _ => rfl,rfl⟩ sound
        rw [gatePlayers_updateGate]
        split
        next here =>
          subst here
          rfl
        next => rfl
    | onLoginReq sessionId accountName =>
      exact onCommandOnLoginReq_sound env s sessionId accountName running (orderly opened) sound
    | gateAllocAck gate loginSessionId accountName gateSessionId =>
      exact onCommandGateAllocAck_sound env s gate loginSessionId accountName gateSessionId running
        (orderly opened) sound
    | onGateLoginReq sessionId =>
      exact forSession_sound env s sessionId _ sound fun player =>
        onGateLoginReq_does env False player s (free_open s player running)
    | onRegionAllocAck sessionId region result =>
      exact forSession_sound env s sessionId _ sound fun player =>
        onRegionAllocAck_does env False player s region result (free_open s player running)
    | onRegionLeaveReq sessionId =>
      exact forSession_sound env s sessionId _ sound fun player =>
        onRegionLeaveReq_does env False player s running
    | onRegionPlayerFailReq sessionId =>
      exact forSession_sound env s sessionId _ sound fun player =>
        onRegionPlayerFailReq_does env False player s
    | onSessionDisconnect sessionId =>
      exact forSession_sound env s sessionId _ sound fun player =>
        shutdownPlayer_does env False player s (free_open s player running)
    | packetForward sessionId typeId data =>
      refine forSession_sound env s sessionId _ sound fun player => ?_
      have delayed : Does env False player s (delaySendData typeId data s) :=
        .single (.note s (.received typeId data) (s.undefined || maxInputBuffer < data.length))
      exact delayed.trans (handlePacket_does env False player (delaySendData typeId data s) _
        (free_open _ player running))
    | other => exact sound

theorem loopPass_sound (s : Loop) (orderly : Orderly env s .pass) (sound : Sound s) :
    Sound (loopPass s) := by
  obtain ⟨short,settled⟩ := orderly
  have drained : Sound (deleteFinalizing s) := by
    rw [deleteFinalizing]
    match queue : s.finalizingQueue with
    | [] =>
      exact same_sound s _ ⟨rfl,rfl,rfl,rfl,rfl,fun _ => rfl,fun _ _ => rfl,queue.symm⟩ sound
    | [player] =>
      have member : player ∈ s.finalizingQueue := by simp [queue]
      rw [drainBack_singleton]
      exact deleted_sound player s _ (deletePlayer_deleted player s) sound (sound.queued player member)
        (settled player member)
    | _ :: _ :: _ => simp [queue] at short
  rw [loopPass]
  split
  · exact same_sound (deleteFinalizing s) _
      ⟨rfl,rfl,rfl,rfl,rfl,fun _ => rfl,fun _ _ => rfl,rfl⟩ drained
  · exact drained

theorem init_sound (config : MasterServerConfig) : Sound (.init config) := by
  obtain ⟨core,login,gates,regions⟩ := init_unused config
  have dead : ∀ player, ¬ Live (.init config) player := by
    intro player
    rw [Live,core.pool]
    exact new_held playerContextMax player
  refine ⟨⟨?_,?_,?_,fun gate => ?_,fun channel region key other found => ?_,
    fun other alive => absurd alive (dead other)⟩,?_,fun other _ => ?_,fun other member => ?_,
    fun gate other here => absurd here.1 (dead other)⟩
  · rw [core.byName]
    exact indexes_empty dead
  · rw [core.bySessionId]
    exact indexes_empty dead
  · rw [login]
    exact indexes_empty fun other here => dead other here.1
  · rw [gates]
    exact indexes_empty fun other here => dead other here.1
  · rw [regions] at found
    simp at found
  · rw [core.pool]
    exact new_sound playerContextMax
  · rw [core.contexts]
    rfl
  · rw [core.queue] at member
    simp [Loop.new] at member

theorem step_sound (s : Loop) (action : Action) (sound : Sound s) (orderly : Orderly env s action) :
    Sound (step env s action) := by
  cases action with
  | command command => exact onCommand_sound env s command orderly sound
  | pass => exact loopPass_sound env s orderly sound

end

/-- In every orderly run the player indexes agree. -/
theorem run_agree (env : Env) (actions : List Action)
    (orderly : Guarded (step env) (Orderly env) (.init env.config) actions) :
    Agree (run (step env) (.init env.config) actions) :=
  (run_invariant (step env) (Orderly env) Sound (fun s action => step_sound env s action)
    (.init env.config) actions orderly (init_sound env.config)).toAgree

/-- A player enters a region, leaves it and is deleted. -/
theorem run_agree_region :
    Agree (run (step (sampleEnv fun n => n ≠ 16)) (.init (sampleEnv fun n => n ≠ 16).config)
      (enterRegion ++ [.command (.onSessionDisconnect gateSession),
        .command (.onRegionLeaveReq gateSession),.pass])) :=
  run_agree (sampleEnv fun n => n ≠ 16) _ (by decide +kernel)

/-- A full gate answers with session 0: the player is in no server context at all. -/
theorem run_agree_full :
    ¬ Agree (run (step (sampleEnv fun _ => true)) (.init (sampleEnv fun _ => true).config)
      [.command (.onLoginReport 1),.command (.onLoginReq loginSession [99]),
        .command (.gateAllocAck 1 loginSession [99] 0)]) := by
  generalize same : (run (step (sampleEnv fun _ => true)) (.init (sampleEnv fun _ => true).config)
    [.command (.onLoginReport 1),.command (.onLoginReq loginSession [99]),
      .command (.gateAllocAck 1 loginSession [99] 0)]) = s
  have atGate : AtGate 1 s 0 := by
    rw [← same]
    unfold AtGate Live
    decide +kernel
  have missing : find (sessionOf s 0) (gatePlayers 1 s) = none := by
    rw [← same]
    decide +kernel
  intro agree
  have found := indexes_found (agree.gates 1) 0 atGate
  rw [missing] at found
  cases found

end Fantuan.MasterServer.IndexRuns
