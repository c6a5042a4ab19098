import Fantuan.MasterServer.Indexes

/-! What a chain of steps for one player leaves alone, and what it may write: events about him.
The players in use are found by name and by session, whatever sessions the gates name.
-/
namespace Fantuan.MasterServer.Frames
open Lib.Table Lib.Index Lib.Drain StarNet.Packet ServerBase.ServerCommon Tool.ObjectPool PlayerFsm
open Context ServerLoop Player Commands Deletion PlayerSteps Handlers Indexes

def about (player : Object) : Event → Prop
  | .sent other _ _ => other = some player
  | .queued other => other = player
  | .allocated _ | .deleted _ => False

structure Frame (player : Object) (s t : Loop) : Prop where
  status : t.shutdownStatus = s.shutdownStatus
  pool : t.playerContextPool = s.playerContextPool
  byName : t.playerContextByName = s.playerContextByName
  bySessionId : t.playerContextBySessionId = s.playerContextBySessionId
  others : ∀ other, other ≠ player → t.contexts other = s.contexts other
  sessionId : (t.contexts player).sessionId = (s.contexts player).sessionId
  accountName : (t.contexts player).accountName = (s.contexts player).accountName
  log : ∃ events, t.log = events ++ s.log ∧ ∀ event ∈ events, about player event
  queue : ∃ more, t.finalizingQueue = s.finalizingQueue ++ more ∧
    ∀ other ∈ more, other = player ∧ (t.contexts player).finalizing = true
  kept : (s.contexts player).finalizing = true → (t.contexts player).finalizing = true
  retired : (t.contexts player).finalizing = true →
    (s.contexts player).finalizing = true ∨ player ∈ t.finalizingQueue

section
variable (env : Env) (guarded : Prop) (player : Object)

theorem frame_refl (s : Loop) : Frame player s s :=
  ⟨rfl,rfl,rfl,rfl,fun _ _ => rfl,rfl,rfl,⟨[],rfl,by simp⟩,⟨[],by simp,by simp⟩,id,.inl⟩

theorem frame_trans (s t u : Loop) (first : Frame player s t) (second : Frame player t u) :
    Frame player s u := by
  obtain ⟨earlier,wrote,aboutEarlier⟩ := first.log
  obtain ⟨later,wroteLater,aboutLater⟩ := second.log
  obtain ⟨before,joined,ownBefore⟩ := first.queue
  obtain ⟨after,joinedAfter,ownAfter⟩ := second.queue
  refine ⟨second.status.trans first.status,second.pool.trans first.pool,
    second.byName.trans first.byName,second.bySessionId.trans first.bySessionId,
    fun other different => (second.others other different).trans (first.others other different),
    second.sessionId.trans first.sessionId,second.accountName.trans first.accountName,
    ⟨later ++ earlier,?_,?_⟩,⟨before ++ after,?_,?_⟩,
    fun finalizing => second.kept (first.kept finalizing),?_⟩
  · rw [wroteLater,wrote,List.append_assoc]
  · intro event member
    exact (List.mem_append.mp member).elim (aboutLater event) (aboutEarlier event)
  · rw [joinedAfter,joined,List.append_assoc]
  · intro other member
    rcases List.mem_append.mp member with old | new
    · exact ⟨(ownBefore other old).1,second.kept (ownBefore other old).2⟩
    · exact ownAfter other new
  · intro finalizing
    rcases second.retired finalizing with already | queued
    · rcases first.retired already with still | inside
      · exact .inl still
      · rw [joinedAfter]
        exact .inr (List.mem_append_left after inside)
    · exact .inr queued

theorem update_frame (s : Loop) (change : MasterPlayerContext → MasterPlayerContext)
    (sessionId : (change (s.contexts player)).sessionId = (s.contexts player).sessionId)
    (accountName : (change (s.contexts player)).accountName = (s.contexts player).accountName)
    (finalizing : (change (s.contexts player)).finalizing = (s.contexts player).finalizing) :
    Frame player s (s.update player change) := by
  refine ⟨rfl,rfl,rfl,rfl,fun other different => update_other s player other change different,?_,?_,
    ⟨[],rfl,by simp⟩,⟨[],by simp [Loop.update],by simp⟩,?_,?_⟩
  · rw [update_same]
    exact sessionId
  · rw [update_same]
    exact accountName
  · rw [update_same,finalizing]
    exact id
  · rw [update_same,finalizing]
    exact .inl

theorem send_frame (s : Loop) (message : Message) : Frame player s (send env (some player) message s) :=
  ⟨rfl,rfl,rfl,rfl,fun _ _ => rfl,rfl,rfl,⟨[_],rfl,fun event member => by
    obtain rfl := List.mem_singleton.mp member
    rfl⟩,⟨[],by simp [send],by simp⟩,id,.inl⟩

theorem setState_frame (s : Loop) (next : PlayerState) : Frame player s (setState player next s) :=
  update_frame player s _ rfl rfl rfl

theorem queue_frame (s : Loop) : Frame player s (addPlayerToFinalizingQueue player s) := by
  let marks : MasterPlayerContext → MasterPlayerContext := fun context => {context with finalizing := true}
  have own : (addPlayerToFinalizingQueue player s).contexts = (s.update player marks).contexts := rfl
  refine ⟨rfl,rfl,rfl,rfl,fun other different => ?_,?_,?_,⟨[.queued player],rfl,?_⟩,⟨[player],rfl,?_⟩,
    fun _ => ?_,?_⟩
  · rw [own,update_other s player other marks different]
  · rw [own,update_same]
  · rw [own,update_same]
  · intro event member
    obtain rfl := List.mem_singleton.mp member
    rfl
  · refine fun other member => ⟨List.mem_singleton.mp member,?_⟩
    rw [own,update_same]
  · rw [own,update_same]
  · exact fun _ => .inr (List.mem_append_right _ (List.mem_singleton_self player))

theorem playerStep_frame (s t : Loop) (step : PlayerStep env guarded player s t) : Frame player s t := by
  have same := frame_refl player s
  cases step with
  | note => exact ⟨rfl,rfl,rfl,rfl,fun _ _ => rfl,rfl,rfl,same.log,same.queue,id,.inl⟩
  | count => exact ⟨rfl,rfl,rfl,rfl,fun _ _ => rfl,rfl,rfl,same.log,same.queue,id,.inl⟩
  | change change kept => exact update_frame player s change kept.sessionId kept.accountName kept.finalizing
  | move event next => exact setState_frame player s next
  | say message => exact send_frame env player s message
  | drop => exact ⟨rfl,rfl,rfl,rfl,fun _ _ => rfl,rfl,rfl,same.log,same.queue,id,.inl⟩
  | enter => exact ⟨rfl,rfl,rfl,rfl,fun _ _ => rfl,rfl,rfl,same.log,same.queue,id,.inl⟩
  | wait next => exact setState_frame player s next
  | retire leaves =>
    refine frame_trans player s _ _ ?_ (queue_frame player _)
    cases leaves with
    | true => exact send_frame env player s _
    | false => exact same
  | login => exact frame_trans player s _ _ (send_frame env player s _) (setState_frame player _ _)
  | answer next =>
    have moved := setState_frame player s next
    exact ⟨rfl,rfl,rfl,rfl,moved.others,moved.sessionId,moved.accountName,moved.log,moved.queue,
      moved.kept,moved.retired⟩

theorem does_frame (s t : Loop) (does : Does env guarded player s t) : Frame player s t := by
  induction does with
  | refl => exact frame_refl player s
  | tail _ step ih => exact frame_trans player s _ _ ih (playerStep_frame env guarded player _ _ step)

end

/-- The players in use are the named ones; a session leads to a player in use, if to any; and the
players who are finalizing are queued. -/
structure Listed (s : Loop) : Prop where
  names : Indexes s.playerContextByName (Live s) fun player => (s.contexts player).accountName
  sessions : Lists s.playerContextBySessionId (Live s) (sessionOf s)
  pool : s.playerContextPool.Sound
  cleared : ∀ player, ¬ Live s player → s.contexts player = .clear
  queued : ∀ player ∈ s.finalizingQueue, Live s player ∧ (s.contexts player).finalizing = true
  retired : ∀ player, (s.contexts player).finalizing = true → player ∈ s.finalizingQueue

theorem frame_listed (player : Object) (s t : Loop) (frame : Frame player s t) (live : Live s player)
    (listed : Listed s) : Listed t := by
  have lives := live_same s t frame.pool
  obtain ⟨more,queue,own⟩ := frame.queue
  have name : ∀ other, (t.contexts other).accountName = (s.contexts other).accountName := by
    intro other
    by_cases same : other = player
    · rw [same,frame.accountName]
    · rw [frame.others other same]
  have session : ∀ other, sessionOf t other = sessionOf s other := by
    intro other
    by_cases same : other = player
    · rw [same]
      exact frame.sessionId
    · rw [sessionOf,frame.others other same,sessionOf]
  refine ⟨?_,?_,?_,?_,?_,?_⟩
  · rw [frame.byName]
    exact indexes_congr listed.names lives fun other _ => name other
  · rw [frame.bySessionId]
    intro key other found
    obtain ⟨alive,keys⟩ := listed.sessions key other found
    exact ⟨(lives other).mpr alive,(session other).trans keys⟩
  · rw [frame.pool]
    exact listed.pool
  · intro other dead
    have different : other ≠ player := by
      rintro rfl
      exact dead ((lives other).mpr live)
    rw [frame.others other different]
    exact listed.cleared other fun alive => dead ((lives other).mpr alive)
  · intro other member
    rw [queue] at member
    rw [lives other]
    rcases List.mem_append.mp member with before | new
    · obtain ⟨alive,finalizing⟩ := listed.queued other before
      refine ⟨alive,?_⟩
      by_cases same : other = player
      · rw [same] at finalizing ⊢
        exact frame.kept finalizing
      · rw [frame.others other same]
        exact finalizing
    · obtain ⟨rfl,finalizing⟩ := own other new
      exact ⟨live,finalizing⟩
  · intro other finalizing
    by_cases same : other = player
    · subst other
      rcases frame.retired finalizing with already | queued
      · rw [queue]
        exact List.mem_append_left more (listed.retired player already)
      · exact queued
    · rw [frame.others other same] at finalizing
      rw [queue]
      exact List.mem_append_left more (listed.retired other finalizing)

/-- The parts of the state that the lists of players are about. -/
structure SameLists (s t : Loop) : Prop where
  contexts : t.contexts = s.contexts
  pool : t.playerContextPool = s.playerContextPool
  byName : t.playerContextByName = s.playerContextByName
  bySessionId : t.playerContextBySessionId = s.playerContextBySessionId
  queue : t.finalizingQueue = s.finalizingQueue

theorem same_listed (s t : Loop) (same : SameLists s t) (listed : Listed s) : Listed t := by
  obtain ⟨names,sessions,pool,cleared,queued,retired⟩ := listed
  have lives : Live t = Live s := funext fun other => propext (live_same s t same.pool other)
  have keys : sessionOf t = sessionOf s := by
    funext other
    rw [sessionOf,sessionOf,same.contexts]
  refine ⟨?_,?_,?_,?_,?_,?_⟩
  · rw [same.byName,lives,same.contexts]
    exact names
  · rw [same.bySessionId,lives,keys]
    exact sessions
  · rw [same.pool]
    exact pool
  · rw [lives,same.contexts]
    exact cleared
  · rw [same.queue,lives,same.contexts]
    exact queued
  · rw [same.contexts,same.queue]
    exact retired

section
variable (player : Object)

theorem switch_listed (s : Loop) (loginSessionId gateSessionId : UInt32) (live : Live s player)
    (own : sessionOf s player = loginSessionId) (listed : Listed s) :
    Listed (loginSession2GateSession player loginSessionId gateSessionId s) := by
  have frame := switch_frame player s loginSessionId gateSessionId
  generalize switched : loginSession2GateSession player loginSessionId gateSessionId s = t at *
  have lives := live_same s t frame.pool
  have name : ∀ other, (t.contexts other).accountName = (s.contexts other).accountName := by
    intro other
    by_cases same : other = player
    · rw [same]
      rcases frame.own with own | own <;> rw [own]
    · rw [frame.others other same]
  have finalizing : ∀ other, (t.contexts other).finalizing = (s.contexts other).finalizing := by
    intro other
    by_cases same : other = player
    · rw [same]
      rcases frame.own with own | own <;> rw [own]
    · rw [frame.others other same]
  have byName : t.playerContextByName = s.playerContextByName := by
    rw [← switched,loginSession2GateSession]
    dsimp only
    split
    · rfl
    · split <;> rfl
  refine ⟨?_,?_,?_,?_,?_,?_⟩
  · rw [byName]
    exact indexes_congr listed.names lives fun other _ => name other
  · intro key other found
    rw [← switched,loginSession2GateSession] at found
    have elsewhere (key : UInt32) (other : Object)
        (found : find key s.playerContextBySessionId = some other) (away : key ≠ loginSessionId) :
        Live t other ∧ sessionOf t other = key := by
      obtain ⟨alive,keys⟩ := listed.sessions key other found
      have different : other ≠ player := by
        rintro rfl
        exact away (keys.symm.trans own)
      refine ⟨(lives other).mpr alive,?_⟩
      rw [sessionOf,frame.others other different]
      exact keys
    dsimp only at found
    split at found
    next unknown =>
      have still : t.contexts = s.contexts := by
        rw [← switched,loginSession2GateSession]
        dsimp only
        rw [unknown]
      obtain ⟨alive,keys⟩ := listed.sessions key other found
      refine ⟨(lives other).mpr alive,?_⟩
      rw [sessionOf,still]
      exact keys
    next context known =>
      have moved : sessionOf t player = gateSessionId := by
        have here : t.contexts player = {s.contexts player with sessionId := gateSessionId} := by
          rw [← switched,loginSession2GateSession]
          dsimp only
          split
          next unknown => exact absurd (known.symm.trans unknown) (by simp)
          next =>
            split
            · exact Function.update_self ..
            · exact Function.update_self ..
        rw [sessionOf,here]
      split at found
      next present =>
        rcases find_insert_elim _ key player other _ found with before | ⟨rfl,rfl,-⟩
        · obtain ⟨away,before⟩ := find_erase_elim _ key other _ before
          exact elsewhere key other before away
        · exact ⟨(lives other).mpr live,moved⟩
      next absent =>
        change find key s.playerContextBySessionId = some other at found
        refine elsewhere key other found ?_
        rintro rfl
        apply absent
        change (find key s.playerContextBySessionId).isSome = true
        rw [found]
        rfl
  · rw [frame.pool]
    exact listed.pool
  · intro other dead
    have different : other ≠ player := by
      rintro rfl
      exact dead ((lives other).mpr live)
    rw [frame.others other different]
    exact listed.cleared other fun alive => dead ((lives other).mpr alive)
  · intro other member
    rw [frame.queue] at member
    rw [lives other,finalizing]
    exact listed.queued other member
  · intro other retired
    rw [finalizing] at retired
    rw [frame.queue]
    exact listed.retired other retired

def placed (player : Object) (pool : Pool) (sessionId : UInt32) (accountName : WString) (s : Loop) : Loop :=
  {s with
    playerContextPool := pool
    playerContextByName := insert accountName player s.playerContextByName
    playerContextBySessionId := insert sessionId player s.playerContextBySessionId
    loginServerContext := {s.loginServerContext with
      players := insert sessionId player s.loginServerContext.players}
    log := .allocated player :: s.log}

theorem placed_listed (s : Loop) (pool : Pool) (sessionId : UInt32) (accountName : WString)
    (allocated : s.playerContextPool.allocate = (some player,pool))
    (newName : find accountName s.playerContextByName = none) (listed : Listed s) :
    Listed (named player sessionId accountName (placed player pool sessionId accountName s)) ∧
      Live (named player sessionId accountName (placed player pool sessionId accountName s)) player := by
  obtain ⟨sound,unheld,held⟩ := allocate_sound _ _ _ listed.pool allocated
  have dead : ¬ Live s player := unheld
  generalize joined : named player sessionId accountName (placed player pool sessionId accountName s) = t
  have lives : ∀ other, Live t other ↔ Live s other ∨ other = player := by
    intro other
    rw [← joined]
    exact held other
  have own : t.contexts player = {s.contexts player with
      sessionId := sessionId, accountName := accountName, state := .onLoginReq} := by
    rw [← joined,named,update_same,setState,update_same]
    rfl
  have others : ∀ other, other ≠ player → t.contexts other = s.contexts other := by
    intro other different
    rw [← joined,named,update_other _ player other _ different,setState,
      update_other _ player other _ different]
    rfl
  have cleared := listed.cleared player dead
  refine ⟨⟨?_,?_,?_,?_,?_,?_⟩,(lives player).mpr (.inr rfl)⟩
  · rw [← joined]
    change Indexes (insert accountName player s.playerContextByName) _ _
    rw [joined]
    exact indexes_insert listed.names accountName player newName dead lives (by rw [own])
      fun other different => by rw [others other different]
  · intro key other found
    rw [← joined] at found
    rcases find_insert_elim _ key player other _ found with before | ⟨rfl,rfl,-⟩
    · obtain ⟨alive,keys⟩ := listed.sessions key other before
      have different : other ≠ player := by
        rintro rfl
        exact dead alive
      refine ⟨(lives other).mpr (.inl alive),?_⟩
      rw [sessionOf,others other different]
      exact keys
    · exact ⟨(lives other).mpr (.inr rfl),by rw [sessionOf,own]⟩
  · rw [← joined]
    exact sound
  · intro other gone
    have different : other ≠ player := by
      rintro rfl
      exact gone ((lives other).mpr (.inr rfl))
    rw [others other different]
    exact listed.cleared other fun alive => gone ((lives other).mpr (.inl alive))
  · intro other member
    rw [← joined] at member
    obtain ⟨alive,finalizing⟩ := listed.queued other member
    have different : other ≠ player := by
      rintro rfl
      exact dead alive
    refine ⟨(lives other).mpr (.inl alive),?_⟩
    rw [others other different]
    exact finalizing
  · intro other retired
    have different : other ≠ player := by
      rintro rfl
      rw [own,cleared] at retired
      cases retired
    rw [others other different] at retired
    rw [← joined]
    exact listed.retired other retired

theorem deleted_listed (s t : Loop) (deleted : Deleted player s t) (live : Live s player)
    (only : ∀ other ∈ s.finalizingQueue, other = player) (listed : Listed s) :
    Listed {t with finalizingQueue := []} := by
  obtain ⟨pool,held⟩ := release_sound _ player listed.pool live
  rw [← deleted.pool] at pool held
  have lives : ∀ other, Live t other ↔ Live s other ∧ other ≠ player := held
  have own : t.contexts player = .clear := by rw [deleted.contexts,Function.update_self]
  have others : ∀ other, other ≠ player → t.contexts other = s.contexts other := by
    intro other different
    rw [deleted.contexts,Function.update_of_ne different]
  have names : Indexes t.playerContextByName (Live t) fun other => (t.contexts other).accountName := by
    rw [deleted.byName]
    exact indexes_erase listed.names player live lives fun other different => by
      rw [others other different]
  refine ⟨names,fun key other found => ?_,pool,fun other gone => ?_,by simp,fun other retired => ?_⟩
  · change find key t.playerContextBySessionId = some other at found
    rw [deleted.bySessionId] at found
    obtain ⟨away,before⟩ := find_erase_elim _ key other _ found
    obtain ⟨alive,keys⟩ := listed.sessions key other before
    have different : other ≠ player := by
      rintro rfl
      exact away keys.symm
    refine ⟨(lives other).mpr ⟨alive,different⟩,?_⟩
    change (t.contexts other).sessionId = key
    rw [others other different]
    exact keys
  · change t.contexts other = .clear
    by_cases same : other = player
    · rw [same,own]
    · rw [others other same]
      exact listed.cleared other fun alive => gone ((lives other).mpr ⟨alive,same⟩)
  · change (t.contexts other).finalizing = true at retired
    by_cases same : other = player
    · rw [same,own] at retired
      cases retired
    · rw [others other same] at retired
      exact absurd (only other (listed.retired other retired)) same

end

section
variable (env : Env)

theorem found_live (s : Loop) (sessionId : UInt32) (player : Object) (listed : Listed s)
    (found : find sessionId s.playerContextBySessionId = some player) : Live s player :=
  (listed.sessions sessionId player found).1

theorem does_listed (player : Object) (s t : Loop) (does : Does env False player s t) (live : Live s player)
    (listed : Listed s) : Listed t :=
  frame_listed player s t (does_frame env False player s t does) live listed

theorem forSession_listed (s : Loop) (sessionId : UInt32) (handle : Object → Loop → Loop)
    (listed : Listed s) (does : ∀ player, Does env False player s (handle player s)) :
    Listed (forSession sessionId handle s) := by
  rw [forSession]
  split
  next player found =>
    exact does_listed env player s _ (does player) (found_live s sessionId player listed found) listed
  · exact listed

theorem shutdownPlayer_frame (player : Object) (s : Loop) (running : s.shutdownStatus ≠ .readyForShutdown) :
    Frame player s (shutdownPlayer env player s) :=
  does_frame env False player s _ (shutdownPlayer_does env False player s ⟨False.elim,running⟩)

theorem shutdowns_listed (players : List Object) (s : Loop)
    (running : s.shutdownStatus ≠ .readyForShutdown) (live : ∀ player ∈ players, Live s player)
    (listed : Listed s) :
    Listed (players.foldl (fun s player => shutdownPlayer env player s) s) := by
  induction players generalizing s with
  | nil => exact listed
  | cons player players ih =>
    have frame := shutdownPlayer_frame env player s running
    rw [List.foldl_cons]
    refine ih _ ?_ (fun other member => ?_)
      (frame_listed player s _ frame (live player List.mem_cons_self) listed)
    · rw [frame.status]
      exact running
    · exact (live_same s _ frame.pool other).mpr (live other (List.mem_cons_of_mem player member))

theorem named_live (s : Loop) (listed : Listed s) :
    ∀ player ∈ values s.playerContextByName, Live s player := by
  intro player member
  obtain ⟨name,found⟩ := (mem_values _ _).mp member
  exact ((listed.names name player).mp found).1

theorem started_listed (s : Loop) (listed : Listed s) : Listed {s with shutdownStatus := .startShutdown} :=
  same_listed s _ ⟨rfl,rfl,rfl,rfl,rfl⟩ listed

theorem onCommandOnLoginReq_listed (s : Loop) (sessionId : UInt32) (accountName : WString)
    (running : s.shutdownStatus ≠ .readyForShutdown) (listed : Listed s) :
    Listed (onCommandOnLoginReq env sessionId accountName s) := by
  have told (message : Message) : Listed (send env none message s) :=
    same_listed s _ ⟨rfl,rfl,rfl,rfl,rfl⟩ listed
  rw [onCommandOnLoginReq]
  split
  · exact told _
  · split
    next player found =>
      have live : Live s player := ((listed.names accountName player).mp found).1
      exact frame_listed player _ _ (shutdownPlayer_frame env player _ running) live (told _)
    next unnamed =>
      split
      · exact told _
      next player pool allocated =>
        obtain ⟨joins,live⟩ := placed_listed player s pool sessionId accountName allocated unnamed listed
        have dead : ¬ Live s player := (allocate_sound _ _ _ listed.pool allocated).2.1
        refine does_listed env player _ _ (onLoginReq_does env False player _ sessionId accountName ?_
          running) live joins
        change (s.contexts player).state = .none
        rw [listed.cleared player dead]
        rfl

theorem gateAllocAck_listed (s : Loop) (player : Object) (gate : UInt8) (gateSessionId : UInt32)
    (running : s.shutdownStatus ≠ .readyForShutdown) (live : Live s player) (listed : Listed s) :
    Listed (gateAllocAck env player gate gateSessionId s) := by
  rcases gateAllocAck_does env False player s gate gateSessionId ⟨False.elim,running⟩ with
    does | ⟨-,t,does,context,switched⟩
  · exact does_listed env player s _ does live listed
  · rw [switched]
    have frame := frame_trans player s t _ (does_frame env False player s t does)
      (setState_frame player t .gateAllocNtf)
    have alive := (live_same s _ frame.pool player).mpr live
    exact switch_listed player _ _ _ alive frame.sessionId (frame_listed player s _ frame live listed)

theorem onCommandGateAllocAck_listed (s : Loop) (gate : UInt8) (loginSessionId : UInt32)
    (accountName : WString) (gateSessionId : UInt32) (running : s.shutdownStatus ≠ .readyForShutdown)
    (listed : Listed s) :
    Listed (onCommandGateAllocAck env gate loginSessionId accountName gateSessionId s) := by
  rw [onCommandGateAllocAck]
  split
  next player found =>
    split
    · exact gateAllocAck_listed env s player gate gateSessionId running
        ((listed.names accountName player).mp found).1 listed
    · exact listed
  · exact listed

theorem onCommand_listed (s : Loop) (command : Command) (listed : Listed s) :
    Listed (onCommand env command s) := by
  rw [onCommand.eq_def]
  split
  · exact listed
  next opened =>
    have running : s.shutdownStatus ≠ .readyForShutdown := by
      rw [not_not.mp opened]
      simp
    cases command with
    | shutdown =>
      exact shutdowns_listed env _ _ (by simp) (named_live s listed) (started_listed s listed)
    | onLoginReport => exact same_listed s _ ⟨rfl,rfl,rfl,rfl,rfl⟩ listed
    | onGateReport serverId sessionCount =>
      dsimp only [onCommandOnGateReport]
      split
      · exact same_listed s _ ⟨rfl,rfl,rfl,rfl,rfl⟩ listed
      · exact same_listed s _ ⟨rfl,rfl,rfl,rfl,rfl⟩ listed
    | onLoginReq sessionId accountName =>
      exact onCommandOnLoginReq_listed env s sessionId accountName running listed
    | gateAllocAck gate loginSessionId accountName gateSessionId =>
      exact onCommandGateAllocAck_listed env s gate loginSessionId accountName gateSessionId running listed
    | onGateLoginReq sessionId =>
      exact forSession_listed env s sessionId _ listed fun player =>
        onGateLoginReq_does env False player s ⟨False.elim,running⟩
    | onRegionAllocAck sessionId region result =>
      exact forSession_listed env s sessionId _ listed fun player =>
        onRegionAllocAck_does env False player s region result ⟨False.elim,running⟩
    | onRegionLeaveReq sessionId =>
      exact forSession_listed env s sessionId _ listed fun player =>
        onRegionLeaveReq_does env False player s running
    | onRegionPlayerFailReq sessionId =>
      exact forSession_listed env s sessionId _ listed fun player =>
        onRegionPlayerFailReq_does env False player s
    | onSessionDisconnect sessionId =>
      exact forSession_listed env s sessionId _ listed fun player =>
        shutdownPlayer_does env False player s ⟨False.elim,running⟩
    | packetForward sessionId typeId data =>
      refine forSession_listed env s sessionId _ listed fun player => ?_
      have delayed : Does env False player s (delaySendData typeId data s) :=
        .single (.note s (.received typeId data) (s.undefined || maxInputBuffer < data.length))
      exact delayed.trans (handlePacket_does env False player _ _ ⟨False.elim,running⟩)
    | other => exact listed

theorem deleteFinalizing_short (s : Loop) (short : s.finalizingQueue.length ≤ 1) :
    s.finalizingQueue = [] ∧ deleteFinalizing s = s ∨
      ∃ player, s.finalizingQueue = [player] ∧
        deleteFinalizing s = {deletePlayer player s with finalizingQueue := []} := by
  rw [deleteFinalizing]
  match queue : s.finalizingQueue with
  | [] =>
    refine .inl ⟨rfl,?_⟩
    rw [drainBack,← queue]
  | [player] => exact .inr ⟨player,rfl,by rw [drainBack_singleton]⟩
  | _ :: _ :: _ => simp [queue] at short

theorem loopPass_listed (s : Loop) (short : s.finalizingQueue.length ≤ 1) (listed : Listed s) :
    Listed (loopPass s) := by
  have drained : Listed (deleteFinalizing s) := by
    rcases deleteFinalizing_short s short with ⟨-,same⟩ | ⟨player,queue,deleted⟩
    · rw [same]
      exact listed
    · rw [deleted]
      refine deleted_listed player s _ (deletePlayer_deleted player s)
        (listed.queued player (by rw [queue]; exact List.mem_singleton_self player)).1 ?_ listed
      rw [queue]
      exact fun other member => List.mem_singleton.mp member
  rw [loopPass]
  split
  · exact same_listed (deleteFinalizing s) _ ⟨rfl,rfl,rfl,rfl,rfl⟩ drained
  · exact drained

theorem init_listed (config : MasterServerConfig) : Listed (.init config) := by
  have core := (init_unused config).core
  have dead : ∀ player, ¬ Live (.init config) player := by
    intro player
    rw [Live,core.pool]
    exact new_held playerContextMax player
  refine ⟨?_,fun key other found => ?_,?_,fun other _ => ?_,fun other member => ?_,fun other retired => ?_⟩
  · rw [core.byName]
    exact indexes_empty dead
  · rw [core.bySessionId] at found
    simp [Loop.new] at found
  · rw [core.pool]
    exact new_sound playerContextMax
  · rw [core.contexts]
    rfl
  · rw [core.queue] at member
    simp [Loop.new] at member
  · rw [core.contexts] at retired
    cases retired

/-- Every pass finds at most one player to delete. -/
def Short (s : Loop) : Action → Prop
  | .command _ => True
  | .pass => s.finalizingQueue.length ≤ 1

instance (s : Loop) : DecidablePred (Short s)
  | .command _ => inferInstanceAs (Decidable True)
  | .pass => inferInstanceAs (Decidable (_ ≤ 1))

theorem step_listed (s : Loop) (action : Action) (listed : Listed s) (short : Short s action) :
    Listed (step env s action) := by
  cases action with
  | command command => exact onCommand_listed env s command listed
  | pass => exact loopPass_listed s short listed

end

end Fantuan.MasterServer.Frames
