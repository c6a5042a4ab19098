import Fantuan.RegionServer.LeaveAnswers
import Fantuan.RegionServer.SendScripts

/-! The report to the master that a player failed: the region has a function that sends it, and no call of
that function. So the failures are all reported in just those runs in which there is none.
-/
namespace Fantuan.RegionServer.FailReports
open Lib.Table Lib.Run ServerBase.ServerCommon Tool.ObjectPool ServerLoop Player Commands PlayerSteps
  SendScripts LeaveAnswers

def reports (sessionId : UInt32) (log : List Event) : Nat :=
  log.countP fun event => match event.message with
    | .onRegionPlayerFailReq id _ => id = sessionId
    | _ => false

/-- What is no request to release a player or to let him leave. -/
def ownReason : Action → Bool
  | .onRegionReleaseReq _ | .onRegionLeaveReq _ => false
  | _ => true

/-- A pass only takes from the queue, and everything else only adds at its end. -/
def newlyQueued (s t : Region) : List Object := t.finalizingQueue.drop s.finalizingQueue.length

/-- How many players of the session the step queues for a reason of its own. -/
def failed (env : Env) (sessionId : UInt32) (s : Region) (action : Action) : Nat :=
  let after := step env s action
  if ownReason action then
    (newlyQueued s after).countP fun player => (after.contexts player).sessionId = sessionId
  else 0

def failures (env : Env) (sessionId : UInt32) : Region → List Action → Nat
  | _, [] => 0
  | s, action :: actions => failed env sessionId s action + failures env sessionId (step env s action) actions

/-- Each failure of the run is reported, once, and nothing else is. -/
def Reported (env : Env) (actions : List Action) : Prop :=
  ∀ sessionId, reports sessionId (run (step env) (init env.config) actions).log =
    failures env sessionId (init env.config) actions

def whenReached (event : PlayerEvent) (player : Object) (script : Script) (s : Region) : Script :=
  if (reaches event player s).isSome then script else []

/-- A new avatar may not be allocated. -/
def enterScript (env : Env) (player : Object) (s : Region) : Script :=
  if (s.avatars player).isNone && !env.memory s.log.length then [.stop] else [.attempt]

def mapScript (env : Env) (player : Object) (s : Region) : Script :=
  if ((s.avatars player).map startMap).any fun mapId => (env.logicLoopByMap mapId).isNone then [.stop] else []

def othersScript (env : Env) (player : Object) (s : Region) : Script :=
  (values s.playerContextByAvatarId).flatMap fun other =>
    if player = other then [] else whenNamed env other [.attempt,.attempt] s

/-- What follows the time: the initial data, the map, the news of the player and the other players. -/
def initialScript (env : Env) (player : Object) (s : Region) : Script :=
  whenNamed env player [.attempt,.attempt] s ++ (mapScript env player s ++
    (whenNamed env player (.attempt :: broadcastScript s) s ++ othersScript env player s))

def timeScript (env : Env) (player : Object) (s : Region) : Script :=
  .attempt :: .attempt :: initialScript env player s

/-- The sends of a request for the player of a session. -/
def requestScript (env : Env) (player : Object) (s : Region) : Action → Script
  | .onRegionEnterReq _ => whenReached .onRegionEnterReq player (enterScript env player s) s
  | .onRegionEnterAck _ result =>
    if result ≠ 0 then [.stop] else whenReached .onRegionEnterAck player [.attempt,.attempt,.attempt] s
  | .packetForward _ (.clientTimeReq _) => whenReached .onClientTimeReq player (timeScript env player s) s
  | .packetForward _ (.regionChatReq _) => whenNamed env player (.attempt :: broadcastScript s) s
  | _ => []

def requested : Action → Option UInt32
  | .onRegionEnterReq sessionId | .onRegionEnterAck sessionId _ | .packetForward sessionId _ => some sessionId
  | _ => none

structure Serves (sessionId : UInt32) (s : Region) (player : Object) : Prop where
  running : s.shutdownStatus = .notShutdown
  inside : ¬ (serverCountMax ≤ (serverId sessionId).toNat ∨ s.gateSessionIndexMax < sessionIndex sessionId)
  found : slotOf sessionId s.toLoop = some player

def RequestFails (env : Env) (s : Region) (sessionId : UInt32) (action : Action) : Prop :=
  ∃ player, Serves sessionId s player ∧ Active player s ∧
    fails env.net s.log.length (requestScript env player s action) = true

/-- A player that is in use and not queued is shut down: by a send or an allocation that fails, a map
without a loop, a refused enter or a command. -/
def Fails (env : Env) (s : Region) : Action → Prop
  | .onRegionAllocReq sessionId _ _ => s.shutdownStatus = .notShutdown ∧ validSession sessionId s = true ∧
      env.net s.log.length = false ∧ ∃ player, s.playerContextPool.allocate.1 = some player ∧
        (s.contexts player).state = .none ∧ (s.contexts player).finalizing = false
  | .shutdownPlayerReq player => Active player s
  | .onRegionEnterReq sessionId => RequestFails env s sessionId (.onRegionEnterReq sessionId)
  | .onRegionEnterAck sessionId result => RequestFails env s sessionId (.onRegionEnterAck sessionId result)
  | .packetForward sessionId packet => RequestFails env s sessionId (.packetForward sessionId packet)
  | _ => False

theorem shutdownPlayer_idle (player : Object) (s : Region) (idle : ¬ Active player s) :
    shutdownPlayer player s = s := by
  rw [shutdownPlayer]
  split
  · rfl
  next unqueued =>
    have unused : (s.contexts player).state = .none := by
      by_contra used
      exact idle ⟨(Bool.not_eq_true _).mp unqueued,used⟩
    rw [unused]
    rfl

theorem reaches_used (event : PlayerEvent) (player : Object) (s : Region) (plain : event ≠ .onRegionAllocReq)
    (unused : (s.contexts player).state = .none) : reaches event player s = none := by
  cases reached : reaches event player s with
  | none => rfl
  | some next => exact absurd unused (plain_transition _ next event plain reached).1

section
variable (env : Env) (player : Object)

theorem sendInitialAvatarData_follows (s : Region) (active : Active player s) :
    Follows env player (whenNamed env player [.attempt,.attempt] s) s (sendInitialAvatarData env player s) := by
  apply withName_follows
  intro name
  apply attemptWrite_follows env player _ _ _ s active
  intro t _ written
  apply attemptData_follows env player _ _ t written
  intro u _ _
  exact transition_follows env player _ u (by decide)

theorem broadcastAvatarEnterNtf_follows (s : Region) (active : Active player s) :
    Follows env player (whenNamed env player (.attempt :: broadcastScript s) s) s
      (broadcastAvatarEnterNtf env player s) := by
  apply withName_follows
  intro name
  apply attemptWrite_follows env player _ _ _ s active
  intro t quiet written
  rw [← broadcastScript_quiet player s t quiet]
  exact broadcastData_follows env player t written

theorem sendAvatarEnterNtf_follows (other : Object) (s : Region) (active : Active player s) :
    Follows env player (whenNamed env other [.attempt,.attempt] s) s (sendAvatarEnterNtf env player other s) := by
  apply withName_follows
  intro name
  apply attemptWrite_follows env player _ _ _ s active
  intro t _ written
  apply attemptData_follows env player _ _ t written
  intro u _ _
  exact follows_nil env player u u (.refl player u) rfl

theorem sendRegionAvatars_follows (s : Region) (active : Active player s) :
    Follows env player (othersScript env player s) s (sendRegionAvatars env player s) := by
  refine foldl_follows env player _ (fun other =>
    if player = other then [] else whenNamed env other [.attempt,.attempt] s) ?_ _ s ?_ s (.refl player s) active
  · intro t other
    split
    · exact .refl
    · exact sendAvatarEnterNtf_does env player other t
  · intro other t quiet still
    split
    · exact follows_nil env player t t (.refl player t) rfl
    · rw [← whenNamed_quiet env player other _ s t quiet]
      exact sendAvatarEnterNtf_follows env player other t still

theorem initialMapEnter_placed (s : Region) (teleport : UInt16) (avatar : s.avatars player = some teleport) :
    let placed := {s with avatars := Function.update s.avatars player (some (startMap teleport))}
    initialMapEnter env player s = match env.logicLoopByMap (startMap teleport) with
      | some logicLoop => placed.update player fun context =>
        {context with logicLoop := some logicLoop, mapId := startMap teleport}
      | none => shutdownPlayer player placed := by
  rw [initialMapEnter,avatar]
  rfl

theorem initialMapEnter_follows (s : Region) (active : Active player s) :
    Follows env player (mapScript env player s) s (initialMapEnter env player s) := by
  rw [mapScript]
  cases avatar : s.avatars player with
  | none =>
    rw [initialMapEnter,avatar]
    exact follows_nil env player s _ ⟨rfl,rfl,fun _ => rfl,fun _ => rfl,id,rfl⟩ rfl
  | some teleport =>
    let placed := {s with avatars := Function.update s.avatars player (some (startMap teleport))}
    have moved : Quiet player s placed := by
      refine ⟨rfl,rfl,fun _ => rfl,fun _ => rfl,id,?_⟩
      change (Function.update s.avatars player (some (startMap teleport)) player).map startMap = _
      rw [Function.update_self,avatar,Option.map_some,Option.map_some,startMap_again]
    rw [Option.map_some,Option.any_some,initialMapEnter_placed env player s teleport avatar]
    cases env.logicLoopByMap (startMap teleport) with
    | none =>
      apply follows_append env player [] [.stop] s placed _ active (follows_nil env player s placed moved rfl)
      · exact shutdownPlayer_does player placed
      · intro _ still
        exact shutdown_follows env player placed still
    | some logicLoop =>
      apply follows_nil
      · exact moved.trans (update_quiet player _ placed rfl rfl rfl id)
      · rfl

theorem mapScript_quiet (s t : Region) (quiet : Quiet player s t) : mapScript env player t = mapScript env player s := by
  rw [mapScript,mapScript,quiet.start]

theorem othersScript_quiet (s t : Region) (quiet : Quiet player s t) :
    othersScript env player t = othersScript env player s := by
  rw [othersScript,othersScript,quiet.avatarMap]
  simp only [whenNamed_quiet env player _ _ s t quiet]

theorem initialScript_quiet (s t : Region) (quiet : Quiet player s t) :
    initialScript env player t = initialScript env player s := by
  rw [initialScript,initialScript,whenNamed_quiet env player _ _ s t quiet,mapScript_quiet env player s t quiet,
    broadcastScript_quiet player s t quiet,whenNamed_quiet env player _ _ s t quiet,
    othersScript_quiet env player s t quiet]

theorem initial_does (s : Region) (used : (s.contexts player).state ≠ .none) :
    Does s (sendRegionAvatars env player <| broadcastAvatarEnterNtf env player <|
      initialMapEnter env player <| sendInitialAvatarData env player s) := by
  have listed := sendInitialAvatarData_does env player s
  have placed := listed.trans (initialMapEnter_does env player _ (does_used player s _ listed used))
  exact (placed.trans (broadcastAvatarEnterNtf_does env player _)).trans (sendRegionAvatars_does env player _)

theorem initial_follows (s : Region) (active : Active player s) :
    Follows env player (initialScript env player s) s
      (sendRegionAvatars env player <| broadcastAvatarEnterNtf env player <|
        initialMapEnter env player <| sendInitialAvatarData env player s) := by
  have listed := sendInitialAvatarData_does env player s
  have placed := initialMapEnter_does env player _ (does_used player s _ listed active.2)
  have shown := broadcastAvatarEnterNtf_does env player (initialMapEnter env player (sendInitialAvatarData env player s))
  have told := sendRegionAvatars_does env player
    (broadcastAvatarEnterNtf env player (initialMapEnter env player (sendInitialAvatarData env player s)))
  apply follows_append env player _ _ s _ _ active (sendInitialAvatarData_follows env player s active)
    ((placed.trans shown).trans told)
  intro first still
  rw [← mapScript_quiet env player s _ first]
  apply follows_append env player _ _ _ _ _ still (initialMapEnter_follows env player _ still) (shown.trans told)
  intro second still
  have both := first.trans second
  rw [← whenNamed_quiet env player _ _ s _ both,← broadcastScript_quiet player s _ both]
  apply follows_append env player _ _ _ _ _ still (broadcastAvatarEnterNtf_follows env player _ still) told
  intro third still
  rw [← othersScript_quiet env player s _ (both.trans third)]
  exact sendRegionAvatars_follows env player _ still

end

/-- A script tells exactly when a handler queues. -/
structure Obeys (env : Env) (script : Script) (s t : Region) : Prop where
  lost : fails env.net s.log.length script = true → Queues s t
  fine : fails env.net s.log.length script = false → t.finalizingQueue = s.finalizingQueue

theorem follows_obeys (env : Env) (player : Object) (script : Script) (s t : Region)
    (follows : Follows env player script s t) : Obeys env script s t :=
  ⟨follows.lost,fun fine => (follows.quiet fine).queue⟩

section
variable (env : Env) (player : Object)

theorem expect_obeys (event : PlayerEvent) (script : Script) (next : Region → Region) (s : Region)
    (plain : event ≠ .onRegionAllocReq) (active : Active player s)
    (continues : ∀ t, Quiet player s t → t.log = s.log → Active player t → t.avatars = s.avatars →
      Obeys env script t (next t)) :
    Obeys env (whenReached event player script s) s (expect event player next s) := by
  rw [whenReached,expect]
  cases reached : reaches event player s with
  | none =>
    refine ⟨?_,fun _ => rfl⟩
    intro lost
    cases lost
  | some state =>
    have used := (plain_transition _ state event plain reached).2
    have quiet := setState_quiet player state s used
    have obeys := continues _ quiet rfl (quiet.active active) rfl
    exact ⟨obeys.lost,obeys.fine⟩

theorem onRegionEnterReq_obeys (s : Region) (active : Active player s) :
    Obeys env (whenReached .onRegionEnterReq player (enterScript env player s) s) s
      (onRegionEnterReq env player s) := by
  rw [onRegionEnterReq,active.1,if_neg Bool.false_ne_true]
  apply expect_obeys env player _ _ _ s (by decide) active
  intro t _ log still avatars
  have enters (u : Region) (ready : Active player u) : Obeys env [.attempt] u
      (attempt env player (.onRegionEnterReq (u.contexts player).sessionId env.config.serverId
        (u.contexts player).avatarName) (stateTransition .regionEnterReq player) u) := by
    apply follows_obeys env player
    apply attempt_follows env player _ _ _ u ready
    intro v _ _
    exact transition_follows env player _ v (by decide)
  rw [enterScript,← avatars,← log]
  cases avatar : t.avatars player with
  | some teleport => exact enters t still
  | none =>
    cases env.memory t.log.length with
    | false => exact follows_obeys env player _ t _ (shutdown_follows env player t still)
    | true =>
      have obeys := enters {t with avatars := Function.update t.avatars player (some 0)} still
      exact ⟨obeys.lost,obeys.fine⟩

theorem onRegionEnterAck_obeys (s : Region) (active : Active player s) :
    Obeys env (whenReached .onRegionEnterAck player [.attempt,.attempt,.attempt] s) s
      (onRegionEnterAck env player s) := by
  rw [onRegionEnterAck,active.1,if_neg Bool.false_ne_true]
  apply expect_obeys env player _ _ _ s (by decide) active
  intro t _ _ still _
  apply follows_obeys env player
  apply attempt_follows env player _ _ _ t still
  intro u _ bound
  apply attemptWrite_follows env player _ _ _ u bound
  intro v _ written
  apply attemptData_follows env player _ _ v written
  intro w _ _
  exact transition_follows env player _ w (by decide)

theorem onClientTimeReq_obeys (clientTime : UInt32) (s : Region) (active : Active player s) :
    Obeys env (whenReached .onClientTimeReq player (timeScript env player s) s) s
      (onClientTimeReq env player clientTime s) := by
  rw [onClientTimeReq,active.1,if_neg Bool.false_ne_true]
  apply expect_obeys env player _ _ _ s (by decide) active
  intro t began _ still _
  apply follows_obeys env player
  apply attemptWrite_follows env player _ _ _ t still
  intro u wrote written
  apply attemptData_follows env player _ _ u written
  intro v sent ready
  have before := (began.trans wrote).trans sent
  have moved := transition_follows env player .serverTime2Ntf v (by decide)
  apply follows_append env player [] (initialScript env player s) v _ _ ready moved
  · exact initial_does env player _ (does_used player v _ (stateTransition_does v player _ (by decide)) ready.2)
  · intro quiet still
    rw [← initialScript_quiet env player s _ (before.trans quiet)]
    exact initial_follows env player _ still

theorem onRegionChatReq_obeys (message : List UInt8) (s : Region) (active : Active player s) :
    Obeys env (whenNamed env player (.attempt :: broadcastScript s) s) s
      (onRegionChatReq env player message s) := by
  apply follows_obeys env player
  apply withName_follows
  intro name
  apply attemptWrite_follows env player _ _ _ s active
  intro t quiet written
  rw [← broadcastScript_quiet player s t quiet]
  exact broadcastData_follows env player t written

theorem expect_idle (event : PlayerEvent) (next : Region → Region) (s : Region) (plain : event ≠ .onRegionAllocReq)
    (unused : (s.contexts player).state = .none) : expect event player next s = s := by
  rw [expect,reaches_used event player s plain unused]

theorem broadcastData_queue (s : Region) : (broadcastData env s).finalizingQueue = s.finalizingQueue := by
  obtain ⟨_,_,result,-⟩ := broadcastData_sent env s
  rw [result]

theorem attempt_idle (message : Message) (next : Region → Region) (s : Region) (idle : ¬ Active player s)
    (keeps : ∀ t, (next t).finalizingQueue = t.finalizingQueue) :
    (attempt env player message next s).finalizingQueue = s.finalizingQueue := by
  rw [attempt]
  split
  · exact keeps _
  · have same : shutdownPlayer player (send env message s) = send env message s := shutdownPlayer_idle player _ idle
    rw [same]
    rfl

theorem onRegionChatReq_idle (message : List UInt8) (s : Region) (idle : ¬ Active player s) :
    (onRegionChatReq env player message s).finalizingQueue = s.finalizingQueue := by
  rw [onRegionChatReq,withName]
  split
  next name converted =>
    have same (packet : Packet) : shutdownPlayer player (write env packet s) = write env packet s := by
      apply shutdownPlayer_idle
      rw [write]
      split <;> exact idle
    rw [attemptWrite]
    split
    · rw [broadcastData_queue]
      exact (write_quiet env player _ s).queue
    · rw [same]
      exact (write_quiet env player _ s).queue
  · rfl

def handle (s : Region) : Action → Region
  | .onRegionEnterReq _ => onRegionEnterReq env player s
  | .onRegionEnterAck _ result => onCommandOnRegionEnterAck env player result s
  | .packetForward _ packet => onPacketReceived env player packet s
  | _ => s

theorem handle_obeys (s : Region) (action : Action) (active : Active player s) :
    Obeys env (requestScript env player s action) s (handle env player s action) := by
  have nothing : Obeys env [] s s := by
    refine ⟨?_,fun _ => rfl⟩
    intro lost
    cases lost
  cases action with
  | onRegionEnterReq sessionId => exact onRegionEnterReq_obeys env player s active
  | onRegionEnterAck sessionId result =>
    rw [requestScript,handle,onCommandOnRegionEnterAck]
    split
    · exact follows_obeys env player _ s _ (shutdown_follows env player s active)
    · exact onRegionEnterAck_obeys env player s active
  | packetForward sessionId packet =>
    cases packet with
    | clientTimeReq clientTime => exact onClientTimeReq_obeys env player clientTime s active
    | regionChatReq message => exact onRegionChatReq_obeys env player message s active
    | other => exact nothing
  | _ => exact nothing

theorem handle_idle (s : Region) (action : Action) (idle : ¬ Active player s) :
    (handle env player s action).finalizingQueue = s.finalizingQueue := by
  have unused (active : (s.contexts player).finalizing = false) : (s.contexts player).state = .none := by
    by_contra used
    exact idle ⟨active,used⟩
  cases finalizing : (s.contexts player).finalizing with
  | true =>
    cases action with
    | onRegionEnterReq sessionId => rw [handle,onRegionEnterReq,if_pos finalizing]
    | onRegionEnterAck sessionId result =>
      rw [handle,onCommandOnRegionEnterAck,shutdownPlayer_idle player s idle,onRegionEnterAck,if_pos finalizing,ite_self]
    | packetForward sessionId packet =>
      cases packet with
      | clientTimeReq clientTime => rw [handle,onPacketReceived,onClientTimeReq,if_pos finalizing]
      | regionChatReq message => exact onRegionChatReq_idle env player message s idle
      | other => rfl
    | _ => rfl
  | false =>
    have none := unused finalizing
    cases action with
    | onRegionEnterReq sessionId =>
      rw [handle,onRegionEnterReq,finalizing,if_neg Bool.false_ne_true,expect_idle player _ _ s (by decide) none]
    | onRegionEnterAck sessionId result =>
      rw [handle,onCommandOnRegionEnterAck,shutdownPlayer_idle player s idle,onRegionEnterAck,finalizing,
        if_neg Bool.false_ne_true,expect_idle player _ _ s (by decide) none,ite_self]
    | packetForward sessionId packet =>
      cases packet with
      | clientTimeReq clientTime =>
        rw [handle,onPacketReceived,onClientTimeReq,finalizing,if_neg Bool.false_ne_true,
          expect_idle player _ _ s (by decide) none]
      | regionChatReq message => exact onRegionChatReq_idle env player message s idle
      | other => rfl
    | _ => rfl

/-- The data of the new player are written before the answer is sent. -/
def allocation (sessionId : UInt32) (avatarId : UInt64) (avatarName : WString) (s : Region) : Region :=
  (setState player .onRegionAllocReq s).update player fun context => {context with
    sessionId := sessionId
    avatarId := avatarId
    avatarName := avatarName
    gateServer := if env.hasPeerServer (serverId sessionId) then some (serverId sessionId) else none}

theorem allocation_active (sessionId : UInt32) (avatarId : UInt64) (avatarName : WString) (s : Region) :
    Active player (allocation env player sessionId avatarId avatarName s) ↔ (s.contexts player).finalizing = false := by
  rw [Active,allocation,update_same,setState,update_same]
  apply and_iff_left
  intro same
  cases same

theorem onRegionAllocReq_sends (sessionId : UInt32) (avatarId : UInt64) (avatarName : WString) (s : Region)
    (unused : (s.contexts player).state = .none) :
    onRegionAllocReq env player sessionId avatarId avatarName s =
      attempt env player (.onRegionAllocAck sessionId env.config.serverId 0) (stateTransition .regionAllocAck player)
        (allocation env player sessionId avatarId avatarName s) := by
  have reached : reaches .onRegionAllocReq player s = some .onRegionAllocReq := by
    rw [reaches,unused]
    rfl
  rw [onRegionAllocReq,expect,reached]
  rfl

theorem onRegionAllocReq_obeys (sessionId : UInt32) (avatarId : UInt64) (avatarName : WString) (s : Region)
    (unused : (s.contexts player).state = .none) (unqueued : (s.contexts player).finalizing = false) :
    Obeys env [.attempt] s (onRegionAllocReq env player sessionId avatarId avatarName s) := by
  have active := (allocation_active env player sessionId avatarId avatarName s).mpr unqueued
  have obeys := follows_obeys env player _ _ _ (attempt_follows env player []
    (.onRegionAllocAck sessionId env.config.serverId 0) (stateTransition .regionAllocAck player) _ active
    fun t _ _ => transition_follows env player _ t (by decide))
  rw [onRegionAllocReq_sends env player sessionId avatarId avatarName s unused]
  exact ⟨obeys.lost,obeys.fine⟩

theorem onRegionAllocReq_idle (sessionId : UInt32) (avatarId : UInt64) (avatarName : WString) (s : Region)
    (idle : ¬ ((s.contexts player).state = .none ∧ (s.contexts player).finalizing = false)) :
    (onRegionAllocReq env player sessionId avatarId avatarName s).finalizingQueue = s.finalizingQueue := by
  by_cases unused : (s.contexts player).state = .none
  · rw [onRegionAllocReq_sends env player sessionId avatarId avatarName s unused,attempt_idle]
    · rfl
    · rw [allocation_active]
      exact fun unqueued => idle ⟨unused,unqueued⟩
    · intro t
      exact (stateTransition_quiet player _ t (by decide)).queue
  · rw [onRegionAllocReq_used env player sessionId avatarId avatarName s unused]

end

theorem step_requested (env : Env) (s : Region) (action : Action) (sessionId : UInt32)
    (request : requested action = some sessionId) :
    (∃ player undefined, Serves sessionId s player ∧
      step env s action = handle env player {s with undefined := undefined} action) ∨
      (∀ player, ¬ Serves sessionId s player) ∧ ∃ undefined, step env s action = {s with undefined := undefined} := by
  have shape : step env s action = whileRunning (forSession sessionId fun player t => handle env player t action) s := by
    cases action with
    | onRegionEnterReq id | onRegionEnterAck id result | packetForward id packet =>
      obtain rfl := Option.some.inj request
      rfl
    | _ => cases request
  rw [shape,whileRunning]
  split
  next running =>
    rw [forSession]
    split
    next outside => exact .inr ⟨fun player serves => serves.inside outside,s.undefined,rfl⟩
    next inside =>
      dsimp only
      cases found : slotOf sessionId s.toLoop with
      | none =>
        refine .inr ⟨fun player serves => ?_,_,rfl⟩
        have listed := serves.found
        rw [found] at listed
        cases listed
      | some player => exact .inl ⟨player,_,⟨running,inside,found⟩,rfl⟩
  next stopped => exact .inr ⟨fun player serves => stopped serves.running,s.undefined,rfl⟩

/-- The step queues a player if the condition holds, and nobody if it does not. -/
structure Decides (condition : Prop) (s t : Region) : Prop where
  lost : condition → Queues s t
  fine : ¬ condition → newlyQueued s t = []

theorem unqueued_decides (condition : Prop) (s t : Region) (never : ¬ condition)
    (queue : t.finalizingQueue = s.finalizingQueue) : Decides condition s t := by
  refine ⟨fun lost => absurd lost never,?_⟩
  intro _
  rw [newlyQueued,queue,List.drop_length]

theorem requested_decides (env : Env) (s : Region) (action : Action) (sessionId : UInt32)
    (request : requested action = some sessionId) :
    Decides (RequestFails env s sessionId action) s (step env s action) := by
  obtain ⟨player,undefined,serves,result⟩ | ⟨nobody,undefined,result⟩ := step_requested env s action sessionId request
  · have same : requestScript env player {s with undefined := undefined} action = requestScript env player s action := by
      cases action with
      | packetForward id packet => cases packet <;> rfl
      | _ => rfl
    have obeys := handle_obeys env player {s with undefined := undefined} action
    rw [same] at obeys
    rw [result]
    constructor
    · intro ⟨other,served,active,lost⟩
      obtain rfl := Option.some.inj (serves.found.symm.trans served.found)
      exact (obeys active).lost lost
    · intro fine
      have queue : (handle env player {s with undefined := undefined} action).finalizingQueue = s.finalizingQueue := by
        by_cases active : Active player s
        · apply (obeys active).fine
          rw [← Bool.not_eq_true]
          exact fun lost => fine ⟨player,serves,active,lost⟩
        · exact handle_idle env player {s with undefined := undefined} action active
      rw [newlyQueued,queue,List.drop_length]
  · rw [result]
    apply unqueued_decides
    · intro ⟨player,serves,_⟩
      exact nobody player serves
    · rfl

theorem alloc_decides (env : Env) (s : Region) (sessionId : UInt32) (avatarId : UInt64) (avatarName : WString) :
    Decides (Fails env s (.onRegionAllocReq sessionId avatarId avatarName)) s
      (step env s (.onRegionAllocReq sessionId avatarId avatarName)) := by
  by_cases handled : s.shutdownStatus = .notShutdown ∧ validSession sessionId s = true ∧
      ∃ player, s.playerContextPool.allocate.1 = some player
  · obtain ⟨running,valid,player,taken⟩ := handled
    have result : step env s (.onRegionAllocReq sessionId avatarId avatarName) =
        onRegionAllocReq env player sessionId avatarId avatarName
          (enrolled sessionId avatarId player s.playerContextPool.allocate.2 s) := by
      have pair : s.playerContextPool.allocate = (some player,s.playerContextPool.allocate.2) := by
        rw [← taken]
      rw [step,whileRunning,if_pos running,onCommandOnRegionAllocReq,valid,pair]
      rfl
    rw [result]
    by_cases fresh : (s.contexts player).state = .none ∧ (s.contexts player).finalizing = false
    · have obeys := onRegionAllocReq_obeys env player sessionId avatarId avatarName
        (enrolled sessionId avatarId player s.playerContextPool.allocate.2 s) fresh.1 fresh.2
      have script : fails env.net s.log.length [.attempt] = !env.net s.log.length := Bool.or_false _
      constructor
      · rintro ⟨_,_,net,_⟩
        apply obeys.lost
        exact script.trans (by rw [net]; rfl)
      · intro fine
        have net : env.net s.log.length = true := by
          rw [← Bool.not_eq_false]
          exact fun lost => fine ⟨running,valid,lost,player,taken,fresh⟩
        have queue := obeys.fine (script.trans (by rw [net]; rfl))
        rw [newlyQueued,queue]
        exact List.drop_length
    · apply unqueued_decides
      · rintro ⟨_,_,_,other,same,unused⟩
        obtain rfl := Option.some.inj (taken.symm.trans same)
        exact fresh unused
      · rw [onRegionAllocReq_idle]
        · rfl
        · exact fresh
  · apply unqueued_decides
    · rintro ⟨running,valid,_,player,taken,_⟩
      exact handled ⟨running,valid,player,taken⟩
    · rcases alloc_cases env sessionId avatarId avatarName s with same | ⟨player,pool,running,valid,taken,_⟩
      · rw [same]
      · exact absurd ⟨running,valid,player,congrArg Prod.fst taken⟩ handled

/-- Whoever the region itself queues is queued by what Fails describes. -/
theorem step_decides (env : Env) (s : Region) (action : Action) (own : ownReason action = true) :
    Decides (Fails env s action) s (step env s action) := by
  cases action with
  | onRegionReleaseReq sessionId => cases own
  | onRegionLeaveReq sessionId => cases own
  | onRegionEnterReq sessionId => exact requested_decides env s _ sessionId rfl
  | onRegionEnterAck sessionId result => exact requested_decides env s _ sessionId rfl
  | packetForward sessionId packet => exact requested_decides env s _ sessionId rfl
  | onRegionAllocReq sessionId avatarId avatarName => exact alloc_decides env s sessionId avatarId avatarName
  | shutdownPlayerReq player =>
    refine ⟨shutdownPlayer_queues player s,?_⟩
    intro idle
    rw [step,shutdownPlayer_idle player s idle,newlyQueued,List.drop_length]
  | shutdown =>
    apply unqueued_decides _ s _ id
    rw [step,whileRunning]
    split <;> rfl
  | tick currTime => exact unqueued_decides _ s _ id rfl
  | pass => exact ⟨False.elim,fun _ => List.drop_nil⟩

theorem fails_own (env : Env) (s : Region) (action : Action) (lost : Fails env s action) : ownReason action = true := by
  cases action with
  | onRegionReleaseReq sessionId => cases lost
  | onRegionLeaveReq sessionId => cases lost
  | _ => rfl

theorem failed_none (env : Env) (s : Region) (action : Action) :
    (∀ sessionId, failed env sessionId s action = 0) ↔ ¬ Fails env s action := by
  constructor
  · intro unfailed lost
    have own := fails_own env s action lost
    have queued := (step_decides env s action own).lost lost
    obtain ⟨player,member⟩ : ∃ player, player ∈ newlyQueued s (step env s action) := by
      apply List.exists_mem_of_length_pos
      rw [newlyQueued,List.length_drop]
      exact Nat.sub_pos_of_lt queued
    have zero := unfailed ((step env s action).contexts player).sessionId
    rw [failed,if_pos own,List.countP_eq_zero] at zero
    exact zero player member (decide_eq_true rfl)
  · intro fine sessionId
    rw [failed]
    split
    next own =>
      rw [(step_decides env s action own).fine fine]
      rfl
    · rfl

theorem failures_none (env : Env) (s : Region) (actions : List Action) :
    (∀ sessionId, failures env sessionId s actions = 0) ↔
      Guarded (step env) (fun s action => ¬ Fails env s action) s actions := by
  induction actions generalizing s with
  | nil => exact ⟨fun _ => trivial,fun _ _ => rfl⟩
  | cons action actions ih =>
    rw [Guarded,← ih,← failed_none]
    simp only [failures,Nat.add_eq_zero_iff,forall_and]

theorem silent_reports (sessionId : UInt32) (s : Region) (silent : Silent s) : reports sessionId s.log = 0 := by
  rw [reports,List.countP_eq_zero]
  intro event member
  have quiet := silent event member
  split
  next message => simp [message,isAnswer] at quiet
  · exact Bool.false_ne_true

/-- No report is ever sent. -/
theorem reported_iff (env : Env) (actions : List Action) : Reported env actions ↔
    Guarded (step env) (fun s action => ¬ Fails env s action) (init env.config) actions := by
  rw [← failures_none]
  apply forall_congr'
  intro sessionId
  rw [silent_reports sessionId _ (run_silent env actions),eq_comm]

def refused : List Action :=
  [.onRegionAllocReq firstSession 7 [97],.onRegionEnterReq firstSession,.onRegionEnterAck firstSession 1]

/-- He is queued for that, and whatever follows, the master is not told. -/
theorem refused_unreported : (run (step sampleEnv) (init sampleEnv.config) refused).finalizingQueue = [0] ∧
    failures sampleEnv firstSession (init sampleEnv.config) refused = 1 ∧ ¬ Reported sampleEnv refused ∧
    ∀ later, reports firstSession (run (step sampleEnv) (init sampleEnv.config) (refused ++ later)).log = 0 := by
  have once : failures sampleEnv firstSession (init sampleEnv.config) refused = 1 := by decide +kernel
  have never (actions : List Action) := silent_reports firstSession _ (run_silent sampleEnv actions)
  refine ⟨by decide +kernel,once,?_,fun later => never (refused ++ later)⟩
  intro reported
  have same := reported firstSession
  rw [never,once] at same
  cases same

end Fantuan.RegionServer.FailReports
