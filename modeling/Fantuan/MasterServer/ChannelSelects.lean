import Fantuan.MasterServer.LoginAnswers

/-! The outcomes of a channel selection: an unknown name, a region that refuses and a region that
accepts. The failure transitions of OnRegionAllocAck start from a state the ack itself leaves.
-/
namespace Fantuan.MasterServer.ChannelSelects
open Lib.Table Lib.Run ServerBase.ServerCommon Tool.ObjectPool PlayerFsm
open Context ServerLoop Player Commands PlayerSteps Handlers Logouts LoginAnswers

def asksRegion (player : Object) : Event → Bool
  | .sent (some other) (.regionAllocReq _ _ _ _) true => other = player
  | _ => false

/-- A ChannelSelectAck with a nonzero result that reaches the client's gate. -/
def refusesChannel (player : Object) : Event → Bool
  | .sent (some other) (.sendData _ _ (.written (.channelSelectAck result))) true =>
    other = player && result ≠ 0
  | _ => false

def Accepted (channelName : WString) (result : Int32) (s : Loop) : Prop :=
  getChannelId channelName s ≠ invalidChannelId ∧ result = 0

instance (channelName : WString) (result : Int32) (s : Loop) : Decidable (Accepted channelName result s) :=
  inferInstanceAs (Decidable (getChannelId channelName s ≠ invalidChannelId ∧ result = 0))

structure Settles (player : Object) (channelName : WString) (result : Int32) (s t : Loop) : Prop where
  refused : ¬ Accepted channelName result s →
    (t.contexts player).state = .channelListNtf ∧ (since s.log t.log).any (refusesChannel player) = true
  accepted : Accepted channelName result s → (t.contexts player).state = .regionEnterReq

structure Selecting (sessionId : UInt32) (player : Object) (s : Loop) : Prop where
  running : s.shutdownStatus = .notShutdown
  found : find sessionId s.playerContextBySessionId = some player
  active : (s.contexts player).finalizing = false
  listed : (s.contexts player).state = .channelListNtf

/-- Nothing has happened to the player and his session in the meantime. -/
structure Undisturbed (sessionId : UInt32) (player : Object) (s t : Loop) : Prop where
  running : t.shutdownStatus = .notShutdown
  found : find sessionId t.playerContextBySessionId = some player
  context : t.contexts player = s.contexts player

/-- After the request and, if a region was asked, what happens until its answer and the answer. -/
def settled (env : Env) (sessionId : UInt32) (player : Object) (region : UInt8) (result : Int32)
    (between : List Action) (s requested : Loop) : Loop :=
  if (since s.log requested.log).any (asksRegion player) then
    step env (run (step env) requested between) (.command (.onRegionAllocAck sessionId region result))
  else requested

section
variable (env : Env) (player : Object)

theorem expect_reached (s : Loop) (event : PlayerEvent) (expected : PlayerState) (next : Loop → Loop)
    (reached : reaches event player s = some expected) :
    expect env player event expected next s = next (setState player expected s) := by
  rw [expect]
  rw [if_pos reached,stateTransition_reached player s event expected reached]

theorem setState_context (s : Loop) (next : PlayerState) :
    (setState player next s).contexts player = {s.contexts player with state := next} :=
  update_same ..

theorem shutdownPlayer_stays (s : Loop)
    (stays : (shutdownNeeds (s.contexts player).state).regionLeave = false) :
    ((shutdownPlayer env player s).contexts player).state = (s.contexts player).state := by
  have begun : (s.contexts player).state ≠ .regionEnterReq := by
    intro entered
    rw [entered] at stays
    cases stays
  have finished (needs : ShutdownNeeds) (t : Loop) :
      ((finishShutdown env needs player t).contexts player).state = (t.contexts player).state := by
    simp only [finishShutdown,addPlayerToFinalizingQueue,update_same,sendIf_contexts]
  rw [shutdownPlayer]
  split
  · rfl
  · simp only [stays,Bool.false_and,Bool.false_eq_true,if_false,finished]
    split <;> rfl

section
variable (net : ∀ n, env.net n = true)
include net

theorem attempt_sends (s : Loop) (message : Loop → Message) (next : Loop → Loop) :
    attempt env player message next s = next (send env (some player) (message s) s) := by
  rw [attempt]
  exact if_pos (net _)

theorem attemptWrite_sends (s : Loop) (packet : ClientPacket) (next : Loop → Loop) :
    attemptWrite env player packet next s = next (write env player packet s) := by
  rw [attemptWrite]
  exact if_pos (net _)

theorem write_log (s : Loop) (packet : ClientPacket) :
    (write env player packet s).log = .sent (some player) (.client packet) true :: s.log := by
  rw [write]
  split
  · rw [send,net]
  · rw [send,net]

/-- The request of a channel that is not found leaves the player in ONCHANNELSELECTREQ. -/
theorem onChannelSelectReq_unknown (s : Loop) (channelName : WString)
    (active : (s.contexts player).finalizing = false) (listed : (s.contexts player).state = .channelListNtf)
    (unknown : getChannelId channelName s = invalidChannelId) :
    let t := onChannelSelectReq env player channelName s
    (t.contexts player).state = .onChannelSelectReq ∧ (since s.log t.log).any (asksRegion player) = false := by
  let moved := setState player .onChannelSelectReq s
  let written := write env player (.channelSelectAck (-1)) moved
  have reached : reaches .onChannelSelectReq player s = some .onChannelSelectReq := by rw [reaches,listed]; rfl
  have same : getChannelId channelName moved = invalidChannelId := unknown
  have handled : onChannelSelectReq env player channelName s =
      send env (some player) (toClient player written) written := by
    rw [onChannelSelectReq,active]
    simp only [Bool.false_eq_true,if_false]
    rw [expect_reached env player s _ _ _ reached,if_pos same]
    exact if_pos (net _)
  rw [handled]
  constructor
  · change (written.contexts player).state = _
    rw [write_contexts,setState_context]
  · change (since s.log (_ :: written.log)).any _ = false
    rw [write_log env player net]
    simp [since,moved,setState,Loop.update,asksRegion,toClient]

theorem onChannelSelectReq_known (s : Loop) (channelName : WString)
    (active : (s.contexts player).finalizing = false) (listed : (s.contexts player).state = .channelListNtf)
    (known : getChannelId channelName s ≠ invalidChannelId) :
    let t := onChannelSelectReq env player channelName s
    ((t.contexts player).state = .regionAllocReq ∧ (t.contexts player).finalizing = false) ∧
      (since s.log t.log).any (asksRegion player) = true := by
  have reached : reaches .onChannelSelectReq player s = some .onChannelSelectReq := by rw [reaches,listed]; rfl
  have same : ¬ getChannelId channelName (setState player .onChannelSelectReq s) = invalidChannelId := known
  rw [onChannelSelectReq,active]
  simp only [Bool.false_eq_true,if_false]
  rw [expect_reached env player s _ _ _ reached,if_neg same,attempt_sends env player net]
  let moved := setState player .onChannelSelectReq s
  let asked := send env (some player) (.regionAllocReq (getInitialRegionServerId
    (getChannelId channelName moved) moved) (moved.contexts player).sessionId
    (moved.contexts player).avatarId (moved.contexts player).avatarName) moved
  let chosen := asked.update player fun context =>
    {context with lastChannelId := getChannelId channelName moved}
  have context : chosen.contexts player = {s.contexts player with
      state := .onChannelSelectReq, lastChannelId := getChannelId channelName moved} := by
    have here : asked.contexts player = {s.contexts player with state := .onChannelSelectReq} :=
      setState_context player s _
    rw [update_same,here]
  have next : reaches .regionAllocReq player chosen = some .regionAllocReq := by rw [reaches,context]; rfl
  change let t := stateTransition .regionAllocReq player chosen
    ((t.contexts player).state = _ ∧ (t.contexts player).finalizing = false) ∧
      (since s.log t.log).any _ = true
  rw [stateTransition_reached player chosen _ _ next]
  refine ⟨?_,?_⟩
  · rw [setState_context,context]
    exact ⟨rfl,active⟩
  · simp [since,chosen,asked,moved,send,setState,Loop.update,asksRegion,net]

theorem onRegionAllocAck_moves (s : Loop) (region : UInt8) (result : Int32)
    (active : (s.contexts player).finalizing = false) (asked : (s.contexts player).state = .regionAllocReq) :
    onRegionAllocAck env player region result s =
      let moved := setState player .onRegionAllocAck s
      if result ≠ 0 then
        let written := write env player (.channelSelectAck result) moved
        notifyChannels env player
          (setState player .channelSelectAck (send env (some player) (toClient player written) written))
      else
        let placed := moved.update player fun context => {context with regionServerId := region}
        let written := write env player (.channelSelectAck result) placed
        let acked := setState player .channelSelectAck (send env (some player) (toClient player written) written)
        addPlayerToRegionServerContext player (setState player .regionEnterReq
          (send env (some player) (.regionEnterReq (acked.contexts player).regionServerId
            (acked.contexts player).sessionId) acked)) := by
  have reached : reaches .onRegionAllocAck player s = some .onRegionAllocAck := by rw [reaches,asked]; rfl
  have acks (t : Loop) (here : (t.contexts player).state = .onRegionAllocAck) :
      reaches .channelSelectAck player t = some .channelSelectAck := by rw [reaches,here]; rfl
  have enters (t : Loop) (here : (t.contexts player).state = .channelSelectAck) :
      reaches .regionEnterReq player t = some .regionEnterReq := by rw [reaches,here]; rfl
  let moved := setState player .onRegionAllocAck s
  have here : moved.contexts player = {s.contexts player with state := .onRegionAllocAck} :=
    setState_context player s _
  rw [onRegionAllocAck,active]
  simp only [Bool.false_eq_true,if_false]
  rw [expect_reached env player s _ _ _ reached]
  split
  · have stuck : stateTransition .onRegionAllocFailAck player moved = moved := by
      apply stateTransition_none
      rw [reaches,here]
      rfl
    rw [stuck,attemptWrite_sends env player net,attempt_sends env player net]
    rw [stateTransition_reached player _ _ _ (acks _ ?_)]
    change ((write env player _ moved).contexts player).state = _
    rw [write_contexts,here]
  · let placed := moved.update player fun context => {context with regionServerId := region}
    let written := write env player (.channelSelectAck result) placed
    let sent := send env (some player) (toClient player written) written
    have placedState : (sent.contexts player).state = .onRegionAllocAck := by
      change (written.contexts player).state = _
      rw [write_contexts,update_same,here]
    have acked := acks sent placedState
    rw [attemptWrite_sends env player net,attempt_sends env player net]
    rw [if_pos acked,stateTransition_reached player sent _ _ acked,attempt_sends env player net]
    have entered := enters (send env (some player) (.regionEnterReq
      ((setState player .channelSelectAck sent).contexts player).regionServerId
      ((setState player .channelSelectAck sent).contexts player).sessionId)
      (setState player .channelSelectAck sent)) (by
        change ((setState player .channelSelectAck sent).contexts player).state = _
        rw [setState_context])
    rw [if_pos entered,stateTransition_reached player _ _ _ entered]

theorem onRegionAllocAck_refused (s : Loop) (region : UInt8) (result : Int32)
    (active : (s.contexts player).finalizing = false) (asked : (s.contexts player).state = .regionAllocReq)
    (refused : result ≠ 0) :
    ((onRegionAllocAck env player region result s).contexts player).state = .channelSelectAck := by
  rw [onRegionAllocAck_moves env player net s region result active asked]
  dsimp only
  rw [if_pos refused]
  generalize send env (some player) _ _ = sent
  have acked : ((setState player .channelSelectAck sent).contexts player).state = .channelSelectAck := by
    rw [setState_context]
  let listed := (sendChannelList env player (setState player .channelSelectAck sent)).2
  have same : (listed.contexts player).state = .channelSelectAck := by
    rw [sendChannelList_contexts]
    exact acked
  rw [notifyChannels]
  dsimp only
  split
  · have stuck : stateTransition .channelListNtf player listed = listed := by
      apply stateTransition_none
      rw [reaches,same]
      rfl
    rw [stuck]
    exact same
  · have stays : (shutdownNeeds (listed.contexts player).state).regionLeave = false := by rw [same]; rfl
    exact (shutdownPlayer_stays env player listed stays).trans same

theorem onRegionAllocAck_accepted (s : Loop) (region : UInt8) (active : (s.contexts player).finalizing = false)
    (asked : (s.contexts player).state = .regionAllocReq) :
    ((onRegionAllocAck env player region 0 s).contexts player).state = .regionEnterReq := by
  rw [onRegionAllocAck_moves env player net s region 0 active asked]
  dsimp only
  rw [if_neg (by simp)]
  generalize send env (some player) _ _ = sent
  change ((setState player .regionEnterReq sent).contexts player).state = _
  rw [setState_context]

end

end

/-- With sends that succeed, a selection ends where it should exactly when the name is found and
the region accepts. -/
theorem channelSelect_settles_iff (env : Env) (net : ∀ n, env.net n = true) (before between : List Action)
    (sessionId : UInt32) (player : Object) (typeId : UInt16) (data : List UInt8) (channelName : WString)
    (region : UInt8) (result : Int32)
    (received : env.onPacketReceived typeId data = .channelSelectReq channelName)
    (selecting : Selecting sessionId player (run (step env) (.init env.config) before))
    (undisturbed :
      let requested := step env (run (step env) (.init env.config) before)
        (.command (.packetForward sessionId typeId data))
      Undisturbed sessionId player requested (run (step env) requested between)) :
    let s := run (step env) (.init env.config) before
    Settles player channelName result s (settled env sessionId player region result between s
        (step env s (.command (.packetForward sessionId typeId data)))) ↔
      Accepted channelName result s := by
  generalize run (step env) (.init env.config) before = s at *
  dsimp only at undisturbed ⊢
  let delayed := delaySendData typeId data s
  have handled : step env s (.command (.packetForward sessionId typeId data)) =
      onChannelSelectReq env player channelName delayed := by
    rw [step,onCommand,if_neg (by simp [selecting.running]),onCommandPacketForward,forSession,selecting.found]
    dsimp only
    rw [received]
    rfl
  rw [handled] at undisturbed ⊢
  by_cases unknown : getChannelId channelName s = invalidChannelId
  · obtain ⟨state,unasked⟩ := onChannelSelectReq_unknown env player net delayed channelName
      selecting.active selecting.listed unknown
    have stays : settled env sessionId player region result between s
        (onChannelSelectReq env player channelName delayed) =
          onChannelSelectReq env player channelName delayed := by
      rw [settled]
      exact if_neg (by rw [show s.log = delayed.log from rfl,unasked]; exact Bool.false_ne_true)
    rw [stays]
    have rejected : ¬ Accepted channelName result s := fun accepted => accepted.1 unknown
    refine ⟨fun settles => ?_,fun accepted => absurd accepted rejected⟩
    have back := (settles.refused rejected).1
    rw [state] at back
    cases back
  · obtain ⟨⟨state,active⟩,asked⟩ := onChannelSelectReq_known env player net delayed channelName
      selecting.active selecting.listed unknown
    let later := run (step env) (onChannelSelectReq env player channelName delayed) between
    have laterState : (later.contexts player).state = .regionAllocReq := by
      rw [undisturbed.context]
      exact state
    have laterActive : (later.contexts player).finalizing = false := by
      rw [undisturbed.context]
      exact active
    have answered : settled env sessionId player region result between s
        (onChannelSelectReq env player channelName delayed) =
          onRegionAllocAck env player region result later := by
      rw [settled,show s.log = delayed.log from rfl,if_pos asked]
      rw [step,onCommand,if_neg (by simp [undisturbed.running]),forSession,undisturbed.found]
    rw [answered]
    by_cases agreed : result = 0
    · subst agreed
      have entered := onRegionAllocAck_accepted env player net later region laterActive laterState
      exact ⟨fun _ => ⟨unknown,rfl⟩,fun accepted => ⟨fun rejected => absurd accepted rejected,fun _ => entered⟩⟩
    · have stuck := onRegionAllocAck_refused env player net later region result laterActive laterState agreed
      have rejected : ¬ Accepted channelName result s := fun accepted => agreed accepted.2
      refine ⟨fun settles => ?_,fun accepted => absurd accepted rejected⟩
      have back := (settles.refused rejected).1
      rw [stuck] at back
      cases back

/-- The steps of a player up to the channel list. -/
def enterChannels : List Action :=
  enterGate ++ [1,2,3,4].map fun typeId => (.command (.packetForward gateSession typeId []) : Action)

theorem enterChannels_selecting : Selecting gateSession 0
    (run (step (sampleEnv fun _ => true)) (.init (sampleEnv fun _ => true).config) enterChannels) :=
  ⟨by decide +kernel,by decide +kernel,by decide +kernel,by decide +kernel⟩

theorem channelSelect_settles_entered :
    let env := sampleEnv fun _ => true
    let s := run (step env) (.init env.config) enterChannels
    Settles 0 [97] 0 s (settled env gateSession 0 2 0 [] s
      (step env s (.command (.packetForward gateSession 5 [])))) :=
  (channelSelect_settles_iff (sampleEnv fun _ => true) (fun _ => rfl) enterChannels [] gateSession 0 5 []
    [97] 2 0 rfl enterChannels_selecting
    ⟨by decide +kernel,by decide +kernel,by decide +kernel⟩).mpr (by decide +kernel)

/-- The region refuses: the player does not get back to the channel list. -/
theorem channelSelect_settles_refused :
    let env := sampleEnv fun _ => true
    let s := run (step env) (.init env.config) enterChannels
    Selecting gateSession 0 s ∧ ¬ Settles 0 [97] 1 s (settled env gateSession 0 2 1 [] s
      (step env s (.command (.packetForward gateSession 5 [])))) := by
  refine ⟨enterChannels_selecting,fun settles => ?_⟩
  have back := (settles.refused (by decide +kernel)).1
  revert back
  decide +kernel

end Fantuan.MasterServer.ChannelSelects
