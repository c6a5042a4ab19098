import Mathlib.Data.List.Perm.Subperm
import Fantuan.Lib.Run
import Fantuan.MasterServer.Frames

/-! The tables of channels and gates. Init puts an item where its id says, but the searches stop at
the number of channels; and the tests let the id through that is one too high.
-/
namespace Fantuan.MasterServer.Channels
open Lib.Table Lib.Run Lib.Drain StarNet.Packet ServerBase.ServerCommon Tool.ObjectPool PlayerFsm
open Context ServerLoop Player Commands Deletion PlayerSteps Handlers Frames

/-- The ids are in their ranges, and no two channels have the same one. -/
structure InRange (config : MasterServerConfig) : Prop where
  channels : ∀ item ∈ config.channelConfigItems, item.channelId.toNat < channelMax
  distinct : (config.channelConfigItems.map fun item => item.channelId).Nodup
  gates : ∀ item ∈ config.gateConfigItems, item.serverId.toNat < serverCountMax

/-- The searches agree with the configuration, and a list that is sent names all channels. -/
structure Agrees (env : Env) (s : Loop) : Prop where
  ids : ∀ item ∈ env.config.channelConfigItems, getChannelId item.channelName s = item.channelId
  unknown : ∀ channelName, (∀ item ∈ env.config.channelConfigItems, item.channelName ≠ channelName) →
    getChannelId channelName s = invalidChannelId
  regions : ∀ item ∈ env.config.channelConfigItems,
    getInitialRegionServerId item.channelId s = item.initialRegionServerId
  present : channelData env s ≠ .error .null
  listed : ∀ player names,
    env.config.channelConfigItems.map (fun item => env.wchar2Char item.channelName) = names.map some →
      ∃ channels more, channels.Perm names ∧ (sendChannelList env player s).2.log =
        more ++ .sent (some player) (.client (.channelListNtf channels)) (sends env s) :: s.log

/-- A gate's report is looked up inside the array. -/
def ReportInside (env : Env) (s : Loop) : Action → Prop
  | .command (.onGateReport serverId sessionCount) =>
    (onCommand env (.onGateReport serverId sessionCount) {s with undefined := false}).undefined = false
  | _ => True

structure Sound (env : Env) (actions : List Action) : Prop where
  lookups : InRange env.config → Agrees env (run (step env) (.init env.config) actions)
  configured : (Loop.init env.config).undefined = false
  reported : Guarded (step env) (ReportInside env) (.init env.config) actions

/-- Of the items with one id, Init takes the first. -/
def Taken (config : MasterServerConfig) (item : ChannelConfigItem) : Prop :=
  config.channelConfigItems.find? (fun other => other.channelId = item.channelId) = some item ∧
    item.channelId.toNat ≤ channelMax

/-- An item that is taken stays inside the arrays. -/
def Fits (item : ChannelConfigItem) : Prop :=
  item.channelId.toNat ≠ channelMax ∧ item.channelName.length < channelNameMax

def Reportable (s : Loop) : Action → Prop
  | .command (.onGateReport serverId _) => s.shutdownStatus = .notShutdown →
    serverId.toNat ≠ serverCountMax
  | _ => True

/-- No id is the one that is too high, the name of a channel fits, and the ids of the channels are
the first ones. -/
structure Regular (env : Env) (actions : List Action) : Prop where
  contiguous : InRange env.config → ∀ item ∈ env.config.channelConfigItems,
    item.channelId.toNat < env.config.channelConfigItems.length
  channels : ∀ item, Taken env.config item → Fits item
  gates : ∀ item ∈ env.config.gateConfigItems, item.serverId.toNat ≠ serverCountMax
  reports : Guarded (step env) Reportable (.init env.config) actions

def opened (item : ChannelConfigItem) : ChannelContext :=
  ⟨item.channelId,item.channelName,item.initialRegionServerId,fun _ => ∅⟩

theorem addChannel_context (s : Loop) (item : ChannelConfigItem) (id : UInt8) :
    (s.addChannel item).channelContext id = (s.channelContext id).or
      (if item.channelId = id ∧ id.toNat ≤ channelMax then some (opened item) else none) := by
  by_cases same : item.channelId = id
  · subst same
    rw [Loop.addChannel]
    cases taken : s.channelContext item.channelId with
    | some context => simp [taken]
    | none =>
      by_cases high : item.channelId.toNat > channelMax
      · simp [high,taken,Nat.not_le.mpr high]
      · simp [high,opened,Nat.not_lt.mp high]
  · rw [if_neg (fun both => same both.1),Option.or_none,Loop.addChannel]
    split
    · rfl
    · exact Function.update_of_ne (Ne.symm same) ..

theorem addChannels_context (items : List ChannelConfigItem) (s : Loop) (id : UInt8) :
    (items.foldl Loop.addChannel s).channelContext id = (s.channelContext id).or
      (if id.toNat ≤ channelMax then
        (items.find? fun item => item.channelId = id).map opened else none) := by
  induction items generalizing s with
  | nil => simp
  | cons item items ih =>
    rw [List.foldl_cons,ih,addChannel_context,Option.or_assoc]
    congr 1
    by_cases inside : id.toNat ≤ channelMax
    · rw [if_pos inside,if_pos inside]
      by_cases same : item.channelId = id
      · rw [if_pos ⟨same,inside⟩,List.find?_cons_of_pos (by simpa using same)]
        rfl
      · rw [if_neg (fun both => same both.1),List.find?_cons_of_neg (by simpa using same)]
        rfl
    · rw [if_neg inside,if_neg (fun both => inside both.2),if_neg inside]
      rfl

theorem addChannels_count (items : List ChannelConfigItem) (s : Loop) :
    (items.foldl Loop.addChannel s).channelCount = s.channelCount := by
  induction items generalizing s with
  | nil => rfl
  | cons item items ih =>
    rw [List.foldl_cons,ih,Loop.addChannel]
    split <;> rfl

theorem addChannel_undefined (s : Loop) (item : ChannelConfigItem) :
    (s.addChannel item).undefined = false ↔ s.undefined = false ∧
      (s.channelContext item.channelId = none → item.channelId.toNat ≤ channelMax → Fits item) := by
  rw [Loop.addChannel]
  cases taken : s.channelContext item.channelId with
  | some context => simp
  | none =>
    by_cases high : item.channelId.toNat > channelMax
    · simp [high,Nat.not_le.mpr high]
    · have inside : item.channelId.toNat ≤ channelMax := Nat.not_lt.mp high
      simp only [high,inside,Option.isSome_none,Bool.false_eq_true,or_self,if_false,Bool.or_eq_false_iff,
        decide_eq_false_iff_not,Fits,true_imp_iff,and_assoc]
      apply and_congr_right
      intro _
      omega

theorem addChannels_undefined (items : List ChannelConfigItem) (s : Loop) :
    (items.foldl Loop.addChannel s).undefined = false ↔ s.undefined = false ∧
      ∀ id item, items.find? (fun other => other.channelId = id) = some item →
        s.channelContext id = none → id.toNat ≤ channelMax → Fits item := by
  induction items generalizing s with
  | nil => simp
  | cons first items ih =>
    rw [List.foldl_cons,ih,addChannel_undefined,and_assoc]
    apply and_congr_right
    intro _
    constructor
    · rintro ⟨fits,rest⟩ id item found free inside
      by_cases same : first.channelId = id
      · rw [List.find?_cons_of_pos (by simpa using same)] at found
        obtain rfl := Option.some.inj found
        rw [same] at fits
        exact fits free inside
      · rw [List.find?_cons_of_neg (by simpa using same)] at found
        apply rest id item found ?_ inside
        rw [addChannel_context,free,if_neg (fun both => same both.1)]
        rfl
    · intro all
      refine ⟨fun free inside => all first.channelId first ?_ free inside,
        fun id item found free inside => ?_⟩
      · exact List.find?_cons_of_pos (by simp)
      · rw [addChannel_context,Option.or_eq_none_iff] at free
        have different : ¬ first.channelId = id := by
          intro same
          rw [if_pos ⟨same,inside⟩] at free
          exact absurd free.2 (by simp)
        apply all id item ?_ free.1 inside
        rw [List.find?_cons_of_neg (by simpa using different)]
        exact found

theorem addGate_channels (s : Loop) (item : GateConfigItem) :
    (s.addGate item).channelContext = s.channelContext := by
  rw [Loop.addGate]
  split <;> rfl

theorem addGates_channels (items : List GateConfigItem) (s : Loop) :
    (items.foldl Loop.addGate s).channelContext = s.channelContext := by
  induction items generalizing s with
  | nil => rfl
  | cons item items ih => rw [List.foldl_cons,ih,addGate_channels]

/-- The place behind the array is free until it has been written to. -/
theorem addGate_undefined (s : Loop) (item : GateConfigItem)
    (behind : ∀ id, id.toNat = serverCountMax → (s.gateServerContext id).isSome → s.undefined = true) :
    ((s.addGate item).undefined = false ↔ s.undefined = false ∧ item.serverId.toNat ≠ serverCountMax) ∧
      ∀ id, id.toNat = serverCountMax → ((s.addGate item).gateServerContext id).isSome →
        (s.addGate item).undefined = true := by
  rw [Loop.addGate]
  split
  next skipped =>
    refine ⟨⟨fun inside => ⟨inside,fun high => ?_⟩,And.left⟩,behind⟩
    rcases skipped with beyond | taken
    · omega
    · rw [behind _ high taken] at inside
      cases inside
  next added =>
    refine ⟨by simp; omega,fun id high there => ?_⟩
    dsimp only at there ⊢
    by_cases same : id = item.serverId
    · subst same
      simp [high]
    · rw [Function.update_of_ne same] at there
      rw [behind id high there]
      rfl

theorem addGates_undefined (items : List GateConfigItem) (s : Loop)
    (behind : ∀ id, id.toNat = serverCountMax → (s.gateServerContext id).isSome → s.undefined = true) :
    (items.foldl Loop.addGate s).undefined = false ↔ s.undefined = false ∧
      ∀ item ∈ items, item.serverId.toNat ≠ serverCountMax := by
  induction items generalizing s with
  | nil => simp
  | cons item items ih =>
    obtain ⟨first,still⟩ := addGate_undefined s item behind
    rw [List.foldl_cons,ih _ still,first,List.forall_mem_cons,and_assoc]

theorem init_channels (config : MasterServerConfig) (id : UInt8) :
    (Loop.init config).channelContext id = if id.toNat ≤ channelMax then
      (config.channelConfigItems.find? fun item => item.channelId = id).map opened else none := by
  rw [Loop.init,addChannels_context,addGates_channels]
  exact Option.none_or

/-- Init stays inside its arrays exactly if no id that it takes is the one too high, and the names fit. -/
theorem init_inside (config : MasterServerConfig) : (Loop.init config).undefined = false ↔
    (∀ item ∈ config.gateConfigItems, item.serverId.toNat ≠ serverCountMax) ∧
      ∀ item, Taken config item → Fits item := by
  have fresh : Loop.new.undefined = false := rfl
  have gates := addGates_undefined config.gateConfigItems .new (by simp [Loop.new])
  rw [Loop.init,addChannels_undefined,gates,addGates_channels,and_iff_right fresh]
  apply and_congr_right
  intro _
  constructor
  · intro fits item taken
    exact fits item.channelId item taken.1 rfl taken.2
  · intro fits id item found _ inside
    have same : item.channelId = id := by simpa using List.find?_some found
    subst same
    exact fits item ⟨found,inside⟩

def described (channel : ChannelContext) : ChannelConfigItem :=
  ⟨channel.channelId,channel.channelName,channel.initialRegionServerId⟩

def channelAt (id : UInt8) (s : Loop) : Option ChannelConfigItem := (s.channelContext id).map described

structure SameChannels (s t : Loop) : Prop where
  count : t.channelCount = s.channelCount
  channels : ∀ id, channelAt id t = channelAt id s

theorem same_refl (s : Loop) : SameChannels s s := ⟨rfl,fun _ => rfl⟩

theorem same_trans (s t u : Loop) (first : SameChannels s t) (second : SameChannels t u) :
    SameChannels s u :=
  ⟨second.count.trans first.count,fun id => (second.channels id).trans (first.channels id)⟩

theorem updateRegion_channels (player : Object) (change : Map UInt32 Object → Map UInt32 Object)
    (s : Loop) : SameChannels s (updateRegion player change s) := by
  refine ⟨rfl,fun id => ?_⟩
  rw [channelAt,updateRegion]
  dsimp only
  by_cases same : id = (s.contexts player).lastChannelId
  · rw [same,Function.update_self,Option.map_map]
    rfl
  · rw [Function.update_of_ne same]
    rfl

section
variable (env : Env) (player : Object)

theorem playerStep_channels (s t : Loop) (step : PlayerStep env False player s t) :
    SameChannels s t := by
  cases step with
  | drop => exact updateRegion_channels player _ s
  | enter => exact updateRegion_channels player _ s
  | answer next =>
    have dropped := updateRegion_channels player (erase ((setState player next s).contexts player).sessionId)
      (setState player next s)
    exact ⟨dropped.count,dropped.channels⟩
  | retire leaves => cases leaves <;> exact ⟨rfl,fun _ => rfl⟩
  | _ => exact ⟨rfl,fun _ => rfl⟩

theorem does_channels (s t : Loop) (does : Does env False player s t) : SameChannels s t := by
  induction does with
  | refl => exact same_refl s
  | tail _ step ih => exact same_trans s _ _ ih (playerStep_channels env player _ _ step)

theorem shutdownPlayer_channels (s : Loop) (running : s.shutdownStatus ≠ .readyForShutdown) :
    SameChannels s (shutdownPlayer env player s) :=
  does_channels env player s _ (shutdownPlayer_does env False player s ⟨False.elim,running⟩)

theorem onLoginReq_channels (s : Loop) (sessionId : UInt32) (accountName : WString)
    (running : s.shutdownStatus ≠ .readyForShutdown) :
    SameChannels s (onLoginReq env player sessionId accountName s) := by
  by_cases fresh : (s.contexts player).state = .none
  · have does := does_channels env player _ _
      (onLoginReq_does env False player s sessionId accountName fresh running)
    exact ⟨does.count,does.channels⟩
  · rw [onLoginReq_busy env player s sessionId accountName fresh]
    exact shutdownPlayer_channels env player s running

theorem onCommandOnLoginReq_channels (s : Loop) (sessionId : UInt32) (accountName : WString)
    (running : s.shutdownStatus ≠ .readyForShutdown) :
    SameChannels s (onCommandOnLoginReq env sessionId accountName s) := by
  rw [onCommandOnLoginReq]
  split
  · exact ⟨rfl,fun _ => rfl⟩
  · split
    next player found =>
      have shut := shutdownPlayer_channels env player (send env none (.onLoginFailedAck sessionId 2) s)
        running
      exact ⟨shut.count,shut.channels⟩
    · split
      · exact ⟨rfl,fun _ => rfl⟩
      next player pool taken =>
        have logs := onLoginReq_channels env player (placed player pool sessionId accountName s) sessionId
          accountName running
        exact ⟨logs.count,logs.channels⟩

theorem gateAllocAck_channels (s : Loop) (gate : UInt8) (gateSessionId : UInt32)
    (running : s.shutdownStatus ≠ .readyForShutdown) :
    SameChannels s (gateAllocAck env player gate gateSessionId s) := by
  rcases gateAllocAck_does env False player s gate gateSessionId ⟨False.elim,running⟩ with
    does | ⟨-,t,does,-,switched⟩
  · exact does_channels env player s _ does
  · have same := does_channels env player s t does
    rw [switched,loginSession2GateSession]
    dsimp only
    split
    · exact ⟨same.count,same.channels⟩
    · split
      · exact ⟨same.count,same.channels⟩
      · exact ⟨same.count,same.channels⟩

theorem shutdowns_channels (players : List Object) (s : Loop)
    (running : s.shutdownStatus ≠ .readyForShutdown) :
    SameChannels s (players.foldl (fun s player => shutdownPlayer env player s) s) := by
  induction players generalizing s with
  | nil => exact same_refl s
  | cons player players ih =>
    have status : (shutdownPlayer env player s).shutdownStatus = s.shutdownStatus :=
      (shutdownPlayer_frame env player s running).status
    exact same_trans s _ _ (shutdownPlayer_channels env player s running)
      (ih _ (by rw [status]; exact running))

theorem forSession_channels (s : Loop) (sessionId : UInt32) (handle : Object → Loop → Loop)
    (does : ∀ player, Does env False player s (handle player s)) :
    SameChannels s (forSession sessionId handle s) := by
  rw [forSession]
  split
  next player _ => exact does_channels env player s _ (does player)
  · exact same_refl s

theorem onCommand_channels (s : Loop) (command : Command) : SameChannels s (onCommand env command s) := by
  rw [onCommand.eq_def]
  split
  · exact same_refl s
  next opens =>
    have running : s.shutdownStatus ≠ .readyForShutdown := by
      rw [not_not.mp opens]
      simp
    cases command with
    | shutdown =>
      have shut := shutdowns_channels env (values s.playerContextByName)
        {s with shutdownStatus := .startShutdown} (by simp)
      exact ⟨shut.count,shut.channels⟩
    | onLoginReport => exact ⟨rfl,fun _ => rfl⟩
    | onGateReport serverId sessionCount =>
      dsimp only [onCommandOnGateReport]
      split
      · exact ⟨rfl,fun _ => rfl⟩
      · exact ⟨rfl,fun _ => rfl⟩
    | onLoginReq sessionId accountName => exact onCommandOnLoginReq_channels env s sessionId accountName running
    | gateAllocAck gate loginSessionId accountName gateSessionId =>
      dsimp only [onCommandGateAllocAck]
      split
      · split
        · exact gateAllocAck_channels env _ s gate gateSessionId running
        · exact same_refl s
      · exact same_refl s
    | onGateLoginReq sessionId =>
      exact forSession_channels env s sessionId _ fun player =>
        onGateLoginReq_does env False player s ⟨False.elim,running⟩
    | onRegionAllocAck sessionId region result =>
      exact forSession_channels env s sessionId _ fun player =>
        onRegionAllocAck_does env False player s region result ⟨False.elim,running⟩
    | onRegionLeaveReq sessionId =>
      exact forSession_channels env s sessionId _ fun player =>
        onRegionLeaveReq_does env False player s running
    | onRegionPlayerFailReq sessionId =>
      exact forSession_channels env s sessionId _ fun player =>
        onRegionPlayerFailReq_does env False player s
    | onSessionDisconnect sessionId =>
      exact forSession_channels env s sessionId _ fun player =>
        shutdownPlayer_does env False player s ⟨False.elim,running⟩
    | packetForward sessionId typeId data =>
      refine forSession_channels env s sessionId _ fun player => ?_
      have delayed : Does env False player s (delaySendData typeId data s) :=
        .single (.note s (.received typeId data) (s.undefined || maxInputBuffer < data.length))
      exact delayed.trans (handlePacket_does env False player _ _ ⟨False.elim,running⟩)
    | other => exact same_refl s

theorem unserved_channels (s : Loop) : SameChannels s (unserved player s) := by
  rw [unserved]
  split
  · exact same_refl s
  · exact ⟨rfl,fun _ => rfl⟩
  · rw [deletePlayerFromGateServerContext]
    split
    · exact same_refl s
    · exact ⟨rfl,fun _ => rfl⟩

theorem deletePlayer_channels (s : Loop) : SameChannels s (deletePlayer player s) := by
  have served := unserved_channels player s
  have left : SameChannels s (unregioned player (unserved player s)) := by
    rw [unregioned]
    split
    · exact same_trans s _ _ served (updateRegion_channels player _ _)
    · exact served
  rw [unregioned,(unserved_core player s).contexts] at left
  exact ⟨left.count,left.channels⟩

theorem loopPass_channels (s : Loop) : SameChannels s (loopPass s) := by
  have drained : SameChannels s (drainBack deletePlayer s.finalizingQueue s) :=
    drainBack_invariant deletePlayer (SameChannels s) s.finalizingQueue
      (fun player _ t same => same_trans s t _ same (deletePlayer_channels player t)) s (same_refl s)
  rw [loopPass]
  split
  · exact ⟨drained.count,drained.channels⟩
  · exact ⟨drained.count,drained.channels⟩

theorem run_channels (s : Loop) (actions : List Action) : SameChannels s (run (step env) s actions) := by
  refine run_invariant (step env) (fun _ _ => True) (SameChannels s) (fun t action same _ => ?_) s actions
    (guarded_true (step env) s actions) (same_refl s)
  cases action with
  | command command => exact same_trans s t _ same (onCommand_channels env t command)
  | pass => exact same_trans s t _ same (loopPass_channels t)

end

/-- Every item is where its id says, and nothing else is in the array. -/
structure Holds (config : MasterServerConfig) (s : Loop) : Prop where
  count : s.channelCount.toNat = config.channelConfigItems.length
  there : ∀ item ∈ config.channelConfigItems, channelAt item.channelId s = some item
  only : ∀ id item, channelAt id s = some item → item ∈ config.channelConfigItems ∧ item.channelId = id

theorem same_holds (config : MasterServerConfig) (s t : Loop) (same : SameChannels s t)
    (holds : Holds config s) : Holds config t := by
  obtain ⟨count,there,only⟩ := holds
  refine ⟨?_,fun item member => ?_,fun id item found => ?_⟩
  · rw [same.count]
    exact count
  · rw [same.channels]
    exact there item member
  · rw [same.channels] at found
    exact only id item found

section
variable (config : MasterServerConfig) (range : InRange config)
include range

theorem ids_distinct : (config.channelConfigItems.map fun item => item.channelId.toNat).Nodup := by
  have mapped := List.Nodup.map (f := UInt8.toNat) (fun _ _ same => UInt8.toNat_inj.mp same) range.distinct
  rw [List.map_map] at mapped
  exact mapped

theorem channels_length : config.channelConfigItems.length ≤ channelMax := by
  have inside : (config.channelConfigItems.map fun item => item.channelId.toNat) ⊆ List.range channelMax := by
    intro id member
    obtain ⟨item,listed,rfl⟩ := List.mem_map.mp member
    exact List.mem_range.mpr (range.channels item listed)
  have short := (List.subperm_of_subset (ids_distinct config range) inside).length_le
  rw [List.length_map,List.length_range] at short
  exact short

theorem init_holds : Holds config (.init config) := by
  refine ⟨?_,fun item member => ?_,fun id item found => ?_⟩
  · have short := channels_length config range
    rw [Loop.init,addChannels_count]
    exact UInt8.toNat_ofNat_of_lt' (Nat.lt_of_le_of_lt short (by decide))
  · have inside := range.channels item member
    rw [channelAt,init_channels,if_pos (Nat.le_of_lt inside),
      find_listed (fun item : ChannelConfigItem => item.channelId) _ range.distinct item member]
    rfl
  · rw [channelAt,init_channels] at found
    split at found
    · rw [Option.map_map] at found
      obtain ⟨first,listed,rfl⟩ := Option.map_eq_some_iff.mp found
      have same : first.channelId = id := by simpa using List.find?_some listed
      exact ⟨List.mem_of_find?_eq_some listed,same⟩
    · cases found

theorem contiguous_ids (contiguous : ∀ item ∈ config.channelConfigItems,
    item.channelId.toNat < config.channelConfigItems.length) :
    (config.channelConfigItems.map fun item => item.channelId.toNat).Perm
      (List.range config.channelConfigItems.length) := by
  have inside : (config.channelConfigItems.map fun item => item.channelId.toNat) ⊆
      List.range config.channelConfigItems.length := by
    intro id member
    obtain ⟨item,listed,rfl⟩ := List.mem_map.mp member
    exact List.mem_range.mpr (contiguous item listed)
  refine (List.subperm_of_subset (ids_distinct config range) inside).perm_of_length_le ?_
  rw [List.length_map,List.length_range]

end

theorem findSome_only {Found : Type} (search : Nat → Option Found) (wanted n : Nat)
    (only : ∀ i < n, i ≠ wanted → search i = none) :
    (List.range n).findSome? search = if wanted < n then search wanted else none := by
  induction n with
  | zero => rfl
  | succ n ih =>
    rw [List.range_succ,List.findSome?_append,ih fun i below => only i (Nat.lt_succ_of_lt below),
      List.findSome?_singleton]
    by_cases same : wanted = n
    · subst same
      rw [if_neg (Nat.lt_irrefl _),if_pos (Nat.lt_succ_self _)]
      rfl
    · rw [only n (Nat.lt_succ_self n) (Ne.symm same),Option.or_none]
      simp only [Nat.lt_succ_iff_lt_or_eq,same,or_false]

/-- The search of GetChannelId and GetInitialRegionServerId. -/
def searched (test : ChannelConfigItem → Bool) (value : ChannelConfigItem → UInt8) (s : Loop) :
    Option UInt8 :=
  (List.range s.channelCount.toNat).findSome? fun i =>
    (channelAt (UInt8.ofNat i) s).bind fun item => if test item then some (value item) else none

theorem getChannelId_searched (channelName : WString) (s : Loop) : getChannelId channelName s =
    (searched (fun item => item.channelName = channelName) (fun item => item.channelId) s).getD
      invalidChannelId := by
  rw [getChannelId,searched]
  congr 3
  funext i
  rw [channelAt]
  cases s.channelContext (UInt8.ofNat i) with
  | none => rfl
  | some channel => simp [described]

theorem getInitialRegionServerId_searched (channelId : UInt8) (s : Loop) :
    getInitialRegionServerId channelId s = (searched (fun item => item.channelId = channelId)
      (fun item => item.initialRegionServerId) s).getD invalidServerId := by
  rw [getInitialRegionServerId,searched]
  congr 3
  funext i
  rw [channelAt]
  cases s.channelContext (UInt8.ofNat i) with
  | none => rfl
  | some channel => simp [described]

section
variable (config : MasterServerConfig) (s : Loop) (holds : Holds config s)
  (test : ChannelConfigItem → Bool) (value : ChannelConfigItem → UInt8)
include holds

/-- The only item that passes the test is found if its id is below the number of channels. -/
theorem searched_item (item : ChannelConfigItem) (member : item ∈ config.channelConfigItems)
    (passes : test item = true) (unique : ∀ other ∈ config.channelConfigItems, test other = true → other = item) :
    searched test value s =
      if item.channelId.toNat < config.channelConfigItems.length then some (value item) else none := by
  have only : ∀ i < s.channelCount.toNat, i ≠ item.channelId.toNat →
      ((channelAt (UInt8.ofNat i) s).bind fun item => if test item then some (value item) else none) =
        none := by
    intro i below different
    cases found : channelAt (UInt8.ofNat i) s with
    | none => rfl
    | some other =>
      obtain ⟨listed,id⟩ := holds.only _ other found
      rw [Option.bind_some,if_neg]
      intro also
      rw [unique other listed also] at id
      have here := congrArg UInt8.toNat id
      rw [UInt8.toNat_ofNat_of_lt' (Nat.lt_trans below s.channelCount.toNat_lt)] at here
      exact different here.symm
  rw [searched,findSome_only _ item.channelId.toNat _ only,holds.count,UInt8.ofNat_toNat,
    holds.there item member,Option.bind_some,if_pos passes]

theorem searched_none (fails : ∀ item ∈ config.channelConfigItems, test item = false) :
    searched test value s = none := by
  rw [searched,List.findSome?_eq_none_iff]
  intro i _
  cases found : channelAt (UInt8.ofNat i) s with
  | none => rfl
  | some item =>
    rw [Option.bind_some,fails item (holds.only _ item found).1]
    rfl

end

theorem mapM_ok {Entry Fault Result : Type} (entries : List Entry) (f : Entry → Except Fault Result)
    (g : Entry → Result) (succeeds : ∀ entry ∈ entries, f entry = .ok (g entry)) :
    entries.mapM f = .ok (entries.map g) := by
  induction entries with
  | nil => rfl
  | cons entry entries ih =>
    rw [List.mapM_cons,succeeds entry List.mem_cons_self,
      ih fun other member => succeeds other (List.mem_cons_of_mem entry member)]
    rfl

theorem mapM_error {Entry Fault Result : Type} (entries : List Entry) (f : Entry → Except Fault Result)
    (fault : Fault) (fails : entries.mapM f = .error fault) : ∃ entry ∈ entries, f entry = .error fault := by
  induction entries with
  | nil => cases fails
  | cons entry entries ih =>
    rw [List.mapM_cons] at fails
    cases first : f entry with
    | error other =>
      rw [first] at fails
      cases fails
      exact ⟨entry,List.mem_cons_self,first⟩
    | ok result =>
      rw [first] at fails
      cases rest : entries.mapM f with
      | ok results =>
        rw [rest] at fails
        cases fails
      | error other =>
        rw [rest] at fails
        cases fails
        obtain ⟨later,member,failed⟩ := ih rest
        exact ⟨later,List.mem_cons_of_mem entry member,failed⟩

theorem sendChannelList_log (env : Env) (player : Object) (channels : List (List UInt8)) (s : Loop)
    (made : channelData env s = .ok channels) : ∃ more, (sendChannelList env player s).2.log =
      more ++ .sent (some player) (.client (.channelListNtf channels)) (sends env s) :: s.log := by
  have written : (write env player (.channelListNtf channels) s).log =
      .sent (some player) (.client (.channelListNtf channels)) (sends env s) :: s.log := by
    rw [write]
    split <;> rfl
  rw [sendChannelList,made]
  dsimp only
  split
  · exact ⟨[],written⟩
  · exact ⟨[_],congrArg _ written⟩

section
variable (env : Env) (s : Loop) (range : InRange env.config) (holds : Holds env.config s)
  (contiguous : ∀ item ∈ env.config.channelConfigItems,
    item.channelId.toNat < env.config.channelConfigItems.length)
include range holds contiguous

/-- Every place that SendChannelList reads has a channel. -/
theorem places_filled (i : Nat) (below : i < s.channelCount.toNat) :
    ∃ item ∈ env.config.channelConfigItems, item.channelId.toNat = i ∧
      ∃ channel, s.channelContext (UInt8.ofNat i) = some channel ∧ channel.channelName = item.channelName := by
  rw [holds.count] at below
  obtain ⟨item,member,id⟩ := List.mem_map.mp
    ((contiguous_ids env.config range contiguous).mem_iff.mpr (List.mem_range.mpr below))
  refine ⟨item,member,id,?_⟩
  have there := holds.there item member
  rw [← id,UInt8.ofNat_toNat]
  obtain ⟨channel,found,same⟩ := Option.map_eq_some_iff.mp there
  exact ⟨channel,found,congrArg ChannelConfigItem.channelName same⟩

theorem channelData_present : channelData env s ≠ .error .null := by
  intro fails
  obtain ⟨i,member,failed⟩ := mapM_error _ _ _ fails
  obtain ⟨item,-,-,channel,found,-⟩ :=
    places_filled env s range holds contiguous i (List.mem_range.mp member)
  rw [found] at failed
  dsimp only at failed
  split at failed <;> cases failed

theorem channelData_listed (names : List (List UInt8))
    (converted : env.config.channelConfigItems.map (fun item => env.wchar2Char item.channelName) =
      names.map some) : ∃ channels, channels.Perm names ∧ channelData env s = .ok channels := by
  let text (i : Nat) : List UInt8 :=
    ((channelAt (UInt8.ofNat i) s).bind fun item => env.wchar2Char item.channelName).getD []
  have own : ∀ item ∈ env.config.channelConfigItems,
      env.wchar2Char item.channelName = some (text item.channelId.toNat) := by
    intro item member
    have listed : env.wchar2Char item.channelName ∈ names.map some := by
      rw [← converted]
      exact List.mem_map_of_mem member
    obtain ⟨name,-,same⟩ := List.mem_map.mp listed
    dsimp only [text]
    rw [UInt8.ofNat_toNat,holds.there item member,Option.bind_some,← same]
    rfl
  have all : names = (env.config.channelConfigItems.map fun item => item.channelId.toNat).map text := by
    apply List.map_injective_iff.mpr (Option.some_injective _)
    rw [← converted,List.map_map,List.map_map]
    exact List.map_congr_left own
  refine ⟨(List.range s.channelCount.toNat).map text,?_,?_⟩
  · rw [all,holds.count]
    exact ((contiguous_ids env.config range contiguous).map text).symm
  · apply mapM_ok
    intro i member
    obtain ⟨item,listed,rfl,channel,found,named⟩ :=
      places_filled env s range holds contiguous i (List.mem_range.mp member)
    rw [found]
    dsimp only
    rw [named,own item listed]
    rfl

end

section
variable (env : Env) (s : Loop)

theorem getChannelId_item (holds : Holds env.config s)
    (names : (env.config.channelConfigItems.map fun item => item.channelName).Nodup)
    (item : ChannelConfigItem) (member : item ∈ env.config.channelConfigItems) :
    getChannelId item.channelName s = if item.channelId.toNat < env.config.channelConfigItems.length then
      item.channelId else invalidChannelId := by
  have unique : ∀ other ∈ env.config.channelConfigItems,
      decide (other.channelName = item.channelName) = true → other = item := by
    intro other listed same
    exact List.inj_on_of_nodup_map names listed member (by simpa using same)
  rw [getChannelId_searched,searched_item env.config s holds _ _ item member (by simp) unique]
  split <;> rfl

/-- With ids that are the first numbers, the searches and the list agree with the configuration. -/
theorem contiguous_agrees (range : InRange env.config) (holds : Holds env.config s)
    (names : (env.config.channelConfigItems.map fun item => item.channelName).Nodup)
    (contiguous : ∀ item ∈ env.config.channelConfigItems,
      item.channelId.toNat < env.config.channelConfigItems.length) : Agrees env s where
  ids item member := by
    rw [getChannelId_item env s holds names item member,if_pos (contiguous item member)]
  unknown channelName fresh := by
    rw [getChannelId_searched,searched_none env.config s holds]
    · rfl
    · exact fun item member => decide_eq_false (fresh item member)
  regions item member := by
    have unique : ∀ other ∈ env.config.channelConfigItems,
        decide (other.channelId = item.channelId) = true → other = item := by
      intro other listed same
      exact List.inj_on_of_nodup_map range.distinct listed member (by simpa using same)
    rw [getInitialRegionServerId_searched,searched_item env.config s holds _ _ item member (by simp) unique,
      if_pos (contiguous item member)]
    rfl
  present := channelData_present env s range holds contiguous
  listed player names converted := by
    obtain ⟨channels,perm,made⟩ := channelData_listed env s range holds contiguous names converted
    obtain ⟨more,log⟩ := sendChannelList_log env player channels s made
    exact ⟨channels,more,perm,log⟩

/-- A channel whose id is too high is not found. -/
theorem agrees_contiguous (range : InRange env.config) (holds : Holds env.config s)
    (names : (env.config.channelConfigItems.map fun item => item.channelName).Nodup)
    (agrees : Agrees env s) : ∀ item ∈ env.config.channelConfigItems,
      item.channelId.toNat < env.config.channelConfigItems.length := by
  intro item member
  by_contra high
  have id := agrees.ids item member
  have low := range.channels item member
  rw [getChannelId_item env s holds names item member,if_neg high] at id
  rw [← id] at low
  exact absurd low (by decide)

theorem report_inside (action : Action) : ReportInside env s action ↔ Reportable s action := by
  cases action with
  | pass => exact Iff.rfl
  | command command =>
    cases command with
    | onGateReport serverId sessionCount =>
      rw [ReportInside,Reportable,onCommand.eq_def]
      by_cases running : s.shutdownStatus = .notShutdown
      · simp only [running,ne_eq,not_true_eq_false,if_false,true_imp_iff,onCommandOnGateReport]
        split <;> simp [updateGate]
      · simp [running]
    | _ => exact Iff.rfl

end

/-- The tables are sound exactly if the ids of the channels are the first ones, no id is the one that is
too high, and the names fit. -/
theorem channels_sound_iff (env : Env) (actions : List Action)
    (names : (env.config.channelConfigItems.map fun item => item.channelName).Nodup) :
    Sound env actions ↔ Regular env actions := by
  have reports : Guarded (step env) (ReportInside env) (.init env.config) actions ↔
      Guarded (step env) Reportable (.init env.config) actions :=
    guarded_iff (step env) (fun _ _ => True) _ _ (fun _ => True) (fun _ _ _ _ => trivial)
      (fun s action _ _ => report_inside env s action) _ actions (guarded_true (step env) _ actions) trivial
  have holds (range : InRange env.config) : Holds env.config (run (step env) (.init env.config) actions) :=
    same_holds env.config _ _ (run_channels env _ actions) (init_holds env.config range)
  constructor
  · rintro ⟨lookups,configured,reported⟩
    obtain ⟨gates,channels⟩ := (init_inside env.config).mp configured
    exact ⟨fun range => agrees_contiguous env _ range (holds range) names (lookups range),channels,gates,
      reports.mp reported⟩
  · rintro ⟨contiguous,channels,gates,reported⟩
    exact ⟨fun range => contiguous_agrees env _ range (holds range) names (contiguous range),
      (init_inside env.config).mpr ⟨gates,channels⟩,reports.mpr reported⟩

/-- Two channels in another order than that of their ids, and a gate that reports. -/
theorem channels_sound_swapped : Sound {sampleEnv (fun _ => true) with
    config := ⟨[⟨1,16777343,5000,10⟩],[⟨1,[97],2⟩,⟨0,[98],3⟩]⟩} [.command (.onGateReport 1 5)] := by
  refine (channels_sound_iff _ _ (by decide)).mpr ⟨fun _ => by decide,fun item taken => ?_,by decide,?_⟩
  · have fit : ∀ item ∈ ([⟨1,[97],2⟩,⟨0,[98],3⟩] : List ChannelConfigItem),
        item.channelId.toNat ≠ channelMax ∧ item.channelName.length < channelNameMax := by decide
    exact fit item (List.mem_of_find?_eq_some taken.1)
  · exact ⟨fun _ => by decide,trivial⟩

/-- One channel, with the id 1. -/
theorem channels_sound_sparse : ¬ Sound {sampleEnv (fun _ => true) with
    config := ⟨[⟨1,16777343,5000,10⟩],[⟨1,[97],2⟩]⟩} [] := by
  intro sound
  have found := (sound.lookups ⟨by decide,by decide,by decide⟩).ids ⟨1,[97],2⟩ List.mem_cons_self
  revert found
  decide

end Fantuan.MasterServer.Channels
