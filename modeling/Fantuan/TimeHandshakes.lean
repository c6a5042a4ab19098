import Fantuan.RegionServer.Visits

/-! The time handshake of a client with the region that it enters. The region tells a player its time twice, the
second time in answer to the time of the client, and puts it on a map only then. A client asks where it has no time
of a server yet, and what it has stays until its connection ends; so it asks on its first visit and on no other.
-/
namespace Fantuan.TimeHandshakes
open Lib.Run Lib.Table ServerBase.ServerCommon Tool.ObjectPool Tool.StateMachine
open RegionServer RegionServer.ServerLoop RegionServer.Player RegionServer.PlayerSteps RegionServer.SendScripts
  RegionServer.FailReports RegionServer.Indexes RegionServer.ClientViews RegionServer.Visits
open RegionServer.Commands (onPacketReceived onCommandOnRegionEnterAck slotOf slotAt forSession whileRunning)

/-- m_iServerTime, and how many of the events of m_ClientEventList report an entry. -/
structure Client where
  serverTime : UInt32
  regionEnters : Nat
  deriving DecidableEq

def Client.clear : Client := ⟨0,0⟩

/-- The requests that are sent, and the client. -/
def serverTimeNtf (currTime serverTime : UInt32) (client : Client) : List UInt32 × Client :=
  if client.serverTime = 0 then ([currTime],{client with serverTime := serverTime})
  else ([],{client with regionEnters := client.regionEnters + 1, serverTime := serverTime})

/-- No other packet of a region reads the time, changes it or reports an entry. -/
def onPacket (currTime : UInt32) (client : Client) : Packet → List UInt32 × Client
  | .serverTimeNtf serverTime => serverTimeNtf currTime serverTime client
  | _ => ([],client)

/-- By session id, and oldest first, the packets that are on their way to the client and the times that are on their
way to the region. -/
structure World where
  region : Region
  clients : UInt32 → Client
  packets : UInt32 → List Packet
  requests : UInt32 → List UInt32

def initial (env : Env) : World := ⟨Commands.init env.config,fun _ => .clear,fun _ => [],fun _ => []⟩

def since (s t : Region) : List Event := t.log.take (t.log.length - s.log.length)

def regionStep (env : Env) (s : World) (action : Commands.Action) : World :=
  let region := Commands.step env s.region action
  {s with
    region := region
    packets := fun sessionId =>
      s.packets sessionId ++ ((since s.region region).filterMap (reaching sessionId)).reverse}

/-- A client's time comes to the region only from the client. -/
inductive Action where
  | region (action : Commands.Action)
  | hear (sessionId currTime : UInt32)
  | forward (sessionId : UInt32)
  | clear (sessionId : UInt32)

def isTimeReq : Commands.Action → Bool
  | .packetForward _ (.clientTimeReq _) => true
  | _ => false

def step (env : Env) (s : World) : Action → World
  | .region action => if isTimeReq action then s else regionStep env s action
  | .hear sessionId currTime =>
    match s.packets sessionId with
    | [] => s
    | packet :: rest =>
      let (asked,client) := onPacket currTime (s.clients sessionId) packet
      {s with
        clients := Function.update s.clients sessionId client
        packets := Function.update s.packets sessionId rest
        requests := Function.update s.requests sessionId (s.requests sessionId ++ asked)}
  | .forward sessionId =>
    match s.requests sessionId with
    | [] => s
    | clientTime :: rest =>
      regionStep env {s with requests := Function.update s.requests sessionId rest}
        (.packetForward sessionId (.clientTimeReq clientTime))
  | .clear sessionId => {s with clients := Function.update s.clients sessionId .clear}

/-- The allocations and the passes are those that keep the indexes of the region sound. -/
def Fresh (s : World) : Action → Prop
  | .region action => Indexes.Fresh s.region action
  | _ => True

instance (s : World) : DecidablePred (Fresh s)
  | .region action => inferInstanceAs (Decidable (Indexes.Fresh s.region action))
  | .hear _ _ | .forward _ | .clear _ => inferInstanceAs (Decidable True)

/-- The client stays connected, hears no time 0, and no request of an earlier session of its slot is left. -/
def Connected (sessionId : UInt32) (s : World) : Action → Prop
  | .region _ => True
  | .hear id _ => id = sessionId → (s.packets id).head? ≠ some (.serverTimeNtf 0)
  | .forward id => serverId id = serverId sessionId → sessionIndex id = sessionIndex sessionId → id = sessionId
  | .clear id => id ≠ sessionId

instance (sessionId : UInt32) (s : World) : DecidablePred (Connected sessionId s)
  | .region _ => inferInstanceAs (Decidable True)
  | .hear _ _ => inferInstanceAs (Decidable (_ → _))
  | .forward _ => inferInstanceAs (Decidable (_ → _ → _))
  | .clear _ => inferInstanceAs (Decidable (_ ≠ _))

def Visiting (env : Env) (sessionId : UInt32) (player : Object) (s : World) (action : Action) : Prop :=
  Fresh s action ∧ Connected sessionId s action ∧ Lasts sessionId player (step env s action).region

instance (env : Env) (sessionId : UInt32) (player : Object) (s : World) :
    DecidablePred (Visiting env sessionId player s) :=
  fun _ => inferInstanceAs (Decidable (_ ∧ _ ∧ _))

def times (sessionId : UInt32) (s : World) : List UInt32 := (s.packets sessionId).filterMap timeOf

/-- The region has told the player its time and waits for its client, which has not heard it yet. -/
structure Opens (sessionId : UInt32) (player : Object) (s : World) : Prop where
  lasts : Lasts sessionId player s.region
  waits : (s.region.contexts player).state = .serverTimeNtf
  told : (times sessionId s).length = 1
  unasked : s.requests sessionId = []

def Quiet (sessionId : UInt32) (s : World) : Prop := times sessionId s = [] ∧ s.requests sessionId = []

def Entered (player : Object) (s : World) : Prop := timed (s.region.contexts player).state = some true

section
variable {sessionId : UInt32} {player : Object}

/-- Where a visit is: by whether the region has the client's time, how many times and requests are on their way, and
the client. The visit was opened by a client without a time, or with one, that had reported so many entries. -/
inductive Stage (unaware : Bool) (entries : Nat) : Option Bool → Nat → Nat → Client → Prop
  | told (client : Client) (hears : client.serverTime = 0 ↔ unaware = true) (same : client.regionEnters = entries) :
    Stage unaware entries (some false) 1 0 client
  | asked (client : Client) (first : unaware = true) (aware : client.serverTime ≠ 0)
    (same : client.regionEnters = entries) : Stage unaware entries (some false) 0 1 client
  | answered (client : Client) (first : unaware = true) (aware : client.serverTime ≠ 0)
    (same : client.regionEnters = entries) : Stage unaware entries (some true) 1 0 client
  | reported (client : Client) (reports : client.regionEnters = entries + 1) :
    Stage unaware entries (some unaware) 0 0 client

def At (unaware : Bool) (entries : Nat) (sessionId : UInt32) (player : Object) (s : World) : Prop :=
  Stage unaware entries (timed (s.region.contexts player).state) (times sessionId s).length
    (s.requests sessionId).length (s.clients sessionId)

theorem Stage.visits {unaware : Bool} {entries told asked : Nat} {phase : Option Bool} {client : Client}
    (stage : Stage unaware entries phase told asked client) : phase ≠ none := by
  intro same
  cases stage <;> cases same

theorem Stage.asks {unaware : Bool} {entries told asked : Nat} {phase : Option Bool} {client : Client}
    (stage : Stage unaware entries phase told (asked + 1) client) :
    phase = some false ∧ told = 0 ∧ Stage unaware entries (some true) 1 asked client := by
  cases stage with
  | asked _ first aware same => exact ⟨rfl,rfl,.answered client first aware same⟩

theorem hear_stage (unaware : Bool) (entries told asked : Nat) (phase : Option Bool) (client : Client)
    (currTime serverTime : UInt32) (real : serverTime ≠ 0)
    (stage : Stage unaware entries phase (told + 1) asked client) :
    let heard := serverTimeNtf currTime serverTime client
    Stage unaware entries phase told (asked + heard.1.length) heard.2 := by
  dsimp only
  rw [serverTimeNtf]
  cases stage with
  | told _ hears same =>
    split
    next first => exact .asked _ (hears.mp first) real same
    next later =>
      have again : unaware = false := by
        rw [← Bool.not_eq_true,← hears]
        exact later
      rw [again]
      refine .reported _ ?_
      change client.regionEnters + 1 = _
      rw [same]
  | answered _ first aware same =>
    rw [if_neg aware,first]
    refine .reported _ ?_
    change client.regionEnters + 1 = _
    rw [same]

theorem regionStep_times (env : Env) (s : World) (action : Commands.Action) (new : List Event)
    (log : (Commands.step env s.region action).log = new ++ s.region.log) :
    times sessionId (regionStep env s action) = times sessionId s ++ (new.filterMap (tells sessionId)).reverse := by
  have fresh : since s.region (Commands.step env s.region action) = new := by
    rw [since,log,List.length_append,Nat.add_sub_cancel,List.take_left]
  rw [times,regionStep]
  dsimp only
  rw [fresh,List.filterMap_append,List.filterMap_reverse,List.filterMap_filterMap]
  rfl

theorem regionStep_at (env : Env) (unaware : Bool) (entries : Nat) (s t : World) (action : Commands.Action)
    (spares : Spares sessionId player s.region (Commands.step env s.region action))
    (stage : At unaware entries sessionId player s) (region : t = regionStep env s action) :
    At unaware entries sessionId player t := by
  obtain ⟨new,log,silent⟩ := spares.silent
  have told := @regionStep_times sessionId env s action new log
  rw [List.filterMap_eq_nil_iff.mpr silent,List.reverse_nil,List.append_nil] at told
  rw [region,At,told]
  change Stage unaware entries (timed ((Commands.step env s.region action).contexts player).state) _ _ _
  rw [spares.timed]
  exact stage

theorem forward_at (env : Env) (unaware : Bool) (entries : Nat) (s : World) (clientTime : UInt32) (rest : List UInt32)
    (before : Lasts sessionId player s.region) (asks : s.requests sessionId = clientTime :: rest)
    (stage : At unaware entries sessionId player s)
    (lasts : Lasts sessionId player (step env s (.forward sessionId)).region) :
    At unaware entries sessionId player (step env s (.forward sessionId)) := by
  let taken : World := {s with requests := Function.update s.requests sessionId rest}
  let action : Commands.Action := .packetForward sessionId (.clientTimeReq clientTime)
  have shape : step env s (.forward sessionId) = regionStep env taken action := by
    rw [step,asks]
  have handled : ∃ undefined, Commands.step env s.region action =
      onClientTimeReq env player clientTime {s.region with undefined := undefined} := by
    rw [Commands.step,whileRunning,if_pos before.serves.running,forSession,if_neg before.serves.inside]
    dsimp only
    rw [before.serves.found]
    exact ⟨_,rfl⟩
  obtain ⟨undefined,result⟩ := handled
  rw [shape] at lasts ⊢
  rw [At,asks,List.length_cons] at stage
  obtain ⟨phase,told,answered⟩ := stage.asks
  have waits : (s.region.contexts player).state = .serverTimeNtf := by
    revert phase
    generalize (s.region.contexts player).state = state
    cases state <;> decide
  have answers := onClientTimeReq_answers env {s.region with undefined := undefined} clientTime before.active waits
    before.own
  rw [← result] at answers
  rcases answers with queued | ⟨state,new,log,one⟩
  · have unqueued := lasts.active.1
    rw [regionStep] at unqueued
    rw [unqueued] at queued
    cases queued
  · have sent := @regionStep_times sessionId env taken action new log
    have none : times sessionId taken = [] := List.eq_nil_of_length_eq_zero told
    rw [none,List.nil_append] at sent
    rw [At,sent,List.length_reverse,one]
    change Stage unaware entries (timed ((Commands.step env s.region action).contexts player).state) 1
      (Function.update s.requests sessionId rest sessionId).length (s.clients sessionId)
    rw [state,Function.update_self]
    exact answered

theorem visiting_at (env : Env) (unaware : Bool) (entries : Nat) (s : World) (action : Action)
    (sound : Sound s.region) (before : Lasts sessionId player s.region)
    (stage : At unaware entries sessionId player s) (visiting : Visiting env sessionId player s action) :
    At unaware entries sessionId player (step env s action) := by
  obtain ⟨_,connected,lasts⟩ := visiting
  cases action with
  | region action =>
    rw [step] at lasts ⊢
    split at lasts
    next asks =>
      rw [if_pos asks]
      exact stage
    next plain =>
      rw [if_neg plain]
      refine regionStep_at env unaware entries s _ action ?_ stage rfl
      refine step_spares env s.region action sound before stage.visits ?_ lasts
      intro id clientTime same
      rw [same] at plain
      exact absurd rfl plain
  | hear id currTime =>
    cases packets : s.packets id with
    | nil =>
      rw [step,packets]
      exact stage
    | cons packet rest =>
      rw [step,packets]
      by_cases own : id = sessionId
      · subst own
        have real : packet ≠ .serverTimeNtf 0 := by
          intro zero
          apply connected rfl
          rw [packets,zero]
          rfl
        rw [At,times,packets] at stage
        rw [At,times]
        dsimp only
        rw [Function.update_self,Function.update_self,Function.update_self,List.length_append]
        cases packet with
        | serverTimeNtf serverTime =>
          have more : (Packet.serverTimeNtf serverTime :: rest).filterMap timeOf =
            serverTime :: rest.filterMap timeOf := rfl
          rw [more,List.length_cons] at stage
          exact hear_stage unaware entries _ _ _ _ currTime serverTime (fun zero => real (by rw [zero])) stage
        | _ => exact stage
      · rw [At,times]
        dsimp only
        rw [Function.update_of_ne (Ne.symm own),Function.update_of_ne (Ne.symm own),
          Function.update_of_ne (Ne.symm own)]
        exact stage
  | clear id =>
    rw [step,At,times]
    dsimp only
    rw [Function.update_of_ne (Ne.symm connected)]
    exact stage
  | forward id =>
    cases requests : s.requests id with
    | nil =>
      rw [step,requests]
      exact stage
    | cons clientTime rest =>
      by_cases own : id = sessionId
      · subst own
        exact forward_at env unaware entries s clientTime rest before requests stage lasts
      · rw [step,requests] at lasts ⊢
        have apart : slotOf id s.region.toLoop ≠ some player := by
          intro found
          obtain ⟨_,gate,index⟩ := slotOf_live s.region sound id player found
          rw [before.own] at gate index
          exact own (connected gate.symm index.symm)
        have others : At unaware entries sessionId player {s with requests := Function.update s.requests id rest} := by
          rw [At,times]
          dsimp only
          rw [Function.update_of_ne (Ne.symm own)]
          exact stage
        refine regionStep_at env unaware entries _ _ (.packetForward id (.clientTimeReq clientTime)) ?_ others rfl
        refine step_spares env s.region _ sound before stage.visits ?_ lasts
        intro other time same
        cases same
        exact apart

theorem step_sound (env : Env) (s : World) (action : Action) (sound : Sound s.region) (fresh : Fresh s action) :
    Sound (step env s action).region := by
  cases action with
  | region action =>
    rw [step]
    split
    · exact sound
    · exact Indexes.step_sound env s.region action sound fresh
  | hear id currTime =>
    rw [step]
    split
    · exact sound
    · exact sound
  | clear id => exact sound
  | forward id =>
    rw [step]
    split
    · exact sound
    · exact Indexes.step_sound env s.region (.packetForward id (.clientTimeReq _)) sound trivial

theorem visit_at (env : Env) (unaware : Bool) (entries : Nat) (s : World) (visit : List Action)
    (sound : Sound s.region) (lasts : Lasts sessionId player s.region)
    (stage : At unaware entries sessionId player s)
    (visiting : Guarded (step env) (Visiting env sessionId player) s visit) :
    At unaware entries sessionId player (run (step env) s visit) := by
  have kept : ∀ w action, Sound w.region ∧ Lasts sessionId player w.region ∧
      At unaware entries sessionId player w → Visiting env sessionId player w action →
      Sound (step env w action).region ∧ Lasts sessionId player (step env w action).region ∧
        At unaware entries sessionId player (step env w action) := by
    intro w action ⟨still,lasts,stage⟩ visits
    exact ⟨step_sound env w action still visits.1,visits.2.2,
      visiting_at env unaware entries w action still lasts stage visits⟩
  exact (run_invariant (step env) (Visiting env sessionId player) _ kept s visit visiting
    ⟨sound,lasts,stage⟩).2.2

/-- At the end of a visit that was opened, and that lasted at each step, the client has reported one entry more; the
region has let the player in just if the client had no time of a server when it began. -/
theorem visit_entered_iff (env : Env) (sessionId : UInt32) (player : Object) (earlier visit : List Action)
    (fresh : Guarded (step env) Fresh (initial env) earlier)
    (opens : Opens sessionId player (run (step env) (initial env) earlier))
    (visiting : Guarded (step env) (Visiting env sessionId player) (run (step env) (initial env) earlier) visit)
    (quiet : Quiet sessionId (run (step env) (initial env) (earlier ++ visit))) :
    let s := run (step env) (initial env) earlier
    let t := run (step env) (initial env) (earlier ++ visit)
    (t.clients sessionId).regionEnters = (s.clients sessionId).regionEnters + 1 ∧
      (Entered player t ↔ (s.clients sessionId).serverTime = 0) := by
  intro s t
  let unaware := decide ((s.clients sessionId).serverTime = 0)
  let entries := (s.clients sessionId).regionEnters
  have sound : Sound s.region :=
    run_invariant (step env) Fresh (fun w => Sound w.region) (step_sound env) _ earlier fresh (init_sound env.config)
  have start : At unaware entries sessionId player s := by
    rw [At,opens.waits,opens.told,opens.unasked]
    refine .told _ ?_ rfl
    exact decide_eq_true_iff.symm
  have last : At unaware entries sessionId player t := by
    have kept := visit_at env unaware entries s visit sound opens.lasts start visiting
    rw [← run_append] at kept
    exact kept
  rw [At,quiet.1,quiet.2] at last
  rw [Entered]
  cases phase : timed (t.region.contexts player).state with
  | none => exact absurd phase last.visits
  | some here =>
    rw [phase] at last
    cases last with
    | reported _ reports =>
      refine ⟨reports,?_⟩
      rw [Option.some.injEq]
      exact decide_eq_true_iff

end

def opening : List Action :=
  [.region (.onRegionAllocReq Commands.firstSession 7 [97]),.region (.onRegionEnterReq Commands.firstSession),
    .region (.onRegionEnterAck Commands.firstSession 0)]

/-- A client's first visit, after which its player is deleted, and the opening of its second one. -/
def again : List Action :=
  .region (.tick 5) :: opening ++ [.hear Commands.firstSession 1,.forward Commands.firstSession,
    .hear Commands.firstSession 9,.region (.shutdownPlayerReq 0),.region .pass] ++ opening ++
    [.hear Commands.firstSession 11,.hear Commands.firstSession 11]

/-- In its second visit the client reports its entry, and the region still waits for its time. -/
theorem visit_entered_again :
    let s := run (step Commands.sampleEnv) (initial Commands.sampleEnv) again
    let t := run (step Commands.sampleEnv) (initial Commands.sampleEnv) (again ++ [.hear Commands.firstSession 12])
    (s.clients Commands.firstSession).regionEnters = 1 ∧ (t.clients Commands.firstSession).regionEnters = 2 ∧
      ¬ Entered 0 t := by
  intro s t
  have one : (s.clients Commands.firstSession).regionEnters = 1 := by decide +kernel
  have aware : (s.clients Commands.firstSession).serverTime ≠ 0 := by decide +kernel
  obtain ⟨reports,entered⟩ := visit_entered_iff Commands.sampleEnv Commands.firstSession 0 again
    [.hear Commands.firstSession 12] (by decide +kernel)
    ⟨by decide +kernel,by decide +kernel,by decide +kernel,by decide +kernel⟩ (by decide +kernel)
    ⟨by decide +kernel,by decide +kernel⟩
  exact ⟨one,reports.trans (congrArg (· + 1) one),fun inside => aware (entered.mp inside)⟩

end Fantuan.TimeHandshakes
