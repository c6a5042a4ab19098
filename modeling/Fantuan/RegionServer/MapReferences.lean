import Fantuan.RegionServer.Commands
import Fantuan.RegionServer.MapEnters

/-! The loops of the maps beside the loop of the players: map enters come in any order between the commands
and passes of the region. An avatar object stays with the context it was made for, and has its number.
-/
namespace Fantuan.RegionServer.MapReferences
open Lib.Run Tool.ObjectPool Tool.StateMachine Player
open MapEnters (Ntf World)

inductive AvatarState where
  | none | onMapEnterReq | onMapLeaveReq | mapLeaveAck
  deriving DecidableEq

inductive AvatarEvent where
  | onMapEnterReq | onMapLeaveReq | mapLeaveAck
  deriving DecidableEq

def AvatarState.value : AvatarState → Nat
  | .none => 0
  | .onMapEnterReq => 1
  | .onMapLeaveReq => 2
  | .mapLeaveAck => 3

def AvatarEvent.value : AvatarEvent → Nat
  | .onMapEnterReq => 0
  | .onMapLeaveReq => 1
  | .mapLeaveAck => 2

def initStateMachine : AvatarState → List (Nat × AvatarState)
  | .none => [(AvatarEvent.onMapEnterReq.value,.onMapEnterReq)]
  | .onMapEnterReq => [(AvatarEvent.onMapLeaveReq.value,.onMapLeaveReq)]
  | .onMapLeaveReq => [(AvatarEvent.mapLeaveAck.value,.mapLeaveAck)]
  | .mapLeaveAck => []

def transition (state : AvatarState) (event : Nat) : Option AvatarState :=
  outputState initStateMachine state event

/-- What BindActor writes into an actor only UnbindActor reads, which nothing calls: each map has a copy. -/
structure MapData where
  map : MapActors.Map
  horizonGridCount : UInt32
  verticalGridCount : UInt32
  actorList : Nat → Nat → List Object

/-- The shutdown status of a loop never changes: the handler of the shutdown command is empty. -/
structure LogicLoop where
  mapById : UInt16 → Option MapData
  playerCount : UInt32
  arrayTempAvatar : List Object
  delaySendData : Option Object

/-- overflown is set by a write behind a temporary array or over a map; entered tells whose enter has been
handled since the last deletion of the player. -/
structure Server where
  region : Region
  avatarStates : Object → AvatarState
  mapGrid : Object → Option (UInt32 × UInt32)
  interestList : Object → List Object
  loops : Nat → LogicLoop
  sent : List Ntf
  overflown : Bool
  entered : Object → Bool

def Server.changeLoop (loop : Nat) (change : LogicLoop → LogicLoop) (s : Server) : Server :=
  {s with loops := Function.update s.loops loop (change (s.loops loop))}

/-- A null pointer is followed. -/
def Server.crash (s : Server) : Server := {s with region := {s.region with undefined := true}}

/-- The temporary array is that of the loop of the map, the saved packet that of the loop of the player. -/
def Server.world (playerMax : UInt16) (loop own : Nat) (data : MapData) (s : Server) : World :=
  ⟨data.map,data.horizonGridCount,data.verticalGridCount,data.actorList,s.mapGrid,s.interestList,
    (s.loops own).delaySendData,(s.loops loop).arrayTempAvatar,playerMax.toNat,s.sent,s.overflown⟩

def Server.takeBack (loop own : Nat) (mapId : UInt16) (after : World) (s : Server) : Server :=
  let data := ⟨after.map,after.horizonGridCount,after.verticalGridCount,after.actorList⟩
  let mapped := s.changeLoop loop fun old => {old with
    mapById := Function.update old.mapById mapId (some data)
    arrayTempAvatar := after.arrayTempAvatar}
  let saved := mapped.changeLoop own fun old => {old with delaySendData := after.delaySendData}
  {saved with
    mapGrid := after.mapGrid
    interestList := after.interestList
    sent := after.sent
    overflown := after.undefined}

-- the event that the state machine is asked for is the number of the state
def onMapEnterReq (playerMax : UInt16) (answers : MapEnters.Env) (loop : Nat) (player : Object)
    (mapId : UInt16) (data : MapData) (gridX gridY : UInt32) (s : Server) : Server :=
  match transition (s.avatarStates player) AvatarState.onMapEnterReq.value with
  | none => s
  | some next =>
    let moved := {s with avatarStates := Function.update s.avatarStates player next}
    match (s.region.contexts player).logicLoop with
    | none => moved.crash
    | some own => moved.takeBack loop own mapId
        (MapEnters.onMapEnterReq answers player gridX gridY (moved.world playerMax loop own data))

def onCommandMapEnterReq (playerMax : UInt16) (answers : MapEnters.Env) (loop : Nat) (player : Object)
    (mapId : UInt16) (gridX gridY : UInt32) (s : Server) : Server :=
  let found := (s.loops loop).mapById mapId
  let placed := {s with
    region := s.region.update player fun context =>
      {context with mapId := mapId, map := found.map fun _ => mapId}
    entered := Function.update s.entered player true}
  let counted := placed.changeLoop loop fun old => {old with playerCount := old.playerCount + 1}
  match found,s.region.avatars player with
  | some data,some _ => onMapEnterReq playerMax answers loop player mapId data gridX gridY counted
  | _,_ => counted.crash

inductive Action where
  | region (action : Commands.Action)
  | mapEnterReq (answers : MapEnters.Env) (loop : Nat) (player : Object) (mapId : UInt16)
      (gridX gridY : UInt32)

def deleted (s : Region) : Commands.Action → List Object
  | .pass => s.finalizingQueue
  | _ => []

def step (env : Env) (s : Server) : Action → Server
  | .region action => {s with
      region := Commands.step env s.region action
      entered := fun player => s.entered player && !(deleted s.region action).contains player}
  | .mapEnterReq answers loop player mapId gridX gridY =>
    onCommandMapEnterReq env.config.playerMax answers loop player mapId gridX gridY s

/-- The maps of each loop, with the counts of their grids. -/
def init (config : Config) (maps : Nat → UInt16 → Option (UInt32 × UInt32)) : Server where
  region := Commands.init config
  avatarStates := fun _ => .none
  mapGrid := fun _ => none
  interestList := fun _ => []
  loops := fun loop => ⟨fun mapId => (maps loop mapId).map fun counts =>
    ⟨MapActors.init config.playerMax fun _ => MapActors.actorTypeAvatar,counts.1,counts.2,fun _ _ => []⟩,
    0,[],none⟩
  sent := []
  overflown := false
  entered := fun _ => false

/-- The player is there, and its avatar has entered since it was allocated. -/
def Current (player : Object) (s : Server) : Prop :=
  s.entered player = true ∧ (s.region.contexts player).state ≠ .none

structure Clean (s : Server) : Prop where
  tables : ∀ loop mapId data index player, (s.loops loop).mapById mapId = some data →
    data.map.arrayActor index = some player → Current player s
  grids : ∀ loop mapId data row column player, (s.loops loop).mapById mapId = some data →
    player ∈ data.actorList row column → Current player s
  interests : ∀ owner player, player ∈ s.interestList owner → Current player s
  temporary : ∀ loop, (s.loops loop).arrayTempAvatar = []
  within : s.overflown = false

/-- No avatar has left its first state, and nothing refers to one. -/
structure Untouched (s : Server) : Prop where
  states : ∀ player, s.avatarStates player = .none
  tables : ∀ loop mapId data, (s.loops loop).mapById mapId = some data → ∀ index, data.map.arrayActor index = none
  grids : ∀ loop mapId data, (s.loops loop).mapById mapId = some data → ∀ row column, data.actorList row column = []
  interests : ∀ owner, s.interestList owner = []
  temporary : ∀ loop, (s.loops loop).arrayTempAvatar = []
  within : s.overflown = false

theorem init_untouched (config : Config) (maps : Nat → UInt16 → Option (UInt32 × UInt32)) :
    Untouched (init config maps) := by
  refine ⟨fun _ => rfl,?_,?_,fun _ => rfl,fun _ => rfl,rfl⟩
  · intro loop mapId data found index
    obtain ⟨counts,_,rfl⟩ := Option.map_eq_some_iff.mp found
    rfl
  · intro loop mapId data found row column
    obtain ⟨counts,_,rfl⟩ := Option.map_eq_some_iff.mp found
    rfl

/-- The first state knows the event of an enter, but not the number of the state that it leads to. -/
theorem transition_none (event : Nat) :
    (transition .none event).isSome ↔ event = AvatarEvent.onMapEnterReq.value := by
  rw [transition,outputState,Option.isSome_map,List.find?_isSome]
  simp [initStateMachine,eq_comm]

theorem enter_stopped (playerMax : UInt16) (answers : MapEnters.Env) (loop : Nat) (player : Object)
    (mapId : UInt16) (data : MapData) (gridX gridY : UInt32) (s : Server)
    (first : s.avatarStates player = .none) :
    onMapEnterReq playerMax answers loop player mapId data gridX gridY s = s := by
  have unknown : transition .none AvatarState.onMapEnterReq.value = none := by
    apply Option.not_isSome_iff_eq_none.mp
    rw [transition_none]
    decide
  rw [onMapEnterReq,first,unknown]

theorem changeLoop_untouched (loop : Nat) (change : LogicLoop → LogicLoop) (s : Server)
    (maps : (change (s.loops loop)).mapById = (s.loops loop).mapById)
    (temporary : (change (s.loops loop)).arrayTempAvatar = (s.loops loop).arrayTempAvatar)
    (untouched : Untouched s) : Untouched (s.changeLoop loop change) := by
  have same (other : Nat) : ((s.changeLoop loop change).loops other).mapById = (s.loops other).mapById ∧
      ((s.changeLoop loop change).loops other).arrayTempAvatar = (s.loops other).arrayTempAvatar := by
    change (Function.update s.loops loop (change _) other).mapById = _ ∧
      (Function.update s.loops loop (change _) other).arrayTempAvatar = _
    by_cases here : other = loop
    · rw [here,Function.update_self]
      exact ⟨maps,temporary⟩
    · rw [Function.update_of_ne here]
      exact ⟨rfl,rfl⟩
  refine ⟨untouched.states,?_,?_,untouched.interests,?_,untouched.within⟩
  · intro other mapId data found
    rw [(same other).1] at found
    exact untouched.tables other mapId data found
  · intro other mapId data found
    rw [(same other).1] at found
    exact untouched.grids other mapId data found
  · intro other
    rw [(same other).2]
    exact untouched.temporary other

/-- What a command or a pass of the region does leaves every reference where it is. -/
theorem region_untouched (s : Server) (region : Region) (entered : Object → Bool) (untouched : Untouched s) :
    Untouched {s with region := region, entered := entered} :=
  ⟨untouched.states,untouched.tables,untouched.grids,untouched.interests,untouched.temporary,untouched.within⟩

theorem onCommandMapEnterReq_untouched (playerMax : UInt16) (answers : MapEnters.Env) (loop : Nat)
    (player : Object) (mapId : UInt16) (gridX gridY : UInt32) (s : Server) (untouched : Untouched s) :
    Untouched (onCommandMapEnterReq playerMax answers loop player mapId gridX gridY s) := by
  have placed := region_untouched s (s.region.update player fun context =>
    {context with mapId := mapId, map := ((s.loops loop).mapById mapId).map fun _ => mapId})
    (Function.update s.entered player true) untouched
  have counted := changeLoop_untouched loop (fun old => {old with playerCount := old.playerCount + 1}) _
    rfl rfl placed
  rw [onCommandMapEnterReq.eq_def]
  dsimp only
  split
  · rw [enter_stopped]
    · exact counted
    · exact untouched.states player
  · exact region_untouched _ _ _ counted

theorem step_untouched (env : Env) (s : Server) (action : Action) (untouched : Untouched s) :
    Untouched (step env s action) := by
  cases action with
  | region action => exact region_untouched s _ _ untouched
  | mapEnterReq answers loop player mapId gridX gridY =>
    exact onCommandMapEnterReq_untouched _ answers loop player mapId gridX gridY s untouched

theorem untouched_clean (s : Server) (untouched : Untouched s) : Clean s := by
  refine ⟨?_,?_,?_,untouched.temporary,untouched.within⟩
  · intro loop mapId data index player found listed
    rw [untouched.tables loop mapId data found index] at listed
    cases listed
  · intro loop mapId data row column player found listed
    rw [untouched.grids loop mapId data found row column] at listed
    cases listed
  · intro owner player listed
    rw [untouched.interests owner] at listed
    cases listed

/-- However map enters and the steps of the region follow each other, nothing refers to the avatar of a
player that is gone: no enter gets beyond the check of the state. -/
theorem run_clean (env : Env) (maps : Nat → UInt16 → Option (UInt32 × UInt32)) (actions : List Action) :
    Clean (run (step env) (init env.config maps) actions) := by
  apply untouched_clean
  apply run_invariant (step env) (fun _ _ => True) Untouched
  · intro s action untouched _
    exact step_untouched env s action untouched
  · exact guarded_true (step env) _ actions
  · exact init_untouched env.config maps

end Fantuan.RegionServer.MapReferences
