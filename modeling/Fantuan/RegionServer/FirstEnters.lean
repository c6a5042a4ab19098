import Fantuan.RegionServer.MapReferences

/-! The first map enter of an avatar. The state machine does not let it through to the steps that bind the
avatar to the map and to a grid.
-/
namespace Fantuan.RegionServer.FirstEnters
open Tool.ObjectPool MapReferences
open MapEnters (World)

structure Placed (player : Object) (data : MapData) (own : Option (UInt32 × UInt32)) : Prop where
  bound : data.map.Bound player
  once : ∃ grid, own = some grid ∧ ∀ row column, (data.actorList row column).count player =
    if row = grid.1.toNat ∧ column = grid.2.toNat then 1 else 0

structure Absent (player : Object) (data : MapData) (own : Option (UInt32 × UInt32)) : Prop where
  unbound : ¬ data.map.Bound player
  nowhere : own = none ∧ ∀ row column, player ∉ data.actorList row column

/-- The steps after BindActor: a grid for the position, and the notification. -/
def proceeds (answers : MapEnters.Env) (player : Object) (gridX gridY : UInt32) (w : World) : Bool :=
  (w.getGridByPosition gridX gridY).isSome && (answers.named player && answers.sends player)

/-- An avatar that has not entered, and a map with a free actor id. -/
structure Newcomer (loop : Nat) (player : Object) (mapId : UInt16) (data : MapData) (s : Server) : Prop where
  state : s.avatarStates player = .none
  found : (s.loops loop).mapById mapId = some data
  free : data.map.actorIdPool ≠ []
  absent : Absent player data (s.mapGrid player)

/-- What is promised of the first enter: with all steps done the avatar is in, and else it is not. -/
structure Enters (loop : Nat) (player : Object) (mapId : UInt16) (done : Bool) (after : Server) : Prop where
  state : after.avatarStates player = .onMapEnterReq
  placed : done = true → ∀ data, (after.loops loop).mapById mapId = some data →
    Placed player data (after.mapGrid player)
  absent : done = false → ∀ data, (after.loops loop).mapById mapId = some data →
    Absent player data (after.mapGrid player)

/-- The event that is asked for has no row: the first enter of every avatar changes nothing. -/
theorem onMapEnterReq_never (playerMax : UInt16) (answers : MapEnters.Env) (loop own : Nat) (player : Object)
    (mapId : UInt16) (data : MapData) (gridX gridY : UInt32) (s : Server)
    (newcomer : Newcomer loop player mapId data s) :
    let after := onMapEnterReq playerMax answers loop player mapId data gridX gridY s
    let done := proceeds answers player gridX gridY (s.world playerMax loop own data)
    Newcomer loop player mapId data after ∧ ¬ Enters loop player mapId done after := by
  have still := enter_stopped playerMax answers loop player mapId data gridX gridY s newcomer.state
  dsimp only
  rw [still]
  refine ⟨newcomer,?_⟩
  intro enters
  have moved := enters.state
  rw [newcomer.state] at moved
  cases moved

def oneMap : Server :=
  init ⟨1,1,1⟩ fun _ mapId => if mapId = 1 then some (3,3) else none

def oneMapData : MapData :=
  ⟨MapActors.init 1 fun _ => MapActors.actorTypeAvatar,3,3,fun _ _ => []⟩

theorem oneMap_newcomer : Newcomer 0 0 1 oneMapData oneMap := by
  refine ⟨rfl,rfl,by decide,?_,rfl,?_⟩
  · intro bound
    cases bound
  · intro row column listed
    cases listed

theorem onMapEnterReq_never_first :
    Newcomer 0 0 1 oneMapData oneMap ∧
      (let after := onMapEnterReq 1 MapEnters.allSend 0 0 1 oneMapData 1 1 oneMap
      let done := proceeds MapEnters.allSend 0 1 1 (oneMap.world 1 0 0 oneMapData)
      Newcomer 0 0 1 oneMapData after ∧ ¬ Enters 0 0 1 done after) :=
  ⟨oneMap_newcomer,onMapEnterReq_never 1 MapEnters.allSend 0 0 0 1 oneMapData 1 1 oneMap oneMap_newcomer⟩

/-- Every step succeeds, and still the avatar is on no map. -/
theorem onMapEnterReq_first_unentered :
    let after := onMapEnterReq 1 MapEnters.allSend 0 0 1 oneMapData 1 1 oneMap
    Newcomer 0 0 1 oneMapData oneMap ∧
      proceeds MapEnters.allSend 0 1 1 (oneMap.world 1 0 0 oneMapData) = true ∧
      after.avatarStates 0 = .none ∧ ¬ Enters 0 0 1 true after := by
  refine ⟨oneMap_newcomer,by decide,by decide,?_⟩
  intro enters
  exact absurd enters.state (by decide)

end Fantuan.RegionServer.FirstEnters
