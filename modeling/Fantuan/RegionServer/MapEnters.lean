import Fantuan.RegionServer.MapActors
import Fantuan.RegionServer.NearbyGrids

/-! An avatar enters a map: it is bound to a grid, and the grids around are scanned for the avatars that
are to see it. A grid is its row and its column; the grid that a position is in is given with the entry.
-/
namespace Fantuan.RegionServer.MapEnters
open MapActors

structure Ntf where
  receiver : Nat
  about : Nat
  deriving DecidableEq

/-- delaySendData is the avatar that the saved packet is about. -/
structure World where
  map : Map
  horizonGridCount : UInt32
  verticalGridCount : UInt32
  actorList : Nat → Nat → List Nat
  mapGrid : Nat → Option (UInt32 × UInt32)
  interestList : Nat → List Nat
  delaySendData : Option Nat
  arrayTempAvatar : List Nat
  playerMax : Nat
  sent : List Ntf
  undefined : Bool

/-- The avatars whose names WChar2Char converts, and those to whose sessions SendData succeeds. -/
structure Env where
  named : Nat → Bool
  sends : Nat → Bool

/-- The row and the column of m_array2dMapGrid[iGridX][iGridY]: the rows follow each other in memory,
and what lies behind the last one is none. -/
def World.getGridByPosition (gridX gridY : UInt32) (w : World) : Option (UInt32 × UInt32) :=
  let entry := gridX.toNat * w.horizonGridCount.toNat + gridY.toNat
  if gridX < w.verticalGridCount ∧ entry < w.horizonGridCount.toNat * w.verticalGridCount.toNat then
    some (UInt32.ofNat (entry / w.horizonGridCount.toNat),UInt32.ofNat (entry % w.horizonGridCount.toNat))
  else none

/-- for (uint32 i = low; i <= high; ++i) -/
def between (low high : UInt32) : List UInt32 :=
  if low ≤ high then (List.range (high.toNat - low.toNat + 1)).map fun k => low + UInt32.ofNat k else []

def World.getNearbyGrids (row column : UInt32) (w : World) : List (UInt32 × UInt32) :=
  (between (row - 1) (row + 1)).flatMap fun i =>
    ((between (column - 1) (column + 1)).filter fun j =>
      decide (i < w.verticalGridCount ∧ j < w.horizonGridCount)).map fun j => (i,j)

-- the packet about an avatar goes to the session of that avatar, whoever it is meant for
def sendAvatarEnterNtf (env : Env) (avatar : Nat) (w : World) : Bool × World :=
  if env.named avatar = false then (false,w)
  else
    let saved := {w with delaySendData := some avatar}
    if env.sends avatar then (true,{saved with sent := ⟨avatar,avatar⟩ :: w.sent}) else (false,saved)

def World.gain (avatar other : Nat) (w : World) : World :=
  {w with interestList := Function.update w.interestList avatar (w.interestList avatar ++ [other])}

def addAvatarToInterestList (env : Env) (avatar other : Nat) (sendNtf : Bool) (w : World) : World :=
  if sendNtf then (sendAvatarEnterNtf env other (w.gain avatar other)).2 else w.gain avatar other

def World.addAvatarToTemp (avatar : Nat) (w : World) : World :=
  {w with
    arrayTempAvatar := w.arrayTempAvatar ++ [avatar]
    undefined := w.undefined || decide (w.playerMax ≤ w.arrayTempAvatar.length)}

def visit (env : Env) (avatar : Nat) (w : World) (source : Nat) : World :=
  (addAvatarToInterestList env source avatar false
    (addAvatarToInterestList env avatar source true w)).addAvatarToTemp source

def World.sources (grids : List (UInt32 × UInt32)) (w : World) : List Nat :=
  grids.flatMap fun grid => w.actorList grid.1.toNat grid.2.toNat

-- RegionAvatarEnterNtf is given the map, which SendPacket takes for a DelaySendData: the packet is
-- written over the map and its m_pRegionLogicLoop, through which the broadcast is then called
def updateAOI (env : Env) (avatar : Nat) (grids : List (UInt32 × UInt32)) (w : World) : World :=
  if env.named avatar = false then w
  else
    let scanned := (w.sources grids).foldl (visit env avatar) w
    if w.sources grids = [] then scanned else {scanned with undefined := true}

def World.bind (avatar : Nat) (grid : UInt32 × UInt32) (w : World) : World :=
  {w with
    actorList := Function.update w.actorList grid.1.toNat
      (Function.update (w.actorList grid.1.toNat) grid.2.toNat
        (w.actorList grid.1.toNat grid.2.toNat ++ [avatar]))
    mapGrid := Function.update w.mapGrid avatar (some grid)}

def onMapEnterReq (env : Env) (avatar : Nat) (gridX gridY : UInt32) (w : World) : World :=
  let onMap := {w with map := bindActor avatar w.map}
  match w.getGridByPosition gridX gridY with
  | none => {onMap with undefined := true}
  | some grid =>
    let (notified,told) := sendAvatarEnterNtf env avatar (onMap.bind avatar grid)
    if notified then updateAOI env avatar (told.getNearbyGrids grid.1 grid.2) told else told

/-- What a call leaves as it was, and that what it sends goes to the avatar it is about. -/
structure Kept (before after : World) : Prop where
  map : after.map = before.map
  mapGrid : after.mapGrid = before.mapGrid
  actorList : after.actorList = before.actorList
  untold : ∀ receiver about, receiver ≠ about →
    after.sent.count ⟨receiver,about⟩ = before.sent.count ⟨receiver,about⟩

theorem Kept.refl (w : World) : Kept w w := ⟨rfl,rfl,rfl,fun _ _ _ => rfl⟩

theorem Kept.trans (first second third : World) (left : Kept first second) (right : Kept second third) :
    Kept first third :=
  ⟨right.map.trans left.map,right.mapGrid.trans left.mapGrid,right.actorList.trans left.actorList,
    fun receiver about apart => (right.untold receiver about apart).trans (left.untold receiver about apart)⟩

theorem sendAvatarEnterNtf_kept (env : Env) (avatar : Nat) (w : World) :
    Kept w (sendAvatarEnterNtf env avatar w).2 := by
  rw [sendAvatarEnterNtf]
  split
  · exact .refl w
  · cases env.sends avatar with
    | false => exact ⟨rfl,rfl,rfl,fun _ _ _ => rfl⟩
    | true =>
      refine ⟨rfl,rfl,rfl,?_⟩
      intro receiver about apart
      apply List.count_cons_of_ne
      intro same
      rw [Ntf.mk.injEq] at same
      exact apart (same.1.symm.trans same.2)

theorem sendAvatarEnterNtf_lists (env : Env) (avatar : Nat) (w : World) :
    (sendAvatarEnterNtf env avatar w).2.interestList = w.interestList ∧
      (sendAvatarEnterNtf env avatar w).2.undefined = w.undefined := by
  rw [sendAvatarEnterNtf]
  split
  · exact ⟨rfl,rfl⟩
  · cases env.sends avatar <;> exact ⟨rfl,rfl⟩

theorem sendAvatarEnterNtf_done (env : Env) (avatar : Nat) (w : World) :
    (sendAvatarEnterNtf env avatar w).1 = (env.named avatar && env.sends avatar) := by
  rw [sendAvatarEnterNtf]
  cases env.named avatar with
  | false => rfl
  | true => cases env.sends avatar <;> rfl

theorem addAvatarToInterestList_kept (env : Env) (avatar other : Nat) (sendNtf : Bool) (w : World) :
    Kept w (addAvatarToInterestList env avatar other sendNtf w) := by
  have gained : Kept w (w.gain avatar other) := ⟨rfl,rfl,rfl,fun _ _ _ => rfl⟩
  cases sendNtf with
  | false => exact gained
  | true => exact gained.trans _ _ _ (sendAvatarEnterNtf_kept env other _)

theorem addAvatarToInterestList_lists (env : Env) (avatar other : Nat) (sendNtf : Bool) (w : World) :
    (addAvatarToInterestList env avatar other sendNtf w).interestList =
      (w.gain avatar other).interestList := by
  cases sendNtf with
  | false => rfl
  | true => exact (sendAvatarEnterNtf_lists env other _).1

theorem gain_count (avatar other owner listed : Nat) (w : World) :
    ((w.gain avatar other).interestList owner).count listed =
      (w.interestList owner).count listed + if owner = avatar ∧ listed = other then 1 else 0 := by
  change (Function.update w.interestList avatar _ owner).count listed = _
  by_cases same : owner = avatar
  · rw [same,Function.update_self,List.count_append,List.count_singleton]
    simp only [beq_iff_eq,true_and,eq_comm (a := other)]
  · rw [Function.update_of_ne same,if_neg fun both => same both.1,Nat.add_zero]

theorem visit_kept (env : Env) (avatar : Nat) (w : World) (source : Nat) :
    Kept w (visit env avatar w source) := by
  have first := addAvatarToInterestList_kept env avatar source true w
  have second := addAvatarToInterestList_kept env source avatar false
    (addAvatarToInterestList env avatar source true w)
  exact (first.trans _ _ _ second).trans _ _ _ ⟨rfl,rfl,rfl,fun _ _ _ => rfl⟩

theorem visit_count (env : Env) (avatar : Nat) (w : World) (source owner listed : Nat) :
    ((visit env avatar w source).interestList owner).count listed =
      (w.interestList owner).count listed +
        (if owner = avatar ∧ listed = source then 1 else 0) +
        (if owner = source ∧ listed = avatar then 1 else 0) := by
  change ((addAvatarToInterestList env source avatar false _).interestList owner).count listed = _
  rw [addAvatarToInterestList_lists,gain_count,addAvatarToInterestList_lists,gain_count]

theorem visits_kept (env : Env) (avatar : Nat) (sources : List Nat) (w : World) :
    Kept w (sources.foldl (visit env avatar) w) := by
  induction sources generalizing w with
  | nil => exact .refl w
  | cons source rest ih => exact (visit_kept env avatar w source).trans _ _ _ (ih _)

/-- The list of the newcomer gains the sources, and the list of each source gains the newcomer. -/
theorem visits_count (env : Env) (avatar : Nat) (sources : List Nat) (w : World) (owner listed : Nat) :
    ((sources.foldl (visit env avatar) w).interestList owner).count listed =
      (w.interestList owner).count listed + (if owner = avatar then sources.count listed else 0) +
        (if listed = avatar then sources.count owner else 0) := by
  induction sources generalizing w with
  | nil => simp
  | cons source rest ih =>
    rw [List.foldl_cons,ih,visit_count,List.count_cons,List.count_cons]
    simp only [beq_iff_eq,eq_comm (a := source)]
    by_cases first : owner = avatar <;> by_cases second : listed = avatar <;>
      simp only [first,second,if_true,if_false,true_and,false_and,and_true,and_false] <;> omega

theorem between_mem (low high i : UInt32) : i ∈ between low high ↔ low ≤ i ∧ i ≤ high := by
  have bound := high.toNat_lt
  simp only [UInt32.le_iff_toNat_le]
  rw [between]
  split
  · rename_i ordered
    rw [UInt32.le_iff_toNat_le] at ordered
    have added (k : Nat) (below : k < high.toNat - low.toNat + 1) :
        (low + UInt32.ofNat k).toNat = low.toNat + k := by
      rw [UInt32.toNat_add,UInt32.toNat_ofNat']
      omega
    rw [List.mem_map]
    constructor
    · intro ⟨k,member,same⟩
      have below := List.mem_range.mp member
      rw [← same,added k below]
      omega
    · intro ⟨above,below⟩
      refine ⟨i.toNat - low.toNat,List.mem_range.mpr (by omega),?_⟩
      apply UInt32.toNat_inj.mp
      rw [added _ (by omega)]
      omega
  · rename_i crossed
    rw [UInt32.le_iff_toNat_le] at crossed
    constructor
    · intro member
      cases member
    · intro ⟨above,below⟩
      omega

theorem between_cons (low high : UInt32) (last : high.toNat + 1 < 2^32) (ordered : low ≤ high) :
    between low high = low :: between (low + 1) high := by
  have below := UInt32.le_iff_toNat_le.mp ordered
  have next : (low + 1).toNat = low.toNat + 1 := by
    rw [UInt32.toNat_add,UInt32.toNat_one]
    omega
  rw [between,if_pos ordered,List.range_succ_eq_map,List.map_cons,List.map_map,between]
  congr 1
  · exact UInt32.add_zero low
  split
  next inside =>
    rw [UInt32.le_iff_toNat_le,next] at inside
    rw [next,show high.toNat - (low.toNat + 1) + 1 = high.toNat - low.toNat by omega]
    refine List.map_congr_left fun k _ => ?_
    rw [Function.comp_apply,Nat.succ_eq_add_one,UInt32.ofNat_add,UInt32.add_comm (UInt32.ofNat k),← UInt32.add_assoc]
    rfl
  next outside =>
    rw [UInt32.le_iff_toNat_le,next] at outside
    rw [show high.toNat - low.toNat = 0 by omega]
    rfl

theorem forTo_between (low high : UInt32) (last : high.toNat + 1 < 2^32) (fuel : Nat)
    (enough : (between low high).length < fuel) : NearbyGrids.forTo high fuel low = some (between low high) := by
  induction fuel generalizing low with
  | zero => exact absurd enough (Nat.not_lt_zero _)
  | succ fuel ih =>
    rw [NearbyGrids.forTo]
    by_cases ordered : low ≤ high
    · have rest := between_cons low high last ordered
      rw [rest,List.length_cons] at enough
      rw [if_pos ordered,rest,ih (low + 1) (Nat.lt_of_succ_lt_succ enough)]
      rfl
    · rw [if_neg ordered,between,if_neg ordered]

theorem nearby_mem (row column : UInt32) (w : World) (grid : UInt32 × UInt32) :
    grid ∈ w.getNearbyGrids row column ↔
      (row - 1 ≤ grid.1 ∧ grid.1 ≤ row + 1 ∧ grid.1 < w.verticalGridCount) ∧
        column - 1 ≤ grid.2 ∧ grid.2 ≤ column + 1 ∧ grid.2 < w.horizonGridCount := by
  rw [World.getNearbyGrids,List.mem_flatMap]
  constructor
  · intro ⟨i,row_between,member⟩
    obtain ⟨j,filtered,rfl⟩ := List.mem_map.mp member
    rw [List.mem_filter,between_mem,decide_eq_true_iff] at filtered
    rw [between_mem] at row_between
    exact ⟨⟨row_between.1,row_between.2,filtered.2.1⟩,filtered.1.1,filtered.1.2,filtered.2.2⟩
  · intro ⟨⟨above,below,inside⟩,above',below',inside'⟩
    refine ⟨grid.1,(between_mem ..).mpr ⟨above,below⟩,List.mem_map.mpr ⟨grid.2,?_,rfl⟩⟩
    rw [List.mem_filter,between_mem,decide_eq_true_iff]
    exact ⟨⟨above',below'⟩,inside,inside'⟩

/-- A grid of the first row or column has no grid nearby, not even itself. -/
theorem nearby_own (row column : UInt32) (w : World) (inside : row < w.verticalGridCount)
    (inside' : column < w.horizonGridCount) :
    (row,column) ∈ w.getNearbyGrids row column ↔ row ≠ 0 ∧ column ≠ 0 := by
  have single (low high : UInt32) (below : low < high) : low - 1 ≤ low ∧ low ≤ low + 1 ↔ low ≠ 0 := by
    have bound := high.toNat_lt
    rw [UInt32.lt_iff_toNat_lt] at below
    rw [UInt32.le_iff_toNat_le,UInt32.le_iff_toNat_le,UInt32.toNat_sub,UInt32.toNat_add,Ne,
      ← UInt32.toNat_inj]
    change (2^32 - 1 + low.toNat) % 2^32 ≤ _ ∧ _ ≤ (_ + 1) % 2^32 ↔ ¬ low.toNat = 0
    omega
  rw [nearby_mem]
  change (row - 1 ≤ row ∧ row ≤ row + 1 ∧ row < _) ∧ column - 1 ≤ column ∧ column ≤ column + 1 ∧ column < _ ↔ _
  rw [← single row _ inside,← single column _ inside']
  constructor
  · intro ⟨⟨above,below,_⟩,above',below',_⟩
    exact ⟨⟨above,below⟩,above',below'⟩
  · intro ⟨⟨above,below⟩,above',below'⟩
    exact ⟨⟨above,below,inside⟩,above',below',inside'⟩

theorem nearby_edge (row column : UInt32) (w : World) (edge : row = 0 ∨ column = 0) :
    w.getNearbyGrids row column = [] := by
  have crossed (i : UInt32) : ¬ ((0 : UInt32) - 1 ≤ i ∧ i ≤ 0 + 1) := by
    rw [UInt32.le_iff_toNat_le,UInt32.le_iff_toNat_le]
    change ¬ (2^32 - 1 ≤ i.toNat ∧ i.toNat ≤ 1)
    omega
  apply List.eq_nil_iff_forall_not_mem.mpr
  intro grid member
  obtain ⟨⟨above,below,_⟩,above',below',_⟩ := (nearby_mem ..).mp member
  obtain rfl | rfl := edge
  · exact crossed _ ⟨above,below⟩
  · exact crossed _ ⟨above',below'⟩

theorem getGridByPosition_inside (gridX gridY : UInt32) (w : World) (grid : UInt32 × UInt32)
    (found : w.getGridByPosition gridX gridY = some grid) :
    grid.1 < w.verticalGridCount ∧ grid.2 < w.horizonGridCount := by
  rw [World.getGridByPosition] at found
  simp only [Option.ite_none_right_eq_some,Option.some.injEq] at found
  obtain ⟨⟨_,below⟩,rfl⟩ := found
  have rows := w.verticalGridCount.toNat_lt
  have columns := w.horizonGridCount.toNat_lt
  have wide : 0 < w.horizonGridCount.toNat := Nat.pos_of_mul_pos_right (Nat.zero_lt_of_lt below)
  have row := Nat.div_lt_of_lt_mul below
  have column := Nat.mod_lt (gridX.toNat * w.horizonGridCount.toNat + gridY.toNat) wide
  rw [UInt32.lt_iff_toNat_lt,UInt32.lt_iff_toNat_lt,UInt32.toNat_ofNat',UInt32.toNat_ofNat',
    Nat.mod_eq_of_lt (row.trans rows),Nat.mod_eq_of_lt (column.trans columns)]
  exact ⟨row,column⟩

theorem bindActor_defined (avatar : Nat) (map : Map) : (bindActor avatar map).undefined = false ↔
    map.undefined = false ∧
      ∃ front rest, map.actorIdPool = front :: rest ∧ front.index < map.actorMax := by
  rw [bindActor]
  cases pool : map.actorIdPool with
  | nil =>
    constructor
    · intro defined
      cases defined
    · rintro ⟨_,front,rest,other,_⟩
      cases other
  | cons front rest =>
    change (map.undefined || decide (map.actorMax ≤ front.index)) = false ↔ _
    rw [Bool.or_eq_false_iff,decide_eq_false_iff_not,Nat.not_le]
    apply and_congr_right
    intro _
    constructor
    · intro below
      exact ⟨front,rest,rfl,below⟩
    · rintro ⟨_,_,same,below⟩
      rw [List.cons.injEq] at same
      rw [same.1]
      exact below

section
variable (env : Env) (avatar : Nat) (gridX gridY : UInt32) (w : World) (grid : UInt32 × UInt32)
  (found : w.getGridByPosition gridX gridY = some grid)

def World.bound (w : World) : World := World.bind avatar grid {w with map := bindActor avatar w.map}

theorem bound_own : avatar ∈ (w.bound avatar grid).actorList grid.1.toNat grid.2.toNat := by
  change avatar ∈ Function.update w.actorList grid.1.toNat _ grid.1.toNat grid.2.toNat
  rw [Function.update_self,Function.update_self]
  exact List.mem_append_right _ (List.mem_singleton.mpr rfl)

theorem updateAOI_kept (grids : List (UInt32 × UInt32)) : Kept w (updateAOI env avatar grids w) := by
  rw [updateAOI]
  split
  · exact .refl w
  · have scanned := visits_kept env avatar (w.sources grids) w
    split
    · exact scanned
    · exact ⟨scanned.map,scanned.mapGrid,scanned.actorList,scanned.untold⟩

theorem updateAOI_count (grids : List (UInt32 × UInt32)) (named : env.named avatar = true)
    (owner listed : Nat) :
    ((updateAOI env avatar grids w).interestList owner).count listed =
      (w.interestList owner).count listed + (if owner = avatar then (w.sources grids).count listed else 0) +
        (if listed = avatar then (w.sources grids).count owner else 0) := by
  rw [updateAOI,if_neg ((Bool.not_eq_false _).mpr named),← visits_count env]
  split <;> rfl

include found

theorem enter_found : onMapEnterReq env avatar gridX gridY w =
    let told := (sendAvatarEnterNtf env avatar (w.bound avatar grid)).2
    if env.named avatar && env.sends avatar then
      updateAOI env avatar (told.getNearbyGrids grid.1 grid.2) told else told := by
  rw [onMapEnterReq,found]
  change (if (sendAvatarEnterNtf env avatar (w.bound avatar grid)).1 then _ else _) = _
  rw [sendAvatarEnterNtf_done]
  rfl

theorem enter_kept : Kept (w.bound avatar grid) (onMapEnterReq env avatar gridX gridY w) := by
  have told := sendAvatarEnterNtf_kept env avatar (w.bound avatar grid)
  rw [enter_found env avatar gridX gridY w grid found]
  change Kept _ (if _ then _ else _)
  split
  · exact told.trans _ _ _ (updateAOI_kept env avatar _ _)
  · exact told

/-- Wherever the scan happens, the newcomer finds itself in its own grid. -/
theorem enter_itself (named : env.named avatar = true) (sends : env.sends avatar = true)
    (row : grid.1 ≠ 0) (column : grid.2 ≠ 0) :
    avatar ∈ (onMapEnterReq env avatar gridX gridY w).interestList avatar := by
  let told := (sendAvatarEnterNtf env avatar (w.bound avatar grid)).2
  have inside := getGridByPosition_inside gridX gridY w grid found
  have sizes : told.verticalGridCount = w.verticalGridCount ∧ told.horizonGridCount = w.horizonGridCount := by
    change (sendAvatarEnterNtf ..).2.verticalGridCount = _ ∧ (sendAvatarEnterNtf ..).2.horizonGridCount = _
    rw [sendAvatarEnterNtf,if_neg ((Bool.not_eq_false _).mpr named),sends]
    exact ⟨rfl,rfl⟩
  have listed : avatar ∈ told.actorList grid.1.toNat grid.2.toNat := by
    rw [(sendAvatarEnterNtf_kept env avatar (w.bound avatar grid)).actorList]
    exact bound_own avatar w grid
  have near : grid ∈ told.getNearbyGrids grid.1 grid.2 :=
    (nearby_own grid.1 grid.2 told (by rw [sizes.1]; exact inside.1) (by rw [sizes.2]; exact inside.2)).mpr
      ⟨row,column⟩
  have scanned : avatar ∈ told.sources (told.getNearbyGrids grid.1 grid.2) :=
    List.mem_flatMap.mpr ⟨grid,near,listed⟩
  have counted := updateAOI_count env avatar told (told.getNearbyGrids grid.1 grid.2) named avatar avatar
  have positive := List.count_pos_iff.mpr scanned
  rw [enter_found env avatar gridX gridY w grid found,named,sends]
  apply List.count_pos_iff.mp
  change 0 < ((updateAOI env avatar _ told).interestList avatar).count avatar
  rw [counted,if_pos rfl]
  omega

theorem enter_unscanned (still : grid.1 = 0 ∨ grid.2 = 0 ∨ env.named avatar = false ∨ env.sends avatar = false) :
    (onMapEnterReq env avatar gridX gridY w).interestList = w.interestList ∧
      (onMapEnterReq env avatar gridX gridY w).undefined = w.undefined := by
  have told := sendAvatarEnterNtf_lists env avatar (w.bound avatar grid)
  rw [enter_found env avatar gridX gridY w grid found]
  change (if _ then _ else _ : World).interestList = (w.bound avatar grid).interestList ∧
    (if _ then _ else _ : World).undefined = (w.bound avatar grid).undefined
  split
  · rename_i scans
    rw [Bool.and_eq_true] at scans
    have edge : grid.1 = 0 ∨ grid.2 = 0 := by
      rw [scans.1,scans.2] at still
      simpa using still
    rw [nearby_edge _ _ _ edge,updateAOI,if_neg ((Bool.not_eq_false _).mpr scans.1)]
    exact told
  · exact told

end

def Near (left right : Nat) : Prop := left ≤ right + 1 ∧ right ≤ left + 1

def Neighbour (w : World) (grid : UInt32 × UInt32) (avatar other : Nat) : Prop :=
  other ≠ avatar ∧ ∃ row column, Near row grid.1.toNat ∧ Near column grid.2.toNat ∧
    row < w.verticalGridCount.toNat ∧ column < w.horizonGridCount.toNat ∧ other ∈ w.actorList row column

/-- Those who are to gain each other: the newcomer and its neighbours. -/
def Meets (w : World) (grid : UInt32 × UInt32) (avatar owner listed : Nat) : Prop :=
  owner = avatar ∧ Neighbour w grid avatar listed ∨ listed = avatar ∧ Neighbour w grid avatar owner

/-- What is promised of an enter: before is the map without the newcomer, grid the one it is bound to. -/
structure Entered (before : World) (avatar : Nat) (grid : UInt32 × UInt32) (after : World) : Prop where
  defined : after.undefined = false ∧ after.map.undefined = false
  own : after.mapGrid avatar = some grid
  apart : ∀ owner, owner ∉ after.interestList owner
  gains : ∀ owner listed, Meets before grid avatar owner listed →
    (after.interestList owner).count listed = (before.interestList owner).count listed + 1
  stays : ∀ owner listed, ¬ Meets before grid avatar owner listed →
    (after.interestList owner).count listed = (before.interestList owner).count listed
  told : ∀ other, Neighbour before grid avatar other →
    after.sent.count ⟨other,avatar⟩ = before.sent.count ⟨other,avatar⟩ + 1 ∧
      after.sent.count ⟨avatar,other⟩ = before.sent.count ⟨avatar,other⟩ + 1

/-- Nobody is near, and the scan that would find the newcomer itself does not happen. -/
structure Alone (env : Env) (avatar : Nat) (gridX gridY : UInt32) (w : World) : Prop where
  defined : w.undefined = false ∧ w.map.undefined = false
  pooled : ∃ front rest, w.map.actorIdPool = front :: rest ∧ front.index < w.map.actorMax
  apart : ∀ owner, owner ∉ w.interestList owner
  alone : ∃ grid, w.getGridByPosition gridX gridY = some grid ∧
    (∀ other, ¬ Neighbour w grid avatar other) ∧
    (grid.1 = 0 ∨ grid.2 = 0 ∨ env.named avatar = false ∨ env.sends avatar = false)

/-- Nobody is ever told about another: with a neighbour an enter breaks the promise, and without one it
breaks it unless the scan is left out. -/
theorem entered_iff (env : Env) (avatar : Nat) (gridX gridY : UInt32) (w : World) :
    (∃ grid, Entered w avatar grid (onMapEnterReq env avatar gridX gridY w)) ↔
      Alone env avatar gridX gridY w := by
  constructor
  · intro ⟨own,entered⟩
    cases found : w.getGridByPosition gridX gridY with
    | none =>
      have defined := entered.defined.1
      rw [onMapEnterReq,found] at defined
      cases defined
    | some grid =>
      have kept := enter_kept env avatar gridX gridY w grid found
      have placed : (w.bound avatar grid).mapGrid avatar = some grid := Function.update_self ..
      have same : own = grid := by
        rw [← Option.some.injEq,← entered.own,kept.mapGrid,placed]
      rw [same] at entered
      have still : grid.1 = 0 ∨ grid.2 = 0 ∨ env.named avatar = false ∨ env.sends avatar = false := by
        by_contra scans
        simp only [not_or,Bool.not_eq_false] at scans
        exact entered.apart avatar
          (enter_itself env avatar gridX gridY w grid found scans.2.2.1 scans.2.2.2 scans.1 scans.2.1)
      obtain ⟨lists,undefined⟩ := enter_unscanned env avatar gridX gridY w grid found still
      have defined := entered.defined
      have apart := entered.apart
      rw [undefined,kept.map] at defined
      rw [lists] at apart
      obtain ⟨fine,pooled⟩ := (bindActor_defined avatar w.map).mp defined.2
      refine ⟨⟨defined.1,fine⟩,pooled,apart,grid,found,?_,still⟩
      intro other neighbour
      have told := (entered.told other neighbour).1
      rw [kept.untold other avatar neighbour.1] at told
      exact Nat.succ_ne_self _ told.symm
  · intro alone
    obtain ⟨grid,found,nobody,still⟩ := alone.alone
    have kept := enter_kept env avatar gridX gridY w grid found
    obtain ⟨lists,undefined⟩ := enter_unscanned env avatar gridX gridY w grid found still
    refine ⟨grid,⟨?_,?_⟩,?_,?_,?_,?_,?_⟩
    · rw [undefined]
      exact alone.defined.1
    · rw [kept.map]
      exact (bindActor_defined avatar w.map).mpr ⟨alone.defined.2,alone.pooled⟩
    · rw [kept.mapGrid]
      exact Function.update_self ..
    · rw [lists]
      exact alone.apart
    · rintro owner listed (⟨_,neighbour⟩ | ⟨_,neighbour⟩)
      · exact absurd neighbour (nobody listed)
      · exact absurd neighbour (nobody owner)
    · intro owner listed _
      rw [lists]
    · intro other neighbour
      exact absurd neighbour (nobody other)

def meeting (grid : UInt32 × UInt32) : World :=
  World.bind 0 grid
    ⟨bindActor 0 (init 1 fun _ => actorTypeAvatar),3,3,fun _ _ => [],fun _ => none,fun _ => [],none,[],1,[],
      false⟩

def allSend : Env := ⟨fun _ => true,fun _ => true⟩

/-- Avatar 1 enters the middle grid, where avatar 0 is: it is in its own list twice, nobody is told about
another, and the map is overwritten. In the first grid the two do not meet at all. -/
theorem enter_meeting_unentered :
    let middle := onMapEnterReq allSend 1 1 1 (meeting (1,1))
    let corner := onMapEnterReq allSend 1 0 0 (meeting (0,0))
    (¬ ∃ grid, Entered (meeting (1,1)) 1 grid middle) ∧
      middle.interestList 1 = [0,1,1] ∧ middle.interestList 0 = [1] ∧
      middle.sent = [⟨1,1⟩,⟨0,0⟩,⟨1,1⟩] ∧ middle.undefined = true ∧
      (¬ ∃ grid, Entered (meeting (0,0)) 1 grid corner) ∧
      corner.interestList 1 = [] ∧ corner.interestList 0 = [] ∧ corner.sent = [⟨1,1⟩] := by
  refine ⟨?_,by decide,by decide,by decide,by decide,?_,by decide,by decide,by decide⟩
  · intro ⟨_,entered⟩
    exact entered.apart 1 (by decide)
  · intro ⟨grid,entered⟩
    have own : grid = (0,0) := Option.some.inj (entered.own.symm.trans (by decide))
    have near : Neighbour (meeting (0,0)) grid 1 0 := by
      rw [own]
      exact ⟨by decide,0,0,⟨by decide,by decide⟩,⟨by decide,by decide⟩,by decide,by decide,by decide⟩
    exact absurd (entered.gains 1 0 (.inl ⟨rfl,near⟩)) (by decide)

end Fantuan.RegionServer.MapEnters
