import Fantuan.RegionServer.MapGrids
import Mathlib.Data.List.Nodup

/-! GetNearbyGrids: the grids in the rows and the columns next to a grid and in its own. The indices are
unsigned, so that the loop of a first row begins above its end and one up to the last number never ends.
-/
namespace Fantuan.RegionServer.NearbyGrids
open MapGrids

/-- The values of i in for (uint32 i = low; i <= high; ++i), if the loop ends before the fuel does. -/
def forTo (high : UInt32) : Nat → UInt32 → Option (List UInt32)
  | 0, _ => none
  | fuel + 1, i => if i ≤ high then (forTo high fuel (i + 1)).map (i :: ·) else some []

/-- What the inner loop adds in row i. -/
def Map.nearbyInRow (map : Map) (i : UInt32) (columns : List UInt32) : List MapGrid :=
  columns.filterMap fun j =>
    if i < map.verticalGridCount ∧ j < map.horizonGridCount then map.array2dMapGrid i.toNat j.toNat else none

def Map.getNearbyGrids (fuel : Nat) (grid : MapGrid) (map : Map) : Option (List MapGrid) :=
  forTo (grid.gridY + 1) fuel (grid.gridY - 1) >>= fun rows =>
  (rows.mapM fun i =>
    (forTo (grid.gridX + 1) fuel (grid.gridX - 1)).map (Map.nearbyInRow map i)).map List.flatten

structure Place (map : Map) where
  row : UInt32
  column : UInt32
  within : row < map.verticalGridCount
  inside : column < map.horizonGridCount

def Place.grid {map : Map} (place : Place map) : MapGrid :=
  newGrid map.mapDesc place.row.toNat place.column.toNat

/-- One of the rows next to the given one, or itself. -/
def Near (first second : UInt32) : Prop := first.toNat ≤ second.toNat + 1 ∧ second.toNat ≤ first.toNat + 1

/-- The result has each grid next to the place once, and the grid itself. -/
structure Nearby {map : Map} (place : Place map) (result : List MapGrid) : Prop where
  exact : ∀ grid, grid ∈ result ↔
    ∃ other : Place map, Near other.row place.row ∧ Near other.column place.column ∧ grid = other.grid
  distinct : result.Nodup
  own : place.grid ∈ result
  count : 1 ≤ result.length ∧ result.length ≤ 9

/-- Neither the first index nor one before the last number. -/
def Between (index : UInt32) : Prop := 0 < index ∧ index.toNat + 1 < 2^32 - 1

section
variable {index : UInt32}

theorem Between.positive (between : Between index) : 0 < index.toNat := UInt32.lt_iff_toNat_lt.mp between.1

theorem Between.next (between : Between index) : (index + 1).toNat = index.toNat + 1 := by
  have high := between.2
  rw [UInt32.toNat_add,UInt32.toNat_one]
  omega

theorem Between.before (between : Between index) : (index - 1).toNat = index.toNat - 1 := by
  have positive := between.positive
  have bound := index.toNat_lt
  rw [UInt32.toNat_sub,UInt32.toNat_one]
  omega

end

theorem forTo_endless (fuel : Nat) (i : UInt32) : forTo 4294967295 fuel i = none := by
  induction fuel generalizing i with
  | zero => rfl
  | succ fuel ih =>
    rw [forTo,if_pos (UInt32.le_iff_toNat_le.mpr (Nat.le_pred_of_lt i.toNat_lt)),ih]
    rfl

theorem forTo_empty (high low : UInt32) (above : high < low) (fuel : Nat) (values : List UInt32)
    (ends : forTo high fuel low = some values) : values = [] := by
  cases fuel with
  | zero => cases ends
  | succ fuel =>
    rw [forTo,if_neg (UInt32.not_le.mpr above)] at ends
    exact (Option.some.inj ends).symm

theorem forTo_around (index : UInt32) (between : Between index) :
    forTo (index + 1) 4 (index - 1) = some [index - 1,index,index + 1] := by
  have positive := between.positive
  have high := between.2
  have next := between.next
  have before := between.before
  have back : index - 1 + 1 = index := UInt32.sub_add_cancel index 1
  have above : ¬ index + 1 + 1 ≤ index + 1 := by
    rw [UInt32.le_iff_toNat_le,UInt32.toNat_add (index + 1),next,UInt32.toNat_one]
    omega
  have first : index - 1 ≤ index + 1 := by
    rw [UInt32.le_iff_toNat_le]
    omega
  have second : index ≤ index + 1 := by
    rw [UInt32.le_iff_toNat_le]
    omega
  rw [forTo,if_pos first,back,forTo,if_pos second,forTo,if_pos UInt32.le_rfl,forTo,if_neg above]
  rfl

theorem forTo_visits (index i : UInt32) (fuel : Nat) (values : List UInt32)
    (ends : forTo (index + 1) fuel (index - 1) = some values) (visited : i ∈ values) : Between index := by
  have bound := index.toNat_lt
  have next : (index + 1).toNat = (index.toNat + 1) % 2^32 := by rw [UInt32.toNat_add,UInt32.toNat_one]
  have before : (index - 1).toNat = (2^32 - 1 + index.toNat) % 2^32 := by
    rw [UInt32.toNat_sub,UInt32.toNat_one]
  have filled : ¬ (index + 1).toNat < (index - 1).toNat := by
    intro above
    rw [forTo_empty _ _ (UInt32.lt_iff_toNat_lt.mpr above) fuel values ends] at visited
    cases visited
  have finite : (index + 1).toNat ≠ 2^32 - 1 := by
    intro last
    rw [show index + 1 = 4294967295 from UInt32.toNat_inj.mp last,forTo_endless] at ends
    cases ends
  refine ⟨UInt32.lt_iff_toNat_lt.mpr ?_,?_⟩
  · rw [UInt32.toNat_zero]
    omega
  · omega

section
variable {map : Map}

theorem Place.gridX_eq (place : Place map) : place.grid.gridX = place.column := UInt32.ofNat_toNat

theorem Place.gridY_eq (place : Place map) : place.grid.gridY = place.row := UInt32.ofNat_toNat

theorem array2dMapGrid_place (place : Place map) :
    map.array2dMapGrid place.row.toNat place.column.toNat = some place.grid := by
  have within := UInt32.lt_iff_toNat_lt.mp place.within
  have inside := UInt32.lt_iff_toNat_lt.mp place.inside
  have used : 0 < map.horizonGridCount.toNat := Nat.zero_lt_of_lt inside
  have entry : place.row.toNat * map.horizonGridCount.toNat + place.column.toNat <
      map.horizonGridCount.toNat * map.verticalGridCount.toNat := by
    rw [Nat.mul_comm place.row.toNat]
    have row := Nat.mul_le_mul_left map.horizonGridCount.toNat (Nat.succ_le_of_lt within)
    rw [Nat.mul_succ] at row
    omega
  have row : (place.row.toNat * map.horizonGridCount.toNat + place.column.toNat) / map.horizonGridCount.toNat =
      place.row.toNat := by
    rw [Nat.mul_comm,Nat.mul_add_div used,Nat.div_eq_of_lt inside,Nat.add_zero]
  have column : (place.row.toNat * map.horizonGridCount.toNat + place.column.toNat) %
      map.horizonGridCount.toNat = place.column.toNat := by
    rw [Nat.mul_comm,Nat.mul_add_mod,Nat.mod_eq_of_lt inside]
  rw [Map.array2dMapGrid,if_pos within,Map.memory,if_pos entry,row,column]
  rfl

theorem nearbyInRow_entry (i j : UInt32) (grid : MapGrid) :
    (if i < map.verticalGridCount ∧ j < map.horizonGridCount then map.array2dMapGrid i.toNat j.toNat else none) =
      some grid ↔ ∃ place : Place map, place.row = i ∧ place.column = j ∧ grid = place.grid := by
  rw [Option.ite_none_right_eq_some]
  constructor
  · rintro ⟨⟨within,inside⟩,found⟩
    have known := array2dMapGrid_place (⟨i,j,within,inside⟩ : Place map)
    exact ⟨⟨i,j,within,inside⟩,rfl,rfl,Option.some.inj (found.symm.trans known)⟩
  · rintro ⟨place,rfl,rfl,rfl⟩
    exact ⟨⟨place.within,place.inside⟩,array2dMapGrid_place place⟩

theorem mem_nearbyInRow (i : UInt32) (columns : List UInt32) (grid : MapGrid) :
    grid ∈ Map.nearbyInRow map i columns ↔
      ∃ place : Place map, place.row = i ∧ place.column ∈ columns ∧ grid = place.grid := by
  simp only [Map.nearbyInRow,List.mem_filterMap,nearbyInRow_entry]
  constructor
  · rintro ⟨j,member,place,row,rfl,same⟩
    exact ⟨place,row,member,same⟩
  · rintro ⟨place,row,member,same⟩
    exact ⟨place.column,member,place,row,rfl,same⟩

theorem nearbyInRow_nodup (i : UInt32) (columns : List UInt32) (distinct : columns.Nodup) :
    (Map.nearbyInRow map i columns).Nodup := by
  refine List.Nodup.filterMap ?_ distinct
  intro j k grid first second
  obtain ⟨place,-,rfl,rfl⟩ := (nearbyInRow_entry i j grid).mp first
  obtain ⟨other,-,rfl,same⟩ := (nearbyInRow_entry i k _).mp second
  rw [← place.gridX_eq,same,other.gridX_eq]

theorem getNearbyGrids_eq (grid : MapGrid) (fuel : Nat) (rows columns : List UInt32)
    (outer : forTo (grid.gridY + 1) fuel (grid.gridY - 1) = some rows)
    (inner : forTo (grid.gridX + 1) fuel (grid.gridX - 1) = some columns) :
    Map.getNearbyGrids fuel grid map = some (rows.flatMap fun i => Map.nearbyInRow map i columns) := by
  rw [Map.getNearbyGrids,outer,inner]
  change (rows.mapM fun i => some (Map.nearbyInRow map i columns)).map List.flatten = _
  rw [show (rows.mapM fun i => some (Map.nearbyInRow map i columns)) =
    some (rows.map fun i => Map.nearbyInRow map i columns) from List.mapM_pure]
  rfl

/-- A grid can be in its own result only where both loops end and visit something. -/
theorem getNearbyGrids_visits (place : Place map) (fuel : Nat) (result : List MapGrid)
    (ends : Map.getNearbyGrids fuel place.grid map = some result) (own : place.grid ∈ result) :
    Between place.row ∧ Between place.column := by
  have ended := ends
  rw [Map.getNearbyGrids] at ended
  obtain ⟨rows,outer,entries⟩ := Option.bind_eq_some_iff.mp ended
  obtain ⟨lists,entries,joined⟩ := Option.map_eq_some_iff.mp entries
  cases inner : forTo (place.grid.gridX + 1) fuel (place.grid.gridX - 1) with
  | none =>
    rw [inner] at entries
    cases rows with
    | nil =>
      obtain rfl : lists = [] := (Option.some.inj entries).symm
      rw [← joined] at own
      cases own
    | cons i rows =>
      rw [List.mapM_cons] at entries
      cases entries
  | some columns =>
    rw [getNearbyGrids_eq place.grid fuel rows columns outer inner] at ends
    rw [← Option.some.inj ends,List.mem_flatMap] at own
    obtain ⟨i,row,member⟩ := own
    obtain ⟨other,-,column,-⟩ := (mem_nearbyInRow i columns place.grid).mp member
    rw [place.gridY_eq] at outer
    rw [place.gridX_eq] at inner
    exact ⟨forTo_visits _ i fuel rows outer row,forTo_visits _ other.column fuel columns inner column⟩

theorem around_near (index : UInt32) (between : Between index) (other : UInt32) :
    other ∈ [index - 1,index,index + 1] ↔ Near other index := by
  have positive := between.positive
  have next := between.next
  have before := between.before
  simp only [List.mem_cons,List.not_mem_nil,or_false,← UInt32.toNat_inj,next,before,Near]
  omega

theorem around_nodup (index : UInt32) (between : Between index) : [index - 1,index,index + 1].Nodup := by
  have positive := between.positive
  have next := between.next
  have before := between.before
  simp only [List.nodup_cons,List.mem_cons,List.not_mem_nil,or_false,← UInt32.toNat_inj,next,before]
  simp only [not_false_eq_true,List.nodup_nil,and_true]
  omega

theorem getNearbyGrids_nearby (place : Place map) (row : Between place.row) (column : Between place.column) :
    ∃ result, Map.getNearbyGrids 4 place.grid map = some result ∧ Nearby place result := by
  have outer := forTo_around place.row row
  have inner := forTo_around place.column column
  rw [← place.gridY_eq] at outer
  rw [← place.gridX_eq] at inner
  refine ⟨_,getNearbyGrids_eq place.grid 4 _ _ outer inner,?_⟩
  rw [place.gridY_eq,place.gridX_eq]
  have exact (grid : MapGrid) : grid ∈ [place.row - 1,place.row,place.row + 1].flatMap (fun i =>
      Map.nearbyInRow map i [place.column - 1,place.column,place.column + 1]) ↔
      ∃ other : Place map, Near other.row place.row ∧ Near other.column place.column ∧ grid = other.grid := by
    simp only [List.mem_flatMap,mem_nearbyInRow,around_near place.row row,around_near place.column column]
    constructor
    · rintro ⟨_,near,other,rfl,close,same⟩
      exact ⟨other,near,close,same⟩
    · rintro ⟨other,near,close,same⟩
      exact ⟨_,near,other,rfl,close,same⟩
  have own := (exact place.grid).mpr
    ⟨place,⟨Nat.le_succ _,Nat.le_succ _⟩,⟨Nat.le_succ _,Nat.le_succ _⟩,rfl⟩
  refine ⟨exact,?_,own,List.length_pos_of_mem own,?_⟩
  · refine List.nodup_flatMap.mpr ⟨fun i _ => nearbyInRow_nodup i _ (around_nodup place.column column),?_⟩
    refine (around_nodup place.row row).imp ?_
    intro i k different grid first second
    obtain ⟨one,rfl,-,rfl⟩ := (mem_nearbyInRow i _ _).mp first
    obtain ⟨other,rfl,-,same⟩ := (mem_nearbyInRow k _ _).mp second
    exact different (by rw [← one.gridY_eq,same,other.gridY_eq])
  · have each (i : UInt32) : (Map.nearbyInRow map i
        [place.column - 1,place.column,place.column + 1]).length ≤ 3 := List.length_filterMap_le _ _
    simp only [List.flatMap_cons,List.flatMap_nil,List.length_append,List.length_nil]
    have first := each (place.row - 1)
    have second := each place.row
    have third := each (place.row + 1)
    omega

end

/-- The loops return the grids next to a grid if and only if it is neither in the first row nor in the
first column. -/
theorem getNearbyGrids_exact_iff (map : Map) (place : Place map) :
    (∃ fuel result, Map.getNearbyGrids fuel place.grid map = some result ∧ Nearby place result) ↔
      0 < place.row ∧ 0 < place.column := by
  constructor
  · rintro ⟨fuel,result,ends,nearby⟩
    obtain ⟨row,column⟩ := getNearbyGrids_visits place fuel result ends nearby.own
    exact ⟨row.1,column.1⟩
  · rintro ⟨low,left⟩
    -- with a second row and a second column neither count reaches the last number
    have within := UInt32.lt_iff_toNat_lt.mp place.within
    have inside := UInt32.lt_iff_toNat_lt.mp place.inside
    have rows : 0 < place.row.toNat := UInt32.lt_iff_toNat_lt.mp low
    have columns : 0 < place.column.toNat := UInt32.lt_iff_toNat_lt.mp left
    have fits := map.fits
    have wide := Nat.mul_le_mul_left map.horizonGridCount.toNat (show 2 ≤ map.verticalGridCount.toNat by omega)
    have high := Nat.mul_le_mul_right map.verticalGridCount.toNat (show 2 ≤ map.horizonGridCount.toNat by omega)
    exact ⟨4,getNearbyGrids_nearby place ⟨low,by omega⟩ ⟨left,by omega⟩⟩

theorem twoByTwo_fits : (2 : UInt32).toNat * (2 : UInt32).toNat < 2^32 := by decide

def twoByTwo : Map := ⟨square,2,2,twoByTwo_fits⟩

theorem firstGrid_inside : (0 : UInt32) < 2 := by decide

def firstGrid : Place twoByTwo := ⟨0,0,firstGrid_inside,firstGrid_inside⟩

/-- For the first grid of four the result is empty. -/
theorem getNearbyGrids_exact_first : Map.init square = some twoByTwo ∧
    ¬ ∃ fuel result, Map.getNearbyGrids fuel firstGrid.grid twoByTwo = some result ∧ Nearby firstGrid result := by
  refine ⟨(init_eq square twoByTwo).mpr ⟨rfl,by decide +kernel,by decide +kernel⟩,?_⟩
  rintro ⟨fuel,result,ends,nearby⟩
  have left := (getNearbyGrids_visits firstGrid fuel result ends nearby.own).1.1
  revert left
  decide

end Fantuan.RegionServer.NearbyGrids
