import Fantuan.Lib.Plane
import Mathlib.Data.Rat.Floor
import Mathlib.Tactic.Linarith

/-! The grids of a map: Map::Init, and the grid of a position. Coordinates are rationals. The bounds of a
grid take both of their indices from its column, and the lookup takes the row from the x coordinate.
-/
namespace Fantuan.RegionServer.MapGrids
open Lib.Plane

structure AreaDesc where
  areaId : UInt16
  bounds : Rectangle ℚ
  deriving DecidableEq

structure MapDesc where
  bounds : Rectangle ℚ
  areaDesc : List AreaDesc

structure MapGrid where
  gridX : UInt32
  gridY : UInt32
  bounds : Rectangle ℚ
  area : List AreaDesc
  deriving DecidableEq

def gridSize : ℚ := 50

/-- The conversion to uint32 is defined for values in its range. -/
def toUInt32 (value : ℤ) : Option UInt32 :=
  if 0 ≤ value ∧ value < 2^32 then some (UInt32.ofNat value.toNat) else none

theorem toUInt32_eq (value : ℤ) (result : UInt32) : toUInt32 value = some result ↔ value = result.toNat := by
  have bound := result.toNat_lt
  rw [toUInt32]
  split
  next inside =>
    rw [Option.some.injEq,← UInt32.toNat_inj,UInt32.toNat_ofNat']
    omega
  · simp only [reduceCtorEq,false_iff]
    omega

def gridCount (low high : ℚ) : Option UInt32 := toUInt32 ⌈(high - low) / gridSize⌉

def gridIndex (low position : ℚ) : Option UInt32 := toUInt32 ⌊(position - low) / gridSize⌋

def checkIfAreaOverlap (first second : Rectangle ℚ) : Bool :=
  let left := max first.minX second.minX
  let right := min first.maxX second.maxX
  let top := max first.minY second.minY
  let bottom := min first.maxY second.maxY
  left ≤ right && top ≤ bottom

def gridBounds (map : Rectangle ℚ) (j : Nat) : Rectangle ℚ where
  minX := map.minX + j * gridSize
  maxX := map.minX + j * gridSize + gridSize
  minY := map.minY + j * gridSize
  maxY := map.minY + j * gridSize + gridSize

def newGrid (desc : MapDesc) (i j : Nat) : MapGrid where
  gridX := UInt32.ofNat j
  gridY := UInt32.ofNat i
  bounds := gridBounds desc.bounds j
  area := desc.areaDesc.filter fun area => checkIfAreaOverlap (gridBounds desc.bounds j) area.bounds

structure Map where
  mapDesc : MapDesc
  horizonGridCount : UInt32
  verticalGridCount : UInt32
  fits : horizonGridCount.toNat * verticalGridCount.toNat < 2^32

/-- The number of grids is a uint32 too. -/
def Map.init (desc : MapDesc) : Option Map :=
  gridCount desc.bounds.minX desc.bounds.maxX >>= fun horizon =>
  gridCount desc.bounds.minY desc.bounds.maxY >>= fun vertical =>
  if fits : horizon.toNat * vertical.toNat < 2^32 then some ⟨desc,horizon,vertical,fits⟩ else none

def Map.memory (map : Map) (entry : Nat) : Option MapGrid :=
  if entry < map.horizonGridCount.toNat * map.verticalGridCount.toNat then
    some (newGrid map.mapDesc (entry / map.horizonGridCount.toNat) (entry % map.horizonGridCount.toNat))
  else none

/-- m_array2dMapGrid[i][j], or nothing where that leaves the memory. -/
def Map.array2dMapGrid (map : Map) (i j : Nat) : Option MapGrid :=
  if i < map.verticalGridCount.toNat then map.memory (i * map.horizonGridCount.toNat + j) else none

def Map.getGridByPosition (map : Map) (x y : ℚ) : Option MapGrid :=
  gridIndex map.mapDesc.bounds.minX x >>= fun gridX =>
  gridIndex map.mapDesc.bounds.minY y >>= fun gridY =>
  map.array2dMapGrid gridX.toNat gridY.toNat

structure Position (map : Rectangle ℚ) where
  x : ℚ
  y : ℚ
  inside : map.Contains x y

/-- The grid of the position is in the array, contains it and lists the areas in which it is, and the
grids do not overlap. -/
structure Located (map : Map) (x y : ℚ) : Prop where
  found : ∃ grid, map.getGridByPosition x y = some grid ∧ grid.bounds.Contains x y ∧
    ∀ area ∈ map.mapDesc.areaDesc, area.bounds.Contains x y → area ∈ grid.area
  apart : ∀ first second one other, first ≠ second → map.memory first = some one →
    map.memory second = some other → Apart one.bounds other.bounds

/-- The map is one grid high, and no wider than the counts allow. -/
structure OneRow (map : Rectangle ℚ) : Prop where
  high : map.minY < map.maxY
  low : map.maxY ≤ map.minY + gridSize
  wide : map.minX < map.maxX
  narrow : map.maxX ≤ map.minX + (2^32 - 1) * gridSize

theorem gridIndex_eq (low position : ℚ) (index : UInt32) :
    gridIndex low position = some index ↔
      low + index.toNat * gridSize ≤ position ∧ position < low + index.toNat * gridSize + gridSize := by
  have size : (0 : ℚ) < gridSize := by norm_num [gridSize]
  rw [gridIndex,toUInt32_eq,Int.floor_eq_iff,le_div_iff₀ size,div_lt_iff₀ size]
  push_cast
  constructor
  · rintro ⟨above,below⟩
    constructor <;> linarith
  · rintro ⟨above,below⟩
    constructor <;> linarith

theorem gridCount_eq (low high : ℚ) (count : UInt32) :
    gridCount low high = some count ↔
      low + count.toNat * gridSize - gridSize < high ∧ high ≤ low + count.toNat * gridSize := by
  have size : (0 : ℚ) < gridSize := by norm_num [gridSize]
  rw [gridCount,toUInt32_eq,Int.ceil_eq_iff,lt_div_iff₀ size,div_le_iff₀ size]
  push_cast
  constructor
  · rintro ⟨above,below⟩
    constructor <;> linarith
  · rintro ⟨above,below⟩
    constructor <;> linarith

theorem checkIfAreaOverlap_iff (first second : Rectangle ℚ) :
    checkIfAreaOverlap first second = true ↔ Meets first second := by
  rw [checkIfAreaOverlap,Bool.and_eq_true,decide_eq_true_eq,decide_eq_true_eq,Meets]

theorem newGrid_area (desc : MapDesc) (i j : Nat) (x y : ℚ) (here : (newGrid desc i j).bounds.Contains x y)
    (area : AreaDesc) (listed : area ∈ desc.areaDesc) (contains : area.bounds.Contains x y) :
    area ∈ (newGrid desc i j).area := by
  refine List.mem_filter.mpr ⟨listed,?_⟩
  rw [checkIfAreaOverlap_iff,meets_iff]
  exact ⟨x,y,here,contains⟩

theorem gridBounds_apart (map : Rectangle ℚ) (i j : Nat) : Apart (gridBounds map i) (gridBounds map j) ↔ i ≠ j := by
  have size : gridSize = 50 := rfl
  constructor
  · rintro apart rfl
    refine apart (map.minX + i * gridSize + 25) (map.minY + i * gridSize + 25) ⟨?_,?_,?_,?_⟩ ⟨?_,?_,?_,?_⟩ <;>
      simp only [gridBounds] <;> linarith
  · have beside (first second : Nat) (less : first < second) :
        Apart (gridBounds map first) (gridBounds map second) := by
      apply apart_beside
      have step : (first : ℚ) + 1 ≤ second := by exact_mod_cast less
      simp only [gridBounds,size]
      linarith
    intro different
    rcases Nat.lt_or_gt_of_ne different with less | greater
    · exact beside i j less
    · exact apart_comm _ _ (beside j i greater)

theorem init_eq (desc : MapDesc) (map : Map) : Map.init desc = some map ↔
    map.mapDesc = desc ∧ gridCount desc.bounds.minX desc.bounds.maxX = some map.horizonGridCount ∧
      gridCount desc.bounds.minY desc.bounds.maxY = some map.verticalGridCount := by
  cases horizon : gridCount desc.bounds.minX desc.bounds.maxX with
  | none => simp [Map.init,horizon]
  | some h =>
    cases vertical : gridCount desc.bounds.minY desc.bounds.maxY with
    | none => simp [Map.init,horizon,vertical]
    | some v =>
      simp only [Map.init,horizon,vertical,Option.bind_eq_bind,Option.bind_some,Option.some.injEq]
      constructor
      · intro result
        split at result
        · obtain rfl := Option.some.inj result
          exact ⟨rfl,rfl,rfl⟩
        · cases result
      · rintro ⟨rfl,rfl,rfl⟩
        exact dif_pos map.fits

/-- The grids do not overlap just where the map has no second row. -/
theorem rows_apart (map : Map) (used : 0 < map.horizonGridCount.toNat) :
    (∀ first second one other, first ≠ second → map.memory first = some one →
      map.memory second = some other → Apart one.bounds other.bounds) ↔ map.verticalGridCount.toNat ≤ 1 := by
  constructor
  · intro apart
    by_contra rows
    have first : map.memory 0 = some (newGrid map.mapDesc 0 0) := by
      rw [Map.memory,if_pos (Nat.mul_pos used (by omega)),Nat.zero_div,Nat.zero_mod]
    have second : map.memory map.horizonGridCount.toNat = some (newGrid map.mapDesc 1 0) := by
      rw [Map.memory,if_pos (lt_mul_of_one_lt_right used (by omega)),Nat.div_self used,Nat.mod_self]
    have same : Apart (gridBounds map.mapDesc.bounds 0) (gridBounds map.mapDesc.bounds 0) := by
      have both := apart 0 map.horizonGridCount.toNat _ _ (by omega) first second
      exact both
    exact (gridBounds_apart map.mapDesc.bounds 0 0).mp same rfl
  · intro single first second one other different here there
    rw [Map.memory,Option.ite_none_right_eq_some] at here there
    obtain ⟨inside,here⟩ := here
    obtain ⟨within,there⟩ := there
    obtain rfl := Option.some.inj here
    obtain rfl := Option.some.inj there
    have row : map.horizonGridCount.toNat * map.verticalGridCount.toNat ≤ map.horizonGridCount.toNat :=
      (Nat.mul_le_mul_left _ single).trans_eq (Nat.mul_one _)
    apply (gridBounds_apart map.mapDesc.bounds _ _).mpr
    rw [Nat.mod_eq_of_lt (by omega),Nat.mod_eq_of_lt (by omega)]
    exact different

/-- The conditions under which the counts are right for one row. -/
theorem oneRow_iff (desc : MapDesc) : OneRow desc.bounds ↔
    ∃ map, Map.init desc = some map ∧ map.verticalGridCount = 1 ∧ 0 < map.horizonGridCount.toNat := by
  have size : gridSize = 50 := rfl
  constructor
  · intro row
    have vertical : gridCount desc.bounds.minY desc.bounds.maxY = some 1 := by
      have low := row.low
      rw [size] at low
      rw [gridCount_eq,UInt32.toNat_one,Nat.cast_one,one_mul,size]
      exact ⟨by linarith [row.high],low⟩
    have size' : (0 : ℚ) < gridSize := by norm_num [gridSize]
    have above : 0 < ⌈(desc.bounds.maxX - desc.bounds.minX) / gridSize⌉ :=
      Int.ceil_pos.mpr (div_pos (by linarith [row.wide]) size')
    have below : ⌈(desc.bounds.maxX - desc.bounds.minX) / gridSize⌉ ≤ 2^32 - 1 := by
      rw [Int.ceil_le,div_le_iff₀ size']
      push_cast
      linarith [row.narrow]
    obtain ⟨horizon,counted⟩ : ∃ horizon, gridCount desc.bounds.minX desc.bounds.maxX = some horizon :=
      ⟨_,if_pos ⟨above.le,by omega⟩⟩
    have value := (toUInt32_eq _ _).mp counted
    have bound := horizon.toNat_lt
    have fits : horizon.toNat * (1 : UInt32).toNat < 2^32 := by
      rw [UInt32.toNat_one,Nat.mul_one]
      exact bound
    exact ⟨⟨desc,horizon,1,fits⟩,(init_eq desc _).mpr ⟨rfl,counted,vertical⟩,rfl,by dsimp only; omega⟩
  · rintro ⟨map,created,single,used⟩
    obtain ⟨-,horizon,vertical⟩ := (init_eq desc map).mp created
    rw [single,gridCount_eq,UInt32.toNat_one,Nat.cast_one,one_mul] at vertical
    rw [gridCount_eq] at horizon
    have least : (1 : ℚ) ≤ map.horizonGridCount.toNat := by exact_mod_cast used
    have most : (map.horizonGridCount.toNat : ℚ) ≤ 2^32 - 1 := by
      have limit : (map.horizonGridCount.toNat : ℚ) + 1 ≤ 2^32 := by
        exact_mod_cast map.horizonGridCount.toNat_lt
      linarith
    rw [size] at vertical horizon
    refine ⟨by linarith [vertical.1],?_,by linarith [horizon.1],?_⟩
    · rw [size]
      exact vertical.2
    · rw [size]
      linarith [horizon.2]

/-- The grid of a position that is located is the first one: its column is that of y, and contains x. -/
theorem located_near (map : Map) (x y : ℚ) (located : Located map x y) :
    (map.verticalGridCount = 1 ∧ 0 < map.horizonGridCount.toNat) ∧
      x < map.mapDesc.bounds.minX + gridSize ∧ y < map.mapDesc.bounds.minY + gridSize := by
  obtain ⟨⟨grid,found,here,-⟩,apart⟩ := located
  obtain ⟨gridX,column,found⟩ := Option.bind_eq_some_iff.mp found
  obtain ⟨gridY,row,found⟩ := Option.bind_eq_some_iff.mp found
  rw [Map.array2dMapGrid,Option.ite_none_right_eq_some,Map.memory,Option.ite_none_right_eq_some] at found
  obtain ⟨low,entry,found⟩ := found
  have used : 0 < map.horizonGridCount.toNat := Nat.pos_of_mul_pos_right (Nat.zero_lt_of_lt entry)
  have single := (rows_apart map used).mp apart
  have first : gridX.toNat = 0 := by omega
  have one : map.verticalGridCount = 1 := by
    rw [← UInt32.toNat_inj,UInt32.toNat_one]
    omega
  have column0 := (gridIndex_eq _ _ _).mp column
  have row0 := (gridIndex_eq _ _ _).mp row
  rw [first,Nat.cast_zero,zero_mul,add_zero] at column0
  rw [first,Nat.zero_mul,Nat.zero_add] at found entry
  rw [one,UInt32.toNat_one,Nat.mul_one] at entry
  obtain rfl := Option.some.inj found
  have across := here.1
  change map.mapDesc.bounds.minX + ((gridY.toNat % map.horizonGridCount.toNat : Nat) : ℚ) * gridSize ≤ x at across
  rw [Nat.mod_eq_of_lt entry] at across
  have second : gridY.toNat = 0 := by
    have size : gridSize = 50 := rfl
    by_contra later
    have least : (1 : ℚ) ≤ gridY.toNat := by exact_mod_cast Nat.pos_of_ne_zero later
    rw [size] at across column0
    linarith [column0.2]
  rw [second,Nat.cast_zero,zero_mul,add_zero] at row0
  exact ⟨⟨one,used⟩,column0.2,row0.2⟩

theorem near_located (map : Map) (x y : ℚ) (single : map.verticalGridCount = 1)
    (used : 0 < map.horizonGridCount.toNat) (inside : map.mapDesc.bounds.Contains x y)
    (near : x < map.mapDesc.bounds.minX + gridSize) (close : y < map.mapDesc.bounds.minY + gridSize) :
    Located map x y := by
  obtain ⟨left,-,top,-⟩ := inside
  have column : gridIndex map.mapDesc.bounds.minX x = some 0 := by
    rw [gridIndex_eq,UInt32.toNat_zero,Nat.cast_zero,zero_mul,add_zero]
    exact ⟨left,near⟩
  have row : gridIndex map.mapDesc.bounds.minY y = some 0 := by
    rw [gridIndex_eq,UInt32.toNat_zero,Nat.cast_zero,zero_mul,add_zero]
    exact ⟨top,close⟩
  have entry : map.memory 0 = some (newGrid map.mapDesc 0 0) := by
    rw [Map.memory,single,UInt32.toNat_one,Nat.mul_one,if_pos used,Nat.zero_div,Nat.zero_mod]
  have found : map.getGridByPosition x y = some (newGrid map.mapDesc 0 0) := by
    rw [Map.getGridByPosition,column,row]
    change map.array2dMapGrid 0 0 = _
    rw [Map.array2dMapGrid,single,if_pos (by decide),Nat.zero_mul]
    exact entry
  have here : (newGrid map.mapDesc 0 0).bounds.Contains x y := by
    simp only [newGrid,gridBounds,Nat.cast_zero,zero_mul,add_zero]
    exact ⟨left,near.le,top,close.le⟩
  refine ⟨⟨_,found,here,?_⟩,(rows_apart map used).mpr ?_⟩
  · exact fun area listed contains => newGrid_area map.mapDesc 0 0 x y here area listed contains
  · rw [single]
    decide

/-- The lookup is right for a position of a map if and only if the map has one row and the position is
in its first grid. -/
theorem init_located_iff (desc : MapDesc) (position : Position desc.bounds) :
    (∃ map, Map.init desc = some map ∧ Located map position.x position.y) ↔
      OneRow desc.bounds ∧ position.x < desc.bounds.minX + gridSize ∧
        position.y < desc.bounds.minY + gridSize := by
  rw [oneRow_iff]
  constructor
  · rintro ⟨map,created,located⟩
    obtain ⟨⟨one,used⟩,near⟩ := located_near map _ _ located
    obtain ⟨rfl,-,-⟩ := (init_eq desc map).mp created
    exact ⟨⟨map,created,one,used⟩,near⟩
  · rintro ⟨⟨map,created,single,used⟩,near,close⟩
    obtain ⟨rfl,-,-⟩ := (init_eq desc map).mp created
    exact ⟨map,created,near_located map _ _ single used position.inside near close⟩

def square : MapDesc := ⟨⟨0,100,0,100⟩,[]⟩

/-- For a position in the upper right grid of four the lookup goes to the lower left one. -/
theorem init_located_square :
    square.bounds.Contains 60 10 ∧ ¬ ∃ map, Map.init square = some map ∧ Located map 60 10 := by
  refine ⟨by norm_num [square,Rectangle.Contains],?_⟩
  rintro ⟨map,created,⟨grid,found,here,-⟩,-⟩
  have looked : (Map.init square >>= fun map => map.getGridByPosition 60 10).map MapGrid.bounds =
      some ⟨0,50,0,50⟩ := by decide +kernel
  rw [created] at looked
  change (map.getGridByPosition 60 10).map MapGrid.bounds = _ at looked
  rw [found] at looked
  rw [Option.some.inj looked] at here
  revert here
  decide +kernel

end Fantuan.RegionServer.MapGrids
