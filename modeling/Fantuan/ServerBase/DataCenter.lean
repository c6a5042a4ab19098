import Fantuan.Lib.Utf
import Mathlib.Algebra.Group.Int.Defs
import Mathlib.Data.List.Perm.Basic

/-! The map descriptions, loaded from a document and deleted again. -/
namespace Fantuan.ServerBase.DataCenter
open Lib.Utf

/-- A text without the zero at its end. -/
abbrev Text := List UInt8

structure Element where
  value : String
  attributes : List (String × Text)
  children : List Element

def Element.attribute (element : Element) (name : String) : Option Text :=
  (element.attributes.find? fun entry => entry.1 == name).map Prod.snd

def firstChildElement (children : List Element) (name : String) : Option Element :=
  children.find? fun child => child.value == name

/-- FirstChildElement and then NextSiblingElement. -/
def childElements (children : List Element) (name : String) : List Element :=
  children.filter fun child => child.value == name

def isSpace (byte : UInt8) : Bool := byte == 32 || 9 ≤ byte && byte ≤ 13

def digits (text : Text) : Nat :=
  (text.takeWhile fun byte => 48 ≤ byte && byte ≤ 57).foldl (fun value byte => value * 10 + (byte.toNat - 48)) 0

/-- What int cannot hold becomes the closest that it can. -/
def atoi (text : Text) : Int :=
  match text.dropWhile isSpace with
  | 45 :: rest => max (-2^31) (-digits rest)
  | 43 :: rest => min (2^31 - 1) (digits rest)
  | rest => min (2^31 - 1) (digits rest)

/-- What has been written, with the zero at its end; nothing where 0 is returned. -/
def char2WChar (source : Option Text) (size : Nat) : List UInt16 :=
  match source with
  | none => []
  | some text => if (widened text ++ [0]).length ≤ size then widened text ++ [0] else []

/-- MAX_PATH -/
def maxPath : Nat := 260

structure Vector3 (Float32 : Type) where
  x : Float32
  y : Float32
  z : Float32

structure PointDesc (Float32 : Type) where
  pointId : UInt16
  position : Vector3 Float32

structure AreaDesc (Float32 : Type) where
  areaId : UInt16
  minX : Float32
  maxX : Float32
  minY : Float32
  maxY : Float32

structure MapDesc (Float32 : Type) where
  mapId : UInt16
  mapName : List UInt16
  minX : Float32
  maxX : Float32
  minY : Float32
  maxY : Float32
  pointDesc : List (PointDesc Float32)
  areaDesc : List (AreaDesc Float32)

/-- The loader returns in the middle, or it hands a null pointer to atoi or atof, which ends the process. -/
inductive Stop
  | returned
  | null

abbrev Read := Except Stop

def number (element : Element) (name : String) : Read Text :=
  match element.attribute name with
  | some text => .ok text
  | none => .error .null

def list (element : Element) (name : String) : Read Element :=
  match firstChildElement element.children name with
  | some child => .ok child
  | none => .error .returned

def readAll {α : Type} (read : Element → Read α) : List Element → Read (List α)
  | [] => .ok []
  | element :: elements => do
    let first ← read element
    let rest ← readAll read elements
    return first :: rest

def readList {α : Type} (read : Element → Read α) (element : Element) (name item : String) : Read (List α) := do
  let child ← list element name
  readAll read (childElements child.children item)

def readName (element : Element) : Read (List UInt16) :=
  let mapName := char2WChar (element.attribute "Name") (maxPath + 1)
  if mapName.length = 0 then .error .returned else .ok mapName

section Loading

variable {Float32 : Type} (atof : Text → Float32)

def readPoint (element : Element) : Read (PointDesc Float32) := do
  let pointId ← number element "id"
  let x ← number element "PositionX"
  let y ← number element "PositionY"
  let z ← number element "PositionZ"
  return ⟨.ofInt (atoi pointId),⟨atof x,atof y,atof z⟩⟩

def readArea (element : Element) : Read (AreaDesc Float32) := do
  let areaId ← number element "id"
  let minX ← number element "MinX"
  let maxX ← number element "MaxX"
  let minY ← number element "MinY"
  let maxY ← number element "MaxY"
  return ⟨.ofInt (atoi areaId),atof minX,atof maxX,atof minY,atof maxY⟩

def readMapDesc (element : Element) : Read (MapDesc Float32) := do
  let mapId ← number element "MapId"
  let mapName ← readName element
  let minX ← number element "MinX"
  let maxX ← number element "MaxX"
  let minY ← number element "MinY"
  let maxY ← number element "MaxY"
  let pointDesc ← readList (readPoint atof) element "PointDescList" "PointDesc"
  let areaDesc ← readList (readArea atof) element "AreaDescList" "AreaDesc"
  return ⟨.ofInt (atoi mapId),mapName,atof minX,atof maxX,atof minY,atof maxY,pointDesc,areaDesc⟩

end Loading

/-- m_vMapDesc with the address of each, and the address that new returns next. -/
structure Center (Float32 : Type) where
  mapDesc : List (Nat × MapDesc Float32)
  next : Nat
  fresh : ∀ entry ∈ mapDesc, entry.1 < next

namespace Center
variable {Float32 : Type}

def pointers (center : Center Float32) : List Nat := center.mapDesc.map Prod.fst

def allocate (center : Center Float32) : Center Float32 where
  mapDesc := center.mapDesc
  next := center.next + 1
  fresh entry listed := Nat.lt_succ_of_lt (center.fresh entry listed)

theorem append_fresh (center : Center Float32) (desc : MapDesc Float32) :
    ∀ entry ∈ center.mapDesc ++ [(center.next,desc)], entry.1 < center.next + 1 := by
  intro entry listed
  rcases List.mem_append.mp listed with old | new
  · exact Nat.lt_succ_of_lt (center.fresh entry old)
  · rw [List.mem_singleton.mp new]
    exact Nat.lt_succ_self _

def append (center : Center Float32) (desc : MapDesc Float32) : Center Float32 where
  mapDesc := center.mapDesc ++ [(center.next,desc)]
  next := center.next + 1
  fresh := append_fresh center desc

end Center

section Loading

variable {Float32 : Type} (atof : Text → Float32)

def loadElements : List Element → Center Float32 → Option Stop × Center Float32
  | [],center => (none,center)
  | element :: elements,center =>
    match readMapDesc atof element with
    | .ok desc => loadElements elements (center.append desc)
    | .error stop => (some stop,center.allocate)

/-- The document is nothing where LoadFile fails; no result where the process ends. -/
def loadMapDesc (document : Option (List Element)) (center : Center Float32) : Option Int × Center Float32 :=
  match document with
  | none => (some false.toInt,center)
  | some children =>
    match firstChildElement children "MapDescList" with
    | none => (some false.toInt,center)
    | some root =>
      match loadElements atof (childElements root.children "MapDesc") center with
      | (some .returned,center) => (some false.toInt,center)
      | (some .null,center) => (none,center)
      | (none,center) => (some 0,center)

def mapDescFile (path : String) : String := path ++ "\\MapDesc.xml"

/-- A path that does not fit into the buffer ends the process. -/
def init (files : String → Option (List Element)) (path : String) (center : Center Float32) :
    Option Int × Center Float32 :=
  if (mapDescFile path).utf8ByteSize ≤ maxPath then
    match loadMapDesc atof (files (mapDescFile path)) center with
    | (some result,center) => (some (if result < 0 then -1 else 0),center)
    | (none,center) => (none,center)
  else (none,center)

end Loading

/-- What is left in the list and what has been deleted, from the iterator on. After erase it points to the next
one, and it is moved on all the same. Beyond the end there is nothing to delete. -/
def destroyFrom (it : Nat) (pointers : List Nat) : Option (List Nat × List Nat) :=
  if it = pointers.length then some (pointers,[])
  else if inside : it < pointers.length then
    (destroyFrom (it + 1) (pointers.eraseIdx it)).map fun result => (result.1,pointers[it] :: result.2)
  else none
termination_by pointers.length - it
decreasing_by
  rw [List.length_eraseIdx_of_lt inside]
  omega

def destroy (pointers : List Nat) : Option (List Nat × List Nat) := destroyFrom 0 pointers

section Documents

/-- What the loader needs of a description, read as the document that it is. -/
def Has (element : Element) (names : List String) : Prop := ∀ name ∈ names, ∃ text, element.attribute name = some text

def HasList (element : Element) (name item : String) (complete : Element → Prop) : Prop :=
  ∃ child, firstChildElement element.children name = some child ∧
    ∀ entry ∈ childElements child.children item, complete entry

def pointNumbers : List String := ["id","PositionX","PositionY","PositionZ"]
def areaNumbers : List String := ["id","MinX","MaxX","MinY","MaxY"]
def mapNumbers : List String := ["MapId","MinX","MaxX","MinY","MaxY"]

structure Complete (element : Element) : Prop where
  numbers : Has element mapNumbers
  name : (char2WChar (element.attribute "Name") (maxPath + 1)).length ≠ 0
  points : HasList element "PointDescList" "PointDesc" fun point => Has point pointNumbers
  areas : HasList element "AreaDescList" "AreaDesc" fun area => Has area areaNumbers

variable (numeric : Text → Prop)

/-- The attributes of a description that are to be numbers are. -/
def Numeric (element : Element) (names : List String) : Prop :=
  ∀ name ∈ names, ∀ text, element.attribute name = some text → numeric text

structure WellFormed (element : Element) : Prop where
  complete : Complete element
  numbers : Numeric numeric element mapNumbers
  points : HasList element "PointDescList" "PointDesc" fun point => Numeric numeric point pointNumbers
  areas : HasList element "AreaDescList" "AreaDesc" fun area => Numeric numeric area areaNumbers

/-- The file is missing, or something in it is. -/
def Malformed (document : Option (List Element)) : Prop :=
  ¬ ∃ children root, document = some children ∧ firstChildElement children "MapDescList" = some root ∧
    ∀ element ∈ childElements root.children "MapDesc", WellFormed numeric element

def Whole (document : Option (List Element)) : Prop :=
  ∀ children, document = some children → ∀ root, firstChildElement children "MapDescList" = some root →
    ∀ element ∈ childElements root.children "MapDesc", Complete element

end Documents

def Defined {α : Type} (read : Read α) : Prop := ∃ result, read = .ok result

section
variable {α β : Type}

theorem defined_ok (result : α) : Defined (.ok result : Read α) ↔ True := iff_true_intro ⟨result,rfl⟩

theorem defined_bind (read : Read α) (next : α → Read β) :
    Defined (read >>= next) ↔ ∃ result, read = .ok result ∧ Defined (next result) := by
  cases read with
  | error stop =>
    constructor
    · rintro ⟨result,same⟩
      cases same
    · rintro ⟨result,same,-⟩
      cases same
  | ok result =>
    constructor
    · intro rest
      exact ⟨result,rfl,rest⟩
    · rintro ⟨other,same,rest⟩
      cases same
      exact rest

theorem number_ok (element : Element) (name : String) (text : Text) :
    number element name = .ok text ↔ element.attribute name = some text := by
  rw [number]
  cases element.attribute name <;> simp

theorem list_ok (element : Element) (name : String) (child : Element) :
    list element name = .ok child ↔ firstChildElement element.children name = some child := by
  rw [list]
  cases firstChildElement element.children name <;> simp

theorem readAll_defined (read : Element → Read α) (elements : List Element) :
    Defined (readAll read elements) ↔ ∀ element ∈ elements, Defined (read element) := by
  induction elements with
  | nil => simp [readAll,defined_ok]
  | cons element elements ih =>
    rw [readAll,defined_bind,List.forall_mem_cons,← ih]
    constructor
    · rintro ⟨first,same,rest⟩
      obtain ⟨others,found,-⟩ := (defined_bind _ _).mp rest
      exact ⟨⟨first,same⟩,others,found⟩
    · rintro ⟨⟨first,same⟩,others,found⟩
      exact ⟨first,same,(defined_bind _ _).mpr ⟨others,found,_,rfl⟩⟩

theorem readList_defined (read : Element → Read α) (complete : Element → Prop)
    (single : ∀ element, Defined (read element) ↔ complete element) (element : Element) (name item : String) :
    Defined (readList read element name item) ↔ HasList element name item complete := by
  simp only [readList,defined_bind,list_ok,readAll_defined,single,HasList]

theorem readName_defined (element : Element) :
    Defined (readName element) ↔ (char2WChar (element.attribute "Name") (maxPath + 1)).length ≠ 0 := by
  rw [readName]
  split
  next empty =>
    refine iff_of_false ?_ (not_not.mpr empty)
    rintro ⟨name,same⟩
    cases same
  next some => exact iff_of_true ⟨_,rfl⟩ some

end

section
variable {Float32 : Type} (atof : Text → Float32)

theorem readPoint_defined (element : Element) : Defined (readPoint atof element) ↔ Has element pointNumbers := by
  simp only [readPoint,defined_bind,number_ok,pure,Except.pure,defined_ok,Has,pointNumbers,List.forall_mem_cons,
    List.not_mem_nil,false_implies,implies_true,and_true,exists_and_right]

theorem readArea_defined (element : Element) : Defined (readArea atof element) ↔ Has element areaNumbers := by
  simp only [readArea,defined_bind,number_ok,pure,Except.pure,defined_ok,Has,areaNumbers,List.forall_mem_cons,
    List.not_mem_nil,false_implies,implies_true,and_true,exists_and_right]

theorem readMapDesc_defined (element : Element) : Defined (readMapDesc atof element) ↔ Complete element := by
  have points := readList_defined (readPoint atof) _ (readPoint_defined atof) element "PointDescList" "PointDesc"
  have areas := readList_defined (readArea atof) _ (readArea_defined atof) element "AreaDescList" "AreaDesc"
  have name := readName_defined element
  rw [Defined] at points areas name
  simp only [readMapDesc,defined_bind,number_ok,pure,Except.pure,defined_ok,and_true,exists_and_right,points,areas,
    name]
  constructor
  · rintro ⟨mapId,name,minX,maxX,minY,maxY,points,areas⟩
    refine ⟨?_,name,points,areas⟩
    simp only [Has,mapNumbers,List.forall_mem_cons,List.not_mem_nil,false_implies,implies_true,and_true]
    exact ⟨mapId,minX,maxX,minY,maxY⟩
  · rintro ⟨numbers,name,points,areas⟩
    simp only [Has,mapNumbers,List.forall_mem_cons,List.not_mem_nil,false_implies,implies_true,and_true] at numbers
    obtain ⟨mapId,minX,maxX,minY,maxY⟩ := numbers
    exact ⟨mapId,name,minX,maxX,minY,maxY,points,areas⟩

theorem loadElements_stop (elements : List Element) (center : Center Float32) :
    (loadElements atof elements center).1 = none ↔ ∀ element ∈ elements, Complete element := by
  induction elements generalizing center with
  | nil => simp [loadElements]
  | cons element elements ih =>
    rw [List.forall_mem_cons,← readMapDesc_defined atof element,loadElements]
    cases read : readMapDesc atof element with
    | ok desc => simp only [ih,defined_ok,true_and]
    | error stop =>
      refine iff_of_false (fun none => by cases none) ?_
      rintro ⟨⟨desc,same⟩,-⟩
      cases same

end

/-- Each description that has been allocated meanwhile is in the list. -/
def Accounted {Float32 : Type} (before after : Center Float32) : Prop :=
  ∀ pointer, before.next ≤ pointer → pointer < after.next → pointer ∈ after.pointers

section
variable {Float32 : Type} (atof : Text → Float32)

theorem accounted_same (center : Center Float32) : Accounted center center := by
  intro pointer least less
  omega

theorem append_accounted (center after : Center Float32) (desc : MapDesc Float32)
    (kept : (center.append desc).pointers ⊆ after.pointers) :
    Accounted center after ↔ Accounted (center.append desc) after := by
  constructor
  · intro accounted pointer least less
    exact accounted pointer (Nat.le_of_succ_le least) less
  · intro accounted pointer least less
    rcases Nat.eq_or_lt_of_le least with first | later
    · apply kept
      rw [← first,Center.pointers,Center.append,List.map_append]
      exact List.mem_append_right _ (List.mem_singleton_self _)
    · exact accounted pointer later less

theorem loadElements_kept (elements : List Element) (center : Center Float32) :
    center.pointers ⊆ (loadElements atof elements center).2.pointers := by
  induction elements generalizing center with
  | nil => exact List.Subset.refl _
  | cons element elements ih =>
    rw [loadElements]
    cases readMapDesc atof element with
    | ok desc =>
      refine List.Subset.trans ?_ (ih _)
      rw [Center.pointers,Center.pointers,Center.append,List.map_append]
      exact List.subset_append_left _ _
    | error stop => exact List.Subset.refl _

/-- The first description in which something is missing stays outside of the list. -/
theorem loadElements_accounted (elements : List Element) (center : Center Float32) :
    Accounted center (loadElements atof elements center).2 ↔ (loadElements atof elements center).1 = none := by
  induction elements generalizing center with
  | nil => exact iff_of_true (accounted_same center) rfl
  | cons element elements ih =>
    have kept := fun desc => loadElements_kept atof elements (center.append desc)
    rw [loadElements]
    cases readMapDesc atof element with
    | ok desc =>
      dsimp only
      rw [append_accounted center _ desc (kept desc),ih]
    | error stop =>
      refine iff_of_false (fun accounted => ?_) (fun none => by cases none)
      have leaked := accounted center.next (Nat.le_refl _) (Nat.lt_succ_self _)
      obtain ⟨entry,listed,same⟩ := List.mem_map.mp leaked
      have old := center.fresh entry listed
      omega

end

theorem accounted_load {Float32 : Type} (atof : Text → Float32) (document : Option (List Element))
    (center : Center Float32) : Accounted center (loadMapDesc atof document center).2 ↔ Whole document := by
  cases document with
  | none => exact iff_of_true (accounted_same center) (by intro children same; cases same)
  | some children =>
    cases found : firstChildElement children "MapDescList" with
    | none =>
      simp only [loadMapDesc,found]
      refine iff_of_true (accounted_same center) ?_
      intro _ same root root'
      cases same
      rw [found] at root'
      cases root'
    | some root =>
      have whole : Whole (some children) ↔ ∀ element ∈ childElements root.children "MapDesc", Complete element := by
        constructor
        · intro whole
          exact whole children rfl root found
        · intro complete _ same other there
          cases same
          obtain rfl := Option.some.inj (found.symm.trans there)
          exact complete
      have loaded : (loadMapDesc atof (some children) center).2 =
          (loadElements atof (childElements root.children "MapDesc") center).2 := by
        simp only [loadMapDesc,found]
        rcases loadElements atof (childElements root.children "MapDesc") center with ⟨_ | _ | _,after⟩ <;> rfl
      rw [loaded,whole,loadElements_accounted,loadElements_stop]

/-- Every exit of the loader is 0. -/
theorem loadMapDesc_zero {Float32 : Type} (atof : Text → Float32) (document : Option (List Element))
    (center : Center Float32) (result : Int) (returned : (loadMapDesc atof document center).1 = some result) :
    result = 0 := by
  have exits : (loadMapDesc atof document center).1 = some 0 ∨ (loadMapDesc atof document center).1 = none := by
    unfold loadMapDesc
    split
    · exact .inl rfl
    · split
      · exact .inl rfl
      · split
        · exact .inl rfl
        · exact .inr rfl
        · exact .inl rfl
  rcases exits with zero | none
  · exact Option.some.inj (returned.symm.trans zero)
  · rw [none] at returned
    cases returned

theorem init_zero {Float32 : Type} (atof : Text → Float32) (files : String → Option (List Element)) (path : String)
    (center : Center Float32) (result : Int) (returned : (init atof files path center).1 = some result) :
    result = 0 := by
  rw [init] at returned
  split at returned
  · have zero := loadMapDesc_zero atof (files (mapDescFile path)) center
    split at returned
    next value after loaded =>
      rw [loaded] at zero
      rw [zero value rfl] at returned
      exact (Option.some.inj returned).symm
    · cases returned
  · cases returned

/-- Every other description is deleted, and an odd number of them is run past. -/
theorem destroyFrom_half (it : Nat) (pointers left deleted : List Nat)
    (done : destroyFrom it pointers = some (left,deleted)) :
    left.length + deleted.length = pointers.length ∧ 2 * deleted.length + it = pointers.length := by
  fun_induction destroyFrom it pointers generalizing left deleted with
  | case1 pointers =>
    cases done
    exact ⟨rfl,Nat.zero_add _⟩
  | case2 it pointers _ inside ih =>
    obtain ⟨⟨rest,others⟩,found,same⟩ := Option.map_eq_some_iff.mp done
    cases same
    obtain ⟨all,half⟩ := ih rest others found
    rw [List.length_eraseIdx_of_lt inside] at all half
    simp only [List.length_cons]
    omega
  | case3 => cases done

def Destroyed (pointers : List Nat) : Prop := ∃ deleted, destroy pointers = some ([],deleted) ∧ deleted.Perm pointers

theorem destroyed_iff (pointers : List Nat) : Destroyed pointers ↔ pointers = [] := by
  constructor
  · rintro ⟨deleted,done,-⟩
    obtain ⟨all,half⟩ := destroyFrom_half 0 pointers [] deleted done
    rw [List.length_nil] at all
    exact List.length_eq_zero_iff.mp (by omega)
  · rintro rfl
    exact ⟨[],by rw [destroy,destroyFrom]; rfl,List.Perm.refl _⟩

/-- Destroy is right for the empty list alone. Init is never negative, so it is right for a file in which
nothing is missing. What it allocates is in the list unless something is missing within a description. -/
theorem dataCenter_settles_iff {Float32 : Type} (atof : Text → Float32) (numeric : Text → Prop)
    (files : String → Option (List Element)) (path : String) (center : Center Float32) (loaded : List Nat) :
    (Destroyed loaded ↔ loaded = []) ∧
    ((Malformed numeric (files (mapDescFile path)) →
        ∃ result, (init atof files path center).1 = some result ∧ result < 0) ↔
      ¬ Malformed numeric (files (mapDescFile path))) ∧
    (Accounted center (init atof files path center).2 ↔
      maxPath < (mapDescFile path).utf8ByteSize ∨ Whole (files (mapDescFile path))) := by
  refine ⟨destroyed_iff loaded,⟨?_,fun whole malformed => absurd malformed whole⟩,?_⟩
  · intro negative malformed
    obtain ⟨result,returned,less⟩ := negative malformed
    rw [init_zero atof files path center result returned] at less
    exact absurd less (Int.lt_irrefl 0)
  · rw [← accounted_load atof _ center,init]
    split
    next fits =>
      rw [or_iff_right (Nat.not_lt_of_le fits)]
      rcases loadMapDesc atof (files (mapDescFile path)) center with ⟨_ | result,after⟩ <;> rfl
    next long => exact iff_of_true (accounted_same center) (.inl (Nat.lt_of_not_le long))

/-- The second of two descriptions is not deleted, a file that is missing is no error, and a description without
points is lost. -/
theorem dataCenter_settles_missing :
    ¬ Destroyed [1,2] ∧
    (let missing := init (fun _ => ()) (fun _ => none) "data" ⟨[],0,by intro entry listed; cases listed⟩
     Malformed (fun _ => True) none ∧ missing.1 = some 0) ∧
    (let desc : Element := ⟨"MapDesc",[("MapId",[49]),("Name",[97]),("MinX",[48]),("MaxX",[49]),("MinY",[48]),
      ("MaxY",[49])],[]⟩
     let found := init (fun _ => ()) (fun _ => some [⟨"MapDescList",[],[desc]⟩]) "data"
       ⟨[],0,by intro entry listed; cases listed⟩
     found.1 = some 0 ∧ ¬ Accounted ⟨[],0,by intro entry listed; cases listed⟩ found.2) := by
  refine ⟨?_,⟨?_,by decide⟩,by decide,?_⟩
  · rw [destroyed_iff]
    decide
  · rintro ⟨children,root,same,-⟩
    cases same
  · intro accounted
    exact absurd (accounted 0 (Nat.le_refl 0) (by decide)) (by decide)

end Fantuan.ServerBase.DataCenter
