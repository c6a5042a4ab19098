import Fantuan.Gen.FtTrees
import Mathlib.Data.List.Range

/-! What is in the tables after a tree within their limits is parsed. Every name of a tree is
short enough for its field; the zero behind the size of the last parameter there is room for
is in the count of the parameters, and an include's closing quote needs a place of its own.
-/
namespace Fantuan.Gen.Rebuilding
open Lexer Lib.Reading FtParser Trees FtTrees

def Node.function (node : Node) : Function :=
  ⟨node.name,(List.range node.paramCount).map node.paramSet⟩

def Filter.declaration (filter : Filter) : Declaration :=
  ⟨filter.filterName,filter.filterId,
    (List.range filter.nodeCount).map fun index => Node.function (filter.node index)⟩

/-- The tree that the generator finds in the tables. -/
structure Tree where
  includes : List (List Char)
  declarations : List Declaration
  deriving DecidableEq

def FtFile.tree (file : FtFile) : Tree where
  includes := (List.range file.includeCount).map file.includeFile
  declarations := (List.range file.filterIndex).map fun index =>
    Filter.declaration (file.filterSet index)

def includesOf (items : List (Item Declaration)) : List (List Char) :=
  items.filterMap fun item =>
    match item with
    | .includeFile name => some name
    | .declaration _ => none

def declarationsOf (items : List (Item Declaration)) : List Declaration :=
  items.filterMap fun item =>
    match item with
    | .includeFile _ => none
    | .declaration declaration => some declaration

def treeOf (items : List (Item Declaration)) : Tree := ⟨includesOf items,declarationsOf items⟩

structure ParamFits (param : Param) : Prop where
  paramType : param.paramType.length < nameSize
  paramName : param.paramName.length < nameSize
  paramSize : param.paramSize.length < nameSize

structure FunctionFits (function : Function) : Prop where
  funcName : function.funcName.length < nameSize
  paramCount : function.paramSet.length ≤ tableSize
  params : ∀ param ∈ function.paramSet, ParamFits param

structure DeclarationFits (declaration : Declaration) : Prop where
  filterName : declaration.filterName.length < strSize
  filterId : declaration.filterId.length < strSize
  nodeCount : declaration.functions.length ≤ tableSize
  functions : ∀ function ∈ declaration.functions, FunctionFits function

structure Fits (items : List (Item Declaration)) : Prop where
  includeCount : (includesOf items).length ≤ tableSize
  includeFile : ∀ name ∈ includesOf items, name.length < strSize
  filterIndex : (declarationsOf items).length ≤ tableSize
  declarations : ∀ declaration ∈ declarationsOf items, DeclarationFits declaration

/-- All the parameters there is room for, and the longest name there is room for as the size of
the last. -/
def Spoilt (function : Function) : Prop :=
  function.paramSet.length = tableSize ∧
    ∃ last, function.paramSet.getLast? = some last ∧ last.paramSize.length + 1 = nameSize

instance (function : Function) : Decidable (Spoilt function) :=
  inferInstanceAs (Decidable (_ ∧ ∃ last, function.paramSet.getLast? = some last ∧ _))

def Faithful (items : List (Item Declaration)) : Prop :=
  (∀ name ∈ includesOf items, name.length + 2 ≤ strSize) ∧
    ∀ declaration ∈ declarationsOf items, ∀ function ∈ declaration.functions, ¬ Spoilt function

/-- The parameter in the next place, before it is counted. -/
def Node.placing (param : Param) (node : Node) : Node :=
  {node with paramSet := Function.update node.paramSet node.paramCount param}

theorem updateParam_placing (node : Node) (room : node.paramCount < tableSize) (param : Param)
    (update : Param → Param) :
    (Node.placing param node).updateParam update = some (Node.placing (update param) node) := by
  rw [Node.updateParam,if_pos (by exact room)]
  simp [Node.placing]

theorem placing_self (node : Node) : Node.placing (node.paramSet node.paramCount) node = node := by
  simp [Node.placing]

theorem readable_short (name : List Char) (short : name.length < nameSize) :
    readable name = some () := by
  have size : nameSize < strSize := by decide
  exact if_neg (by omega)

theorem copied_short (size : Nat) (name : List Char) (short : name.length < size) :
    copied size name = some name := if_pos short

theorem storeParamSize_run (param : Param) (fits : ParamFits param) (node : Node)
    (room : node.paramCount < tableSize) (size : List Char) :
    (storeParamSize param.paramSize).run (Node.placing {param with paramSize := size} node) =
      if param.paramSize.length + 1 = nameSize then
        if node.paramCount + 1 < tableSize then
          .value () {Node.placing param node with
            paramSet := Function.update (Node.placing param node).paramSet (node.paramCount + 1)
              {node.paramSet (node.paramCount + 1) with paramType := []}}
        else .value () {Node.placing param node with
          paramCount := node.paramCount - node.paramCount % 256}
      else .value () (Node.placing param node) := by
  rw [storeParamSize]
  by_cases none : param.paramSize = []
  · rw [if_pos none,run_write,clearParamSize,updateParam_placing node room,none,
      if_neg (by decide)]
    obtain ⟨_,_,_⟩ := param
    subst none
    rfl
  · rw [if_neg none,readable_short _ fits.paramSize,pure_orNull,pure_bind,run_bind,run_write,
      strcpyParamSize,copied_short _ _ fits.paramSize,Option.bind_some,
      updateParam_placing node room,Option.elim_some,value_andThen,run_write,zeroParamSize]
    have here : (Node.placing param node).paramSet node.paramCount = param :=
      Function.update_self ..
    have count : (Node.placing param node).paramCount = node.paramCount := rfl
    have beyond : (Node.placing param node).paramSet (node.paramCount + 1) =
        node.paramSet (node.paramCount + 1) :=
      Function.update_of_ne (Nat.succ_ne_self _) ..
    simp only [count,here,beyond,if_pos room]
    split
    · split
      · rfl
      · rfl
    · rfl

/-- A stored parameter is the one that was read; the count is off by the zero behind it. -/
theorem storeParam_run (param : Param) (fits : ParamFits param) (node : Node)
    (room : node.paramCount < tableSize) :
    ∃ next, (storeParam param).run node = .value () next ∧ next.name = node.name ∧
      next.paramSet node.paramCount = param ∧
      (∀ index, index < node.paramCount → next.paramSet index = node.paramSet index) ∧
      next.paramCount = if param.paramSize.length + 1 = nameSize ∧
          node.paramCount + 1 = tableSize then 1 else node.paramCount + 1 := by
  have sized := storeParamSize_run param fits node room
  have fields : ∀ before : Param, ∃ size,
      (storeParam param).run (Node.placing before node) =
        (storeParamSize param.paramSize >>= fun _ => alter countParam).run
          (Node.placing {param with paramSize := size} node) := by
    intro before
    rw [storeParam]
    simp only [readable_short _ fits.paramType,readable_short _ fits.paramName,pure_orNull,
      pure_bind,run_bind,run_write,strcpyParamType,strcpyParamName,zeroParamType,zeroParamName,
      copied_short _ _ fits.paramType,copied_short _ _ fits.paramName,Option.bind_some,
      updateParam_placing node room,Option.elim_some,value_andThen]
    by_cases nameLong : param.paramName.length + 1 = nameSize
    · refine ⟨[],?_⟩
      rw [if_pos nameLong]
      split <;> rfl
    · refine ⟨before.paramSize,?_⟩
      rw [if_neg nameLong]
      split <;> rfl
  obtain ⟨size,ran⟩ := fields (node.paramSet node.paramCount)
  rw [placing_self,run_bind,sized size] at ran
  have placed : (Node.placing param node).paramSet node.paramCount = param :=
    Function.update_self ..
  have others : ∀ index, index < node.paramCount →
      (Node.placing param node).paramSet index = node.paramSet index :=
    fun index below => Function.update_of_ne (Nat.ne_of_lt below) ..
  have limit : tableSize = 32 := rfl
  split at ran
  next long =>
    split at ran
    next more =>
      refine ⟨_,ran,rfl,?_,?_,?_⟩
      · exact (Function.update_of_ne (Nat.succ_ne_self _).symm ..).trans placed
      · intro index below
        exact (Function.update_of_ne (by omega) ..).trans (others index below)
      · rw [if_neg (by omega)]
        rfl
    next full =>
      refine ⟨_,ran,rfl,placed,others,?_⟩
      have last : node.paramCount + 1 = tableSize := by omega
      rw [if_pos ⟨long,last⟩]
      change node.paramCount - node.paramCount % 256 + 1 = 1
      omega
  next short =>
    refine ⟨_,ran,rfl,placed,others,?_⟩
    rw [if_neg fun both => short both.1]
    rfl

theorem storeParams_run (params : List Param) (fits : ∀ param ∈ params, ParamFits param)
    (node : Node) (room : node.paramCount + params.length ≤ tableSize) :
    ∃ next, (storeAll storeParam params).run node = .value () next ∧ next.name = node.name ∧
      (∀ index, index < node.paramCount → next.paramSet index = node.paramSet index) ∧
      ((List.range params.length).map fun index => next.paramSet (node.paramCount + index)) =
        params ∧
      next.paramCount = if node.paramCount + params.length = tableSize ∧
          ∃ last, params.getLast? = some last ∧ last.paramSize.length + 1 = nameSize then 1
        else node.paramCount + params.length := by
  induction params generalizing node with
  | nil =>
    refine ⟨node,rfl,rfl,fun _ _ => rfl,rfl,?_⟩
    rw [if_neg (by simp)]
    rfl
  | cons param params ih =>
    rw [List.length_cons] at room
    obtain ⟨middle,ran,name,placed,others,count⟩ :=
      storeParam_run param (fits param List.mem_cons_self) node (by omega)
    cases params with
    | nil =>
      refine ⟨middle,?_,name,others,?_,?_⟩
      · rw [storeAll,run_bind,ran]
        rfl
      · simpa using placed
      · rw [count]
        simp [and_comm]
    | cons second params =>
      rw [List.length_cons] at room
      rw [if_neg (by omega)] at count
      obtain ⟨next,later,nextName,kept,slots,nextCount⟩ :=
        ih (fun other member => fits other (List.mem_cons_of_mem _ member)) middle
          (by rw [count,List.length_cons]; omega)
      refine ⟨next,?_,nextName.trans name,?_,?_,?_⟩
      · rw [storeAll,run_bind,ran,value_andThen]
        exact later
      · intro index below
        exact (kept index (by omega)).trans (others index below)
      · rw [List.length_cons,List.range_succ_eq_map,List.map_cons,List.map_map]
        have first : next.paramSet (node.paramCount + 0) = param :=
          (kept _ (by omega)).trans placed
        have shifted : (fun index => next.paramSet (node.paramCount + index)) ∘ Nat.succ =
            fun index => next.paramSet (middle.paramCount + index) := by
          funext index
          rw [count]
          exact congrArg next.paramSet (by omega)
        rw [first,shifted,slots]
      · rw [nextCount,count,List.getLast?_cons_cons]
        have same : node.paramCount + 1 + (second :: params).length =
            node.paramCount + (param :: second :: params).length := by
          simp only [List.length_cons]
          omega
        rw [same]

/-- What is left in the tables of a function that is parsed. -/
def spoil (function : Function) : Function :=
  if Spoilt function then {function with paramSet := function.paramSet.take 1} else function

theorem node_function (function : Function) (fits : FunctionFits function) (node : Node)
    (fresh : node.paramCount = 0) :
    ∃ next, (do
        write (strcpyName function.funcName)
        storeAll storeParam function.paramSet).run node = .value () next ∧
      Node.function next = spoil function := by
  have limit : tableSize = 32 := rfl
  obtain ⟨next,ran,name,_,slots,count⟩ := storeParams_run function.paramSet fits.params
    {node with name := function.funcName} (by
      change node.paramCount + _ ≤ _
      rw [fresh,Nat.zero_add]
      exact fits.paramCount)
  refine ⟨next,?_,?_⟩
  · rw [run_bind,run_write,strcpyName,copied_short _ _ fits.funcName]
    exact ran
  · change next.name = function.funcName at name
    change ((List.range _).map fun index => next.paramSet (node.paramCount + index)) = _ at slots
    change next.paramCount = if node.paramCount + _ = _ ∧ _ then 1 else node.paramCount + _ at count
    simp only [fresh,Nat.zero_add] at slots count
    rw [Node.function,name,spoil]
    by_cases spoilt : Spoilt function
    · replace count := count.trans (if_pos spoilt)
      rw [if_pos spoilt,count,← slots,← List.map_take,List.take_range,spoilt.1,limit]
      rfl
    · replace count := count.trans (if_neg spoilt)
      rw [if_neg spoilt,count,slots]

theorem range_update {α β : Type} (table : Nat → α) (count : Nat) (part : α) (view : α → β) :
    ((List.range (count + 1)).map fun index => view (Function.update table count part index)) =
      ((List.range count).map fun index => view (table index)) ++ [view part] := by
  rw [List.range_succ,List.map_append,List.map_singleton,Function.update_self]
  congr 1
  apply List.map_congr_left
  intro index member
  rw [Function.update_of_ne (Nat.ne_of_lt (List.mem_range.mp member))]

theorem storeFunction_run (function : Function) (fits : FunctionFits function) (filter : Filter)
    (fresh : Fresh filter) (room : filter.nodeCount < tableSize) :
    ∃ node, (storeFunction function).run filter = .value () (countNode (filter.set node)) ∧
      Node.function node = spoil function := by
  obtain ⟨node,ran,same⟩ := node_function function fits (filter.node filter.nodeCount)
    (fresh _ (Nat.le_refl _))
  refine ⟨node,?_,same⟩
  have current : filter.current = some (filter.node filter.nodeCount) := if_pos room
  rw [storeFunction,readable_short _ fits.funcName,pure_orNull,pure_bind,run_bind,run_within,
    current,Option.elim_some,ran]
  rfl

theorem storeFunctions_run (functions : List Function)
    (fits : ∀ function ∈ functions, FunctionFits function) (filter : Filter)
    (fresh : Fresh filter) (room : filter.nodeCount + functions.length ≤ tableSize) :
    ∃ next, (storeAll storeFunction functions).run filter = .value () next ∧
      next.filterName = filter.filterName ∧ next.filterId = filter.filterId ∧
      (Filter.declaration next).functions =
        (Filter.declaration filter).functions ++ functions.map spoil := by
  induction functions generalizing filter with
  | nil => exact ⟨filter,rfl,rfl,rfl,(List.append_nil _).symm⟩
  | cons function functions ih =>
    rw [List.length_cons] at room
    obtain ⟨node,ran,same⟩ := storeFunction_run function (fits function List.mem_cons_self) filter
      fresh (by omega)
    have next_fresh := storeFunction_fresh function filter _ fresh ran
    obtain ⟨next,later,name,id,slots⟩ := ih
      (fun other member => fits other (List.mem_cons_of_mem _ member)) _ next_fresh (by
        change filter.nodeCount + 1 + functions.length ≤ tableSize
        omega)
    refine ⟨next,?_,name,id,?_⟩
    · rw [storeAll,run_bind,ran,value_andThen]
      exact later
    · have stored : (Filter.declaration (countNode (filter.set node))).functions =
          (Filter.declaration filter).functions ++ [Node.function node] :=
        range_update filter.node filter.nodeCount node Node.function
      rw [slots,stored,same,List.append_assoc,List.map_cons,List.singleton_append]

def spoilDeclaration (declaration : Declaration) : Declaration :=
  {declaration with functions := declaration.functions.map spoil}

/-- The filters that are still to come are as they were at the start. -/
def ZeroFile (file : FtFile) : Prop :=
  ∀ index, file.filterIndex ≤ index → file.filterSet index = .zero

theorem readable_strSize (name : List Char) (short : name.length < strSize) :
    readable name = some () := if_neg (by omega)

theorem storeDeclaration_run (declaration : Declaration) (fits : DeclarationFits declaration)
    (file : FtFile) (zero : ZeroFile file) (room : file.filterIndex < tableSize) :
    ∃ filter, (storeDeclaration declaration).run file =
        .value () (countFilter (file.set filter)) ∧
      Filter.declaration filter = spoilDeclaration declaration := by
  have start : file.filterSet file.filterIndex = .zero := zero _ (Nat.le_refl _)
  obtain ⟨filter,ran,name,id,slots⟩ := storeFunctions_run declaration.functions fits.functions
    ⟨Filter.zero.node,0,declaration.filterName,declaration.filterId⟩
    (fun _ _ => rfl) (by
      change 0 + declaration.functions.length ≤ tableSize
      rw [Nat.zero_add]
      exact fits.nodeCount)
  refine ⟨filter,?_,?_⟩
  · have current : file.current = some .zero := by
      rw [FtFile.current,if_pos room,start]
    rw [storeDeclaration,readable_strSize _ fits.filterName,readable_strSize _ fits.filterId,
      pure_orNull,pure_bind,run_bind,run_within,current,Option.elim_some,run_bind,run_write,
      strcpyFilterName,copied_short _ _ fits.filterName,Option.map_some,Option.elim_some,
      value_andThen,pure_orNull,pure_bind,run_bind,run_write,strcpyFilterId,
      copied_short _ _ fits.filterId,Option.map_some,Option.elim_some,value_andThen]
    exact congrArg (fun result => (result.within fun part => file.set part).andThen
      fun _ => alter countFilter) ran
  · change filter.filterName = declaration.filterName at name
    change filter.filterId = declaration.filterId at id
    change _ = [] ++ _ at slots
    rw [List.nil_append] at slots
    rw [spoilDeclaration,← slots,← name,← id]
    rfl

theorem storeInclude_run (name : List Char) (file : FtFile)
    (room : file.includeCount < tableSize) :
    (storeInclude FtFile.toIncludes FtFile.setIncludes name).run file =
      if name.length + 2 ≤ strSize then
        .value () (file.setIncludes
          ⟨Function.update file.includeFile file.includeCount name,file.includeCount + 1⟩)
      else .null file := by
  rw [storeInclude]
  by_cases short : name.length + 2 ≤ strSize
  · rw [if_neg (Nat.not_lt.mpr short),if_pos short,pure_orNull,pure_bind,run_within,
      Option.elim_some,run_write,strcpyInclude,if_pos room,copied_short strSize name (by omega)]
    rfl
  · rw [if_pos (Nat.not_le.mp short),if_neg short]
    rfl

/-- An include whose name CheckString takes, or a declaration. -/
def isRead : Item Declaration → Bool
  | .includeFile name => name.length + 2 ≤ strSize
  | .declaration _ => true

theorem storeItems_run (items : List (Item Declaration)) (file : FtFile) (zero : ZeroFile file)
    (includeRoom : file.includeCount + (includesOf items).length ≤ tableSize)
    (filterRoom : file.filterIndex + (declarationsOf items).length ≤ tableSize)
    (fits : ∀ declaration ∈ declarationsOf items, DeclarationFits declaration) :
    ∃ next, stored ((storeItems items).run file) = .returned true next ∧
      (FtFile.tree next).includes =
        (FtFile.tree file).includes ++ includesOf (items.takeWhile isRead) ∧
      (FtFile.tree next).declarations = (FtFile.tree file).declarations ++
        (declarationsOf (items.takeWhile isRead)).map spoilDeclaration := by
  induction items generalizing file with
  | nil => exact ⟨file,rfl,(List.append_nil _).symm,(List.append_nil _).symm⟩
  | cons item items ih =>
    cases item with
    | includeFile name =>
      have room : file.includeCount < tableSize := by
        change file.includeCount + ((includesOf items).length + 1) ≤ tableSize at includeRoom
        omega
      have ran := storeInclude_run name file room
      by_cases short : name.length + 2 ≤ strSize
      · rw [if_pos short] at ran
        obtain ⟨next,later,includes,declarations⟩ := ih (file.setIncludes
            ⟨Function.update file.includeFile file.includeCount name,file.includeCount + 1⟩) zero
          (by
            change file.includeCount + ((includesOf items).length + 1) ≤ tableSize at includeRoom
            change file.includeCount + 1 + (includesOf items).length ≤ tableSize
            omega)
          filterRoom fits
        refine ⟨next,?_,?_,?_⟩
        · rw [← later,storeItems,storeAll,run_bind]
          change stored (((storeInclude _ _ name).run file).andThen _) = _
          rw [ran]
          rfl
        · have slots := range_update file.includeFile file.includeCount name id
          change (List.range _).map _ = (List.range _).map _ ++ _ at slots
          have stored : (FtFile.tree (file.setIncludes
              ⟨Function.update file.includeFile file.includeCount name,
                file.includeCount + 1⟩)).includes = (FtFile.tree file).includes ++ [name] := slots
          rw [includes,stored,List.takeWhile_cons_of_pos (by simpa [isRead] using short),
            List.append_assoc]
          rfl
        · rw [declarations,List.takeWhile_cons_of_pos (by simpa [isRead] using short)]
          rfl
      · rw [if_neg short] at ran
        have stops : (Item.includeFile name :: items).takeWhile isRead = [] :=
          List.takeWhile_cons_of_neg (by simpa [isRead] using short)
        refine ⟨file,?_,?_,?_⟩
        · rw [storeItems,storeAll,run_bind]
          change stored (((storeInclude _ _ name).run file).andThen _) = _
          rw [ran]
          rfl
        · rw [stops]
          exact (List.append_nil _).symm
        · rw [stops]
          exact (List.append_nil _).symm
    | declaration declaration =>
      have room : file.filterIndex < tableSize := by
        change file.filterIndex + ((declarationsOf items).length + 1) ≤ tableSize at filterRoom
        omega
      obtain ⟨filter,ran,same⟩ := storeDeclaration_run declaration
        (fits declaration List.mem_cons_self) file zero room
      have zeroNext : ZeroFile (countFilter (file.set filter)) := by
        intro index later
        change file.filterIndex + 1 ≤ index at later
        change Function.update file.filterSet file.filterIndex filter index = .zero
        rw [Function.update_of_ne (by omega)]
        exact zero index (by omega)
      obtain ⟨next,later,includes,declarations⟩ := ih _ zeroNext includeRoom
        (by
          change file.filterIndex + ((declarationsOf items).length + 1) ≤ tableSize at filterRoom
          change file.filterIndex + 1 + (declarationsOf items).length ≤ tableSize
          omega)
        fun other member => fits other (List.mem_cons_of_mem _ member)
      refine ⟨next,?_,?_,?_⟩
      · rw [← later,storeItems,storeAll,run_bind]
        change stored (((storeDeclaration declaration).run file).andThen _) = _
        rw [ran]
        rfl
      · rw [includes,List.takeWhile_cons_of_pos rfl]
        rfl
      · have stored : (FtFile.tree (countFilter (file.set filter))).declarations =
            (FtFile.tree file).declarations ++ [Filter.declaration filter] :=
          range_update file.filterSet file.filterIndex filter Filter.declaration
        rw [declarations,stored,same,List.takeWhile_cons_of_pos rfl,List.append_assoc]
        rfl

/-- Items that are not all read leave out an include. -/
theorem includes_read (items : List (Item Declaration)) :
    includesOf (items.takeWhile isRead) = includesOf items ↔
      ∀ name ∈ includesOf items, name.length + 2 ≤ strSize := by
  induction items with
  | nil => exact ⟨fun _ name none => absurd none List.not_mem_nil,fun _ => rfl⟩
  | cons item items ih =>
    cases item with
    | declaration declaration =>
      rw [List.takeWhile_cons_of_pos rfl]
      exact ih
    | includeFile name =>
      by_cases short : name.length + 2 ≤ strSize
      · rw [List.takeWhile_cons_of_pos (by simpa [isRead] using short)]
        change name :: includesOf (items.takeWhile isRead) = name :: includesOf items ↔
          ∀ other ∈ name :: includesOf items, _
        rw [List.cons_inj_right,ih,List.forall_mem_cons]
        exact ⟨fun rest => ⟨short,rest⟩,fun all => all.2⟩
      · rw [List.takeWhile_cons_of_neg (by simpa [isRead] using short)]
        constructor
        · intro none
          cases none
        · intro all
          exact absurd (all name List.mem_cons_self) short

theorem takeWhile_read (items : List (Item Declaration))
    (read : ∀ name ∈ includesOf items, name.length + 2 ≤ strSize) :
    items.takeWhile isRead = items := by
  rw [List.takeWhile_eq_self_iff]
  intro item member
  cases item with
  | declaration declaration => rfl
  | includeFile name =>
    have listed : name ∈ includesOf items :=
      List.mem_filterMap.mpr ⟨_,member,rfl⟩
    simpa [isRead] using read name listed

theorem spoil_same (function : Function) : spoil function = function ↔ ¬ Spoilt function := by
  rw [spoil]
  by_cases spoilt : Spoilt function
  · rw [if_pos spoilt]
    refine ⟨fun same => ?_,fun sound => absurd spoilt sound⟩
    have length := congrArg (fun function => function.paramSet.length) same
    simp only [List.length_take,spoilt.1] at length
    exact absurd length (by decide)
  · rw [if_neg spoilt]
    exact ⟨fun _ => spoilt,fun _ => rfl⟩

theorem map_same {α : Type} (change : α → α) (items : List α) :
    items.map change = items ↔ ∀ item ∈ items, change item = item := by
  induction items with
  | nil => simp
  | cons item items ih => simp [ih]

/-- A tree within the limits is rebuilt from its spellings exactly if it is faithful. -/
theorem parserFt_rebuilds (items : List (Item Declaration)) (fits : Fits items) (buf : List Char)
    (spells : Spells (items.flatMap (itemTokens declarationTokens)) (terminated buf)) :
    (∃ file, parserFt buf = .returned true file ∧ FtFile.tree file = treeOf items) ↔
      Faithful items := by
  obtain ⟨next,ran,includes,declarations⟩ := storeItems_run items .zero (fun _ _ => rfl)
    (by rw [show FtFile.zero.includeCount = 0 from rfl,Nat.zero_add]; exact fits.includeCount)
    (by rw [show FtFile.zero.filterIndex = 0 from rfl,Nat.zero_add]; exact fits.filterIndex)
    fits.declarations
  change _ = [] ++ _ at includes declarations
  rw [List.nil_append] at includes declarations
  rw [parserFt_stored items buf spells,ran]
  have tree : (∃ file, Returned.returned true next = .returned true file ∧
      FtFile.tree file = treeOf items) ↔ FtFile.tree next = treeOf items := by
    constructor
    · rintro ⟨file,same,built⟩
      cases same
      exact built
    · intro built
      exact ⟨next,rfl,built⟩
  rw [tree,Faithful,← includes_read,← includes]
  constructor
  · intro built
    have read : (FtFile.tree next).includes = includesOf items := congrArg Tree.includes built
    have whole := takeWhile_read items ((includes_read items).mp (includes.symm.trans read))
    have kept : (declarationsOf items).map spoilDeclaration = declarationsOf items := by
      rw [whole] at declarations
      exact declarations.symm.trans (congrArg Tree.declarations built)
    refine ⟨read,fun declaration member function listed => ?_⟩
    have same := congrArg Declaration.functions ((map_same _ _).mp kept declaration member)
    exact (spoil_same function).mp ((map_same _ _).mp same function listed)
  · rintro ⟨read,sound⟩
    have whole := takeWhile_read items ((includes_read items).mp (includes.symm.trans read))
    have kept : (declarationsOf items).map spoilDeclaration = declarationsOf items := by
      rw [map_same]
      intro declaration member
      have same : declaration.functions.map spoil = declaration.functions := by
        rw [map_same]
        intro function listed
        exact (spoil_same function).mpr (sound declaration member function listed)
      rw [spoilDeclaration,same]
    rw [whole,kept] at declarations
    have built : FtFile.tree next =
        ⟨(FtFile.tree next).includes,(FtFile.tree next).declarations⟩ := rfl
    rw [built,read,declarations]
    rfl

/-- The tokens, each behind the same blanks and comments. -/
def spelled (trivia : List Char) (tokens : List Token) : List Char :=
  tokens.flatMap fun token => trivia ++ token.chars

theorem trivia_head (char : Char) (rest : List Char) (skipped : Trivia (char :: rest)) : isNameChar char = false := by
  cases skipped with
  | blank _ _ blank =>
    simp only [isBlank,Bool.or_eq_true,beq_iff_eq] at blank
    rcases blank with (rfl | rfl) | rfl <;> rfl
  | comment => rfl

theorem spelled_spells (char : Char) (rest : List Char) (skipped : Trivia (char :: rest)) (tokens : List Token)
    (valid : ∀ token ∈ tokens, token.Valid) : Spells tokens (spelled (char :: rest) tokens) := by
  induction tokens with
  | nil => exact .done [] .none
  | cons token tokens ih =>
    have ends : token.Ends (spelled (char :: rest) tokens) := by
      cases token with
      | name =>
        intro next first
        cases tokens with
        | nil => cases first
        | cons => cases first; exact trivia_head char rest skipped
      | sign => trivial
      | text => trivial
    rw [spelled,List.flatMap_cons,List.append_assoc]
    exact .token _ _ token tokens skipped (valid token List.mem_cons_self) ends
      (ih fun other member => valid other (List.mem_cons_of_mem _ member))

def pingFunctions : List Function :=
  [⟨"Say".toList,[⟨"uint64".toList,"to".toList,[]⟩,⟨"char".toList,"text".toList,"TEXT_MAX".toList⟩]⟩,
    ⟨"Leave".toList,[]⟩]

def pingItems : List (Item Declaration) :=
  [.includeFile "common.ft".toList,.declaration ⟨"Chat".toList,"CHAT".toList,pingFunctions⟩]

def pingText : List Char := spelled "// c\n\t".toList (pingItems.flatMap (itemTokens declarationTokens))

/-- An include, and a filter of two functions of which one has an array; a comment is in front of every token. -/
theorem parserFt_rebuilds_ping :
    ∃ file, parserFt pingText = .returned true file ∧ FtFile.tree file = treeOf pingItems := by
  have named : ∀ function ∈ pingFunctions, function.funcName.length < nameSize ∧
      function.paramSet.length ≤ tableSize := by decide
  have params : ∀ function ∈ pingFunctions, ∀ param ∈ function.paramSet, param.paramType.length < nameSize ∧
      param.paramName.length < nameSize ∧ param.paramSize.length < nameSize := by decide
  have fits : Fits pingItems := by
    refine ⟨by decide,by decide,by decide,?_⟩
    intro declaration member
    obtain rfl := List.mem_singleton.mp member
    refine ⟨by decide,by decide,by decide,?_⟩
    intro function listed
    obtain ⟨funcName,paramCount⟩ := named function listed
    refine ⟨funcName,paramCount,?_⟩
    intro param here
    obtain ⟨paramType,paramName,paramSize⟩ := params function listed param here
    exact ⟨paramType,paramName,paramSize⟩
  have spells : Spells (pingItems.flatMap (itemTokens declarationTokens)) (terminated pingText) := by
    rw [show terminated pingText = pingText by decide +kernel]
    exact spelled_spells '/' _ (.comment " c".toList _ (by decide) (.blank '\t' [] rfl .none)) _ (by decide +kernel)
  exact (parserFt_rebuilds pingItems fits pingText spells).mpr ⟨by decide,by decide⟩

theorem longInclude_stored (name : List Char) (long : ¬ name.length + 2 ≤ strSize) :
    stored ((storeItems [.includeFile name]).run .zero) = .returned true .zero := by
  change stored (((storeInclude FtFile.toIncludes FtFile.setIncludes name).run .zero).andThen
    _) = _
  rw [storeInclude_run name .zero (by decide),if_neg long]
  rfl

def longName : List Char := List.replicate 127 'a'

theorem longName_length : longName.length = 127 := List.length_replicate

/-- An include whose name has all the characters that its field has room for. -/
theorem longInclude_lost :
    ¬ ∀ (items : List (Item Declaration)), Fits items → ∀ buf : List Char,
      Spells (items.flatMap (itemTokens declarationTokens)) (terminated buf) →
        ∃ file, parserFt buf = .returned true file ∧ FtFile.tree file = treeOf items := by
  intro claim
  have includes : includesOf [.includeFile longName] = [longName] := rfl
  have fits : Fits [.includeFile longName] := by
    refine ⟨by rw [includes]; decide,?_,Nat.zero_le _,fun _ none => absurd none List.not_mem_nil⟩
    intro name member
    rw [includes] at member
    rw [List.mem_singleton.mp member,longName_length]
    decide
  have spells : Spells ([Item.includeFile longName].flatMap (itemTokens declarationTokens))
      (terminated (spelled [' '] (includeTokens longName))) := by
    rw [show terminated (spelled [' '] (includeTokens longName)) = spelled [' '] (includeTokens longName) by
      decide +kernel]
    exact spelled_spells ' ' [] (.blank ' ' [] rfl .none) _ (by decide +kernel)
  obtain ⟨file,returned,built⟩ := claim _ fits _ spells
  have lost := longInclude_stored longName (by rw [longName_length]; decide)
  rw [parserFt_stored _ _ spells,lost] at returned
  cases returned
  have none := congrArg (fun tree => tree.includes.length) built
  exact absurd none (by decide)

end Fantuan.Gen.Rebuilding
