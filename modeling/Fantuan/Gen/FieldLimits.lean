import Fantuan.Gen.FieldWrites
import Fantuan.Gen.FtTrees

/-! What FTGen's parser reads of an input before it stops, without any tables: the names that it will copy,
as far as it gets. Whether it writes outside of a field depends on their lengths and numbers only.
-/
namespace Fantuan.Gen.FieldLimits
open Lexer Lib.Reading FtParser FieldWrites FtTrees
open Trees (pure_orNull repeatCheck_next)

/-- What has been read, and the rest of the input where nothing is missing. -/
abbrev Scan (α : Type) := α × Option (List Char)

def scanSize (buffer : List Char) : Scan (List (List Char)) :=
  match checkChar '[' buffer with
  | none => ([],some buffer)
  | some temp =>
    match checkIdentifier strSize temp with
    | none => ([],none)
    | some (size,temp) =>
      match checkChar ']' temp with
      | none => ([],none)
      | some temp => ([size],some temp)

def scanName (buffer : List Char) : Scan (List (List Char)) :=
  match checkIdentifier strSize buffer with
  | none => ([],none)
  | some (name,buffer) => (name :: (scanSize buffer).1,(scanSize buffer).2)

/-- The type, the name and the size of a parameter. -/
def scanParam (buffer : List Char) : Scan (List (List Char)) :=
  match checkIdentifier strSize buffer with
  | none => ([],none)
  | some (type,buffer) => (type :: (scanName buffer).1,(scanName buffer).2)

/-- One that does not begin is no parameter. -/
def begun (names : List (List Char)) : List (List (List Char)) := if names = [] then [] else [names]

def scanParams : Nat → Bool → List Char → Scan (List (List (List Char)))
  | 0,_,_ => ([],none)
  | fuel + 1,started,buffer =>
    match checkChar ')' buffer with
    | some _ => ([],some buffer)
    | none =>
      match if started then checkChar ',' buffer else some buffer with
      | none => ([],none)
      | some buffer =>
        match scanParam buffer with
        | (names,none) => (begun names,none)
        | (names,some rest) => (names :: (scanParams fuel true rest).1,(scanParams fuel true rest).2)

structure FunctionScan where
  funcName : List Char
  params : List (List (List Char))
  deriving DecidableEq

/-- What is behind the name of a function. -/
def scanCall (buffer : List Char) : Scan (List (List (List Char))) :=
  match checkChar '(' buffer with
  | none => ([],none)
  | some buffer =>
    let params := scanParams (buffer.length + 1) false buffer
    (params.1,(params.2.bind (checkChar ')')).bind (checkChar ';'))

def scanFunction (buffer : List Char) : Scan (List FunctionScan) :=
  match checkIdentifier strSize buffer with
  | none => ([],none)
  | some (name,buffer) => ([⟨name,(scanCall buffer).1⟩],(scanCall buffer).2)

/-- The loop ends where a function does. -/
def scanFunctions : Nat → List Char → List FunctionScan × List Char
  | 0,buffer => ([],buffer)
  | fuel + 1,buffer =>
    match scanFunction buffer with
    | (function,none) => (function,buffer)
    | (function,some rest) => (function ++ (scanFunctions fuel rest).1,(scanFunctions fuel rest).2)

/-- What is behind the name of a filter. -/
def scanBody (buffer : List Char) : Scan (List FunctionScan) :=
  match (checkChar ',' buffer).bind (checkIdentifier strSize) with
  | none => ([],none)
  | some (_,buffer) =>
    match (checkChar ')' buffer).bind (checkChar '{') with
    | none => ([],none)
    | some buffer =>
      let functions := scanFunctions (buffer.length + 1) buffer
      (functions.1,checkChar '}' functions.2)

/-- Each filter is the list of its functions. -/
def scanFilter (buffer : List Char) : Scan (List (List FunctionScan)) :=
  match ((checkKeyword "filter".toList buffer).bind (checkChar '(')).bind (checkIdentifier strSize) with
  | none => ([],none)
  | some (_,buffer) => ([(scanBody buffer).1],(scanBody buffer).2)

structure FileScan where
  includes : Nat
  filters : List (List FunctionScan)
  deriving DecidableEq

def scanLoop : Nat → List Char → FileScan
  | 0,_ => ⟨0,[]⟩
  | fuel + 1,buffer =>
    match readInclude buffer with
    | some (_,rest) => ⟨(scanLoop fuel rest).includes + 1,(scanLoop fuel rest).filters⟩
    | none =>
      match scanFilter buffer with
      | (filter,none) => ⟨0,filter⟩
      | (filter,some rest) => ⟨(scanLoop fuel rest).includes,filter ++ (scanLoop fuel rest).filters⟩

def scanFt (buf : List Char) : FileScan :=
  let buffer := escapeSpace (terminated buf)
  scanLoop (buffer.length + 1) buffer

/-- A zero has to fit behind each name and its terminator. -/
def NamesFit (names : List (List Char)) : Prop := ∀ name ∈ names, name.length + 1 < nameSize

def ParamsFit (count : Nat) (params : List (List (List Char))) : Prop :=
  count + params.length ≤ tableSize ∧ ∀ names ∈ params, NamesFit names

def FunctionFits (function : FunctionScan) : Prop :=
  function.funcName.length < nameSize ∧ ParamsFit 0 function.params

def FunctionsFit (count : Nat) (functions : List FunctionScan) : Prop :=
  count + functions.length ≤ tableSize ∧ ∀ function ∈ functions, FunctionFits function

def FiltersFit (count : Nat) (filters : List (List FunctionScan)) : Prop :=
  count + filters.length ≤ tableSize ∧ ∀ functions ∈ filters, FunctionsFit 0 functions

def FileFits (includes filters : Nat) (file : FileScan) : Prop :=
  includes + file.includes ≤ tableSize ∧ FiltersFit filters file.filters

/-- A check gives a result exactly when what it reads fits, and then the rest that has been scanned. -/
def Follows {σ α : Type} (fits : Prop) (rest : Option α) (good : σ → Prop) : Result σ α → Prop
  | .undefined => ¬fits
  | .null _ => fits ∧ rest = none
  | .value result state => fits ∧ rest = some result ∧ good state

section
variable {σ τ α β : Type}

theorem follows_congr {fits other : Prop} {rest last : Option α} {good : σ → Prop} (result : Result σ α)
    (follows : Follows fits rest good result) (same : fits ↔ other) (ends : rest = last) :
    Follows other last good result := by
  rwa [← same,← ends]

theorem follows_bind (fits : Prop) (rest : Option α) (good : σ → Prop) (inner : α → Prop) (last : α → Option β)
    (after : σ → Prop) (check : Check σ α) (next : α → Check σ β) (state : σ)
    (first : Follows fits rest good (check.run state))
    (second : ∀ result middle, fits → rest = some result → good middle →
      Follows (inner result) (last result) after ((next result).run middle)) :
    Follows (fits ∧ ∀ result, rest = some result → inner result) (rest.bind last) after
      ((check >>= next).run state) := by
  rw [run_bind]
  cases ran : check.run state with
  | undefined =>
    rw [ran] at first
    exact fun all => first all.1
  | null state =>
    rw [ran] at first
    obtain ⟨fits,rfl⟩ := first
    exact ⟨⟨fits,nofun⟩,rfl⟩
  | value result middle =>
    rw [ran] at first
    obtain ⟨fits,rfl,good⟩ := first
    have then_ := second result middle fits rfl good
    rw [value_andThen,Option.bind_some]
    refine follows_congr _ then_ ?_ rfl
    exact ⟨fun inside => ⟨fits,fun other same => Option.some.inj same ▸ inside⟩,fun all => all.2 result rfl⟩

theorem follows_last (found : Option α) (state : σ) :
    Follows True found (fun _ => True) ((orNull found : Check σ α).run state) := by
  cases found with
  | none => exact ⟨trivial,rfl⟩
  | some result => exact ⟨trivial,rfl,trivial⟩

theorem follows_read (found : Option α) (next : α → Check σ β) (inner : α → Prop) (last : α → Option β)
    (after : σ → Prop) (state : σ)
    (second : ∀ result, found = some result → Follows (inner result) (last result) after ((next result).run state)) :
    Follows (∀ result, found = some result → inner result) (found.bind last) after
      ((orNull found >>= next).run state) := by
  cases found with
  | none => exact ⟨nofun,rfl⟩
  | some result =>
    refine follows_congr _ (second result rfl) ?_ rfl
    exact ⟨fun inside other same => Option.some.inj same ▸ inside,fun all => all result rfl⟩

theorem follows_within (view : σ → Option τ) (update : τ → σ → σ) (check : Check τ α) (state : σ) (part : τ)
    (entry : Prop) [Decidable entry] (fits : Prop) (rest : Option α) (good : τ → Prop)
    (found : view state = if entry then some part else none)
    (inner : entry → Follows fits rest good (check.run part)) :
    Follows (entry ∧ fits) rest (fun next => ∃ part, next = update part state)
      ((within view update check).run state) := by
  rw [run_within,found]
  by_cases inside : entry
  · rw [if_pos inside,Option.elim_some]
    have first := inner inside
    cases ran : check.run part with
    | undefined =>
      rw [ran] at first
      exact fun all => first all.2
    | null next =>
      rw [ran] at first
      exact ⟨⟨inside,first.1⟩,first.2⟩
    | value result next =>
      rw [ran] at first
      exact ⟨⟨inside,first.1⟩,first.2.1,next,rfl⟩
  · rw [if_neg inside]
    exact fun all => inside all.1

theorem follows_counted (fits : Prop) (rest : Option α) (good after : σ → Prop) (check : Check σ α)
    (count : σ → σ) (state : σ) (first : Follows fits rest good (check.run state))
    (counts : ∀ next, good next → after (count next)) :
    Follows fits rest after ((check >>= fun result => alter count >>= fun _ => pure result).run state) := by
  have all := follows_bind fits rest good (fun _ => True) some after check
    (fun result => alter count >>= fun _ => pure result) state first
    fun result middle _ _ good => ⟨trivial,rfl,counts middle good⟩
  exact follows_congr _ all (and_iff_left fun _ _ => trivial) (Option.bind_fun_some _)

end

theorem escape_length (comment : Bool) (buffer : List Char) : (escape comment buffer).length ≤ buffer.length := by
  induction buffer generalizing comment with
  | nil => cases comment <;> exact Nat.le_refl 0
  | cons char buffer ih =>
    have shorter (comment : Bool) : (escape comment buffer).length ≤ (char :: buffer).length :=
      (ih comment).trans (Nat.le_succ _)
    cases comment with
    | true =>
      rw [escape]
      split_ifs
      · exact shorter false
      · exact shorter true
    | false =>
      rw [escape]
      split_ifs
      · exact shorter true
      · exact shorter false
      · exact Nat.le_refl _

theorem checkChar_shorter (char : Char) (buffer rest : List Char) (found : checkChar char buffer = some rest) :
    rest.length < buffer.length := by
  have skipped := escape_length false buffer
  rw [checkChar,escapeSpace] at found
  cases escaped : escape false buffer with
  | nil =>
    rw [escaped] at found
    cases found
  | cons first after =>
    rw [escaped] at found skipped
    obtain ⟨-,same⟩ := Option.ite_none_right_eq_some.mp found
    rw [← Option.some.inj same]
    exact skipped

theorem checkIdentifier_shorter (size : Nat) (buffer name rest : List Char)
    (found : checkIdentifier size buffer = some (name,rest)) :
    name.length + 1 ≤ size ∧ rest.length < buffer.length := by
  have skipped := escape_length false buffer
  rw [checkIdentifier] at found
  split_ifs at found with digit long
  cases found
  rw [not_or] at long
  rw [List.length_drop]
  have inside := (List.takeWhile_prefix isNameChar (l := escapeSpace buffer)).length_le
  change (escapeSpace buffer).length ≤ _ at skipped
  omega

theorem scanSize_shorter (buffer rest : List Char) (found : (scanSize buffer).2 = some rest) :
    rest.length ≤ buffer.length := by
  rw [scanSize] at found
  cases one : checkChar '[' buffer with
  | none =>
    rw [one] at found
    cases found
    exact Nat.le_refl _
  | some temp =>
    rw [one] at found
    dsimp only at found
    have first := checkChar_shorter _ _ _ one
    cases two : checkIdentifier strSize temp with
    | none =>
      rw [two] at found
      cases found
    | some named =>
      obtain ⟨size,temp'⟩ := named
      rw [two] at found
      dsimp only at found
      have second := (checkIdentifier_shorter _ _ _ _ two).2
      cases three : checkChar ']' temp' with
      | none =>
        rw [three] at found
        cases found
      | some last =>
        rw [three] at found
        cases found
        have third := checkChar_shorter _ _ _ three
        omega

theorem scanParam_shorter (buffer rest : List Char) (found : (scanParam buffer).2 = some rest) :
    rest.length < buffer.length ∧ (scanParam buffer).1 ≠ [] := by
  rw [scanParam] at found ⊢
  cases one : checkIdentifier strSize buffer with
  | none =>
    rw [one] at found
    cases found
  | some typed =>
    obtain ⟨type,later⟩ := typed
    rw [one] at found
    have first := (checkIdentifier_shorter _ _ _ _ one).2
    refine ⟨?_,List.cons_ne_nil _ _⟩
    dsimp only at found
    rw [scanName] at found
    cases two : checkIdentifier strSize later with
    | none =>
      rw [two] at found
      cases found
    | some named =>
      obtain ⟨name,last⟩ := named
      rw [two] at found
      have second := (checkIdentifier_shorter _ _ _ _ two).2
      have third := scanSize_shorter last rest found
      omega

section
variable (field : Param → List Char) (put : List Char → Param → Param) (zero : Node → Option Node)

theorem store_follows (puts : ∀ name param, field (put name param) = name)
    (zeroes : ∀ node : Node, node.paramCount < tableSize →
      (field (node.paramSet node.paramCount)).length + 1 < nameSize →
      ∃ next, zero node = some next ∧ next.paramCount = node.paramCount) (name : List Char) (node : Node) :
    Follows (node.paramCount < tableSize ∧ name.length + 1 < nameSize) (some ())
      (fun next : Node => next.paramCount = node.paramCount)
      ((write (fun node : Node => (copied nameSize name).bind fun name => node.updateParam (put name)) >>=
        fun _ => write (zeroInside field zero)).run node) := by
  rw [run_bind,run_write]
  by_cases long : name.length < nameSize
  · rw [copied,if_pos long,Option.bind_some,Node.updateParam]
    by_cases count : node.paramCount < tableSize
    · rw [if_pos count,Option.elim_some,value_andThen,run_write]
      let stored := Function.update node.paramSet node.paramCount (put name (node.paramSet node.paramCount))
      have same : field (stored node.paramCount) = name :=
        (congrArg field (Function.update_self ..)).trans (puts ..)
      rw [zeroInside]
      change Follows _ _ _ ((if (field (stored node.paramCount)).length + 1 < nameSize then _ else none).elim _ _)
      rw [same]
      by_cases short : name.length + 1 < nameSize
      · obtain ⟨next,zeroed,counts⟩ := zeroes {node with paramSet := stored} count (by rw [same]; exact short)
        rw [if_pos short,zeroed]
        exact ⟨⟨count,short⟩,rfl,counts⟩
      · rw [if_neg short]
        exact fun all => short all.2
    · rw [if_neg count]
      exact fun all => count all.1
  · rw [copied,if_neg long]
    exact fun all => long (Nat.lt_of_succ_lt all.2)

end

theorem storeParamType_follows (name : List Char) (node : Node) :
    Follows (node.paramCount < tableSize ∧ name.length + 1 < nameSize) (some ())
      (fun next => next.paramCount = node.paramCount) ((store (strcpyParamType name) insideZeros.paramType).run node) :=
  store_follows Param.paramType (fun name param => {param with paramType := name}) zeroParamType
    (fun _ _ => rfl) (fun _ count _ => ⟨_,if_pos count,rfl⟩) name node

theorem storeParamName_follows (name : List Char) (node : Node) :
    Follows (node.paramCount < tableSize ∧ name.length + 1 < nameSize) (some ())
      (fun next => next.paramCount = node.paramCount) ((store (strcpyParamName name) insideZeros.paramName).run node) :=
  store_follows Param.paramName (fun name param => {param with paramName := name}) zeroParamName
    (fun _ _ => rfl) (fun _ count _ => ⟨_,if_pos count,rfl⟩) name node

theorem storeParamSize_follows (name : List Char) (node : Node) :
    Follows (node.paramCount < tableSize ∧ name.length + 1 < nameSize) (some ())
      (fun next => next.paramCount = node.paramCount)
      ((store (strcpyParamSize name) insideZeros.paramSize).run node) := by
  refine store_follows Param.paramSize (fun name param => {param with paramSize := name}) zeroParamSize
    (fun _ _ => rfl) (fun node count short => ⟨node,?_,rfl⟩) name node
  rw [zeroParamSize,if_pos count,if_neg (Nat.ne_of_lt short)]

theorem namesFit_cons (name : List Char) (names : List (List Char)) :
    NamesFit (name :: names) ↔ name.length + 1 < nameSize ∧ NamesFit names := List.forall_mem_cons

theorem namesFit_nil : NamesFit [] := fun _ member => absurd member List.not_mem_nil

theorem stored_follows (check : Check Node Unit) (next : Check Node (List Char)) (name : List Char)
    (names : List (List Char)) (rest : Option (List Char)) (good : Node → Prop) (node : Node)
    (stores : Follows (node.paramCount < tableSize ∧ name.length + 1 < nameSize) (some ())
      (fun next : Node => next.paramCount = node.paramCount) (check.run node))
    (later : node.paramCount < tableSize → ∀ middle : Node, middle.paramCount = node.paramCount →
      Follows (NamesFit names) rest good (next.run middle)) :
    Follows (node.paramCount < tableSize ∧ NamesFit (name :: names)) rest good
      ((check >>= fun _ => next).run node) := by
  have both := follows_bind _ _ _ (fun _ => NamesFit names) (fun _ => rest) good check (fun _ => next) node stores
    fun _ middle fits _ count => later fits.1 middle count
  refine follows_congr _ both ?_ rfl
  rw [namesFit_cons,← and_assoc]
  exact and_congr_right fun _ => ⟨fun all => all () rfl,fun inner _ _ => inner⟩

theorem checkParamSize_follows (buffer : List Char) (node : Node) (count : node.paramCount < tableSize) :
    Follows (NamesFit (scanSize buffer).1) (scanSize buffer).2 (fun next => next.paramCount = node.paramCount)
      ((checkParamSize insideZeros buffer).run node) := by
  rw [checkParamSize,scanSize]
  cases checkChar '[' buffer with
  | none =>
    dsimp only
    rw [run_bind,run_write,clearParamSize,Node.updateParam,if_pos count]
    exact ⟨namesFit_nil,rfl,rfl⟩
  | some temp =>
    dsimp only
    cases checkIdentifier strSize temp with
    | none => exact ⟨namesFit_nil,rfl⟩
    | some named =>
      obtain ⟨size,temp⟩ := named
      rw [pure_orNull,pure_bind]
      dsimp only
      cases checkChar ']' temp with
      | none => exact ⟨namesFit_nil,rfl⟩
      | some last =>
        rw [pure_orNull,pure_bind]
        have all := stored_follows _ (pure last) size [] (some last) _ node (storeParamSize_follows size node)
          fun _ middle counts => (⟨namesFit_nil,rfl,counts⟩ : Follows _ _ (fun next : Node =>
            next.paramCount = node.paramCount) (Result.value last middle))
        exact follows_congr _ all (and_iff_right count) rfl

theorem checkParamList_follows (buffer : List Char) (node : Node) :
    Follows (((scanParam buffer).1 ≠ [] → node.paramCount < tableSize) ∧ NamesFit (scanParam buffer).1)
      (scanParam buffer).2 (fun next => next.paramCount = node.paramCount + 1)
      ((checkParamList insideZeros buffer).run node) := by
  rw [checkParamList,scanParam]
  cases checkIdentifier strSize buffer with
  | none => exact ⟨⟨fun some => absurd rfl some,namesFit_nil⟩,rfl⟩
  | some typed =>
    obtain ⟨type,buffer⟩ := typed
    rw [pure_orNull,pure_bind]
    dsimp only
    have all := stored_follows _ (do
        let named ← orNull (checkIdentifier strSize buffer)
        store (strcpyParamName named.1) insideZeros.paramName
        let buffer ← checkParamSize insideZeros named.2
        alter countParam
        pure buffer) type (scanName buffer).1 (scanName buffer).2 (fun next => next.paramCount = node.paramCount + 1)
      node (storeParamType_follows type node) ?_
    · refine follows_congr _ all ?_ rfl
      exact and_congr_left fun _ => ⟨fun count _ => count,fun needs => needs (List.cons_ne_nil _ _)⟩
    · intro count middle counts
      rw [scanName]
      cases checkIdentifier strSize buffer with
      | none => exact ⟨namesFit_nil,rfl⟩
      | some named =>
        obtain ⟨name,buffer⟩ := named
        rw [pure_orNull,pure_bind]
        dsimp only
        have named := stored_follows _ (do
            let buffer ← checkParamSize insideZeros buffer
            alter countParam
            pure buffer) name (scanSize buffer).1 (scanSize buffer).2
          (fun next => next.paramCount = node.paramCount + 1) middle (storeParamName_follows name middle) ?_
        · exact follows_congr _ named (and_iff_right (by rw [counts]; exact count)) rfl
        · intro count last counted
          have sized := follows_bind _ _ _ (fun _ => True) some (fun next => next.paramCount = node.paramCount + 1)
            _ (fun buffer => alter countParam >>= fun _ => pure buffer) last
            (checkParamSize_follows buffer last (by rw [counted]; exact count)) ?_
          · refine follows_congr _ sized (and_iff_left fun _ _ => trivial) ?_
            exact Option.bind_fun_some _
          · intro result final _ _ stays
            refine ⟨trivial,rfl,?_⟩
            change final.paramCount + 1 = _
            rw [stays,counted,counts]

theorem paramsFit_nil (count : Nat) (fits : count ≤ tableSize) : ParamsFit count [] :=
  ⟨fits,fun _ member => absurd member List.not_mem_nil⟩

theorem paramsFit_cons (count : Nat) (names : List (List Char)) (params : List (List (List Char)))
    (some : names ≠ []) : ParamsFit count (names :: params) ↔
      ((names ≠ [] → count < tableSize) ∧ NamesFit names) ∧ ParamsFit (count + 1) params := by
  rw [ParamsFit,ParamsFit,List.forall_mem_cons,List.length_cons]
  constructor
  · rintro ⟨room,short,others⟩
    exact ⟨⟨fun _ => by omega,short⟩,by omega,others⟩
  · rintro ⟨⟨needs,short⟩,room,others⟩
    have entry := needs some
    exact ⟨by omega,short,others⟩

theorem paramsFit_begun (count : Nat) (names : List (List Char)) (fits : count ≤ tableSize) :
    ParamsFit count (begun names) ↔ (names ≠ [] → count < tableSize) ∧ NamesFit names := by
  rw [begun]
  by_cases none : names = []
  · rw [if_pos none,none]
    exact ⟨fun _ => ⟨fun some => absurd rfl some,namesFit_nil⟩,fun _ => paramsFit_nil count fits⟩
  · rw [if_neg none,paramsFit_cons count names [] none]
    exact and_iff_left_of_imp fun needs => paramsFit_nil _ (needs.1 none)

theorem paramLoop_follows (fuel : Nat) (started : Bool) (buffer : List Char) (node : Node)
    (enough : buffer.length < fuel) (count : node.paramCount ≤ tableSize)
    (starts : started = true ↔ 0 < node.paramCount) :
    Follows (ParamsFit node.paramCount (scanParams fuel started buffer).1) (scanParams fuel started buffer).2
      (fun _ => True) ((paramLoop insideZeros fuel buffer).run node) := by
  induction fuel generalizing started buffer node with
  | zero => exact absurd enough (Nat.not_lt_zero _)
  | succ fuel ih =>
    rw [paramLoop,scanParams]
    cases checkChar ')' buffer with
    | some rest => exact ⟨paramsFit_nil _ count,rfl,trivial⟩
    | none =>
      dsimp only
      have comma : checkComma node.paramCount buffer =
          orNull (if started then checkChar ',' buffer else some buffer) := by
        rw [checkComma]
        by_cases some : 0 < node.paramCount
        · rw [if_pos some,if_pos (starts.mpr some)]
        · rw [if_neg some,if_neg fun true => some (starts.mp true)]
          rfl
      rw [run_bind,run_look,value_andThen,comma]
      cases read : if started then checkChar ',' buffer else some buffer with
      | none => exact ⟨paramsFit_nil _ count,rfl⟩
      | some front =>
        have within : front.length ≤ buffer.length := by
          cases started with
          | true => exact (checkChar_shorter _ _ _ read).le
          | false => exact (congrArg List.length (Option.some.inj read)).ge
        have param := checkParamList_follows front node
        have shorter := scanParam_shorter front
        rw [pure_orNull,pure_bind]
        dsimp only
        cases scanned : scanParam front with
        | mk names rest =>
          rw [scanned] at param shorter
          cases rest with
          | none =>
            have all := follows_bind _ _ _ (fun _ => True) (fun _ => none) (fun _ => True) _
              (paramLoop insideZeros fuel) node param (by intro _ _ _ found; cases found)
            refine follows_congr _ all ?_ rfl
            exact (and_iff_left fun _ _ => trivial).trans (paramsFit_begun _ names count).symm
          | some rest =>
            obtain ⟨less,some⟩ := shorter rest rfl
            have all := follows_bind _ _ _
              (fun rest => ParamsFit (node.paramCount + 1) (scanParams fuel true rest).1)
              (fun rest => (scanParams fuel true rest).2) (fun _ => True) _ (paramLoop insideZeros fuel) node param ?_
            · refine follows_congr _ all ?_ rfl
              rw [paramsFit_cons _ names _ some]
              exact and_congr_right fun _ => ⟨fun later => later rest rfl,
                fun later other same => Option.some.inj same ▸ later⟩
            · intro result middle fits same counts
              obtain rfl := Option.some.inj same
              rw [← counts]
              exact ih true rest middle (by omega) (by rw [counts]; exact fits.1 some)
                (by rw [counts]; exact iff_of_true rfl (Nat.succ_pos _))

theorem functionBody_follows (name buffer : List Char) (node : Node) (count : node.paramCount = 0) :
    Follows (FunctionFits ⟨name,(scanCall buffer).1⟩) (scanCall buffer).2 (fun _ => True)
      ((do
        write (strcpyName name)
        let buffer ← orNull (checkChar '(' buffer)
        let buffer ← paramLoop insideZeros (buffer.length + 1) buffer
        let buffer ← orNull (checkChar ')' buffer)
        orNull (checkChar ';' buffer) : Check Node (List Char)).run node) := by
  rw [run_bind,run_write,strcpyName,copied,FunctionFits,scanCall]
  by_cases short : name.length < nameSize
  · rw [if_pos short,Option.map_some,Option.elim_some,value_andThen]
    cases checkChar '(' buffer with
    | none => exact ⟨⟨short,paramsFit_nil 0 (Nat.zero_le _)⟩,rfl⟩
    | some buffer =>
      rw [pure_orNull,pure_bind]
      dsimp only
      have loop := paramLoop_follows (buffer.length + 1) false buffer {node with name := name}
        (Nat.lt_succ_self _) (by rw [count]; exact Nat.zero_le _) (by rw [count]; decide)
      have all := follows_bind _ _ _ (fun _ => True) (fun buffer => (checkChar ')' buffer).bind (checkChar ';'))
        (fun _ => True) _
        (fun buffer => orNull (checkChar ')' buffer) >>= fun buffer => orNull (checkChar ';' buffer))
        {node with name := name} loop ?_
      · refine follows_congr _ all ?_ (Option.bind_assoc ..).symm
        rw [count]
        exact (and_iff_left fun _ _ => trivial).trans (and_iff_right short).symm
      · intro result middle _ _ _
        have closed := follows_read (checkChar ')' result) (fun buffer => orNull (checkChar ';' buffer))
          (fun _ => True) (checkChar ';') (fun _ => True) middle fun buffer _ => follows_last _ _
        exact follows_congr _ closed (iff_true_intro fun _ _ => trivial) rfl
  · rw [if_neg short]
    exact fun all => short all.1

theorem counted_fresh (node : Node) (filter : Filter) (fresh : Fresh filter) :
    Fresh (countNode (Filter.set node filter)) := by
  intro index later
  change filter.nodeCount + 1 ≤ index at later
  change (Function.update filter.node filter.nodeCount node index).paramCount = 0
  rw [Function.update_of_ne (by omega)]
  exact fresh index (by omega)

theorem checkFunction_follows (buffer : List Char) (filter : Filter) (fresh : Fresh filter)
    (count : filter.nodeCount ≤ tableSize) :
    Follows (FunctionsFit filter.nodeCount (scanFunction buffer).1) (scanFunction buffer).2
      (fun next => next.nodeCount = filter.nodeCount + 1 ∧ Fresh next)
      ((checkFunction insideZeros buffer).run filter) := by
  rw [checkFunction,scanFunction]
  cases checkIdentifier strSize buffer with
  | none => exact ⟨⟨count,fun _ member => absurd member List.not_mem_nil⟩,rfl⟩
  | some named =>
    obtain ⟨name,buffer⟩ := named
    rw [pure_orNull,pure_bind]
    dsimp only
    have body := follows_within Filter.current Filter.set _ filter (filter.node filter.nodeCount)
      (filter.nodeCount < tableSize) _ _ _ rfl
      fun _ => functionBody_follows name buffer (filter.node filter.nodeCount) (fresh _ (Nat.le_refl _))
    have all := follows_counted _ _ _ (fun next => next.nodeCount = filter.nodeCount + 1 ∧ Fresh next) _ countNode
      filter body (by rintro _ ⟨node,rfl⟩; exact ⟨rfl,counted_fresh node filter fresh⟩)
    refine follows_congr _ all ?_ rfl
    rw [FunctionsFit,List.forall_mem_singleton]
    rfl

theorem scanParams_shorter (fuel : Nat) (started : Bool) (buffer rest : List Char)
    (found : (scanParams fuel started buffer).2 = some rest) : rest.length ≤ buffer.length := by
  induction fuel generalizing started buffer with
  | zero => cases found
  | succ fuel ih =>
    rw [scanParams] at found
    cases closed : checkChar ')' buffer with
    | some _ =>
      rw [closed] at found
      cases found
      exact Nat.le_refl _
    | none =>
      rw [closed] at found
      dsimp only at found
      cases read : if started then checkChar ',' buffer else some buffer with
      | none =>
        rw [read] at found
        cases found
      | some front =>
        rw [read] at found
        dsimp only at found
        have within : front.length ≤ buffer.length := by
          cases started with
          | true => exact (checkChar_shorter _ _ _ read).le
          | false => exact (congrArg List.length (Option.some.inj read)).ge
        have shorter := scanParam_shorter front
        cases scanned : scanParam front with
        | mk names last =>
          rw [scanned] at found shorter
          cases last with
          | none => cases found
          | some last =>
            have less := (shorter last rfl).1
            have more := ih true last found
            omega

theorem scanFunction_shorter (buffer rest : List Char) (found : (scanFunction buffer).2 = some rest) :
    rest.length < buffer.length ∧ (scanFunction buffer).1.length = 1 := by
  rw [scanFunction] at found ⊢
  cases one : checkIdentifier strSize buffer with
  | none =>
    rw [one] at found
    cases found
  | some named =>
    obtain ⟨name,later⟩ := named
    rw [one] at found
    have first := (checkIdentifier_shorter _ _ _ _ one).2
    refine ⟨?_,rfl⟩
    dsimp only at found
    rw [scanCall] at found
    cases two : checkChar '(' later with
    | none =>
      rw [two] at found
      cases found
    | some front =>
      rw [two] at found
      obtain ⟨close,found,ended⟩ := Option.bind_eq_some_iff.mp found
      obtain ⟨last,params,closed⟩ := Option.bind_eq_some_iff.mp found
      have second := checkChar_shorter _ _ _ two
      have third := scanParams_shorter _ _ _ _ params
      have fourth := checkChar_shorter _ _ _ closed
      have fifth := checkChar_shorter _ _ _ ended
      omega

theorem functionsFit_nil (count : Nat) (fits : count ≤ tableSize) : FunctionsFit count [] :=
  ⟨fits,fun _ member => absurd member List.not_mem_nil⟩

theorem rows_append {Row : Type} (fits : Row → Prop) (count : Nat) (first others : List Row) (one : first.length = 1) :
    (count + (first ++ others).length ≤ tableSize ∧ ∀ row ∈ first ++ others, fits row) ↔
      (count + first.length ≤ tableSize ∧ ∀ row ∈ first, fits row) ∧
        count + 1 + others.length ≤ tableSize ∧ ∀ row ∈ others, fits row := by
  rw [List.forall_mem_append,List.length_append,one]
  constructor
  · rintro ⟨room,fit,others⟩
    exact ⟨⟨by omega,fit⟩,by omega,others⟩
  · rintro ⟨⟨_,fit⟩,room,others⟩
    exact ⟨by omega,fit,others⟩

theorem functionsFit_append (count : Nat) (first others : List FunctionScan) (one : first.length = 1) :
    FunctionsFit count (first ++ others) ↔ FunctionsFit count first ∧ FunctionsFit (count + 1) others :=
  rows_append FunctionFits count first others one

theorem functions_follow (fuel : Nat) (buffer : List Char) (filter : Filter) (enough : buffer.length < fuel)
    (fresh : Fresh filter) (count : filter.nodeCount ≤ tableSize) :
    Follows (FunctionsFit filter.nodeCount (scanFunctions fuel buffer).1) (some (scanFunctions fuel buffer).2)
      (fun _ => True) ((repeatCheck (checkFunction insideZeros) fuel buffer).run filter) := by
  induction fuel generalizing buffer filter with
  | zero => exact absurd enough (Nat.not_lt_zero _)
  | succ fuel ih =>
    have first := checkFunction_follows buffer filter fresh count
    have shorter := scanFunction_shorter buffer
    rw [scanFunctions]
    cases scanned : scanFunction buffer with
    | mk function rest =>
      rw [scanned] at first shorter
      cases ran : (checkFunction insideZeros buffer).run filter with
      | undefined =>
        rw [ran] at first
        rw [repeatCheck_next,ran]
        cases rest with
        | none => exact first
        | some rest => exact fun all => first ((functionsFit_append _ _ _ (shorter rest rfl).2).mp all).1
      | null state =>
        rw [ran] at first
        obtain ⟨fits,none⟩ := first
        dsimp only at none
        subst none
        rw [repeatCheck_next,ran]
        exact ⟨fits,rfl,trivial⟩
      | value next state =>
        rw [ran] at first
        obtain ⟨fits,some,counts,later⟩ := first
        dsimp only at some
        subst some
        obtain ⟨less,one⟩ := shorter next rfl
        have room := fits.1
        dsimp only at one room
        have others := ih next state (by omega) later (by omega)
        rw [repeatCheck_next,ran]
        refine follows_congr _ others ?_ rfl
        rw [counts,functionsFit_append _ _ _ one]
        exact (and_iff_right fits).symm

theorem filterBody_follows (name buffer : List Char) (named : name.length < strSize) (filter : Filter)
    (fresh : Fresh filter) (count : filter.nodeCount = 0) :
    Follows (FunctionsFit 0 (scanBody buffer).1) (scanBody buffer).2 (fun _ => True)
      ((do
        write (strcpyFilterName name)
        let buffer ← orNull (checkChar ',' buffer)
        let (name,buffer) ← orNull (checkIdentifier strSize buffer)
        write (strcpyFilterId name)
        let buffer ← orNull (checkChar ')' buffer)
        let buffer ← orNull (checkChar '{' buffer)
        let buffer ← repeatCheck (checkFunction insideZeros) (buffer.length + 1) buffer
        orNull (checkChar '}' buffer) : Check Filter (List Char)).run filter) := by
  rw [run_bind,run_write,strcpyFilterName,copied,if_pos named,Option.map_some,Option.elim_some,value_andThen,scanBody]
  cases checkChar ',' buffer with
  | none => exact ⟨functionsFit_nil 0 (Nat.zero_le _),rfl⟩
  | some buffer =>
    rw [pure_orNull,pure_bind,Option.bind_some]
    cases identified : checkIdentifier strSize buffer with
    | none => exact ⟨functionsFit_nil 0 (Nat.zero_le _),rfl⟩
    | some numbered =>
      obtain ⟨filterId,buffer'⟩ := numbered
      have short := (checkIdentifier_shorter _ _ _ _ identified).1
      rw [pure_orNull,pure_bind]
      dsimp only
      rw [run_bind,run_write,strcpyFilterId,copied,if_pos (Nat.lt_of_succ_le short),Option.map_some,Option.elim_some,
        value_andThen]
      cases checkChar ')' buffer' with
      | none => exact ⟨functionsFit_nil 0 (Nat.zero_le _),rfl⟩
      | some buffer =>
        rw [pure_orNull,pure_bind,Option.bind_some]
        cases checkChar '{' buffer with
        | none => exact ⟨functionsFit_nil 0 (Nat.zero_le _),rfl⟩
        | some buffer =>
          rw [pure_orNull,pure_bind]
          dsimp only
          have loop := functions_follow (buffer.length + 1) buffer
            {filter with filterName := name, filterId := filterId} (Nat.lt_succ_self _) fresh
            (by rw [count]; exact Nat.zero_le _)
          have all := follows_bind _ _ _ (fun _ => True) (checkChar '}') (fun _ => True) _
            (fun buffer => orNull (checkChar '}' buffer)) {filter with filterName := name, filterId := filterId} loop
            fun _ _ _ _ _ => follows_last _ _
          refine follows_congr _ all ?_ rfl
          rw [count]
          exact and_iff_left fun _ _ => trivial

/-- The filters that are still to come have been left as they were. -/
def FreshFilters (file : FtFile) : Prop := ∀ index, file.filterIndex ≤ index → file.filterSet index = .zero

theorem checkFilter_follows (buffer : List Char) (file : FtFile) (fresh : FreshFilters file)
    (count : file.filterIndex ≤ tableSize) :
    Follows (FiltersFit file.filterIndex (scanFilter buffer).1) (scanFilter buffer).2
      (fun next => next.toIncludes = file.toIncludes ∧ next.filterIndex = file.filterIndex + 1 ∧ FreshFilters next)
      ((checkFilter insideZeros buffer).run file) := by
  have nothing : FiltersFit file.filterIndex [] := ⟨count,fun _ member => absurd member List.not_mem_nil⟩
  rw [checkFilter,scanFilter]
  cases checkKeyword "filter".toList buffer with
  | none => exact ⟨nothing,rfl⟩
  | some buffer =>
    rw [pure_orNull,pure_bind,Option.bind_some]
    cases checkChar '(' buffer with
    | none => exact ⟨nothing,rfl⟩
    | some buffer =>
      rw [pure_orNull,pure_bind,Option.bind_some]
      cases identified : checkIdentifier strSize buffer with
      | none => exact ⟨nothing,rfl⟩
      | some named =>
        obtain ⟨name,buffer'⟩ := named
        have short := Nat.lt_of_succ_le (checkIdentifier_shorter _ _ _ _ identified).1
        rw [pure_orNull,pure_bind]
        dsimp only
        have empty := fresh file.filterIndex (Nat.le_refl _)
        have body := follows_within FtFile.current FtFile.set _ file (file.filterSet file.filterIndex)
          (file.filterIndex < tableSize) _ _ _ rfl
          fun _ => filterBody_follows name buffer' short (file.filterSet file.filterIndex)
            (by rw [empty]; exact fun _ _ => rfl) (by rw [empty]; rfl)
        have all := follows_counted _ _ _ (fun next => next.toIncludes = file.toIncludes ∧
          next.filterIndex = file.filterIndex + 1 ∧ FreshFilters next) _ countFilter file body ?_
        · refine follows_congr _ all ?_ rfl
          rw [FiltersFit,List.forall_mem_singleton]
          rfl
        · rintro _ ⟨filter,rfl⟩
          refine ⟨rfl,rfl,fun index later => ?_⟩
          change file.filterIndex + 1 ≤ index at later
          change Function.update file.filterSet file.filterIndex filter index = .zero
          rw [Function.update_of_ne (by omega)]
          exact fresh index (by omega)

theorem checkString_shorter (size : Nat) (buffer content rest : List Char)
    (found : checkString size buffer = some (content,rest)) :
    content.length + 2 ≤ size ∧ rest.length < buffer.length := by
  have skipped := escape_length false buffer
  rw [checkString] at found
  change (escapeSpace buffer).length ≤ _ at skipped
  split at found
  next after same =>
    rw [same,List.length_cons] at skipped
    dsimp only at found
    split at found
    · cases found
    next first last dropped =>
      split_ifs at found with long
      cases found
      have lengths := congrArg List.length dropped
      rw [List.length_drop,List.length_cons] at lengths
      omega
  · cases found

theorem checkKeyword_shorter (identifier buffer rest : List Char)
    (found : checkKeyword identifier buffer = some rest) : rest.length < buffer.length := by
  have skipped := escape_length false buffer
  rw [checkKeyword] at found
  cases read : checkIdentifier strSize (escapeSpace buffer) with
  | none =>
    rw [read] at found
    cases found
  | some named =>
    obtain ⟨name,after⟩ := named
    rw [read] at found
    obtain ⟨-,same⟩ := Option.ite_none_right_eq_some.mp found
    cases same
    exact (checkIdentifier_shorter _ _ _ _ read).2.trans_le skipped

theorem readInclude_shorter (buffer name rest : List Char) (found : readInclude buffer = some (name,rest)) :
    name.length < strSize ∧ rest.length < buffer.length := by
  obtain ⟨one,hash,found⟩ := Option.bind_eq_some_iff.mp found
  obtain ⟨two,keyword,found⟩ := Option.bind_eq_some_iff.mp found
  have first := checkChar_shorter _ _ _ hash
  have second := checkKeyword_shorter _ _ _ keyword
  have third := checkString_shorter _ _ _ _ found
  omega

theorem scanFunctions_shorter (fuel : Nat) (buffer : List Char) :
    (scanFunctions fuel buffer).2.length ≤ buffer.length := by
  induction fuel generalizing buffer with
  | zero => exact Nat.le_refl _
  | succ fuel ih =>
    have shorter := scanFunction_shorter buffer
    rw [scanFunctions]
    cases scanned : scanFunction buffer with
    | mk function rest =>
      rw [scanned] at shorter
      cases rest with
      | none => exact Nat.le_refl _
      | some rest => exact (ih rest).trans (shorter rest rfl).1.le

theorem scanBody_shorter (buffer rest : List Char) (found : (scanBody buffer).2 = some rest) :
    rest.length < buffer.length := by
  rw [scanBody] at found
  cases one : (checkChar ',' buffer).bind (checkIdentifier strSize) with
  | none =>
    rw [one] at found
    cases found
  | some numbered =>
    obtain ⟨filterId,later⟩ := numbered
    rw [one] at found
    dsimp only at found
    obtain ⟨front,comma,identified⟩ := Option.bind_eq_some_iff.mp one
    have first := checkChar_shorter _ _ _ comma
    have second := (checkIdentifier_shorter _ _ _ _ identified).2
    cases two : (checkChar ')' later).bind (checkChar '{') with
    | none =>
      rw [two] at found
      cases found
    | some body =>
      rw [two] at found
      obtain ⟨close,closed,opened⟩ := Option.bind_eq_some_iff.mp two
      have third := checkChar_shorter _ _ _ closed
      have fourth := checkChar_shorter _ _ _ opened
      have fifth := scanFunctions_shorter (body.length + 1) body
      have sixth := checkChar_shorter _ _ _ found
      omega

theorem scanFilter_shorter (buffer rest : List Char) (found : (scanFilter buffer).2 = some rest) :
    rest.length < buffer.length ∧ (scanFilter buffer).1.length = 1 := by
  rw [scanFilter] at found ⊢
  cases one : ((checkKeyword "filter".toList buffer).bind (checkChar '(')).bind (checkIdentifier strSize) with
  | none =>
    rw [one] at found
    cases found
  | some named =>
    obtain ⟨name,later⟩ := named
    rw [one] at found
    refine ⟨?_,rfl⟩
    obtain ⟨front,opened,identified⟩ := Option.bind_eq_some_iff.mp one
    obtain ⟨word,keyword,opened⟩ := Option.bind_eq_some_iff.mp opened
    have first := checkKeyword_shorter _ _ _ keyword
    have second := checkChar_shorter _ _ _ opened
    have third := (checkIdentifier_shorter _ _ _ _ identified).2
    have fourth := scanBody_shorter _ _ found
    omega

theorem filtersFit_append (count : Nat) (first others : List (List FunctionScan)) (one : first.length = 1) :
    FiltersFit count (first ++ others) ↔ FiltersFit count first ∧ FiltersFit (count + 1) others :=
  rows_append (FunctionsFit 0) count first others one

theorem checkInclude_follows (buffer : List Char) (file : FtFile) :
    Follows (∀ found, readInclude buffer = some found → file.includeCount < tableSize)
      ((readInclude buffer).map Prod.snd)
      (fun next => ∃ includes, next = FtFile.setIncludes includes file ∧
        includes.includeCount = file.includeCount + 1) ((checkInclude buffer).run file) := by
  rw [checkInclude,checkIncludeIn]
  cases read : readInclude buffer with
  | none => exact ⟨(by intro _ found; cases found),rfl⟩
  | some found =>
    obtain ⟨name,rest⟩ := found
    have short := (readInclude_shorter buffer name rest read).1
    rw [pure_orNull,pure_bind]
    dsimp only
    rw [run_bind,run_within,Option.elim_some,run_write,strcpyInclude]
    by_cases entry : file.includeCount < tableSize
    · rw [if_pos entry,copied,if_pos short]
      exact ⟨fun _ _ => entry,rfl,_,rfl,rfl⟩
    · rw [if_neg entry]
      exact fun all => entry (all _ rfl)

theorem parserLoop_defined (fuel : Nat) (buffer : List Char) (file : FtFile) (enough : buffer.length < fuel)
    (fresh : FreshFilters file) (includes : file.includeCount ≤ tableSize) (filters : file.filterIndex ≤ tableSize) :
    parserLoop checkInclude (checkFilter insideZeros) fuel buffer file ≠ .undefined ↔
      FileFits file.includeCount file.filterIndex (scanLoop fuel buffer) := by
  induction fuel generalizing buffer file with
  | zero => exact absurd enough (Nat.not_lt_zero _)
  | succ fuel ih =>
    have included := checkInclude_follows buffer file
    rw [parserLoop,scanLoop]
    cases read : readInclude buffer with
    | some found =>
      obtain ⟨name,rest⟩ := found
      have less := (readInclude_shorter buffer name rest read).2
      rw [read] at included
      dsimp only
      cases ran : (checkInclude buffer).run file with
      | undefined =>
        rw [ran] at included
        refine iff_of_false (fun defined => defined rfl) fun fits => included fun _ _ => ?_
        have room := fits.1
        dsimp only at room
        omega
      | null next =>
        rw [ran] at included
        cases included.2
      | value next middle =>
        rw [ran] at included
        obtain ⟨entry,same,table,rfl,counts⟩ := included
        cases same
        have room := entry _ rfl
        have others := ih rest (FtFile.setIncludes table file) (by omega) fresh (counts.trans_le room) filters
        refine others.trans ?_
        change FileFits table.includeCount file.filterIndex _ ↔ _
        rw [counts,FileFits,FileFits,Nat.add_assoc,Nat.add_comm 1]
    | none =>
      have ran : (checkInclude buffer).run file = .null file := by
        rw [checkInclude,checkIncludeIn,read]
        rfl
      rw [ran]
      dsimp only
      have first := checkFilter_follows buffer file fresh filters
      have shorter := scanFilter_shorter buffer
      cases scanned : scanFilter buffer with
      | mk filter rest =>
        rw [scanned] at first shorter
        cases ran : (checkFilter insideZeros buffer).run file with
        | undefined =>
          rw [ran] at first
          refine iff_of_false (fun defined => defined rfl) fun fits => first ?_
          cases rest with
          | none => exact fits.2
          | some rest => exact ((filtersFit_append _ _ _ (shorter rest rfl).2).mp fits.2).1
        | null next =>
          rw [ran] at first
          obtain ⟨fits,none⟩ := first
          dsimp only at none
          subst none
          exact iff_of_true (by intro ended; cases ended) ⟨includes,fits⟩
        | value next middle =>
          rw [ran] at first
          obtain ⟨fits,some,table,index,later⟩ := first
          dsimp only at some
          subst some
          obtain ⟨less,one⟩ := shorter next rfl
          have room := fits.1
          dsimp only at one room
          have others := ih next middle (by omega) later (by rw [table]; exact includes) (by omega)
          refine others.trans ?_
          rw [table,index,FileFits,FileFits,filtersFit_append _ _ _ one]
          exact and_congr_right fun _ => (and_iff_right fits).symm

theorem parserFt_defined (buf : List Char) :
    FieldWrites.parserFt buf ≠ .undefined ↔ FileFits 0 0 (scanFt buf) :=
  parserLoop_defined _ _ .zero (Nat.lt_succ_self _) (fun _ _ => rfl) (Nat.zero_le _) (Nat.zero_le _)

/-- No write of the parser leaves its field exactly when what it reads of the input fits: at most 32 includes,
filters, functions of one, and parameters of one, names of functions of up to 31 characters, and up to 30 in a
parameter. Then this is what the parser does. -/
theorem parserFt_inside_iff (buf : List Char) :
    (FieldWrites.parserFt buf ≠ .undefined ↔ FileFits 0 0 (scanFt buf)) ∧
      (FieldWrites.parserFt buf ≠ .undefined → FtParser.parserFt buf = FieldWrites.parserFt buf) :=
  ⟨parserFt_defined buf,parserFt_agrees buf⟩

def longText : List Char := "filter(F,I)\x7b".toList ++ List.replicate 32 'a' ++ "();\x7d".toList

theorem longText_scanned : scanFt longText = ⟨0,[[⟨List.replicate 32 'a',[]⟩]]⟩ := by decide +kernel

theorem parserFt_inside_long : FieldWrites.parserFt longText = .undefined := by
  by_contra inside
  have fits := (parserFt_defined longText).mp inside
  rw [longText_scanned] at fits
  have short := (((fits.2.2 _ List.mem_cons_self).2 _ List.mem_cons_self)).1
  exact absurd short (by decide)

end Fantuan.Gen.FieldLimits
