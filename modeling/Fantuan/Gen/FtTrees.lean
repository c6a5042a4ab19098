import Fantuan.Gen.Trees

/-! The trees of FTGen and PRGen: filters of functions of parameters. The parser separates
parameters by what it has counted, so the functions it has still to read must have none.
-/
namespace Fantuan.Gen.FtTrees
open Lexer Lib.Reading FtParser Trees

structure Function where
  funcName : List Char
  paramSet : List Param
  deriving DecidableEq

structure Declaration where
  filterName : List Char
  filterId : List Char
  functions : List Function
  deriving DecidableEq

-- started: there are parameters in front
def listTokens : Bool → List Param → List Token
  | _,[] => []
  | started,param :: params =>
    (if started then [.sign ','] else []) ++ (paramTokens param ++ listTokens true params)

def functionTokens (function : Function) : List Token :=
  .name function.funcName :: .sign '(' :: (listTokens false function.paramSet ++
    [.sign ')',.sign ';'])

def declarationTokens (declaration : Declaration) : List Token :=
  .name "filter".toList :: .sign '(' :: .name declaration.filterName :: .sign ',' ::
    .name declaration.filterId :: .sign ')' :: .sign '{' ::
      (declaration.functions.flatMap functionTokens ++ [.sign '}'])

def storeParam (param : Param) : Check Node Unit := do
  orNull (readable param.paramType)
  write (strcpyParamType param.paramType)
  write zeroParamType
  orNull (readable param.paramName)
  write (strcpyParamName param.paramName)
  write zeroParamName
  storeParamSize param.paramSize
  alter countParam

def storeFunction (function : Function) : Check Filter Unit := do
  orNull (readable function.funcName)
  within Filter.current Filter.set (do
    write (strcpyName function.funcName)
    storeAll storeParam function.paramSet)
  alter countNode

def storeDeclaration (declaration : Declaration) : Check FtFile Unit := do
  orNull (readable declaration.filterName)
  within FtFile.current FtFile.set (do
    write (strcpyFilterName declaration.filterName)
    orNull (readable declaration.filterId)
    write (strcpyFilterId declaration.filterId)
    storeAll storeFunction declaration.functions)
  alter countFilter

def storeItems (items : List (Item Declaration)) : Check FtFile Unit :=
  storeAll (storeItem FtFile.toIncludes FtFile.setIncludes storeDeclaration) items

/-- A parameter, with anything but a size of its own behind it. -/
theorem param_checked (param : Param) (more : List Token) (buffer : List Char)
    (spells : Spells (paramTokens param ++ more) buffer)
    (apart : more.head? ≠ some (.sign '[')) :
    ∃ rest, Spells more rest ∧
      checkParamList zeros buffer = (storeParam param >>= fun _ => pure rest) := by
  obtain ⟨one,later,typed⟩ := checkIdentifier_name strSize param.paramType _ buffer spells
  obtain ⟨two,later,named⟩ := checkIdentifier_name strSize param.paramName _ one later
  obtain ⟨three,later,sized⟩ := paramSize_checked param.paramSize more two later apart
  refine ⟨three,later,?_⟩
  rw [checkParamList,storeParam,typed,orNull_name]
  simp only [named,orNull_name,sized,store,bind_assoc,pure_bind]
  rfl

theorem storeParam_counts (param : Param) (node next : Node)
    (ran : (storeParam param).run node = .value () next) : 0 < next.paramCount := by
  have split : storeParam param = (do
      orNull (readable param.paramType)
      write (strcpyParamType param.paramType)
      write zeroParamType
      orNull (readable param.paramName)
      write (strcpyParamName param.paramName)
      write zeroParamName
      storeParamSize param.paramSize) >>= fun _ => alter countParam := by
    simp only [storeParam,bind_assoc]
  rw [split] at ran
  obtain ⟨_,middle,_,last⟩ := value_last _ _ node next ran
  simp only [run_alter,Result.value.injEq,true_and] at last
  subst last
  exact Nat.succ_pos _

theorem params_checked (params : List Param) (started : Bool) (more : List Token) (fuel : Nat)
    (enough : params.length < fuel) (buffer : List Char)
    (spells : Spells (listTokens started params ++ .sign ')' :: more) buffer) :
    ∃ rest, Spells (.sign ')' :: more) rest ∧ ∀ node : Node,
      (started = true ↔ 0 < node.paramCount) →
      (paramLoop zeros fuel buffer).run node =
        (storeAll storeParam params >>= fun _ => pure rest).run node := by
  induction params generalizing started fuel buffer with
  | nil =>
    obtain ⟨fuel,rfl⟩ := Nat.exists_eq_succ_of_ne_zero (Nat.ne_of_gt enough)
    refine ⟨buffer,spells,fun node _ => ?_⟩
    obtain ⟨rest,closed,_⟩ := checkChar_sign ')' more buffer spells
    rw [paramLoop,closed]
    rfl
  | cons param params ih =>
    obtain ⟨fuel,rfl⟩ := Nat.exists_eq_succ_of_ne_zero (Nat.ne_of_gt (Nat.zero_lt_of_lt enough))
    have notClosed : checkChar ')' buffer = none := by
      refine checkChar_other ')' (by decide) _ buffer spells ?_
      cases started <;> simp [listTokens,paramTokens]
    have first : ∃ front, Spells (paramTokens param ++ (listTokens true params ++
          .sign ')' :: more)) front ∧
        (if started then orNull (checkChar ',' buffer) else pure buffer : Check Node _) =
          pure front := by
      cases started with
      | true =>
        obtain ⟨front,comma,later⟩ := checkChar_sign ',' _ buffer spells
        refine ⟨front,?_,?_⟩
        · simpa using later
        · rw [if_pos rfl,comma]
          rfl
      | false =>
        refine ⟨buffer,?_,if_neg Bool.false_ne_true⟩
        simpa [listTokens] using spells
    obtain ⟨front,spelled,comma⟩ := first
    have apart : (listTokens true params ++ Token.sign ')' :: more).head? ≠
        some (.sign '[') := by
      cases params <;> simp [listTokens]
    obtain ⟨middle,later,checked⟩ := param_checked param _ front spelled apart
    obtain ⟨rest,ends,following⟩ := ih true fuel (Nat.lt_of_succ_lt_succ enough) middle later
    refine ⟨rest,ends,fun node counted => ?_⟩
    have separator : checkComma node.paramCount buffer = pure front := by
      rw [← comma,checkComma]
      by_cases some : node.paramCount > 0
      · rw [if_pos some,if_pos (counted.mpr some)]
      · rw [if_neg some,if_neg fun true => some (counted.mp true)]
    rw [paramLoop,notClosed]
    simp only [run_bind,run_look,value_andThen,separator,run_pure,checked,storeAll,bind_assoc]
    cases ran : (storeParam param).run node with
    | undefined => rfl
    | null node => rfl
    | value result next =>
      have counts := storeParam_counts param node next ran
      have continued := following next ⟨fun _ => counts,fun _ => rfl⟩
      simpa only [value_andThen,run_bind,run_pure] using continued

theorem listTokens_length (started : Bool) (params : List Param) :
    params.length ≤ (listTokens started params).length := by
  induction params generalizing started with
  | nil => exact Nat.zero_le _
  | cons param params ih =>
    have rest := ih true
    simp only [listTokens,List.length_append,paramTokens,List.length_cons]
    omega

theorem strcpyName_count (name : List Char) (node next : Node)
    (copied : strcpyName name node = some next) : next.paramCount = node.paramCount := by
  obtain ⟨_,_,rfl⟩ := Option.map_eq_some_iff.mp copied
  rfl

theorem function_checked (function : Function) (more : List Token) (buffer : List Char)
    (spells : Spells (functionTokens function ++ more) buffer) :
    ∃ rest, Spells more rest ∧ ∀ filter : Filter,
      (filter.node filter.nodeCount).paramCount = 0 →
      (checkFunction zeros buffer).run filter =
        (storeFunction function >>= fun _ => pure rest).run filter := by
  have shape : functionTokens function ++ more = .name function.funcName :: .sign '(' ::
      (listTokens false function.paramSet ++ .sign ')' :: .sign ';' :: more) := by
    simp [functionTokens]
  rw [shape] at spells
  obtain ⟨one,later,named⟩ := checkIdentifier_name strSize function.funcName _ buffer spells
  obtain ⟨two,opened,later⟩ := checkChar_sign '(' _ one later
  have fuel := spells_length _ two later
  have long := listTokens_length false function.paramSet
  rw [List.length_append] at fuel
  obtain ⟨three,later,params⟩ := params_checked function.paramSet false _ (two.length + 1)
    (by omega) two later
  obtain ⟨four,closed,later⟩ := checkChar_sign ')' _ three later
  obtain ⟨last,ended,later⟩ := checkChar_sign ';' _ four later
  refine ⟨last,later,fun filter fresh => ?_⟩
  have inner : ∀ node, filter.current = some node →
      (do
        write (strcpyName function.funcName)
        let buffer ← orNull (checkChar '(' one)
        let buffer ← paramLoop zeros (buffer.length + 1) buffer
        let buffer ← orNull (checkChar ')' buffer)
        orNull (checkChar ';' buffer) : Check Node (List Char)).run node =
      ((do
        write (strcpyName function.funcName)
        storeAll storeParam function.paramSet) >>= fun _ => pure last : Check Node _).run node := by
    intro node current
    have count : node.paramCount = 0 := by
      rw [Filter.current] at current
      split at current
      · rw [← Option.some.inj current]
        exact fresh
      · cases current
    simp only [run_bind,run_write,opened,pure_orNull]
    cases name : strcpyName function.funcName node with
    | none => rfl
    | some next =>
      have zero := strcpyName_count _ node next name
      have loop := params next (by rw [zero,count]; simp)
      simp only [Option.elim_some,value_andThen,run_bind,run_pure] at loop ⊢
      rw [loop]
      cases (storeAll storeParam function.paramSet).run next with
      | undefined => rfl
      | null node => rfl
      | value result node => simp [closed,ended]
  rw [checkFunction,storeFunction,named,orNull_name]
  simp only [bind_assoc]
  cases readable function.funcName with
  | none => rfl
  | some _ => exact within_then _ _ _ _ last countNode filter inner

/-- The functions that are still to come have no parameters yet. -/
def Fresh (filter : Filter) : Prop :=
  ∀ index, filter.nodeCount ≤ index → (filter.node index).paramCount = 0

theorem storeFunction_fresh (function : Function) (filter next : Filter) (fresh : Fresh filter)
    (ran : (storeFunction function).run filter = .value () next) : Fresh next := by
  obtain ⟨node,rfl⟩ := counted_next _ _ _ _ _ filter next ran
  intro index later
  change filter.nodeCount + 1 ≤ index at later
  have apart : index ≠ filter.nodeCount := by omega
  change (Function.update filter.node filter.nodeCount node index).paramCount = 0
  rw [Function.update_of_ne apart]
  exact fresh index (by omega)

theorem checkFunction_brace (more : List Token) (buffer : List Char)
    (spells : Spells (.sign '}' :: more) buffer) : checkFunction zeros buffer = orNull none := by
  rw [checkFunction,checkIdentifier_other strSize _ buffer spells (by simp)]
  rfl

theorem functions_checked (functions : List Function) (more : List Token) (buffer : List Char)
    (spells : Spells (functions.flatMap functionTokens ++ .sign '}' :: more) buffer) :
    ∃ rest, Spells more rest ∧ ∀ filter, Fresh filter →
      (do
        let buffer ← repeatCheck (checkFunction zeros) (buffer.length + 1) buffer
        orNull (checkChar '}' buffer)).run filter =
      (storeAll storeFunction functions >>= fun _ => pure rest).run filter := by
  have long := flatMap_length functionTokens (fun _ => List.cons_ne_nil _ _) functions
  have fuel := spells_length _ buffer spells
  rw [List.length_append] at fuel
  refine repeat_checked (checkFunction zeros) storeFunction functionTokens Fresh ?_ storeFunction_fresh
    (fun function => ⟨_,_,rfl⟩) checkFunction_brace functions more _ (by omega) buffer spells
  intro function more buffer spells
  obtain ⟨rest,later,checked⟩ := function_checked function more buffer spells
  exact ⟨rest,later,fun filter fresh => checked filter (fresh _ (Nat.le_refl _))⟩

def FreshFile (file : FtFile) : Prop :=
  ∀ index, file.filterIndex ≤ index → Fresh (file.filterSet index)

theorem declaration_checked (declaration : Declaration) (more : List Token) (buffer : List Char)
    (spells : Spells (declarationTokens declaration ++ more) buffer) :
    ∃ rest, Spells more rest ∧ ∀ file, FreshFile file →
      (checkFilter zeros buffer).run file =
        (storeDeclaration declaration >>= fun _ => pure rest).run file := by
  have shape : declarationTokens declaration ++ more = .name "filter".toList :: .sign '(' ::
      .name declaration.filterName :: .sign ',' :: .name declaration.filterId :: .sign ')' ::
        .sign '{' :: (declaration.functions.flatMap functionTokens ++ .sign '}' :: more) := by
    simp [declarationTokens]
  rw [shape] at spells
  obtain ⟨one,later,keyword⟩ := checkKeyword_name "filter".toList _ (by decide) _ buffer spells
  rw [if_pos rfl] at keyword
  obtain ⟨two,opened,later⟩ := checkChar_sign '(' _ one later
  obtain ⟨three,later,named⟩ := checkIdentifier_name strSize declaration.filterName _ two later
  obtain ⟨four,comma,later⟩ := checkChar_sign ',' _ three later
  obtain ⟨five,later,numbered⟩ := checkIdentifier_name strSize declaration.filterId _ four later
  obtain ⟨six,closed,later⟩ := checkChar_sign ')' _ five later
  obtain ⟨seven,brace,later⟩ := checkChar_sign '{' _ six later
  obtain ⟨last,ends,functions⟩ := functions_checked declaration.functions more seven later
  refine ⟨last,ends,fun file fresh => ?_⟩
  rw [checkFilter,storeDeclaration,keyword]
  simp only [pure_orNull,pure_bind,opened,named,orNull_name,bind_assoc]
  cases readable declaration.filterName with
  | none => rfl
  | some _ =>
    refine within_then _ _ _ _ last countFilter file fun filter current => ?_
    have begun : Fresh filter := by
      rw [FtFile.current] at current
      split at current
      · rw [← Option.some.inj current]
        exact fresh _ (Nat.le_refl _)
      · cases current
    simp only [comma,pure_orNull,pure_bind,numbered,orNull_name,closed,brace,bind_assoc]
    rw [run_bind,run_bind,run_write]
    cases copiedName : strcpyFilterName declaration.filterName filter with
    | none => rfl
    | some first =>
      obtain ⟨_,_,rfl⟩ := Option.map_eq_some_iff.mp copiedName
      simp only [Option.elim_some,value_andThen]
      cases readable declaration.filterId with
      | none => rfl
      | some _ =>
        simp only [pure_orNull,pure_bind]
        rw [run_bind,run_bind,run_write]
        cases copiedId : strcpyFilterId declaration.filterId _ with
        | none => rfl
        | some second =>
          obtain ⟨_,_,rfl⟩ := Option.map_eq_some_iff.mp copiedId
          exact functions _ begun

theorem checkFilter_other (tokens : List Token) (buffer : List Char)
    (spells : Spells tokens buffer) (other : ∀ value, tokens.head? ≠ some (.name value)) :
    checkFilter zeros buffer = orNull none := by
  rw [checkFilter,checkKeyword_other _ tokens buffer spells other]
  rfl

theorem storeDeclaration_fresh (declaration : Declaration) (file next : FtFile)
    (fresh : FreshFile file)
    (ran : (storeDeclaration declaration).run file = .value () next) : FreshFile next := by
  obtain ⟨filter,rfl⟩ := counted_next _ _ _ _ _ file next ran
  intro index later
  change file.filterIndex + 1 ≤ index at later
  have apart : index ≠ file.filterIndex := by omega
  change Fresh (Function.update file.filterSet file.filterIndex filter index)
  rw [Function.update_of_ne apart]
  exact fresh index (by omega)

theorem parserFt_stored (items : List (Item Declaration)) (buf : List Char)
    (spells : Spells (items.flatMap (itemTokens declarationTokens)) (terminated buf)) :
    parserFt buf = stored ((storeItems items).run .zero) := by
  have escaped := spells_escaped _ _ spells
  have fuel := spells_length _ _ escaped
  have long := flatMap_length (itemTokens declarationTokens)
    (by intro item; cases item <;> exact List.cons_ne_nil _ _) items
  exact items_checked FtFile.toIncludes FtFile.setIncludes (checkFilter zeros) storeDeclaration
    declarationTokens FreshFile declaration_checked storeDeclaration_fresh
    (fun _ _ fresh => fresh) (fun declaration => ⟨_,_,rfl⟩) checkFilter_other items _ (by omega) _
    escaped .zero (fun _ _ _ _ => rfl)

end Fantuan.Gen.FtTrees
