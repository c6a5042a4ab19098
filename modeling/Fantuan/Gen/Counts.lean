import Fantuan.Gen.Layout

/-! The count of an array travels twice, as a parameter and in front of the elements. The
handler goes by the first and the callback by the second; here is on which payloads the two
agree, and on which the callback returns false.
-/
namespace Fantuan.Gen.Counts
open Lib.Bytes StarNet.Packet StarNet.DataStream Declaration Emitted Generator Call Receiving
  Layout

/-- As many bytes as the length of a packet can say. -/
structure Payload (language : Language) where
  bytes : List UInt8
  said : bytes.length < 2^(streamClass language).lengthBits

/-- The array holds exactly the elements that the handler's count parameter says. -/
def Exact (types : Types) (language : Language) (node : Node) (state : RecvState)
    (param : Param) : Prop :=
  ∃ decl size passed target, (callback language node).decl param.paramName = some decl ∧
    decl.pointedSize types = some size ∧ state.lengths param.paramName = some passed ∧
    state.toInt types (callback language node) param.paramSize =
      some (some (passed.toNat : Int)) ∧
    state.cells param.paramName = .pointer target ∧
    Holds state.stream.data (arrayBytes size passed) (size * passed.toNat) target

/-- The payload ends before a value, or before the elements its lengths promise. -/
def TooShort (types : Types) (language : Language) (node : Node) (payload : List UInt8) : Prop :=
  (entries types language inFull node.paramSet payload).length < node.paramSet.length

/-- A callback that has written outside its variables may call the handler with anything. -/
structure Guarded (types : Types) (language : Language) (node : Node)
    (payload : List UInt8) : Prop where
  called : ∀ state, (callback language node).run types payload = .ok state →
    ∀ param ∈ node.paramSet, param.kind language = .array → Exact types language node state param
  refused : TooShort types language node payload →
    (callback language node).run types payload = .error .refused
  wild : (callback language node).run types payload = .error .undefined →
    ∀ param ∈ node.paramSet, param.kind language ≠ .array

def countRead (types : Types) (language : Language) (items : List Entry) (name : String) :
    Option Int := do
  let item ← items.find? fun item => item.param.paramName == name
  let convert ← types.toInt (typeName language item.param.paramType)
  some (convert item.bytes)

/-- The length in front is the count, and the elements' size fits into sixteen bits. -/
def Agrees (types : Types) (language : Language) (items : List Entry) (item : Entry) : Prop :=
  (∀ size, unit types language item.param = some size → item.length * size < 2^16) ∧
    countRead types language items item.param.paramSize = some (item.length : Int)

def Consistent (types : Types) (language : Language) (node : Node) (payload : List UInt8) : Prop :=
  let items := entries types language inSixteenBits node.paramSet payload
  ((∀ item ∈ items, ¬ Overruns language item) ∨
    (∀ param ∈ node.paramSet, param.kind language ≠ .array) ∧
      ¬ TooShort types language node payload) ∧
  (items.length = node.paramSet.length → ∀ item ∈ items, item.param.kind language = .array →
    Agrees types language items item)

section Entries
variable {types : Types} {language : Language} {extent : Nat → Nat}

theorem entry_sizes (param : Param) (bytes rest : List UInt8) (item : Entry)
    (found : entry types language extent param bytes = some (item,rest)) :
    item.param = param ∧ (param.kind language ≠ .scalar →
      ∃ size, unit types language param = some size ∧
        item.bytes.length = extent (item.length * size) ∧ item.length < 2^16) := by
  rw [entry,Option.bind_eq_bind,Option.bind_eq_some_iff] at found
  obtain ⟨size,sized,found⟩ := found
  split at found
  next scalar =>
    obtain ⟨⟨value,after⟩,_,found⟩ := Option.bind_eq_some_iff.mp found
    obtain ⟨rfl,rfl⟩ := Prod.mk.inj (Option.some.inj found)
    exact ⟨rfl,fun other => absurd scalar other⟩
  next counted =>
    obtain ⟨⟨front,after⟩,first,found⟩ := Option.bind_eq_some_iff.mp found
    obtain ⟨⟨elements,last⟩,second,found⟩ := Option.bind_eq_some_iff.mp found
    obtain ⟨rfl,rfl⟩ := Prod.mk.inj (Option.some.inj found)
    rw [cut] at first second
    split at first
    next two =>
      obtain ⟨rfl,rfl⟩ := Prod.mk.inj (Option.some.inj first)
      split at second
      next enough =>
        obtain ⟨rfl,rfl⟩ := Prod.mk.inj (Option.some.inj second)
        have bound := ofLe_lt (bytes.take 2)
        rw [List.length_take_of_le two] at bound
        exact ⟨rfl,fun _ => ⟨size,sized,List.length_take_of_le enough,bound⟩⟩
      · cases second
    · cases first

theorem entries_sizes (params : List Param) (bytes : List UInt8) (item : Entry)
    (listed : item ∈ entries types language extent params bytes) :
    item.param ∈ params ∧ (item.param.kind language ≠ .scalar →
      ∃ size, unit types language item.param = some size ∧
        item.bytes.length = extent (item.length * size) ∧ item.length < 2^16) := by
  induction params generalizing bytes with
  | nil => cases listed
  | cons param params ih =>
    rw [entries] at listed
    split at listed
    next first rest found =>
      obtain ⟨same,sizes⟩ := entry_sizes param bytes rest first found
      rcases List.mem_cons.mp listed with rfl | later
      · exact ⟨same ▸ List.mem_cons_self,same ▸ sizes⟩
      · obtain ⟨member,sizes⟩ := ih rest later
        exact ⟨List.mem_cons_of_mem _ member,sizes⟩
    · cases listed

/-- If no parameter is missing, each has its entry. -/
theorem entries_params (params : List Param) (bytes : List UInt8)
    (complete : (entries types language extent params bytes).length = params.length) :
    (entries types language extent params bytes).map Entry.param = params := by
  induction params generalizing bytes with
  | nil => rfl
  | cons param params ih =>
    rw [entries] at complete ⊢
    split at complete
    next item rest found =>
      rw [List.map_cons,(entry_sizes param bytes rest item found).1,
        ih rest (Nat.succ.inj complete)]
    · cases complete

theorem entry_full (param : Param) (bytes rest : List UInt8) (item : Entry)
    (found : entry types language inSixteenBits param bytes = some (item,rest))
    (small : param.kind language ≠ .scalar → ∀ size, unit types language param = some size →
      item.length * size < 2^16) :
    entry types language inFull param bytes = some (item,rest) := by
  rw [entry,Option.bind_eq_bind,Option.bind_eq_some_iff] at found
  obtain ⟨size,sized,found⟩ := found
  rw [entry,sized,Option.bind_eq_bind,Option.bind_some]
  split at found
  next scalar =>
    rw [if_pos scalar]
    exact found
  next counted =>
    rw [if_neg counted]
    obtain ⟨⟨front,after⟩,first,found⟩ := Option.bind_eq_some_iff.mp found
    obtain ⟨⟨elements,last⟩,second,found⟩ := Option.bind_eq_some_iff.mp found
    have length : item.length = ofLe front :=
      (congrArg Entry.length (Prod.mk.inj (Option.some.inj found)).1).symm
    have extent : inSixteenBits (ofLe front * size) = inFull (ofLe front * size) := by
      rw [← length]
      exact Nat.mod_eq_of_lt (small counted size sized)
    rw [first,Option.bind_eq_bind,Option.bind_some]
    simp only [← extent,second,Option.bind_some]
    exact found

theorem entries_full (params : List Param) (bytes : List UInt8)
    (complete : (entries types language inSixteenBits params bytes).length = params.length)
    (small : ∀ item ∈ entries types language inSixteenBits params bytes,
      item.param.kind language ≠ .scalar → ∀ size, unit types language item.param = some size →
        item.length * size < 2^16) :
    entries types language inFull params bytes =
      entries types language inSixteenBits params bytes := by
  induction params generalizing bytes with
  | nil => rfl
  | cons param params ih =>
    rw [entries] at complete small ⊢
    split at complete
    next item rest found =>
      rw [found] at small
      have same := (entry_sizes param bytes rest item found).1
      have whole := entry_full param bytes rest item found
        (same ▸ small item List.mem_cons_self)
      have later := ih rest (Nat.succ.inj complete)
        fun other member => small other (List.mem_cons_of_mem _ member)
      rw [entries,whole,found]
      exact congrArg (item :: ·) later
    · cases complete

end Entries

section Runs
variable {types : Types} {language : Language} {node : Node}

theorem stored_frame (payload : List UInt8) (item : Entry) (state next : RecvState)
    (stored : Stored types language payload item state)
    (cells : next.cells item.param.paramName = state.cells item.param.paramName)
    (lengths : next.lengths item.param.paramName = state.lengths item.param.paramName) :
    Stored types language payload item next := by
  refine ⟨?_,?_⟩
  · rw [cells]
    exact stored.scalar
  · rw [cells,lengths]
    exact stored.array

/-- What the statements of some parameters do with any bytes. -/
def RunsOn (types : Types) (language : Language) (node : Node) (params : List Param)
    (bytes : List UInt8) (state : RecvState) : Prop :=
  let items := entries types language inSixteenBits params bytes
  let ran := (params.flatMap (recvStatements language)).foldlM
    (recvStatement types (callback language node)) state
  ((∃ item ∈ items, Overruns language item) ∧ ran = .error .undefined) ∨
  ((∀ item ∈ items, ¬ Overruns language item) ∧
    (items.length < params.length ∧ ran = .error .refused ∨
      items.length = params.length ∧ ∃ next, ran = .ok next ∧
        next.stream.data = state.stream.data ∧
        (∀ item ∈ items, Stored types language state.stream.data item next) ∧
        ∀ name, name ∉ params.map Param.paramName →
          next.cells name = state.cells name ∧ next.lengths name = state.lengths name))

theorem valued_next (compiles : Compiles types language node) (param : Param)
    (listed : param ∈ node.paramSet) (payload : List UInt8) (item : Entry)
    (same : item.param = param) (state next : RecvState) (valued : Valued language node state)
    (stored : Stored types language payload item next)
    (frame : ∀ other, other ≠ param.paramName → next.cells other = state.cells other) :
    Valued language node next := by
  intro other member scalar
  by_cases named : other.paramName = param.paramName
  · have names := compiles_names compiles
    have one := find_name node.paramSet names other member
    have two := find_name node.paramSet names param listed
    rw [named,two] at one
    obtain rfl := Option.some.inj one
    subst same
    exact ⟨_,stored.scalar scalar⟩
  · rw [frame _ named]
    exact valued other member scalar

theorem params_read (compiles : Compiles types language node) (params : List Param)
    (part : params ⊆ node.paramSet) (names : (params.map Param.paramName).Nodup)
    (bytes : List UInt8) (state : RecvState) (valued : Valued language node state)
    (untouched : ∀ param ∈ params, state.cells param.paramName =
      (recvVariable language param).form.initial)
    (ahead : Ahead state.stream bytes) : RunsOn types language node params bytes state := by
  induction params generalizing bytes state with
  | nil =>
    right
    exact ⟨fun item none => absurd none List.not_mem_nil,
      .inr ⟨rfl,state,rfl,rfl,fun item none => absurd none List.not_mem_nil,fun _ _ => ⟨rfl,rfl⟩⟩⟩
  | cons param params ih =>
    obtain ⟨listed,part⟩ := List.cons_subset.mp part
    obtain ⟨fresh,names⟩ := List.nodup_cons.mp names
    have reads := param_reads compiles param listed bytes state valued
      (untouched param List.mem_cons_self) ahead
    rw [Reads] at reads
    rw [RunsOn,entries,List.flatMap_cons,List.foldlM_append]
    cases found : entry types language inSixteenBits param bytes with
    | none =>
      rw [found] at reads
      right
      refine ⟨fun item none => absurd none List.not_mem_nil,.inl ⟨Nat.succ_pos _,?_⟩⟩
      rw [reads]
      rfl
    | some pair =>
      obtain ⟨item,rest⟩ := pair
      rw [found] at reads
      obtain ⟨same,wild,safe⟩ := reads
      by_cases overruns : Overruns language item
      · left
        refine ⟨⟨item,List.mem_cons_self,overruns⟩,?_⟩
        rw [wild overruns]
        rfl
      · obtain ⟨middle,ran,later,data,stored,frame⟩ := safe overruns
        have others : ∀ other ∈ params, other.paramName ≠ param.paramName := by
          intro other member named
          exact fresh (List.mem_map.mpr ⟨other,member,named⟩)
        have following := ih part names rest middle
          (valued_next compiles param listed _ item same state middle valued stored
            fun other different => (frame other different).1)
          (fun other member => (frame _ (others other member)).1.trans
            (untouched other (List.mem_cons_of_mem _ member))) later
        rw [RunsOn] at following
        rw [ran,ok_bind]
        rcases following with ⟨⟨other,member,overran⟩,stopped⟩ |
            ⟨inside,⟨short,stopped⟩ | ⟨complete,next,ends,nextData,all,nextFrame⟩⟩
        · left
          exact ⟨⟨other,List.mem_cons_of_mem _ member,overran⟩,stopped⟩
        all_goals
          right
          refine ⟨?_,?_⟩
          · intro other member
            rcases List.mem_cons.mp member with rfl | member
            · exact overruns
            · exact inside other member
        · exact .inl ⟨Nat.succ_lt_succ short,stopped⟩
        · refine .inr ⟨congrArg Nat.succ complete,next,ends,nextData.trans data,?_,?_⟩
          · intro other member
            rcases List.mem_cons.mp member with rfl | member
            · subst same
              exact stored_frame _ other middle next stored (nextFrame _ fresh).1
                (nextFrame _ fresh).2
            · rw [← data]
              exact all other member
          · intro name absent
            rw [List.map_cons,List.mem_cons,not_or] at absent
            have kept := nextFrame name absent.2
            have before := frame name absent.1
            exact ⟨kept.1.trans before.1,kept.2.trans before.2⟩

theorem start_read (compiles : Compiles types language node) (payload : Payload language) :
    RunsOn types language node node.paramSet payload.bytes
      ((callback language node).start payload.bytes) := by
  have cells : ∀ param ∈ node.paramSet,
      ((callback language node).start payload.bytes).cells param.paramName =
        (recvVariable language param).form.initial := by
    intro param listed
    simp only [Callback.start,variable_decl compiles param listed]
  refine params_read compiles node.paramSet (fun _ member => member) (compiles_names compiles)
    payload.bytes _ ?_ cells (new_ahead _ payload.bytes payload.said)
  intro param listed scalar
  refine ⟨none,?_⟩
  rw [cells param listed,recvVariable,scalar]
  rfl

/-- The array of an entry is exact if and only if its two counts agree. -/
theorem exact_agrees (compiles : Compiles types language node) (payload : List UInt8)
    (complete : (entries types language inSixteenBits node.paramSet payload).length =
      node.paramSet.length) (state : RecvState) (data : state.stream.data = payload)
    (stored : ∀ item ∈ entries types language inSixteenBits node.paramSet payload,
      Stored types language payload item state)
    (item : Entry) (listed : item ∈ entries types language inSixteenBits node.paramSet payload)
    (isArray : item.param.kind language = .array) :
    Exact types language node state item.param ↔
      Agrees types language (entries types language inSixteenBits node.paramSet payload) item := by
  obtain ⟨member,sizes⟩ := entries_sizes node.paramSet payload item listed
  obtain ⟨size,sized,bytes,_⟩ := sizes (by simp [isArray])
  obtain ⟨size',passed,target,sized',assigned,length,cell,holds⟩ :=
    (stored item listed).array isArray
  rw [sized] at sized'
  obtain rfl := Option.some.inj sized'
  have pointed : (recvVariable language item.param).pointedSize types = some size := by
    rw [unit,if_neg (by simp [isArray])] at sized
    simp [recvVariable,isArray,Decl.pointedSize,sized]
  obtain ⟨count,countMember,named,scalar,number⟩ := compiles.counted item.param member isArray
  obtain ⟨convert,number⟩ := Option.isSome_iff_exists.mp number
  have params := entries_params node.paramSet payload complete
  have found : (entries types language inSixteenBits node.paramSet payload).find?
      (fun other => other.param.paramName == item.param.paramSize) =
        (entries types language inSixteenBits node.paramSet payload).find?
          ((fun param : Param => param.paramName == count.paramName) ∘ Entry.param) := by
    rw [named]
    rfl
  have counted := find_name node.paramSet (compiles_names compiles) count countMember
  nth_rewrite 1 [← params] at counted
  rw [List.find?_map] at counted
  obtain ⟨countItem,countFound,same⟩ := Option.map_eq_some_iff.mp counted
  have countListed := List.mem_of_find?_eq_some countFound
  have countCell := (stored countItem countListed).scalar (same ▸ scalar)
  rw [same] at countCell
  have converted := count_converted compiles count countMember scalar convert number state _
    countCell
  rw [named] at converted
  have read : countRead types language
      (entries types language inSixteenBits node.paramSet payload) item.param.paramSize =
        some (convert countItem.bytes) := by
    rw [countRead,found,countFound,Option.bind_eq_bind,Option.bind_some,same,number]
    rfl
  rw [Agrees,read]
  constructor
  · rintro ⟨decl,size',passed',target',declared,pointed',assigned',value,cell',exact⟩
    rw [variable_decl compiles item.param member] at declared
    obtain rfl := Option.some.inj declared
    rw [pointed] at pointed'
    obtain rfl := Option.some.inj pointed'
    rw [assigned] at assigned'
    obtain rfl := Option.some.inj assigned'
    rw [cell] at cell'
    obtain rfl := Cell.pointer.inj cell'
    rw [length,data] at exact
    have full := holds.mp exact
    constructor
    · intro other known
      rw [sized] at known
      obtain rfl := Option.some.inj known
      rw [bytes,inSixteenBits,Nat.mul_comm] at full
      omega
    · rw [converted,length] at value
      exact congrArg some (Option.some.inj (Option.some.inj value))
  · rintro ⟨small,value⟩
    refine ⟨_,size,passed,target,variable_decl compiles item.param member,pointed,assigned,?_,cell,
      ?_⟩
    · rw [converted,length,← value]
      rfl
    · rw [length,data,holds,bytes,inSixteenBits,Nat.mod_eq_of_lt (small size sized),Nat.mul_comm]

theorem agrees_full (payload : List UInt8)
    (complete : (entries types language inSixteenBits node.paramSet payload).length =
      node.paramSet.length)
    (agree : ∀ item ∈ entries types language inSixteenBits node.paramSet payload,
      item.param.kind language = .array → Agrees types language
        (entries types language inSixteenBits node.paramSet payload) item) :
    ¬ TooShort types language node payload := by
  have full : entries types language inFull node.paramSet payload =
      entries types language inSixteenBits node.paramSet payload := by
    apply entries_full node.paramSet payload complete
    intro item listed counted size sized
    cases kind : item.param.kind language with
    | scalar => exact absurd kind counted
    | array => exact (agree item listed kind).1 size sized
    | string =>
      obtain ⟨_,_,_,small⟩ := (entries_sizes node.paramSet payload item listed).2 counted
      rw [unit,if_pos kind] at sized
      obtain rfl := Option.some.inj sized
      omega
  rw [TooShort,full,complete]
  exact Nat.lt_irrefl _

/-- On which payloads the handler can trust its counts. -/
theorem guarded_consistent (types : Types) (language : Language) (node : Node)
    (compiles : Compiles types language node) (payload : Payload language) :
    Guarded types language node payload.bytes ↔
      Consistent types language node payload.bytes := by
  have ran : (callback language node).run types payload.bytes =
      (node.paramSet.flatMap (recvStatements language)).foldlM
        (recvStatement types (callback language node))
          ((callback language node).start payload.bytes) := rfl
  have reads := start_read compiles payload
  rw [RunsOn,← ran] at reads
  rcases reads with ⟨⟨item,listed,overruns⟩,wild⟩ |
      ⟨inside,⟨short,refused⟩ | ⟨complete,state,ends,data,stored,_⟩⟩
  · constructor
    · intro guarded
      have noArrays := guarded.wild wild
      refine ⟨.inr ⟨noArrays,?_⟩,?_⟩
      · intro short
        rw [guarded.refused short] at wild
        cases wild
      · intro _ other member isArray
        exact absurd isArray
          (noArrays other.param (entries_sizes node.paramSet payload.bytes other member).1)
    · rintro ⟨inside | ⟨noArrays,whole⟩,_⟩
      · exact absurd overruns (inside item listed)
      · refine ⟨?_,fun short => absurd short whole,fun _ => noArrays⟩
        intro state ends
        rw [wild] at ends
        cases ends
  · constructor
    · intro _
      exact ⟨.inl inside,fun complete => absurd complete (Nat.ne_of_lt short)⟩
    · intro _
      refine ⟨?_,fun _ => refused,?_⟩
      · intro state ends
        rw [refused] at ends
        cases ends
      · intro wild
        rw [refused] at wild
        cases wild
  · have exacts := exact_agrees compiles payload.bytes complete state data stored
    constructor
    · intro guarded
      refine ⟨.inl inside,fun _ item listed isArray => ?_⟩
      exact (exacts item listed isArray).mp (guarded.called state ends item.param
        (entries_sizes node.paramSet payload.bytes item listed).1 isArray)
    · rintro ⟨_,agree⟩
      refine ⟨?_,fun short => absurd short (agrees_full payload.bytes complete (agree complete)),?_⟩
      · intro other ends' param member isArray
        rw [ends] at ends'
        obtain rfl := Except.ok.inj ends'
        rw [← entries_params node.paramSet payload.bytes complete] at member
        obtain ⟨item,listed,rfl⟩ := List.mem_map.mp member
        exact (exacts item listed isArray).mpr (agree complete item listed isArray)
      · intro wild
        rw [ends] at wild
        cases wild

end Runs

def avatars : Types where
  sizeOf := fun name => [("uint8",1),("int32",4),("ftdAvatar",2)].lookup name
  toInt := fun name => if name = "uint8" then some fun bytes => ofLe bytes else none

def avatarListAck : Node :=
  ⟨"AvatarListAck",[⟨"int32","iReturn",""⟩,⟨"uint8","iAvatarCount",""⟩,
    ⟨"Avatar","arrayAvatar","iAvatarCount"⟩]⟩

theorem avatarListAck_compiles : Compiles avatars .ft avatarListAck := by
  refine ⟨by decide,by decide,?_⟩
  intro param listed isArray
  refine ⟨⟨"uint8","iAvatarCount",""⟩,by decide,?_,by decide,by decide⟩
  simp only [avatarListAck,List.mem_cons,List.not_mem_nil,or_false] at listed
  rcases listed with rfl | rfl | rfl
  · exact absurd isArray (by decide)
  · exact absurd isArray (by decide)
  · rfl

/-- One avatar, and both counts say so. -/
theorem guarded_consistent_oneAvatar :
    Guarded avatars .ft avatarListAck [0,0,0,0,1,1,0,7,7] := by
  refine (guarded_consistent avatars .ft avatarListAck avatarListAck_compiles
    ⟨[0,0,0,0,1,1,0,7,7],by decide⟩).mpr ⟨.inl (by decide),fun _ item listed isArray => ?_⟩
  have last : item = ⟨⟨"Avatar","arrayAvatar","iAvatarCount"⟩,1,[7,7]⟩ := by
    revert item
    decide
  subst last
  refine ⟨?_,by decide⟩
  intro size sized
  have two : unit avatars .ft ⟨"Avatar","arrayAvatar","iAvatarCount"⟩ = some 2 := rfl
  rw [two] at sized
  obtain rfl := Option.some.inj sized
  decide

/-- The parameter says two avatars, and there is one. -/
theorem guarded_twoCounts :
    ¬ ∀ (types : Types) (language : Language) (node : Node), Compiles types language node →
      ∀ payload : Payload language, Guarded types language node payload.bytes := by
  intro claim
  have guarded := claim avatars .ft avatarListAck avatarListAck_compiles
    ⟨[0,0,0,0,2,1,0,7,7],by decide⟩
  obtain ⟨state,ran,counted,passed⟩ : ∃ state,
      (callback .ft avatarListAck).run avatars [0,0,0,0,2,1,0,7,7] = .ok state ∧
      state.toInt avatars (callback .ft avatarListAck) "iAvatarCount" = some (some 2) ∧
      state.lengths "arrayAvatar" = some 1 :=
    ⟨_,rfl,rfl,rfl⟩
  obtain ⟨_,_,length,_,_,_,assigned,value,_⟩ := guarded.called state ran
    ⟨"Avatar","arrayAvatar","iAvatarCount"⟩ (by decide) (by decide)
  change state.lengths "arrayAvatar" = some length at assigned
  rw [passed] at assigned
  obtain rfl := Option.some.inj assigned
  rw [counted] at value
  exact absurd value (by decide)

end Fantuan.Gen.Counts
