import Fantuan.Lib.Run
import Fantuan.Lib.Table
import Fantuan.Tool.StateMachine
import Mathlib.Logic.Function.Basic

/-! The class StateMachine, whose states are tables on the heap, beside the partial map from states and
events to targets that it is meant to be. There is no result where a table is left or a table that was
deleted is used.
-/
namespace Fantuan.Tool.StateTables
open Lib.Run Lib.Table

def fsmStateMax := 256

def invalidFsmState : Int := -1

section Relation

/-- The map and the state that it is in. -/
structure Relation where
  current : Int
  target : Int → Int → Option Int

/-- The first target counts. INVALID_FSM_STATE is none. -/
def Relation.register (relation : Relation) (state event target : Int) : Relation :=
  if target = invalidFsmState ∨ (relation.target state event).isSome then relation
  else {relation with
    target := Function.update relation.target state
      (Function.update (relation.target state) event (some target))}

def Relation.unregister (relation : Relation) (state event : Int) : Relation :=
  {relation with
    target := Function.update relation.target state
      (Function.update (relation.target state) event none)}

def Relation.drop (relation : Relation) (state : Int) : Relation :=
  {relation with target := Function.update relation.target state fun _ => none}

def Relation.answer (relation : Relation) (event : Int) : Int :=
  (relation.target relation.current event).getD invalidFsmState

def Relation.move (relation : Relation) (event : Int) (change : Bool) : Relation :=
  match change, relation.target relation.current event with
  | true, some target => {relation with current := target}
  | _, _ => relation

end Relation

structure FSMState where
  iState : Int
  outputState : List Int
  sized : outputState.length = fsmStateMax

def FSMState.new (iState : Int) : FSMState :=
  ⟨iState,List.replicate fsmStateMax invalidFsmState,List.length_replicate⟩

/-- m_arrayOutputState[iEvent], read and written. -/
def FSMState.getOutputState (state : FSMState) (iEvent : Int) : Option Int :=
  if iEvent < 0 then none else state.outputState[iEvent.toNat]?

def FSMState.set (state : FSMState) (iEvent iOutputState : Int) : Option FSMState :=
  if iEvent < 0 ∨ fsmStateMax ≤ iEvent then none
  else some {state with
    outputState := state.outputState.set iEvent.toNat iOutputState
    sized := List.length_set.trans state.sized}

def FSMState.addTransition (iEvent iOutputState : Int) (state : FSMState) : Option FSMState :=
  if fsmStateMax ≤ iEvent then some state
  else
    match state.getOutputState iEvent with
    | none => none
    | some output => if output ≠ invalidFsmState then some state else state.set iEvent iOutputState

def FSMState.deleteTransition (iEvent : Int) (state : FSMState) : Option FSMState :=
  if fsmStateMax ≤ iEvent then some state else state.set iEvent invalidFsmState

/-- The pointers are numbers that are given out once. -/
structure Machine where
  currState : Int
  stateMap : Map Int Nat
  heap : Nat → Option FSMState
  fresh : Nat

def Machine.new (iState : Int) : Machine := ⟨iState,∅,fun _ => none,0⟩

def Machine.getFSMState (machine : Machine) (iState : Int) : Option Nat := find iState machine.stateMap

def Machine.forceGetFSMState (machine : Machine) (iState : Int) : Nat × Machine :=
  match machine.getFSMState iState with
  | some pState => (pState,machine)
  | none =>
    (machine.fresh,{machine with
      stateMap := insert iState machine.fresh machine.stateMap
      heap := Function.update machine.heap machine.fresh (some (.new iState))
      fresh := machine.fresh + 1})

def Machine.method (machine : Machine) (pState : Nat) (method : FSMState → Option FSMState) : Option Machine :=
  (machine.heap pState).bind fun state => (method state).map fun state =>
    {machine with heap := Function.update machine.heap pState (some state)}

def Machine.deleteFSMState (machine : Machine) (iState : Int) : Machine :=
  match machine.getFSMState iState with
  | some pState =>
    {machine with
      stateMap := erase iState machine.stateMap
      heap := Function.update machine.heap pState none}
  | none => machine

def Machine.setCurrState (machine : Machine) (iState : Int) : Machine := {machine with currState := iState}

def Machine.stateTransition (machine : Machine) (iEvent : Int) (bNeedChange : Bool) : Option (Int × Machine) :=
  let iNewState :=
    match machine.getFSMState machine.currState with
    | some pState => (machine.heap pState).bind fun state => state.getOutputState iEvent
    | none => some invalidFsmState
  iNewState.map fun iNewState =>
    (iNewState,
      if bNeedChange ∧ iNewState ≠ invalidFsmState then machine.setCurrState iNewState else machine)

inductive Action where
  | forceGetFSMState (iState : Int)
  | addTransition (pState : Nat) (iEvent iOutputState : Int)
  | deleteTransition (pState : Nat) (iEvent : Int)
  | deleteFSMState (iState : Int)
  | setCurrState (iState : Int)
  | stateTransition (iEvent : Int) (bNeedChange : Bool)
  deriving DecidableEq

/-- The map and the machine after the same calls. -/
abbrev Both := Relation × Machine

/-- What a method of an FSMState means for the map. -/
def onState (s : Both) (pState : Nat) (change : Relation → Int → Relation) : Relation :=
  match s.2.heap pState with
  | some state => change s.1 state.iState
  | none => s.1

def step (s : Both) : Action → Both
  | .forceGetFSMState iState => (s.1,(s.2.forceGetFSMState iState).2)
  | .addTransition pState iEvent iOutputState =>
    (onState s pState fun relation state => relation.register state iEvent iOutputState,
      (s.2.method pState (FSMState.addTransition iEvent iOutputState)).getD s.2)
  | .deleteTransition pState iEvent =>
    (onState s pState fun relation state => relation.unregister state iEvent,
      (s.2.method pState (FSMState.deleteTransition iEvent)).getD s.2)
  | .deleteFSMState iState => (s.1.drop iState,s.2.deleteFSMState iState)
  | .setCurrState iState => ({s.1 with current := iState},s.2.setCurrState iState)
  | .stateTransition iEvent bNeedChange =>
    (s.1.move iEvent bNeedChange,((s.2.stateTransition iEvent bNeedChange).map Prod.snd).getD s.2)

/-- No table is left, a transition returns what the map says, and the state is the one of the map. -/
def Agrees (s : Both) (action : Action) : Prop :=
  (step s action).2.currState = (step s action).1.current ∧
  match action with
  | .forceGetFSMState iState => ∃ state, (s.2.forceGetFSMState iState).2.heap
      (s.2.forceGetFSMState iState).1 = some state ∧ state.iState = iState
  | .addTransition pState iEvent iOutputState =>
    ∃ next, s.2.method pState (FSMState.addTransition iEvent iOutputState) = some next
  | .deleteTransition pState iEvent => ∃ next, s.2.method pState (FSMState.deleteTransition iEvent) = some next
  | .stateTransition iEvent bNeedChange =>
    ∃ next, s.2.stateTransition iEvent bNeedChange = some (s.1.answer iEvent,next)
  | _ => True

/-- A method is called of an FSMState that was not deleted and with no negative event, and a transition
from a state that has an FSMState with an event of its table. -/
def Within (s : Both) : Action → Prop
  | .addTransition pState iEvent _ | .deleteTransition pState iEvent => (s.2.heap pState).isSome ∧ 0 ≤ iEvent
  | .stateTransition iEvent _ =>
    (s.2.getFSMState s.2.currState).isSome → 0 ≤ iEvent ∧ iEvent < fsmStateMax
  | _ => True

/-- An entry of the table is the target that was registered. -/
def Tabled (state : FSMState) (target : Int → Option Int) : Prop :=
  ∀ event : Nat, event < fsmStateMax → state.outputState[event]? = some ((target event).getD invalidFsmState)

/-- The FSMStates are those that the map of the machine points to, each under its state. -/
structure Sound (s : Both) : Prop where
  current : s.2.currState = s.1.current
  fresh : ∀ pState state, s.2.heap pState = some state → pState < s.2.fresh
  listed : ∀ pState state, s.2.heap pState = some state → find state.iState s.2.stateMap = some pState
  live : ∀ iState pState, find iState s.2.stateMap = some pState →
    ∃ state, s.2.heap pState = some state ∧ state.iState = iState
  entries : ∀ pState state, s.2.heap pState = some state → Tabled state (s.1.target state.iState)
  absent : ∀ iState, find iState s.2.stateMap = none → ∀ event, s.1.target iState event = none
  valid : ∀ state event, s.1.target state event ≠ some invalidFsmState

theorem register_target (relation : Relation) (state event target other next : Int) :
    (relation.register state event target).target other next =
      if other = state ∧ next = event ∧ target ≠ invalidFsmState ∧ relation.target state event = none then
        some target
      else relation.target other next := by
  rw [Relation.register]
  by_cases kept : target = invalidFsmState ∨ (relation.target state event).isSome
  · rw [if_pos kept,if_neg]
    rintro ⟨_,_,valid,unregistered⟩
    rcases kept with invalid | registered
    · exact valid invalid
    · rw [unregistered] at registered
      cases registered
  · rw [if_neg kept]
    obtain ⟨valid,unregistered⟩ := not_or.mp kept
    have none : relation.target state event = none := Option.not_isSome_iff_eq_none.mp unregistered
    by_cases same : other = state
    · subst same
      by_cases equal : next = event
      · subst equal
        simp [valid,none]
      · simp [equal]
    · simp [same]

theorem unregister_target (relation : Relation) (state event other next : Int) :
    (relation.unregister state event).target other next =
      if other = state ∧ next = event then none else relation.target other next := by
  rw [Relation.unregister]
  by_cases same : other = state
  · subst same
    by_cases equal : next = event
    · subst equal
      simp
    · simp [equal]
  · simp [same]

theorem drop_target (relation : Relation) (state other next : Int) :
    (relation.drop state).target other next = if other = state then none else relation.target other next := by
  rw [Relation.drop]
  by_cases same : other = state
  · subst same
    simp
  · simp [same]

@[simp] theorem register_current (relation : Relation) (state event target : Int) :
    (relation.register state event target).current = relation.current := by
  rw [Relation.register]
  split <;> rfl

theorem register_valid (relation : Relation) (state event target : Int)
    (valid : ∀ state event, relation.target state event ≠ some invalidFsmState) (other next : Int) :
    (relation.register state event target).target other next ≠ some invalidFsmState := by
  rw [register_target]
  split
  next registered =>
    intro same
    exact registered.2.2.1 (Option.some.inj same)
  next => exact valid other next

section
variable (state : FSMState) (iEvent : Int)

theorem getOutputState_outside (outside : iEvent < 0 ∨ fsmStateMax ≤ iEvent) :
    state.getOutputState iEvent = none := by
  rw [FSMState.getOutputState]
  split
  · rfl
  · rw [List.getElem?_eq_none_iff,state.sized]
    omega

theorem getOutputState_inside (inside : 0 ≤ iEvent) :
    state.getOutputState iEvent = state.outputState[iEvent.toNat]? := by
  rw [FSMState.getOutputState,if_neg (Int.not_lt.mpr inside)]

theorem set_inside (value : Int) (above : 0 ≤ iEvent) (below : iEvent < fsmStateMax) :
    ∃ next, state.set iEvent value = some next ∧ next.iState = state.iState ∧
      next.outputState = state.outputState.set iEvent.toNat value := by
  rw [FSMState.set,if_neg (by omega)]
  exact ⟨_,rfl,rfl,rfl⟩

theorem set_outside (value : Int) (outside : iEvent < 0) : state.set iEvent value = none := by
  rw [FSMState.set,if_pos (.inl outside)]

variable (target next : Int → Option Int) (tabled : Tabled state target) (above : 0 ≤ iEvent)
include tabled above

theorem getOutputState_tabled (below : iEvent < fsmStateMax) :
    state.getOutputState iEvent = some ((target iEvent).getD invalidFsmState) := by
  have entry := tabled iEvent.toNat (by omega)
  rw [Int.toNat_of_nonneg above] at entry
  rw [getOutputState_inside state iEvent above]
  exact entry

theorem set_tabled (value : Int) (below : iEvent < fsmStateMax) (after : (next iEvent).getD invalidFsmState = value)
    (others : ∀ other, other ≠ iEvent → next other = target other) :
    ∃ written, state.set iEvent value = some written ∧ written.iState = state.iState ∧ Tabled written next := by
  obtain ⟨written,stored,same,table⟩ := set_inside state iEvent value above below
  refine ⟨written,stored,same,?_⟩
  intro event inside
  rw [table,List.getElem?_set]
  split
  next here =>
    have equal : iEvent = event := by
      rw [← here]
      exact (Int.toNat_of_nonneg above).symm
    rw [← equal,after,if_pos]
    rw [here,state.sized]
    exact inside
  next there =>
    rw [others event (by omega)]
    exact tabled event inside

omit above in
theorem beyond_tabled (beyond : fsmStateMax ≤ iEvent) (others : ∀ other, other ≠ iEvent → next other = target other) :
    Tabled state next := by
  intro event inside
  rw [others event (by omega)]
  exact tabled event inside

end

section
variable (relation : Relation) (state : FSMState) (iEvent : Int) (above : 0 ≤ iEvent)
  (tabled : Tabled state (relation.target state.iState))
include above tabled

theorem addTransition_tabled (iOutputState : Int)
    (valid : ∀ state event, relation.target state event ≠ some invalidFsmState) :
    ∃ next, state.addTransition iEvent iOutputState = some next ∧ next.iState = state.iState ∧
      Tabled next ((relation.register state.iState iEvent iOutputState).target state.iState) := by
  have others : ∀ other, other ≠ iEvent →
      (relation.register state.iState iEvent iOutputState).target state.iState other =
        relation.target state.iState other := by
    intro other different
    rw [register_target,if_neg fun registered => different registered.2.1]
  rw [FSMState.addTransition]
  by_cases beyond : fsmStateMax ≤ iEvent
  · rw [if_pos beyond]
    exact ⟨state,rfl,rfl,beyond_tabled state iEvent _ _ tabled beyond others⟩
  · rw [if_neg beyond,getOutputState_tabled state iEvent _ tabled above (Int.not_le.mp beyond)]
    cases registered : relation.target state.iState iEvent with
    | some output =>
      have some : output ≠ invalidFsmState := by
        intro same
        exact valid state.iState iEvent (registered.trans (congrArg Option.some same))
      have kept : relation.register state.iState iEvent iOutputState = relation := by
        rw [Relation.register,registered,if_pos (.inr rfl)]
      dsimp only [Option.getD_some]
      rw [if_pos some,kept]
      exact ⟨state,rfl,rfl,tabled⟩
    | none =>
      dsimp only [Option.getD_none]
      rw [if_neg (fun different => different rfl)]
      apply set_tabled state iEvent _ _ tabled above iOutputState (Int.not_le.mp beyond) _ others
      rw [register_target,registered]
      split
      · rfl
      next invalid =>
        by_contra different
        exact invalid ⟨rfl,rfl,fun same => different same.symm,rfl⟩

theorem deleteTransition_tabled :
    ∃ next, state.deleteTransition iEvent = some next ∧ next.iState = state.iState ∧
      Tabled next ((relation.unregister state.iState iEvent).target state.iState) := by
  have others : ∀ other, other ≠ iEvent →
      (relation.unregister state.iState iEvent).target state.iState other =
        relation.target state.iState other := by
    intro other different
    rw [unregister_target,if_neg fun dropped => different dropped.2]
  rw [FSMState.deleteTransition]
  by_cases beyond : fsmStateMax ≤ iEvent
  · rw [if_pos beyond]
    exact ⟨state,rfl,rfl,beyond_tabled state iEvent _ _ tabled beyond others⟩
  · rw [if_neg beyond]
    apply set_tabled state iEvent _ _ tabled above invalidFsmState (Int.not_le.mp beyond) _ others
    rw [unregister_target,if_pos ⟨rfl,rfl⟩]
    rfl

end

private theorem update_cases (heap : Nat → Option FSMState) (pState other : Nat) (value : Option FSMState)
    (found : FSMState) (present : Function.update heap pState value other = some found) :
    other = pState ∧ value = some found ∨ other ≠ pState ∧ heap other = some found := by
  by_cases equal : other = pState
  · rw [equal,Function.update_self] at present
    exact .inl ⟨equal,present⟩
  · rw [Function.update_of_ne equal] at present
    exact .inr ⟨equal,present⟩

theorem method_sound (s : Both) (pState : Nat) (state next : FSMState) (relation : Relation) (sound : Sound s)
    (live : s.2.heap pState = some state) (same : next.iState = state.iState)
    (current : relation.current = s.1.current) (tabled : Tabled next (relation.target state.iState))
    (others : ∀ other, other ≠ state.iState → relation.target other = s.1.target other)
    (valid : ∀ state event, relation.target state event ≠ some invalidFsmState) :
    Sound (relation,{s.2 with heap := Function.update s.2.heap pState (some next)}) := by
  have heap : ∀ other found, Function.update s.2.heap pState (some next) other = some found →
      other = pState ∧ found = next ∨ other ≠ pState ∧ s.2.heap other = some found := by
    intro other found present
    obtain ⟨equal,stored⟩ | old := update_cases s.2.heap pState other (some next) found present
    · exact .inl ⟨equal,(Option.some.inj stored).symm⟩
    · exact .inr old
  constructor
  case current => exact sound.current.trans current.symm
  case fresh =>
    intro other found present
    obtain ⟨rfl,rfl⟩ | ⟨_,present⟩ := heap other found present
    · exact sound.fresh other state live
    · exact sound.fresh other found present
  case listed =>
    intro other found present
    obtain ⟨rfl,rfl⟩ | ⟨_,present⟩ := heap other found present
    · rw [same]
      exact sound.listed other state live
    · exact sound.listed other found present
  case live =>
    intro iState other listed
    obtain ⟨found,present,named⟩ := sound.live iState other listed
    by_cases equal : other = pState
    · subst equal
      obtain rfl : found = state := Option.some.inj (present.symm.trans live)
      exact ⟨next,Function.update_self ..,same.trans named⟩
    · refine ⟨found,?_,named⟩
      change Function.update s.2.heap pState (some next) other = some found
      rw [Function.update_of_ne equal]
      exact present
  case entries =>
    intro other found present
    obtain ⟨rfl,rfl⟩ | ⟨different,present⟩ := heap other found present
    · rw [same]
      exact tabled
    · have apart : found.iState ≠ state.iState := by
        intro equal
        have listed := sound.listed other found present
        rw [equal,sound.listed pState state live] at listed
        exact different (Option.some.inj listed).symm
      change Tabled found (relation.target found.iState)
      rw [others found.iState apart]
      exact sound.entries other found present
  case absent =>
    intro iState missing event
    have apart : iState ≠ state.iState := by
      intro equal
      have listed := sound.listed pState state live
      change find iState s.2.stateMap = none at missing
      rw [← equal,missing] at listed
      cases listed
    change relation.target iState event = none
    rw [others iState apart]
    exact sound.absent iState missing event
  case valid => exact valid

theorem new_sound (iState : Int) : Sound (⟨iState,fun _ _ => none⟩,.new iState) := by
  constructor
  case current => rfl
  case fresh =>
    intro pState state present
    cases present
  case listed =>
    intro pState state present
    cases present
  case live =>
    intro state pState listed
    cases (find_empty state).symm.trans listed
  case entries =>
    intro pState state present
    cases present
  case absent => exact fun _ _ _ => rfl
  case valid =>
    intro state event registered
    cases registered

theorem new_tabled (iState : Int) (target : Int → Option Int) (none : ∀ event, target event = none) :
    Tabled (.new iState) target := by
  intro event inside
  rw [none event]
  exact List.getElem?_replicate_of_lt inside

/-- ForceGetFSMState returns an FSMState of the state in any case. -/
theorem force_sound (s : Both) (iState : Int) (sound : Sound s) :
    Sound (s.1,(s.2.forceGetFSMState iState).2) ∧
      ∃ state, (s.2.forceGetFSMState iState).2.heap (s.2.forceGetFSMState iState).1 = some state ∧
        state.iState = iState := by
  cases listed : s.2.getFSMState iState with
  | some pState =>
    rw [Machine.forceGetFSMState,listed]
    exact ⟨sound,sound.live iState pState listed⟩
  | none =>
    rw [Machine.forceGetFSMState,listed]
    have heap : ∀ other found,
        Function.update s.2.heap s.2.fresh (some (FSMState.new iState)) other = some found →
          other = s.2.fresh ∧ found = .new iState ∨ other < s.2.fresh ∧ s.2.heap other = some found := by
      intro other found present
      obtain ⟨equal,stored⟩ | ⟨_,old⟩ := update_cases s.2.heap s.2.fresh other _ found present
      · exact .inl ⟨equal,(Option.some.inj stored).symm⟩
      · exact .inr ⟨sound.fresh other found old,old⟩
    refine ⟨?_,_,Function.update_self ..,rfl⟩
    constructor
    case current => exact sound.current
    case fresh =>
      intro other found present
      obtain ⟨rfl,_⟩ | ⟨older,_⟩ := heap other found present
      · exact Nat.lt_succ_self _
      · exact Nat.lt_succ_of_lt older
    case listed =>
      intro other found present
      obtain ⟨rfl,rfl⟩ | ⟨_,present⟩ := heap other found present
      · exact find_insert_same iState s.2.fresh s.2.stateMap listed
      · exact find_insert_kept iState found.iState s.2.fresh other s.2.stateMap
          (sound.listed other found present)
    case live =>
      intro state other there
      obtain older | ⟨rfl,rfl,_⟩ := find_insert_elim iState state s.2.fresh other s.2.stateMap there
      · obtain ⟨found,present,named⟩ := sound.live state other older
        refine ⟨found,?_,named⟩
        change Function.update s.2.heap s.2.fresh (some (FSMState.new iState)) other = some found
        rw [Function.update_of_ne (Nat.ne_of_lt (sound.fresh other found present))]
        exact present
      · exact ⟨_,Function.update_self ..,rfl⟩
    case entries =>
      intro other found present
      obtain ⟨rfl,rfl⟩ | ⟨_,present⟩ := heap other found present
      · exact new_tabled iState _ (sound.absent iState listed)
      · exact sound.entries other found present
    case absent =>
      intro state missing event
      change find state (insert iState s.2.fresh s.2.stateMap) = none at missing
      rw [find_insert iState state s.2.fresh s.2.stateMap listed] at missing
      split at missing
      · cases missing
      · exact sound.absent state missing event
    case valid => exact sound.valid

theorem delete_sound (s : Both) (iState : Int) (sound : Sound s) :
    Sound (s.1.drop iState,s.2.deleteFSMState iState) := by
  have target := drop_target s.1 iState
  have valid : ∀ state event, (s.1.drop iState).target state event ≠ some invalidFsmState := by
    intro state event
    rw [target]
    split
    · intro registered
      cases registered
    · exact sound.valid state event
  cases listed : s.2.getFSMState iState with
  | none =>
    rw [Machine.deleteFSMState,listed]
    have same : ∀ state event, (s.1.drop iState).target state event = s.1.target state event := by
      intro state event
      rw [target]
      split
      next equal =>
        rw [equal]
        exact (sound.absent iState listed event).symm
      next => rfl
    have whole : (s.1.drop iState).target = s.1.target := funext fun state => funext (same state)
    refine ⟨sound.current,sound.fresh,sound.listed,sound.live,?_,?_,valid⟩
    · rw [whole]
      exact sound.entries
    · rw [whole]
      exact sound.absent
  | some pState =>
    rw [Machine.deleteFSMState,listed]
    have heap : ∀ other found, Function.update s.2.heap pState none other = some found →
        other ≠ pState ∧ s.2.heap other = some found := by
      intro other found present
      obtain ⟨_,stored⟩ | old := update_cases s.2.heap pState other none found present
      · cases stored
      · exact old
    have apart : ∀ other found, other ≠ pState → s.2.heap other = some found → found.iState ≠ iState := by
      intro other found different present equal
      have found := sound.listed other found present
      rw [equal] at found
      exact different (Option.some.inj (found.symm.trans listed))
    constructor
    case current => exact sound.current
    case fresh =>
      intro other found present
      exact sound.fresh other found (heap other found present).2
    case listed =>
      intro other found present
      obtain ⟨different,present⟩ := heap other found present
      change find found.iState (erase iState s.2.stateMap) = some other
      rw [find_erase,if_neg (apart other found different present)]
      exact sound.listed other found present
    case live =>
      intro state other there
      obtain ⟨different,there⟩ := find_erase_elim iState state other s.2.stateMap there
      obtain ⟨found,present,named⟩ := sound.live state other there
      refine ⟨found,?_,named⟩
      change Function.update s.2.heap pState none other = some found
      rw [Function.update_of_ne]
      · exact present
      · rintro rfl
        obtain ⟨owner,owned,name⟩ := sound.live iState other listed
        rw [present] at owned
        exact different (named.symm.trans ((congrArg FSMState.iState (Option.some.inj owned)).trans name))
    case entries =>
      intro other found present
      obtain ⟨different,present⟩ := heap other found present
      have entries := sound.entries other found present
      have kept : (s.1.drop iState).target found.iState = s.1.target found.iState := by
        funext event
        rw [target,if_neg (apart other found different present)]
      change Tabled found ((s.1.drop iState).target found.iState)
      rw [kept]
      exact entries
    case absent =>
      intro state missing event
      change find state (erase iState s.2.stateMap) = none at missing
      change (s.1.drop iState).target state event = none
      rw [find_erase] at missing
      rw [target]
      split
      · rfl
      next different =>
        rw [if_neg different] at missing
        exact sound.absent state missing event
    case valid => exact valid

theorem move_eq (relation : Relation) (event : Int) (change : Bool)
    (valid : ∀ state event, relation.target state event ≠ some invalidFsmState) :
    relation.move event change =
      if change ∧ relation.answer event ≠ invalidFsmState then {relation with current := relation.answer event}
      else relation := by
  cases change with
  | false => rfl
  | true =>
    cases registered : relation.target relation.current event with
    | none => simp [Relation.move,Relation.answer,registered]
    | some target =>
      have different : target ≠ invalidFsmState := by
        intro same
        exact valid relation.current event (registered.trans (congrArg Option.some same))
      simp [Relation.move,Relation.answer,registered,different]

section
variable (s : Both) (sound : Sound s) (iEvent : Int) (bNeedChange : Bool)
include sound

theorem transition_answers (inside : (s.2.getFSMState s.2.currState).isSome → 0 ≤ iEvent ∧ iEvent < fsmStateMax) :
    s.2.stateTransition iEvent bNeedChange = some (s.1.answer iEvent,
      if bNeedChange ∧ s.1.answer iEvent ≠ invalidFsmState then s.2.setCurrState (s.1.answer iEvent) else s.2) := by
  have current := sound.current
  cases listed : s.2.getFSMState s.2.currState with
  | none =>
    have unregistered : s.1.answer iEvent = invalidFsmState := by
      rw [Relation.answer,← current,sound.absent s.2.currState listed iEvent]
      rfl
    rw [Machine.stateTransition,listed,unregistered]
    rfl
  | some pState =>
    obtain ⟨above,below⟩ := inside (by rw [listed]; rfl)
    obtain ⟨state,present,named⟩ := sound.live s.2.currState pState listed
    have read := getOutputState_tabled state iEvent _ (sound.entries pState state present) above below
    rw [named,current] at read
    rw [Machine.stateTransition,listed]
    dsimp only
    rw [present,Option.bind_some,read]
    rfl

/-- The table of a state is left where the event is not one of its entries. -/
theorem transition_outside (listed : (s.2.getFSMState s.2.currState).isSome)
    (outside : ¬ (0 ≤ iEvent ∧ iEvent < fsmStateMax)) : s.2.stateTransition iEvent bNeedChange = none := by
  obtain ⟨pState,found⟩ := Option.isSome_iff_exists.mp listed
  obtain ⟨state,present,_⟩ := sound.live s.2.currState pState found
  rw [Machine.stateTransition,found]
  dsimp only
  rw [present,Option.bind_some,getOutputState_outside state iEvent (by omega)]
  rfl

theorem transition_sound (inside : (s.2.getFSMState s.2.currState).isSome → 0 ≤ iEvent ∧ iEvent < fsmStateMax) :
    Sound (step s (.stateTransition iEvent bNeedChange)) := by
  rw [step,transition_answers s sound iEvent bNeedChange inside,move_eq s.1 iEvent bNeedChange sound.valid]
  change Sound (_,if _ then _ else _)
  split
  · exact ⟨rfl,sound.fresh,sound.listed,sound.live,sound.entries,sound.absent,sound.valid⟩
  · exact sound

end

section
variable (s : Both) (sound : Sound s) (pState : Nat) (iEvent : Int) (live : (s.2.heap pState).isSome)
  (above : 0 ≤ iEvent)
include sound live above

theorem addTransition_sound (iOutputState : Int) :
    Sound (step s (.addTransition pState iEvent iOutputState)) ∧
      ∃ next, s.2.method pState (FSMState.addTransition iEvent iOutputState) = some next := by
  obtain ⟨state,present⟩ := Option.isSome_iff_exists.mp live
  obtain ⟨next,added,same,tabled⟩ := addTransition_tabled s.1 state iEvent above
    (sound.entries pState state present) iOutputState sound.valid
  have called : s.2.method pState (FSMState.addTransition iEvent iOutputState) =
      some {s.2 with heap := Function.update s.2.heap pState (some next)} := by
    rw [Machine.method,present,Option.bind_some,added]
    rfl
  refine ⟨?_,_,called⟩
  rw [step,called,onState,present]
  apply method_sound s pState state next _ sound present same _ tabled
  · intro other different
    funext event
    rw [register_target,if_neg fun registered => different registered.1]
  · exact register_valid s.1 state.iState iEvent iOutputState sound.valid
  · exact register_current s.1 state.iState iEvent iOutputState

theorem deleteTransition_sound :
    Sound (step s (.deleteTransition pState iEvent)) ∧
      ∃ next, s.2.method pState (FSMState.deleteTransition iEvent) = some next := by
  obtain ⟨state,present⟩ := Option.isSome_iff_exists.mp live
  obtain ⟨next,dropped,same,tabled⟩ := deleteTransition_tabled s.1 state iEvent above
    (sound.entries pState state present)
  have called : s.2.method pState (FSMState.deleteTransition iEvent) =
      some {s.2 with heap := Function.update s.2.heap pState (some next)} := by
    rw [Machine.method,present,Option.bind_some,dropped]
    rfl
  refine ⟨?_,_,called⟩
  rw [step,called,onState,present]
  apply method_sound s pState state next _ sound present same _ tabled
  · intro other different
    funext event
    rw [unregister_target,if_neg fun dropped => different dropped.1]
  · intro other event
    rw [unregister_target]
    split
    · intro registered
      cases registered
    · exact sound.valid other event
  · rfl

end

theorem step_sound (s : Both) (action : Action) (sound : Sound s) (within : Within s action) :
    Sound (step s action) := by
  cases action with
  | forceGetFSMState iState => exact (force_sound s iState sound).1
  | addTransition pState iEvent iOutputState =>
    exact (addTransition_sound s sound pState iEvent within.1 within.2 iOutputState).1
  | deleteTransition pState iEvent => exact (deleteTransition_sound s sound pState iEvent within.1 within.2).1
  | deleteFSMState iState => exact delete_sound s iState sound
  | setCurrState iState =>
    exact ⟨rfl,sound.fresh,sound.listed,sound.live,sound.entries,sound.absent,sound.valid⟩
  | stateTransition iEvent bNeedChange => exact transition_sound s sound iEvent bNeedChange within

private theorem method_live (machine next : Machine) (pState : Nat) (method : FSMState → Option FSMState)
    (called : machine.method pState method = some next) :
    ∃ state after, machine.heap pState = some state ∧ method state = some after := by
  obtain ⟨state,present,mapped⟩ := Option.bind_eq_some_iff.mp called
  obtain ⟨after,result,_⟩ := Option.map_eq_some_iff.mp mapped
  exact ⟨state,after,present,result⟩

private theorem add_above (iEvent iOutputState : Int) (state after : FSMState)
    (added : state.addTransition iEvent iOutputState = some after) : 0 ≤ iEvent := by
  by_contra negative
  have below : iEvent < 0 := Int.not_le.mp negative
  rw [FSMState.addTransition,if_neg (by unfold fsmStateMax; omega),getOutputState_outside state iEvent (.inl below)]
    at added
  cases added

private theorem delete_above (iEvent : Int) (state after : FSMState)
    (dropped : state.deleteTransition iEvent = some after) : 0 ≤ iEvent := by
  by_contra negative
  have below : iEvent < 0 := Int.not_le.mp negative
  rw [FSMState.deleteTransition,if_neg (by unfold fsmStateMax; omega),set_outside state iEvent _ below] at dropped
  cases dropped

theorem step_agrees_iff (s : Both) (action : Action) (sound : Sound s) : Agrees s action ↔ Within s action := by
  constructor
  · rintro ⟨_,agrees⟩
    cases action with
    | addTransition pState iEvent iOutputState =>
      obtain ⟨next,called⟩ := agrees
      obtain ⟨state,after,present,added⟩ := method_live s.2 next pState _ called
      exact ⟨Option.isSome_iff_exists.mpr ⟨state,present⟩,add_above iEvent iOutputState state after added⟩
    | deleteTransition pState iEvent =>
      obtain ⟨next,called⟩ := agrees
      obtain ⟨state,after,present,dropped⟩ := method_live s.2 next pState _ called
      exact ⟨Option.isSome_iff_exists.mpr ⟨state,present⟩,delete_above iEvent state after dropped⟩
    | stateTransition iEvent bNeedChange =>
      intro listed
      by_contra outside
      obtain ⟨next,moved⟩ := agrees
      rw [transition_outside s sound iEvent bNeedChange listed outside] at moved
      cases moved
    | forceGetFSMState iState => trivial
    | deleteFSMState iState => trivial
    | setCurrState iState => trivial
  · intro within
    refine ⟨(step_sound s action sound within).current,?_⟩
    cases action with
    | forceGetFSMState iState => exact (force_sound s iState sound).2
    | addTransition pState iEvent iOutputState =>
      exact (addTransition_sound s sound pState iEvent within.1 within.2 iOutputState).2
    | deleteTransition pState iEvent => exact (deleteTransition_sound s sound pState iEvent within.1 within.2).2
    | stateTransition iEvent bNeedChange => exact ⟨_,transition_answers s sound iEvent bNeedChange within⟩
    | deleteFSMState iState => trivial
    | setCurrState iState => trivial

/-- The AddTransition calls of one state, in source order. -/
def Relation.registerAll (relation : Relation) (state : Int) (rows : List (Int × Int)) : Relation :=
  rows.foldl (fun relation row => relation.register state row.1 row.2) relation

private theorem registerAll_kept (relation : Relation) (state event target : Int) (rows : List (Int × Int))
    (registered : relation.target state event = some target) :
    (relation.registerAll state rows).target state event = some target := by
  induction rows generalizing relation with
  | nil => exact registered
  | cons row rows ih =>
    apply ih
    rw [register_target]
    split
    next first =>
      obtain ⟨_,same,_,none⟩ := first
      rw [same,none] at registered
      cases registered
    next => exact registered

theorem registerAll_outputState (relation : Relation) (state event : Int) (rows : List (Int × Int))
    (unregistered : relation.target state event = none) (valid : ∀ row ∈ rows, row.2 ≠ invalidFsmState) :
    (relation.registerAll state rows).target state event =
      StateMachine.outputState (fun _ => rows) state event := by
  induction rows generalizing relation with
  | nil => exact unregistered
  | cons row rows ih =>
    obtain ⟨first,rest⟩ := List.forall_mem_cons.mp valid
    change ((relation.register state row.1 row.2).registerAll state rows).target state event = _
    rw [StateMachine.outputState]
    by_cases same : row.1 = event
    · rw [List.find?_cons_of_pos (by simpa using same)]
      apply registerAll_kept
      rw [register_target,if_pos ⟨rfl,same.symm,first,same ▸ unregistered⟩]
    · rw [List.find?_cons_of_neg (by simpa using same)]
      apply ih _ _ rest
      rw [register_target,if_neg fun registered => same registered.2.1.symm]
      exact unregistered

/-- The machine is the partial map exactly in the runs in which no event is negative, no transition from a
state that has an FSMState has an event beyond its table, and no deleted FSMState is used. -/
theorem state_machine_refines_iff (iState : Int) (actions : List Action) :
    Guarded step Agrees (⟨iState,fun _ _ => none⟩,.new iState) actions ↔
      Guarded step Within (⟨iState,fun _ _ => none⟩,.new iState) actions :=
  guarded_congr step Within Agrees Sound step_sound step_agrees_iff _ actions (new_sound iState)

/-- AddTransition ignores the event 256, and a transition with it reads behind the table; with the event -1
both leave the table. -/
theorem state_machine_beyond :
    ¬ Guarded step Agrees (⟨0,fun _ _ => none⟩,.new 0)
        [.forceGetFSMState 0,.addTransition 0 256 1,.stateTransition 256 true] ∧
      ¬ Guarded step Agrees (⟨0,fun _ _ => none⟩,.new 0) [.forceGetFSMState 0,.addTransition 0 (-1) 1] := by
  constructor
  · rintro ⟨_,_,⟨_,next,moved⟩,_⟩
    cases moved
  · rintro ⟨_,⟨_,next,added⟩,_⟩
    cases added

end Fantuan.Tool.StateTables
