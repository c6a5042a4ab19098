import Fantuan.Lib.Clock

/-! The alarm of a loop, which calls its listeners every so many milliseconds. It is run beside one that
counts the time without a bound; what the alarm is given is what the clock shows.
-/
namespace Fantuan.Tool.Alarms
open Lib.Run Lib.Clock

structure AlarmEvent where
  startTime : UInt32
  interval : UInt32
  listener : Nat
  deriving DecidableEq

structure Alarm where
  currTime : UInt32
  alarmEventList : List AlarmEvent

def init : Alarm := ⟨0,[]⟩

def start (currTime : UInt32) (s : Alarm) : Alarm :=
  if s.currTime = 0 then {s with currTime := currTime} else s

def registerEvent (startTime interval : UInt32) (listener : Nat) (s : Alarm) : Alarm :=
  {s with alarmEventList := s.alarmEventList ++ [⟨startTime,interval,listener⟩]}

/-- The loop of Tick: the listeners that are called, and the events after it. -/
def visit (currTime : UInt32) : List AlarmEvent → List Nat × List AlarmEvent
  | [] => ([],[])
  | event :: events =>
    let (called,visited) := visit currTime events
    if event.interval ≤ currTime - event.startTime then
      (event.listener :: called,
        {event with startTime := event.startTime + (currTime - event.startTime)} :: visited)
    else (called,event :: visited)

def tick (currTime : UInt32) (s : Alarm) : List Nat × Alarm :=
  if s.currTime = 0 then ([],{s with currTime := currTime})
  else
    let (called,visited) := visit currTime s.alarmEventList
    (called,⟨currTime,visited⟩)

/-- What the alarm is for: since is when the event was registered or last fired. -/
structure Due where
  since : Nat
  interval : UInt32
  listener : Nat

def Due.rings (now : Nat) (due : Due) : Bool := due.interval.toNat ≤ now - due.since

def dueTick (now : Nat) (events : List Due) : List Nat × List Due :=
  ((events.filter (Due.rings now)).map Due.listener,
    events.map fun due => if due.rings now then {due with since := now} else due)

/-- Both alarms, and the time that has really passed. -/
structure Watch where
  now : Nat
  alarm : Alarm
  dues : List Due

inductive Action where
  | start
  | registerEvent (interval : UInt32) (listener : Nat)
  | tick

/-- An action comes so much later than the last one, and is told what the clock then shows. -/
def step (s : Watch) (action : Nat × Action) : Watch :=
  let now := s.now + action.1
  match action.2 with
  | .start => {s with now := now, alarm := start (shown now) s.alarm}
  | .registerEvent interval listener =>
    ⟨now,registerEvent (shown now) interval listener s.alarm,s.dues ++ [⟨now,interval,listener⟩]⟩
  | .tick => ⟨now,(tick (shown now) s.alarm).2,(dueTick now s.dues).2⟩

/-- The tick calls the listeners of the events that are due, and no other. -/
def Exact (s : Watch) : Nat × Action → Prop
  | (elapsed,.tick) =>
    (tick (shown (s.now + elapsed)) s.alarm).1 = (dueTick (s.now + elapsed) s.dues).1
  | _ => True

/-- Where an event is due, the time that is kept is not 0, and what the clock shows to have passed is the
interval at least. -/
def Heard (s : Watch) : Nat × Action → Prop
  | (elapsed,.tick) => ∀ due ∈ s.dues, due.interval.toNat ≤ s.now + elapsed - due.since →
      s.alarm.currTime ≠ 0 ∧ due.interval.toNat ≤ (s.now + elapsed - due.since) % 2^32
  | _ => True

def Due.event (due : Due) : AlarmEvent := ⟨shown due.since,due.interval,due.listener⟩

structure Kept (s : Watch) : Prop where
  events : s.alarm.alarmEventList = s.dues.map Due.event
  past : ∀ due ∈ s.dues, due.since ≤ s.now

theorem kept_past (s : Watch) (elapsed : Nat) (kept : Kept s) : ∀ due ∈ s.dues, due.since ≤ s.now + elapsed :=
  fun due member => Nat.le_trans (kept.past due member) (Nat.le_add_right ..)

def fires (currTime : UInt32) (event : AlarmEvent) : Bool := event.interval ≤ currTime - event.startTime

theorem visit_called (currTime : UInt32) (events : List AlarmEvent) :
    (visit currTime events).1 = (events.filter (fires currTime)).map AlarmEvent.listener := by
  induction events with
  | nil => rfl
  | cons event events ih =>
    rw [visit]
    by_cases reached : event.interval ≤ currTime - event.startTime
    · have fired : fires currTime event = true := decide_eq_true reached
      rw [List.filter_cons_of_pos fired,List.map_cons,← ih]
      dsimp only
      rw [if_pos reached]
    · have silent : ¬ fires currTime event = true := fun fired => reached (of_decide_eq_true fired)
      rw [List.filter_cons_of_neg silent,← ih]
      dsimp only
      rw [if_neg reached]

theorem visit_visited (currTime : UInt32) (events : List AlarmEvent) :
    (visit currTime events).2 =
      events.map fun event => if fires currTime event then {event with startTime := currTime} else event := by
  induction events with
  | nil => rfl
  | cons event events ih =>
    have moved : event.startTime + (currTime - event.startTime) = currTime := by
      rw [UInt32.add_comm,UInt32.sub_add_cancel]
    rw [visit,List.map_cons,← ih,moved]
    by_cases reached : event.interval ≤ currTime - event.startTime
    · have fired : fires currTime event = true := decide_eq_true reached
      rw [if_pos fired]
      dsimp only
      rw [if_pos reached]
    · have silent : ¬ fires currTime event = true := fun fired => reached (of_decide_eq_true fired)
      rw [if_neg silent]
      dsimp only
      rw [if_neg reached]

/-- The alarm sees what has passed modulo the turn of the clock. -/
theorem fires_iff (now : Nat) (due : Due) (past : due.since ≤ now) :
    fires (shown now) due.event = true ↔ due.interval.toNat ≤ (now - due.since) % 2^32 := by
  rw [← passed_shown due.since now past,passed,← UInt32.le_iff_toNat_le]
  exact decide_eq_true_iff

theorem fires_rings (now : Nat) (due : Due) (past : due.since ≤ now)
    (fired : fires (shown now) due.event = true) : due.rings now = true :=
  decide_eq_true (Nat.le_trans ((fires_iff now due past).mp fired) (Nat.mod_le ..))

theorem filter_called {Event : Type} (left right : Event → Bool) (name : Event → Nat) (events : List Event)
    (inside : ∀ event ∈ events, left event = true → right event = true) :
    (events.filter left).map name = (events.filter right).map name ↔
      ∀ event ∈ events, right event = true → left event = true := by
  have twice : (events.filter right).filter left = events.filter left := by
    rw [List.filter_filter]
    refine List.filter_congr fun event member => ?_
    cases chosen : left event with
    | false => rfl
    | true => exact inside event member chosen
  constructor
  · intro same event member chosen
    have lengths := congrArg List.length same
    rw [List.length_map,List.length_map,← twice] at lengths
    exact List.length_filter_eq_length_iff.mp lengths event (List.mem_filter.mpr ⟨member,chosen⟩)
  · intro other
    congr 1
    refine List.filter_congr fun event member => ?_
    exact Bool.eq_iff_iff.mpr ⟨inside event member,other event member⟩

theorem tick_called (now : Nat) (s : Alarm) (dues : List Due) (started : s.currTime ≠ 0)
    (events : s.alarmEventList = dues.map Due.event) :
    (tick (shown now) s).1 = (dues.filter fun due => fires (shown now) due.event).map Due.listener := by
  rw [tick,if_neg started]
  change (visit (shown now) s.alarmEventList).1 = _
  rw [visit_called,events,List.filter_map,List.map_map]
  rfl

theorem tick_exact_iff (s : Watch) (elapsed : Nat) (kept : Kept s) :
    Exact s (elapsed,.tick) ↔ Heard s (elapsed,.tick) := by
  have past := kept_past s elapsed kept
  change (tick (shown (s.now + elapsed)) s.alarm).1 = (s.dues.filter (Due.rings (s.now + elapsed))).map Due.listener ↔ _
  by_cases started : s.alarm.currTime = 0
  · rw [tick,if_pos started]
    constructor
    · intro none due member rings
      have empty := List.filter_eq_nil_iff.mp (List.map_eq_nil_iff.mp none.symm)
      exact absurd (decide_eq_true rings) (empty due member)
    · intro heard
      have empty : s.dues.filter (Due.rings (s.now + elapsed)) = [] :=
        List.filter_eq_nil_iff.mpr fun due member rings =>
          (heard due member (of_decide_eq_true rings)).1 started
      rw [empty]
      rfl
  · rw [tick_called _ _ _ started kept.events,
      filter_called _ _ _ _ fun due member => fires_rings _ due (past due member)]
    constructor
    · intro called due member rings
      exact ⟨started,(fires_iff _ due (past due member)).mp (called due member (decide_eq_true rings))⟩
    · intro heard due member rings
      exact (fires_iff _ due (past due member)).mpr (heard due member (of_decide_eq_true rings)).2

theorem tick_kept (s : Watch) (elapsed : Nat) (kept : Kept s) (heard : Heard s (elapsed,.tick)) :
    Kept (step s (elapsed,.tick)) := by
  have past := kept_past s elapsed kept
  refine ⟨?_,fun due member => ?_⟩
  · change (tick (shown (s.now + elapsed)) s.alarm).2.alarmEventList =
      (s.dues.map fun due => if due.rings (s.now + elapsed) then {due with since := s.now + elapsed} else due).map
        Due.event
    rw [List.map_map,tick]
    by_cases started : s.alarm.currTime = 0
    · rw [if_pos started,kept.events]
      refine List.map_congr_left fun due member => ?_
      have silent : ¬ due.rings (s.now + elapsed) = true :=
        fun rings => (heard due member (of_decide_eq_true rings)).1 started
      rw [Function.comp_apply,if_neg silent]
    · rw [if_neg started]
      change (visit (shown (s.now + elapsed)) s.alarm.alarmEventList).2 = _
      rw [visit_visited,kept.events,List.map_map]
      refine List.map_congr_left fun due member => ?_
      rw [Function.comp_apply,Function.comp_apply]
      by_cases rings : due.rings (s.now + elapsed) = true
      · have fired := (fires_iff _ due (past due member)).mpr (heard due member (of_decide_eq_true rings)).2
        rw [if_pos rings,if_pos fired]
        rfl
      · have silent : ¬ fires (shown (s.now + elapsed)) due.event = true :=
          fun fired => rings (fires_rings _ due (past due member) fired)
        rw [if_neg rings,if_neg silent]
  · obtain ⟨before,listed,rfl⟩ := List.mem_map.mp member
    change (if before.rings (s.now + elapsed) = true then {before with since := s.now + elapsed} else before).since ≤
      s.now + elapsed
    split
    · exact Nat.le_refl _
    · exact past before listed

theorem step_kept (s : Watch) (action : Nat × Action) (kept : Kept s) (heard : Heard s action) :
    Kept (step s action) := by
  obtain ⟨elapsed,action⟩ := action
  have past := kept_past s elapsed kept
  cases action with
  | start =>
    refine ⟨?_,past⟩
    change (start _ s.alarm).alarmEventList = _
    rw [start]
    split <;> exact kept.events
  | registerEvent interval listener =>
    refine ⟨?_,fun due member => ?_⟩
    · change s.alarm.alarmEventList ++ _ = (s.dues ++ [Due.mk (s.now + elapsed) interval listener]).map Due.event
      rw [kept.events,List.map_append]
      rfl
    · obtain old | new := List.mem_append.mp member
      · exact past due old
      · rw [List.mem_singleton.mp new]
        exact Nat.le_refl _
  | tick => exact tick_kept s elapsed kept heard

theorem step_exact_iff (s : Watch) (action : Nat × Action) (kept : Kept s) : Exact s action ↔ Heard s action := by
  obtain ⟨elapsed,action⟩ := action
  cases action with
  | tick => exact tick_exact_iff s elapsed kept
  | _ => exact Iff.rfl

/-- In any run of the clock each tick calls the listeners of the events that are due, each once and no other,
just as long as none is due where the time kept is 0, and none so late that the clock shows too little. -/
theorem alarm_exact_iff (now : Nat) (actions : List (Nat × Action)) :
    Guarded step Exact ⟨now,init,[]⟩ actions ↔ Guarded step Heard ⟨now,init,[]⟩ actions :=
  guarded_congr step Heard Exact Kept step_kept step_exact_iff ⟨now,init,[]⟩ actions
    ⟨rfl,fun _ member => nomatch member⟩

/-- The clock turns to 0 at a tick, which still fires: the next one does not. So it is with a tick that comes
nearly a turn after one at which the event was not yet due. -/
theorem alarm_exact_turn :
    let turn : List (Nat × Action) := [(0,.start),(0,.registerEvent 5 7),(10,.tick),(10,.tick)]
    let late : List (Nat × Action) := [(0,.start),(0,.registerEvent 100 7),(50,.tick),(2^32 - 1,.tick)]
    let s := run step ⟨2^32 - 10,init,[]⟩ (turn.take 3)
    let t := run step ⟨1000,init,[]⟩ (late.take 3)
    ((tick (shown (s.now + 10)) s.alarm).1 = [] ∧ (dueTick (s.now + 10) s.dues).1 = [7] ∧
      ¬ Guarded step Exact ⟨2^32 - 10,init,[]⟩ turn) ∧
    (tick (shown (t.now + (2^32 - 1))) t.alarm).1 = [] ∧ (dueTick (t.now + (2^32 - 1)) t.dues).1 = [7] ∧
      ¬ Guarded step Exact ⟨1000,init,[]⟩ late := by
  intro turn late s t
  have dropped : (tick (shown (s.now + 10)) s.alarm).1 = [] ∧ (dueTick (s.now + 10) s.dues).1 = [7] := by
    decide +kernel
  have lost : (tick (shown (t.now + (2^32 - 1))) t.alarm).1 = [] ∧
      (dueTick (t.now + (2^32 - 1)) t.dues).1 = [7] := by
    decide +kernel
  refine ⟨⟨dropped.1,dropped.2,fun all => ?_⟩,lost.1,lost.2,fun all => ?_⟩
  · have last : (tick (shown (s.now + 10)) s.alarm).1 = (dueTick (s.now + 10) s.dues).1 := all.2.2.2.1
    rw [dropped.1,dropped.2] at last
    cases last
  · have last : (tick (shown (t.now + (2^32 - 1))) t.alarm).1 = (dueTick (t.now + (2^32 - 1)) t.dues).1 :=
      all.2.2.2.1
    rw [lost.1,lost.2] at last
    cases last

end Fantuan.Tool.Alarms
