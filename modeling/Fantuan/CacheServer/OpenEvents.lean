import Fantuan.CacheServer.PoolEvents
import Fantuan.CacheServer.Sessions

/-! The events that decide what becomes of a player: the choice of an avatar, and Finalize. A
session waits for at most one of them, and its player stays where it waits.
-/
namespace Fantuan.CacheServer.OpenEvents
open Lib.Table Tool.ObjectPool Tool.StateMachine CacheDBEvent ServerLoop Player Commands PlayerSteps
  Sessions PoolEvents

/-- An event that decides, and whose result has not been handled. -/
def Open (s : Cache) (event : Nat) : Prop :=
  event < s.dbConnPool.pushed ∧ .handled event ∉ s.log ∧ decides (s.dbEvents event).data = true

def Free (s : Cache) (sessionId : UInt32) : Prop :=
  ∀ event, Open s event → (s.dbEvents event).sessionId ≠ sessionId

structure Waiting (s : Cache) : Prop where
  pool : Known s.dbConnPool
  handled : ∀ event, .handled event ∈ s.log → event < s.dbConnPool.pushed
  waits : ∀ event, Open s event → ∃ player,
    find (s.dbEvents event).sessionId s.playerContextBySessionId = some player ∧
      awaits (s.dbEvents event).data = some (s.contexts player).state ∧
      (s.contexts player).finalizing = false
  single : ∀ first second, Open s first → Open s second →
    (s.dbEvents first).sessionId = (s.dbEvents second).sessionId → first = second
  leaving : ∀ player, (s.contexts player).finalizing = true → (s.contexts player).state = .onLogoutReq

theorem init_waiting (config : Config) : Waiting (init config) where
  pool := new_known config.dbConnCount
  handled := by simp [init]
  waits := fun _ opened => absurd opened.1 (Nat.not_lt_zero _)
  single := fun _ _ opened => absurd opened.1 (Nat.not_lt_zero _)
  leaving := fun _ finalizing => by cases finalizing

theorem fireEvent_awaits (answer : Answer) (event : PlayerDBEvent) :
    awaits (fireEvent answer event).data = awaits event.data := by
  obtain ⟨sessionId,ret,data⟩ := event
  cases data <;> cases answer <;> rfl

/-- The step opens no event and leaves the books of the pool right. -/
structure Narrows (s t : Cache) : Prop where
  opens : ∀ event, Open t event → Open s event ∧
    (t.dbEvents event).sessionId = (s.dbEvents event).sessionId ∧
    awaits (t.dbEvents event).data = awaits (s.dbEvents event).data
  pool : Known s.dbConnPool → Known t.dbConnPool
  handled : (∀ event, .handled event ∈ s.log → event < s.dbConnPool.pushed) →
    ∀ event, .handled event ∈ t.log → event < t.dbConnPool.pushed

theorem narrows_same (s t : Cache) (pool : t.dbConnPool = s.dbConnPool)
    (events : t.dbEvents = s.dbEvents) (handled : ∀ event, .handled event ∈ t.log ↔ .handled event ∈ s.log) :
    Narrows s t where
  opens := by
    rintro event ⟨pushed,unhandled,deciding⟩
    rw [pool] at pushed
    rw [handled] at unhandled
    rw [events] at deciding ⊢
    exact ⟨⟨pushed,unhandled,deciding⟩,rfl,rfl⟩
  pool := fun known => by rwa [pool]
  handled := fun before event member => by
    rw [pool]
    exact before event ((handled event).mp member)

theorem narrows_trans (s t u : Cache) (first : Narrows s t) (second : Narrows t u) : Narrows s u where
  opens := by
    intro event opened
    obtain ⟨middle,session,data⟩ := second.opens event opened
    obtain ⟨early,session',data'⟩ := first.opens event middle
    exact ⟨early,session.trans session',data.trans data'⟩
  pool := fun known => second.pool (first.pool known)
  handled := fun before => second.handled (first.handled before)

theorem narrows_free (s t : Cache) (sessionId : UInt32) (narrows : Narrows s t)
    (free : Free s sessionId) : Free t sessionId := by
  intro event opened
  obtain ⟨before,session,-⟩ := narrows.opens event opened
  rw [session]
  exact free event before

theorem call_narrows (s : Cache) (mark : Mark) (plain : isCall mark = true) :
    Narrows s {s with log := mark :: s.log} := by
  refine narrows_same s {s with log := mark :: s.log} rfl rfl fun event => ?_
  rw [List.mem_cons,or_iff_right]
  rintro rfl
  cases plain

/-- A thread pushes and handles nothing, and leaves what the loop reads of an event before its
result. -/
theorem work_same (env : Env) (s : Cache) (worker event : Nat) :
    (work env worker s).toLoop = s.toLoop ∧ (work env worker s).log = s.log ∧
      (work env worker s).dbConnPool = DbConnPool.workerStep worker s.dbConnPool ∧
      ((work env worker s).dbEvents event).sessionId = (s.dbEvents event).sessionId ∧
      awaits ((work env worker s).dbEvents event).data = awaits (s.dbEvents event).data := by
  rw [work]
  split
  next fired here =>
    refine ⟨rfl,rfl,rfl,?_⟩
    dsimp only
    by_cases same : event = fired
    · rw [same,Function.update_self]
      exact ⟨(fireEvent_same _ _).1,fireEvent_awaits _ _⟩
    · rw [Function.update_of_ne same]
      exact ⟨rfl,rfl⟩
  · exact ⟨rfl,rfl,rfl,rfl,rfl⟩

theorem work_narrows (env : Env) (s : Cache) (worker : Nat) : Narrows s (work env worker s) := by
  have pushed := workerStep_pushed worker s.dbConnPool
  have same := work_same env s worker
  refine ⟨?_,fun known => ?_,fun before event member => ?_⟩
  · rintro event ⟨inside,unhandled,deciding⟩
    obtain ⟨-,log,pool,session,awaited⟩ := same event
    rw [pool,pushed] at inside
    rw [log] at unhandled
    rw [decides,awaited] at deciding
    exact ⟨⟨inside,unhandled,deciding⟩,session,awaited⟩
  · rw [(same 0).2.2.1]
    exact workerStep_known _ known worker
  · rw [(same 0).2.1] at member
    rw [(same 0).2.2.1,pushed]
    exact before event member

theorem push_pushed (s : Cache) (player : Object) (data : EventData) (returnable : Bool) :
    (pushSequenceEvent player data returnable s).dbConnPool.pushed = s.dbConnPool.pushed ∧
        (s.contexts player).sessionId = 0 ∨
      (pushSequenceEvent player data returnable s).dbConnPool.pushed = s.dbConnPool.pushed + 1 := by
  rw [pushSequenceEvent]
  dsimp only
  rw [DbConnPool.pushSequenceEvent]
  split
  next zero =>
    refine .inl ⟨rfl,?_⟩
    have small := congrArg UInt64.toNat zero
    apply UInt32.toNat_inj.mp
    simpa using small
  · exact .inr rfl

theorem push_open (s : Cache) (player : Object) (data : EventData) (returnable : Bool) (event : Nat)
    (opened : Open (pushSequenceEvent player data returnable s) event) :
    (event < s.dbConnPool.pushed ∧ Open s event ∧
      (pushSequenceEvent player data returnable s).dbEvents event = s.dbEvents event) ∨
    (event = s.dbConnPool.pushed ∧ decides data = true ∧
      (pushSequenceEvent player data returnable s).dbEvents event =
        ⟨(s.contexts player).sessionId,0,data⟩) := by
  obtain ⟨inside,unhandled,deciding⟩ := opened
  by_cases new : event = s.dbConnPool.pushed
  · subst new
    rw [pushSequenceEvent] at deciding ⊢
    dsimp only at deciding ⊢
    rw [Function.update_self] at deciding ⊢
    exact .inr ⟨rfl,deciding,rfl⟩
  · have before : event < s.dbConnPool.pushed := by
      rcases push_pushed s player data returnable with ⟨same,-⟩ | more
      · rwa [same] at inside
      · omega
    have same : (pushSequenceEvent player data returnable s).dbEvents event = s.dbEvents event :=
      Function.update_of_ne new ..
    rw [same] at deciding
    exact .inl ⟨before,⟨before,unhandled,deciding⟩,same⟩

theorem push_narrows (s : Cache) (player : Object) (data : EventData) (returnable : Bool)
    (undecided : decides data = false) : Narrows s (pushSequenceEvent player data returnable s) where
  opens := by
    intro event opened
    rcases push_open s player data returnable event opened with
      ⟨-,before,same⟩ | ⟨-,deciding,-⟩
    · rw [same]
      exact ⟨before,rfl,rfl⟩
    · rw [undecided] at deciding
      cases deciding
  pool := fun known => pushSequenceEvent_known _ known _ _ _
  handled := by
    intro before event member
    have inside := before event member
    rcases push_pushed s player data returnable with ⟨same,-⟩ | more
    · rwa [same]
    · omega

theorem step_narrows (env : Env) (s t : Cache) (step : CacheStep env False False s t) :
    Narrows s t := by
  cases step with
  | call mark plain => exact call_narrows s mark plain
  | work worker => exact work_narrows env s worker
  | push player data returnable _ allowed => exact push_narrows s player data returnable (by simpa using allowed)
  | queue _ _ allowed => exact allowed.elim
  | _ => exact narrows_same _ _ rfl rfl fun _ => .rfl

theorem does_narrows (env : Env) (s t : Cache) (does : Does env False False s t) : Narrows s t := by
  induction does with
  | refl => exact narrows_same s s rfl rfl fun _ => .rfl
  | tail _ step ih => exact narrows_trans _ _ _ ih (step_narrows env _ _ step)

def Stays (s t : Cache) : Prop :=
  ∀ event, Open s event → Open t event ∧ (t.dbEvents event).sessionId = (s.dbEvents event).sessionId ∧
    awaits (t.dbEvents event).data = awaits (s.dbEvents event).data

theorem stays_trans (s t u : Cache) (first : Stays s t) (second : Stays t u) : Stays s u := by
  intro event opened
  obtain ⟨middle,session,awaited⟩ := first event opened
  obtain ⟨last,session',awaited'⟩ := second event middle
  exact ⟨last,session'.trans session,awaited'.trans awaited⟩

theorem work_stays (env : Env) (s : Cache) (worker : Nat) : Stays s (work env worker s) := by
  rintro event ⟨inside,unhandled,deciding⟩
  obtain ⟨-,log,pool,session,awaited⟩ := work_same env s worker event
  refine ⟨⟨?_,?_,?_⟩,session,awaited⟩
  · rw [pool,workerStep_pushed]
    exact inside
  · rw [log]
    exact unhandled
  · rw [decides,awaited]
    exact deciding

theorem push_stays (s : Cache) (player : Object) (data : EventData) (returnable : Bool) :
    Stays s (pushSequenceEvent player data returnable s) := by
  rintro event ⟨inside,unhandled,deciding⟩
  have same : (pushSequenceEvent player data returnable s).dbEvents event = s.dbEvents event :=
    Function.update_of_ne (Nat.ne_of_lt inside) ..
  refine ⟨⟨?_,unhandled,?_⟩,?_⟩
  · rcases push_pushed s player data returnable with ⟨same,-⟩ | more
    · rwa [same]
    · omega
  · rw [same]
    exact deciding
  · rw [same]
    exact ⟨rfl,rfl⟩

theorem step_stays (env : Env) (s t : Cache) (step : CacheStep env False False s t) : Stays s t := by
  cases step with
  | call mark plain =>
    rintro event ⟨inside,unhandled,deciding⟩
    refine ⟨⟨inside,fun member => ?_,deciding⟩,rfl,rfl⟩
    rcases List.mem_cons.mp member with rfl | before
    · cases plain
    · exact unhandled before
  | work worker => exact work_stays env s worker
  | push player data returnable => exact push_stays s player data returnable
  | queue _ _ allowed => exact allowed.elim
  | _ => exact fun event opened => ⟨opened,rfl,rfl⟩

theorem narrows_waiting (s t : Cache) (narrows : Narrows s t)
    (still : ∀ event player, Open s event →
      find (s.dbEvents event).sessionId s.playerContextBySessionId = some player →
      (s.contexts player).finalizing = false →
      find (s.dbEvents event).sessionId t.playerContextBySessionId = some player ∧
        (t.contexts player).state = (s.contexts player).state ∧
        (t.contexts player).finalizing = false)
    (leaving : ∀ player, (t.contexts player).finalizing = true →
      (t.contexts player).state = .onLogoutReq)
    (waiting : Waiting s) : Waiting t where
  pool := narrows.pool waiting.pool
  handled := narrows.handled waiting.handled
  waits := by
    intro event opened
    obtain ⟨before,session,data⟩ := narrows.opens event opened
    obtain ⟨player,found,awaited,active⟩ := waiting.waits event before
    obtain ⟨again,state,finalizing⟩ := still event player before found active
    rw [session,data,awaited,← state]
    exact ⟨player,again,rfl,finalizing⟩
  single := by
    intro first second one two same
    obtain ⟨before,session,-⟩ := narrows.opens first one
    obtain ⟨before',session',-⟩ := narrows.opens second two
    rw [session,session'] at same
    exact waiting.single first second before before' same
  leaving := leaving

theorem update_waiting (s : Cache) (player : Object)
    (change : CachePlayerContext → CachePlayerContext)
    (steady : Free s (s.contexts player).sessionId ∨
      (change (s.contexts player)).state = (s.contexts player).state ∧
        (change (s.contexts player)).finalizing = (s.contexts player).finalizing)
    (leaving : (change (s.contexts player)).finalizing = true →
      (change (s.contexts player)).state = .onLogoutReq)
    (keyed : Keyed s) (waiting : Waiting s) : Waiting (s.update player change) := by
  refine narrows_waiting s (s.update player change) (narrows_same s _ rfl rfl fun _ => .rfl) ?_ ?_ waiting
  · intro event other opened found active
    refine ⟨found,?_⟩
    by_cases here : other = player
    · subst here
      rcases steady with free | ⟨state,finalizing⟩
      · exact absurd (keyed _ other found).symm (free event opened)
      · rw [update_same,state,finalizing]
        exact ⟨rfl,active⟩
    · rw [update_other s player other change here]
      exact ⟨rfl,active⟩
  · intro other finalizing
    by_cases here : other = player
    · subst here
      rw [update_same] at finalizing ⊢
      exact leaving finalizing
    · rw [update_other s player other change here] at finalizing ⊢
      exact waiting.leaving other finalizing

theorem waits_transition (data : EventData) (state next : PlayerState) (event : PlayerEvent)
    (awaited : awaits data = some state) (reached : transition state event = some next) :
    event = .avatarSelectAck := by
  have rows : ∀ row ∈ initStateMachine state, row.1 = .avatarSelectAck := by
    cases data with
    | avatarSelectData =>
      obtain rfl := Option.some.inj awaited
      decide
    | avatarFinalize =>
      obtain rfl := Option.some.inj awaited
      decide
    | _ => cases awaited
  exact rows _ (outputState_mem initStateMachine state next event reached)

theorem transition_free (s : Cache) (player : Object) (next : PlayerState) (event : PlayerEvent)
    (listed : Listed s player) (waiting : Waiting s) (other : event ≠ .avatarSelectAck)
    (reached : transition (s.contexts player).state event = some next) :
    Free s (s.contexts player).sessionId := by
  intro number opened same
  obtain ⟨waiter,found,awaited,-⟩ := waiting.waits number opened
  rw [same,listed] at found
  obtain rfl := Option.some.inj found
  exact other (waits_transition _ _ next event awaited reached)

theorem transition_active (s : Cache) (player : Object) (next : PlayerState) (event : PlayerEvent)
    (waiting : Waiting s) (reached : transition (s.contexts player).state event = some next) :
    (s.contexts player).finalizing = false := by
  by_contra finalizing
  rw [waiting.leaving player (by simpa using finalizing)] at reached
  cases reached

theorem step_waiting (env : Env) (s t : Cache) (step : CacheStep env False False s t)
    (keyed : Keyed s) (waiting : Waiting s) : Waiting t := by
  have narrows := step_narrows env s t step
  cases step with
  | work worker =>
    have same := (work_same env s worker 0).1
    refine narrows_waiting s _ narrows ?_ ?_ waiting
    · rw [same]
      exact fun event player _ found active => ⟨found,rfl,active⟩
    · rw [same]
      exact waiting.leaving
  | change player change listed kept =>
    refine update_waiting s player change (.inr ⟨kept.state,kept.finalizing⟩) ?_ keyed waiting
    rw [kept.state,kept.finalizing]
    exact waiting.leaving player
  | move player event next listed allowed reached =>
    have active := transition_active s player next event waiting reached
    refine update_waiting s player _ (.inl ?_) ?_ keyed waiting
    · exact transition_free s player next event listed waiting allowed reached
    · intro finalizing
      rw [active] at finalizing
      cases finalizing
  | queue _ _ allowed => exact allowed.elim
  | select player avatarId avatarName lastChannelId listed =>
    exact update_waiting s player _ (.inr ⟨rfl,rfl⟩) (waiting.leaving player) keyed waiting
  | enter player listed =>
    have entered := update_waiting s player (fun context => {context with
      avatarContext := {context.avatarContext with enterRegion := true}}) (.inr ⟨rfl,rfl⟩)
      (waiting.leaving player) keyed waiting
    exact ⟨entered.pool,entered.handled,entered.waits,entered.single,entered.leaving⟩
  | _ =>
    exact narrows_waiting s _ narrows (fun event player _ found active => ⟨found,rfl,active⟩)
      waiting.leaving waiting

end Fantuan.CacheServer.OpenEvents
