import Fantuan.RegionServer.FinalizedPlayers
import Fantuan.RegionServer.Visits

/-! The players that have entered a region. Their state has no rows, so that no request of the master brings them on:
neither a RegionLeaveReq nor a RegionReleaseReq takes one out, and its context does not come back to the pool.
-/
namespace Fantuan.RegionServer.Residents
open Lib.Table Lib.Run Lib.Drain ServerBase.ServerCommon Tool.ObjectPool Tool.StateMachine ServerLoop Player Commands
  PlayerSteps SendScripts FailReports ClientViews Visits

/-- What lets a player that has entered stay: it is not shut down from outside, no refused enter is acked to it, and
a chat of its own is written. -/
def Stays (env : Env) (player : Object) (s : Region) : Action → Prop
  | .shutdownPlayerReq actor => actor ≠ player
  | .onRegionEnterAck sessionId result => Serves sessionId s player → result = 0
  | .packetForward sessionId (.regionChatReq _) =>
    Serves sessionId s player → named env player s = true → sends env s = true
  | _ => True

def Marked (s : Loop) : Prop := ∀ player ∈ s.finalizingQueue, (s.contexts player).finalizing = true

/-- The player is as it was where the condition holds, and has been taken out where it does not. -/
structure Settles (player : Object) (stays : Prop) (s t : Region) : Prop where
  kept : stays → t.contexts player = s.contexts player
  lost : ¬ stays → ¬ Present player t

theorem does_marked (s t : Region) (does : Does s t) (marked : Marked s.toLoop) : Marked t.toLoop := by
  induction does with
  | refl => exact marked
  | tail _ step ih =>
    cases step with
    | change other change kept =>
      intro player queued
      have before := ih player queued
      by_cases same : player = other
      · rw [same] at before ⊢
        rw [update_same,kept.finalizing]
        exact before
      · rw [update_other _ other player change same]
        exact before
    | queue other active used =>
      intro player queued
      change player ∈ _ ++ [other] at queued
      change ((Region.update _ other fun context => {context with finalizing := true}).contexts player).finalizing = _
      by_cases same : player = other
      · rw [same,update_same]
      · rw [update_other _ other player _ same]
        rcases List.mem_append.mp queued with before | last
        · exact ih player before
        · exact absurd (List.mem_singleton.mp last) same
    | _ => exact ih

theorem step_marked (env : Env) (s : Region) (action : Action) (marked : Marked s.toLoop) :
    Marked (step env s action).toLoop := by
  by_cases plain : plainAction action = true
  · exact does_marked _ _ (step_does env s action plain) marked
  · cases action with
    | onRegionAllocReq sessionId avatarId avatarName =>
      rcases alloc_cases env sessionId avatarId avatarName s with same | ⟨player,pool,_,_,_,stepped⟩
      · rw [same]
        exact marked
      · rw [stepped]
        have before : Marked (enrolled sessionId avatarId player pool s).toLoop := marked
        by_cases unused : (s.contexts player).state = .none
        · refine does_marked _ _ (onRegionAllocReq_unused env player sessionId avatarId avatarName _ unused) ?_
          intro other queued
          have listed := before other queued
          by_cases same : other = player
          · rw [same] at listed ⊢
            rw [update_same]
            exact listed
          · rw [update_other _ player other _ same]
            exact listed
        · rw [onRegionAllocReq_used env player sessionId avatarId avatarName
            (enrolled sessionId avatarId player pool s) unused]
          exact before
    | pass =>
      intro player none
      cases none
    | _ => exact absurd rfl plain

theorem init_marked (config : Config) : Marked (init config).toLoop := by
  intro player none
  cases none

section
variable {player : Object}

theorem Settles.same {s t : Region} (same : t.contexts player = s.contexts player) : Settles player True s t :=
  ⟨fun _ => same,fun never => absurd trivial never⟩

theorem expect_entered (event : PlayerEvent) (next : Region → Region) (s : Region) (present : Present player s) :
    expect event player next s = s := by
  rw [expect,reaches,present.1]
  rfl

theorem shutdownPlayer_absent (s t : Region) (present : Present player s) (same : t.contexts = s.contexts) :
    ¬ Present player (shutdownPlayer player t) := by
  intro stayed
  have queued := LeaveAnswers.shutdownPlayer_finalizing player t (by
    rw [same,present.1]
    intro none
    cases none)
  rw [stayed.2] at queued
  cases queued

/-- A session that is not the actor's, for which what is done for the actor is silent. -/
theorem elsewhere (id : UInt32) : id ≠ id + 1 := by
  intro same
  have zero : id + 0 = id + 1 := by rw [UInt32.add_zero]; exact same
  exact absurd (UInt32.add_right_inj id |>.mp zero) (by decide)

variable (env : Env)

theorem onRegionChatReq_settles (message : List UInt8) (s : Region) (present : Present player s) :
    Settles player (named env player s = true → sends env s = true) s (onRegionChatReq env player message s) := by
  rw [onRegionChatReq,withName,named]
  cases converted : env.wchar2Char (s.contexts player).avatarName with
  | none => exact ⟨fun _ => rfl,fun lost => absurd (fun named => by cases named) lost⟩
  | some name =>
    dsimp only
    rw [attemptWrite]
    split
    next sent =>
      refine ⟨fun _ => ?_,fun lost => absurd (fun _ => sent) lost⟩
      rw [broadcastData_contexts,write_contexts]
    next unsent =>
      exact ⟨fun stays => absurd (stays rfl) unsent,
        fun _ => shutdownPlayer_absent s _ present (write_contexts env _ s)⟩

theorem onRegionEnterAck_settles (result : Int32) (s : Region) (present : Present player s) :
    Settles player (result = 0) s (onCommandOnRegionEnterAck env player result s) := by
  rw [onCommandOnRegionEnterAck]
  split
  next refused => exact ⟨fun fine => absurd fine refused,fun _ => shutdownPlayer_absent s s present rfl⟩
  next fine =>
    refine ⟨fun _ => ?_,fun refused => absurd refused fine⟩
    rw [onRegionEnterAck,present.2,if_neg Bool.false_ne_true,expect_entered _ _ s present]

theorem forSession_settles (sessionId : UInt32) (handle : Object → Region → Region) (stays : Prop) (s : Region)
    (own : ∀ t : Region, t.contexts = s.contexts → t.log = s.log → Settles player stays t (handle player t))
    (apart : ∀ (actor : Object) (t : Region), actor ≠ player → (handle actor t).contexts player = t.contexts player) :
    Settles player (Serves sessionId s player → stays) s (whileRunning (forSession sessionId handle) s) := by
  have missed (t : Region) (same : t.contexts player = s.contexts player) (unserved : ¬ Serves sessionId s player) :
      Settles player (Serves sessionId s player → stays) s t :=
    ⟨fun _ => same,fun lost => absurd (fun serves => absurd serves unserved) lost⟩
  rw [whileRunning]
  split
  next running =>
    rw [forSession]
    split
    next outside => exact missed s rfl fun serves => serves.inside outside
    next inside =>
      dsimp only
      split
      next actor found =>
        by_cases here : actor = player
        · subst here
          have serves : Serves sessionId s actor := ⟨running,inside,found⟩
          obtain ⟨kept,lost⟩ := own {s with
            undefined := s.undefined || (s.gateServerContext (serverId sessionId)).isSome &&
              sessionIndex sessionId = s.gateSessionIndexMax} rfl rfl
          exact ⟨fun stays => kept (stays serves),fun leaves => lost fun stays => leaves fun _ => stays⟩
        · refine missed _ (apart actor _ here) fun serves => here ?_
          exact Option.some.inj (found.symm.trans serves.found)
      next none =>
        refine missed _ rfl fun serves => ?_
        have found := serves.found
        rw [none] at found
        cases found
  next stopped => exact missed s rfl fun serves => stopped serves.running

theorem forSession_spares (sessionId : UInt32) (handle : Object → Region → Region) (s : Region)
    (own : ∀ t : Region, t.contexts = s.contexts → handle player t = t)
    (apart : ∀ (actor : Object) (t : Region), actor ≠ player → (handle actor t).contexts player = t.contexts player) :
    Settles player True s (whileRunning (forSession sessionId handle) s) := by
  have settled := forSession_settles sessionId handle True s
    (fun t same _ => ⟨fun _ => by rw [own t same],fun never => absurd trivial never⟩) apart
  exact .same (settled.kept fun _ => trivial)

theorem pass_settles (s : Region) (marked : Marked s.toLoop) (present : Present player s) :
    Settles player True s {s with toLoop := loopPass s.toLoop} := by
  refine .same ?_
  change (drainBack deletePlayer s.finalizingQueue s.toLoop).contexts player = _
  refine drainBack_invariant deletePlayer (fun loop : Loop => loop.contexts player = s.contexts player)
    s.finalizingQueue ?_ s.toLoop rfl
  intro actor queued loop before
  have other : player ≠ actor := by
    intro same
    have closed := marked actor queued
    rw [← same,present.2] at closed
    cases closed
  have deleted : (deletePlayer actor loop).contexts = Function.update loop.contexts actor .clear := by
    rw [deletePlayer,emptySlot,eraseAvatar_rest]
  rw [deleted,Function.update_of_ne other]
  exact before

theorem onRegionAllocReq_settles (sessionId : UInt32) (avatarId : UInt64) (avatarName : WString) (s : Region)
    (present : Present player s) :
    Settles player True s (step env s (.onRegionAllocReq sessionId avatarId avatarName)) := by
  refine .same ?_
  rcases alloc_cases env sessionId avatarId avatarName s with same | ⟨actor,pool,_,_,_,stepped⟩
  · rw [same]
  · rw [stepped]
    let t := enrolled sessionId avatarId actor pool s
    by_cases unused : (s.contexts actor).state = .none
    · have other : actor ≠ player := by
        intro same
        rw [same,present.1] at unused
        cases unused
      have reached : reaches .onRegionAllocReq actor t = some .onRegionAllocReq := by
        change transition (s.contexts actor).state _ = _
        rw [unused]
        rfl
      rw [onRegionAllocReq,expect,reached]
      dsimp only
      have allocates : Aside 0 player actor _ _ :=
        attempt_aside env actor (.onRegionAllocAck sessionId env.config.serverId 0)
          (stateTransition .regionAllocAck actor)
          ((setState actor .onRegionAllocReq t).update actor fun context => {context with
            sessionId := sessionId
            avatarId := avatarId
            avatarName := avatarName
            gateServer := if env.hasPeerServer (serverId sessionId) then some (serverId sessionId) else none})
          (plain_silent _ rfl) fun u _ _ => stateTransition_aside actor _ u fun same => absurd same other
      rw [allocates.apart other,update_other _ actor player _ (Ne.symm other)]
      exact update_other t actor player _ (Ne.symm other)
    · rw [onRegionAllocReq_used env actor sessionId avatarId avatarName t unused]
      rfl

/-- What a step of the region does with a player that has entered. -/
theorem step_settles (s : Region) (action : Action) (marked : Marked s.toLoop) (present : Present player s) :
    Settles player (Stays env player s action) s (step env s action) := by
  have there (t : Region) (same : t.contexts = s.contexts) : Present player t := by
    rw [Present,same]
    exact present
  cases action with
  | shutdown =>
    refine .same ?_
    rw [step,whileRunning]
    split <;> rfl
  | tick currTime => exact .same rfl
  | pass => exact pass_settles s marked present
  | shutdownPlayerReq actor =>
    by_cases same : actor = player
    · subst same
      exact ⟨fun other => absurd rfl other,fun _ => shutdownPlayer_absent s s present rfl⟩
    · have shut : Aside 0 player actor s (shutdownPlayer actor s) := shutdownPlayer_aside actor s
      exact ⟨fun _ => shut.apart same,fun mine => absurd same mine⟩
  | onRegionAllocReq sessionId avatarId avatarName =>
    exact onRegionAllocReq_settles env sessionId avatarId avatarName s present
  | onRegionReleaseReq sessionId =>
    refine forSession_spares sessionId onRegionReleaseReq s ?_ ?_
    · intro t same
      rw [onRegionReleaseReq,(there t same).2,if_neg Bool.false_ne_true,expect_entered _ _ t (there t same)]
    · intro actor t other
      have aside : Aside 0 player actor t (onRegionReleaseReq actor t) := onRegionReleaseReq_aside actor t other
      exact aside.apart other
  | onRegionEnterReq sessionId =>
    refine forSession_spares sessionId (onRegionEnterReq env) s ?_ ?_
    · intro t same
      rw [onRegionEnterReq,(there t same).2,if_neg Bool.false_ne_true,expect_entered _ _ t (there t same)]
    · intro actor t other
      have aside : Aside 0 player actor t (onRegionEnterReq env actor t) := onRegionEnterReq_aside env actor t other
      exact aside.apart other
  | onRegionEnterAck sessionId result =>
    refine forSession_settles sessionId (fun actor => onCommandOnRegionEnterAck env actor result) _ s ?_ ?_
    · intro t same _
      exact onRegionEnterAck_settles env result t (there t same)
    · intro actor t other
      exact (onCommandOnRegionEnterAck_aside env actor result t other (elsewhere _)).apart other
  | onRegionLeaveReq sessionId =>
    refine forSession_spares sessionId (onRegionLeaveReq env) s ?_ ?_
    · intro t same
      rw [onRegionLeaveReq,(there t same).2,if_neg Bool.false_ne_true,expect_entered _ _ t (there t same)]
    · intro actor t other
      have aside : Aside 0 player actor t (onRegionLeaveReq env actor t) := onRegionLeaveReq_aside env actor t other
      exact aside.apart other
  | packetForward sessionId packet =>
    cases packet with
    | other =>
      refine forSession_spares sessionId (fun _ t => t) s ?_ ?_
      · intro t _
        rfl
      · intro actor t _
        rfl
    | clientTimeReq clientTime =>
      refine forSession_spares sessionId (fun actor => onClientTimeReq env actor clientTime) s ?_ ?_
      · intro t same
        rw [onClientTimeReq,(there t same).2,if_neg Bool.false_ne_true,expect_entered _ _ t (there t same)]
      · intro actor t other
        exact (onClientTimeReq_aside env actor clientTime t other (elsewhere _)).apart other
    | regionChatReq message =>
      refine forSession_settles sessionId (fun actor => onRegionChatReq env actor message) _ s ?_ ?_
      · intro t same log
        have settled := onRegionChatReq_settles env message t (there t same)
        rw [named,sends,same,log] at settled
        exact settled
      · intro actor t other
        have aside : Aside 0 player actor t (onRegionChatReq env actor message t) :=
          onRegionChatReq_aside env actor message t
        exact aside.apart other

end

/-- A player that has entered stays, with all its data, exactly in the runs that neither shut it down from outside nor
ack a refused enter to it nor fail to write a chat of its own. -/
theorem entered_stays_iff (env : Env) (earlier later : List Action) (player : Object)
    (entered : Present player (run (step env) (init env.config) earlier)) :
    (Guarded (step env) (fun s action => Present player (step env s action))
        (run (step env) (init env.config) earlier) later ↔
      Guarded (step env) (Stays env player) (run (step env) (init env.config) earlier) later) ∧
    (Guarded (step env) (Stays env player) (run (step env) (init env.config) earlier) later →
      (run (step env) (run (step env) (init env.config) earlier) later).contexts player =
        (run (step env) (init env.config) earlier).contexts player) := by
  let s := run (step env) (init env.config) earlier
  have marked : Marked s.toLoop := run_invariant (step env) (fun _ _ => True) (fun s => Marked s.toLoop)
    (fun s action marked _ => step_marked env s action marked) _ earlier (guarded_true (step env) _ earlier)
    (init_marked env.config)
  constructor
  · refine guarded_congr (step env) (Stays env player) (fun s action => Present player (step env s action))
      (fun s => Marked s.toLoop ∧ Present player s) ?_ ?_ s later ⟨marked,entered⟩
    · intro s action both stays
      obtain ⟨marked,present⟩ := both
      refine ⟨step_marked env s action marked,?_⟩
      rw [Present,(step_settles env s action marked present).kept stays]
      exact present
    · intro s action both
      obtain ⟨marked,present⟩ := both
      have settled := step_settles env s action marked present
      constructor
      · intro stayed
        by_contra leaves
        exact settled.lost leaves stayed
      · intro stays
        rw [Present,settled.kept stays]
        exact present
  · intro guarded
    refine (run_invariant (step env) (Stays env player)
      (fun t => Marked t.toLoop ∧ t.contexts player = s.contexts player) ?_ s later guarded ⟨marked,rfl⟩).2
    intro t action both stays
    obtain ⟨marked,same⟩ := both
    have present : Present player t := by
      rw [Present,same]
      exact entered
    exact ⟨step_marked env t action marked,((step_settles env t action marked present).kept stays).trans same⟩

/-- The master has the player leave and releases it. -/
theorem entered_stays_left : Guarded (step sampleEnv) (fun s action => Present 0 (step sampleEnv s action))
    (run (step sampleEnv) (init sampleEnv.config) entered)
    [.onRegionLeaveReq firstSession,.onRegionReleaseReq firstSession,.pass] :=
  (entered_stays_iff sampleEnv entered _ 0 (by
    unfold Present
    decide +kernel)).1.mpr ⟨trivial,trivial,trivial,trivial⟩

end Fantuan.RegionServer.Residents
