import Fantuan.RegionServer.ClientViews

/-! A player's visit of a region: once it has been told the time, the only request that brings it on is its client's
for the time. What is done for another player leaves it alone, and tells its client no time.
-/
namespace Fantuan.RegionServer.Visits
open Lib.Table Lib.Drain ServerBase.ServerCommon Tool.ObjectPool Tool.StateMachine ServerLoop Player Commands
  PlayerSteps SendScripts FailReports Indexes ClientViews

def reaching (sessionId : UInt32) (event : Event) : Option Packet :=
  if event.success then toClient sessionId event.message else none

/-- Whether a player in its visit has given the region the time of its client; it is put on a map with that. -/
def timed : PlayerState → Option Bool
  | .serverTimeNtf => some false
  | .serverTime2Ntf | .initAvatarNtf => some true
  | _ => none

def timeOf : Packet → Option UInt32
  | .serverTimeNtf serverTime => some serverTime
  | _ => none

/-- The time that an event tells the client of a session. -/
def tells (sessionId : UInt32) (event : Event) : Option UInt32 := (reaching sessionId event).bind timeOf

/-- The player that the session has on the region is in use and not queued. -/
structure Lasts (sessionId : UInt32) (player : Object) (s : Region) : Prop where
  serves : Serves sessionId s player
  own : (s.contexts player).sessionId = sessionId
  active : Active player s

theorem lasts_iff (sessionId : UInt32) (player : Object) (s : Region) :
    (s.shutdownStatus = .notShutdown ∧
      ¬ (serverCountMax ≤ (serverId sessionId).toNat ∨ s.gateSessionIndexMax < sessionIndex sessionId) ∧
      slotOf sessionId s.toLoop = some player ∧ (s.contexts player).sessionId = sessionId ∧ Active player s) ↔
    Lasts sessionId player s := by
  constructor
  · intro ⟨running,inside,found,own,active⟩
    exact ⟨⟨running,inside,found⟩,own,active⟩
  · intro lasts
    exact ⟨lasts.serves.running,lasts.serves.inside,lasts.serves.found,lasts.own,lasts.active⟩

instance (sessionId : UInt32) (player : Object) (s : Region) : Decidable (Lasts sessionId player s) :=
  decidable_of_iff _ (lasts_iff sessionId player s)

/-- What is done for a player that acts leaves the others alone, and the player, unless it is queued, where it is in
its visit. No time is told to its client. -/
structure Aside (sessionId : UInt32) (player actor : Object) (s t : Region) : Prop where
  apart : actor ≠ player → t.contexts player = s.contexts player
  timed : (t.contexts player).finalizing = true ∨ timed (t.contexts player).state = timed (s.contexts player).state
  closed : (s.contexts player).finalizing = true → (t.contexts player).finalizing = true
  ids : ∀ other, (t.contexts other).sessionId = (s.contexts other).sessionId
  silent : ∃ new, t.log = new ++ s.log ∧ ∀ event ∈ new, tells sessionId event = none

section
variable {sessionId : UInt32} {player actor : Object}

theorem Aside.refl (s : Region) : Aside sessionId player actor s s :=
  ⟨fun _ => rfl,.inr rfl,id,fun _ => rfl,[],rfl,fun _ none => by cases none⟩

theorem Aside.trans {s t u : Region} (left : Aside sessionId player actor s t)
    (right : Aside sessionId player actor t u) : Aside sessionId player actor s u where
  apart other := (right.apart other).trans (left.apart other)
  timed := by
    rcases right.timed with queued | later
    · exact .inl queued
    · rcases left.timed with queued | earlier
      · exact .inl (right.closed queued)
      · exact .inr (later.trans earlier)
  closed queued := right.closed (left.closed queued)
  ids other := (right.ids other).trans (left.ids other)
  silent := by
    obtain ⟨first,start,none⟩ := left.silent
    obtain ⟨second,next,others⟩ := right.silent
    refine ⟨second ++ first,by rw [next,start,List.append_assoc],?_⟩
    intro event listed
    rcases List.mem_append.mp listed with late | early
    · exact others event late
    · exact none event early

theorem contexts_aside (s t : Region) (same : t.contexts = s.contexts) (log : t.log = s.log) :
    Aside sessionId player actor s t := by
  refine ⟨fun _ => by rw [same],.inr (by rw [same]),by rw [same]; exact id,fun _ => by rw [same],[],log,?_⟩
  intro event none
  cases none

theorem send_aside (env : Env) (message : Message) (s : Region)
    (silent : ∀ success, tells sessionId ⟨message,success⟩ = none) :
    Aside sessionId player actor s (send env message s) := by
  refine ⟨fun _ => rfl,.inr rfl,id,fun _ => rfl,[⟨message,sends env s⟩],rfl,?_⟩
  intro event listed
  rw [List.mem_singleton.mp listed]
  exact silent _

theorem plain_silent (message : Message) (plain : toClient sessionId message = none) (success : Bool) :
    tells sessionId ⟨message,success⟩ = none := by
  rw [tells,reaching,plain,ite_self]
  rfl

theorem write_aside (env : Env) (packet : Packet) (s : Region) :
    Aside sessionId player actor s (write env packet s) := by
  have sent : Aside sessionId player actor s (send env (.client packet) s) := send_aside env _ s (plain_silent _ rfl)
  rw [write]
  split
  · exact sent.trans (contexts_aside _ _ rfl rfl)
  · exact sent

theorem update_aside (actor : Object) (change : RegionPlayerContext → RegionPlayerContext) (s : Region)
    (ids : (change (s.contexts actor)).sessionId = (s.contexts actor).sessionId)
    (same : actor = player →
      ((change (s.contexts actor)).finalizing = true ∨
        timed (change (s.contexts actor)).state = timed (s.contexts actor).state) ∧
      ((s.contexts actor).finalizing = true → (change (s.contexts actor)).finalizing = true)) :
    Aside sessionId player actor s (s.update actor change) := by
  have all (other : Object) : ((s.update actor change).contexts other).sessionId = (s.contexts other).sessionId := by
    by_cases here : other = actor
    · rw [here,update_same,ids]
    · rw [update_other s actor other change here]
  have quiet : ∃ new, (s.update actor change).log = new ++ s.log ∧ ∀ event ∈ new, tells sessionId event = none :=
    ⟨[],rfl,fun _ none => by cases none⟩
  by_cases here : actor = player
  · obtain ⟨kept,closed⟩ := same here
    subst here
    refine ⟨fun other => absurd rfl other,?_,?_,all,quiet⟩
    · rw [update_same]
      exact kept
    · rw [update_same]
      exact closed
  · have other := update_other s actor player change (Ne.symm here)
    refine ⟨fun _ => other,.inr (by rw [other]),?_,all,quiet⟩
    rw [other]
    exact id

theorem shutdownPlayer_aside (actor : Object) (s : Region) :
    Aside sessionId player actor s (shutdownPlayer actor s) := by
  rw [shutdownPlayer]
  split
  · exact .refl s
  · split
    · have marked : Aside sessionId player actor s (s.update actor fun context => {context with finalizing := true}) :=
        update_aside actor _ s rfl fun _ => ⟨.inl rfl,fun _ => rfl⟩
      exact marked.trans (contexts_aside _ _ rfl rfl)
    · exact .refl s

theorem setState_aside (actor : Object) (next : PlayerState) (s : Region)
    (kept : actor = player → timed next = timed (s.contexts actor).state) :
    Aside sessionId player actor s (setState actor next s) :=
  update_aside actor _ s rfl fun same => ⟨.inr (kept same),id⟩

theorem initAvatarNtf_timed (state next : PlayerState) (reached : transition state .initAvatarNtf = some next) :
    timed next = timed state := by
  revert reached
  cases state <;> cases next <;> decide

theorem stateTransition_aside (actor : Object) (event : PlayerEvent) (s : Region)
    (kept : actor = player → event = .initAvatarNtf) :
    Aside sessionId player actor s (stateTransition event actor s) := by
  rw [stateTransition]
  split
  next next reached =>
    apply setState_aside
    intro same
    rw [kept same] at reached
    exact initAvatarNtf_timed _ next reached
  · exact .refl s

section
variable (env : Env) (actor : Object)

theorem attempt_aside (message : Message) (next : Region → Region) (s : Region)
    (silent : ∀ success, tells sessionId ⟨message,success⟩ = none)
    (continues : ∀ t, t.contexts = s.contexts → t.delay = s.delay → Aside sessionId player actor t (next t)) :
    Aside sessionId player actor s (attempt env actor message next s) := by
  have sent : Aside sessionId player actor s (send env message s) := send_aside env message s silent
  rw [attempt]
  split
  · exact sent.trans (continues _ rfl rfl)
  · exact sent.trans (shutdownPlayer_aside actor _)

theorem attemptWrite_aside (packet : Packet) (next : Region → Region) (s : Region)
    (continues : ∀ t, t.contexts = s.contexts → t.delay = some packet → Aside sessionId player actor t (next t)) :
    Aside sessionId player actor s (attemptWrite env actor packet next s) := by
  have wrote : Aside sessionId player actor s (write env packet s) := write_aside env packet s
  rw [attemptWrite]
  split
  next sends =>
    refine wrote.trans (continues _ (write_contexts env packet s) ?_)
    rw [write,if_pos sends]
  · exact wrote.trans (shutdownPlayer_aside actor _)

theorem attemptData_aside (next : Region → Region) (s : Region)
    (untimed : s.delay.bind timeOf = none ∨ (s.contexts actor).sessionId ≠ sessionId)
    (continues : ∀ t, t.contexts = s.contexts → t.delay = s.delay → Aside sessionId player actor t (next t)) :
    Aside sessionId player actor s (attemptData env actor next s) := by
  refine attempt_aside env actor _ next s ?_ continues
  intro success
  rw [tells,reaching,toClient]
  rcases untimed with none | other
  · split
    · split
      · exact none
      · rfl
    · rfl
  · rw [if_neg other,ite_self]
    rfl

theorem broadcastData_aside (s : Region) (untimed : s.delay.bind timeOf = none) :
    Aside sessionId player actor s (broadcastData env s) := by
  obtain ⟨new,undefined,result,broadcast⟩ := broadcastData_sent env s
  rw [result]
  refine ⟨fun _ => rfl,.inr rfl,id,fun _ => rfl,new,rfl,?_⟩
  intro event member
  obtain ⟨gate,ids,sent⟩ := broadcast event member
  rw [tells,reaching,sent,toClient]
  split
  · split
    · exact untimed
    · rfl
  · rfl

omit actor in
theorem withName_aside {actor : Object} (owner : Object) (next : List UInt8 → Region → Region) (s : Region)
    (continues : ∀ name, Aside sessionId player actor s (next name s)) :
    Aside sessionId player actor s (withName env owner next s) := by
  rw [withName]
  split
  · exact continues _
  · exact .refl s

theorem foldl_aside {Item : Type} (handle : Region → Item → Region)
    (aside : ∀ t item, Aside sessionId player actor t (handle t item)) (items : List Item) (s : Region) :
    Aside sessionId player actor s (items.foldl handle s) := by
  induction items generalizing s with
  | nil => exact .refl s
  | cons item items ih => exact (aside s item).trans (ih _)

theorem shout_aside (packet : Packet) (s : Region) (untimed : timeOf packet = none) :
    Aside sessionId player actor s (attemptWrite env actor packet (broadcastData env) s) := by
  apply attemptWrite_aside
  intro t _ saved
  apply broadcastData_aside
  rw [saved]
  exact untimed

theorem onRegionChatReq_aside (message : List UInt8) (s : Region) :
    Aside sessionId player actor s (onRegionChatReq env actor message s) :=
  withName_aside env actor _ s fun _ => shout_aside env actor _ s rfl

theorem broadcastAvatarEnterNtf_aside (s : Region) :
    Aside sessionId player actor s (broadcastAvatarEnterNtf env actor s) :=
  withName_aside env actor _ s fun _ => shout_aside env actor _ s rfl

theorem sendRegionAvatars_aside (s : Region) : Aside sessionId player actor s (sendRegionAvatars env actor s) := by
  apply foldl_aside
  intro t other
  split
  · exact .refl t
  · refine withName_aside env other _ t fun name => attemptWrite_aside env actor _ _ t ?_
    intro u _ saved
    refine attemptData_aside env actor id u (.inl (by rw [saved]; rfl)) ?_
    intro v _ _
    exact .refl v

theorem sendInitialAvatarData_aside (s : Region) :
    Aside sessionId player actor s (sendInitialAvatarData env actor s) := by
  refine withName_aside env actor _ s fun name => attemptWrite_aside env actor _ _ s ?_
  intro t _ saved
  refine attemptData_aside env actor _ t (.inl (by rw [saved]; rfl)) ?_
  intro u _ _
  exact stateTransition_aside actor _ u fun _ => rfl

theorem initialMapEnter_aside (s : Region) : Aside sessionId player actor s (initialMapEnter env actor s) := by
  rw [initialMapEnter.eq_def]
  cases s.avatars actor with
  | none => exact contexts_aside s _ rfl rfl
  | some teleport =>
    have placed (avatars : Object → Option UInt16) : Aside sessionId player actor s {s with avatars := avatars} :=
      contexts_aside s _ rfl rfl
    dsimp only
    cases env.logicLoopByMap (if teleport = 0 then 1 else teleport) with
    | some logicLoop => exact (placed _).trans (update_aside actor _ _ rfl fun _ => ⟨.inr rfl,id⟩)
    | none => exact (placed _).trans (shutdownPlayer_aside actor _)

theorem initial_aside (s : Region) :
    Aside sessionId player actor s (sendRegionAvatars env actor (broadcastAvatarEnterNtf env actor
      (initialMapEnter env actor (sendInitialAvatarData env actor s)))) :=
  (((sendInitialAvatarData_aside env actor s).trans (initialMapEnter_aside env actor _)).trans
    (broadcastAvatarEnterNtf_aside env actor _)).trans (sendRegionAvatars_aside env actor _)

theorem expect_aside (event : PlayerEvent) (next : Region → Region) (s : Region) (other : actor ≠ player)
    (continues : ∀ t, (t.contexts actor).sessionId = (s.contexts actor).sessionId →
      Aside sessionId player actor t (next t)) : Aside sessionId player actor s (expect event actor next s) := by
  rw [expect]
  split
  next state _ =>
    have moved : Aside sessionId player actor s (setState actor state s) :=
      setState_aside actor state s fun same => absurd same other
    exact moved.trans (continues _ (moved.ids actor))
  · exact .refl s

theorem onRegionReleaseReq_aside (s : Region) (other : actor ≠ player) :
    Aside sessionId player actor s (onRegionReleaseReq actor s) := by
  rw [onRegionReleaseReq]
  split
  · exact .refl s
  · exact expect_aside actor _ _ s other fun t _ => shutdownPlayer_aside actor t

theorem onRegionEnterReq_aside (s : Region) (other : actor ≠ player) :
    Aside sessionId player actor s (onRegionEnterReq env actor s) := by
  have enters (t : Region) : Aside sessionId player actor t (attempt env actor (.onRegionEnterReq
      (t.contexts actor).sessionId env.config.serverId (t.contexts actor).avatarName)
      (stateTransition .regionEnterReq actor) t) :=
    attempt_aside env actor _ _ t (plain_silent _ rfl) fun u _ _ =>
      stateTransition_aside actor _ u fun same => absurd same other
  rw [onRegionEnterReq]
  split
  · exact .refl s
  · apply expect_aside actor _ _ s other
    intro t _
    dsimp only
    split
    · exact enters t
    · split
      · have met (avatars : Object → Option UInt16) : Aside sessionId player actor t {t with avatars := avatars} :=
          contexts_aside t _ rfl rfl
        exact (met _).trans (enters _)
      · exact shutdownPlayer_aside actor t

/-- Another player is told a time for its own session. -/
theorem tell_aside (packet : Packet) (next : Region → Region) (s : Region)
    (away : (s.contexts actor).sessionId ≠ sessionId) (continues : ∀ t, Aside sessionId player actor t (next t)) :
    Aside sessionId player actor s (attemptWrite env actor packet (attemptData env actor next) s) := by
  apply attemptWrite_aside
  intro t same _
  refine attemptData_aside env actor next t (.inr ?_) fun u _ _ => continues u
  rw [same]
  exact away

theorem onRegionEnterAck_aside (s : Region) (other : actor ≠ player)
    (away : (s.contexts actor).sessionId ≠ sessionId) :
    Aside sessionId player actor s (onRegionEnterAck env actor s) := by
  rw [onRegionEnterAck]
  split
  · exact .refl s
  · apply expect_aside actor _ _ s other
    intro t own
    refine attempt_aside env actor _ _ t (plain_silent _ rfl) ?_
    intro u same _
    refine tell_aside env actor _ _ u ?_ fun v => stateTransition_aside actor _ v fun same => absurd same other
    rw [same,own]
    exact away

theorem onCommandOnRegionEnterAck_aside (result : Int32) (s : Region) (other : actor ≠ player)
    (away : (s.contexts actor).sessionId ≠ sessionId) :
    Aside sessionId player actor s (onCommandOnRegionEnterAck env actor result s) := by
  rw [onCommandOnRegionEnterAck]
  split
  · exact shutdownPlayer_aside actor s
  · exact onRegionEnterAck_aside env actor s other away

theorem onRegionLeaveReq_aside (s : Region) (other : actor ≠ player) :
    Aside sessionId player actor s (onRegionLeaveReq env actor s) := by
  rw [onRegionLeaveReq]
  split
  · exact .refl s
  · apply expect_aside actor _ _ s other
    intro t _
    exact (shutdownPlayer_aside actor t).trans (shout_aside env actor _ _ rfl)

theorem onClientTimeReq_aside (clientTime : UInt32) (s : Region) (other : actor ≠ player)
    (away : (s.contexts actor).sessionId ≠ sessionId) :
    Aside sessionId player actor s (onClientTimeReq env actor clientTime s) := by
  rw [onClientTimeReq]
  split
  · exact .refl s
  · apply expect_aside actor _ _ s other
    intro t own
    refine tell_aside env actor _ _ t ?_ ?_
    · rw [own]
      exact away
    · intro u
      have moved : Aside sessionId player actor u (stateTransition .serverTime2Ntf actor u) :=
        stateTransition_aside actor _ u fun same => absurd same other
      exact moved.trans (initial_aside env actor _)

end

section
variable (env : Env) (s : Region)

theorem timed_transition (state : PlayerState) (event : PlayerEvent) (visits : timed state ≠ none)
    (other : event ≠ .onRegionLeaveReq ∧ event ≠ .onClientTimeReq ∧ event ≠ .initAvatarNtf) :
    transition state event = none := by
  revert visits other
  cases state <;> cases event <;> decide

theorem expect_visited (event : PlayerEvent) (next : Region → Region)
    (visits : timed (s.contexts player).state ≠ none)
    (other : event ≠ .onRegionLeaveReq ∧ event ≠ .onClientTimeReq ∧ event ≠ .initAvatarNtf) :
    expect event player next s = s := by
  rw [expect,reaches,timed_transition _ event visits other]

theorem own_aside (handle : Region → Region) (visits : timed (s.contexts player).state ≠ none)
    (own : handle = onRegionReleaseReq player ∨ handle = onRegionEnterReq env player ∨
      (∃ result, handle = onCommandOnRegionEnterAck env player result) ∨ handle = onRegionLeaveReq env player) :
    Aside sessionId player player s (handle s) := by
  rcases own with rfl | rfl | ⟨result,rfl⟩ | rfl
  · rw [onRegionReleaseReq]
    split
    · exact .refl s
    · rw [expect_visited s _ _ visits (by decide)]
      exact .refl s
  · rw [onRegionEnterReq]
    split
    · exact .refl s
    · rw [expect_visited s _ _ visits (by decide)]
      exact .refl s
  · rw [onCommandOnRegionEnterAck]
    split
    · exact shutdownPlayer_aside player s
    · rw [onRegionEnterAck]
      split
      · exact .refl s
      · rw [expect_visited s _ _ visits (by decide)]
        exact .refl s
  · rw [onRegionLeaveReq]
    split
    · exact .refl s
    · rw [expect]
      split
      next next reached =>
        have used := (plain_transition _ next .onRegionLeaveReq (by decide) reached).2
        let left := shutdownPlayer player (setState player next s)
        have queued : (left.contexts player).finalizing = true := by
          apply LeaveAnswers.shutdownPlayer_finalizing
          rw [setState,update_same]
          exact used
        have shut : Aside sessionId player player (setState player next s) left := shutdownPlayer_aside player _
        have log : (setState player next s).log = s.log := rfl
        have named : ∀ other, ((setState player next s).contexts other).sessionId = (s.contexts other).sessionId := by
          intro other
          by_cases same : other = player
          · rw [same,setState,update_same]
          · rw [setState,update_other s player other _ same]
        have begun : Aside sessionId player player s left := by
          refine ⟨fun other => absurd rfl other,.inl queued,fun _ => queued,
            fun other => (shut.ids other).trans (named other),?_⟩
          obtain ⟨new,said,silent⟩ := shut.silent
          exact ⟨new,by rw [said,log],silent⟩
        exact begun.trans (shout_aside env player _ _ rfl)
      · exact .refl s

/-- Unless the player is queued, it has gone on and its client has been told one time. -/
def Answered (sessionId : UInt32) (player : Object) (s t : Region) : Prop :=
  (t.contexts player).finalizing = true ∨ timed (t.contexts player).state = some true ∧
    ∃ new, t.log = new ++ s.log ∧ (new.filterMap (tells sessionId)).length = 1

theorem attemptData_answers (time : UInt32) (told : Region) (own : (told.contexts player).sessionId = sessionId)
    (state : (told.contexts player).state = .onClientTimeReq) (saved : told.delay = some (.serverTimeNtf time))
    (log : told.log = ⟨.client (.serverTimeNtf time),true⟩ :: s.log) :
    Answered sessionId player s (attemptData env player (fun s =>
      sendRegionAvatars env player <| broadcastAvatarEnterNtf env player <|
        initialMapEnter env player <| sendInitialAvatarData env player <|
        stateTransition .serverTime2Ntf player s) told) := by
  let packet : Message := .sendData (told.contexts player).gateServer sessionId (some (.serverTimeNtf time))
  have one : tells sessionId ⟨packet,true⟩ = some time := by
    rw [tells,reaching,toClient]
    simp [timeOf]
  rw [attemptData,attempt,own,saved]
  split
  next sent =>
    let data := send env packet told
    have logged : data.log = [⟨packet,true⟩,⟨.client (.serverTimeNtf time),true⟩] ++ s.log := by
      change ⟨packet,sends env told⟩ :: told.log = _
      rw [sent,log]
      rfl
    have reached : reaches .serverTime2Ntf player data = some .serverTime2Ntf := by
      change transition (told.contexts player).state _ = _
      rw [state]
      rfl
    have begun : stateTransition .serverTime2Ntf player data = setState player .serverTime2Ntf data := by
      rw [stateTransition,reached]
    have after : Aside sessionId player player (setState player .serverTime2Ntf data) _ := initial_aside env player _
    rw [← begun] at after
    have arrived : timed ((stateTransition .serverTime2Ntf player data).contexts player).state = some true := by
      rw [begun,setState,update_same]
      rfl
    obtain ⟨new,said,silent⟩ := after.silent
    rcases after.timed with queued | stays
    · exact .inl queued
    · refine .inr ⟨stays.trans arrived,
        new ++ [⟨packet,true⟩,⟨.client (.serverTimeNtf time),true⟩],said.trans ?_,?_⟩
      · rw [begun]
        change new ++ data.log = _
        rw [logged,List.append_assoc]
      · have none : new.filterMap (tells sessionId) = [] := List.filterMap_eq_nil_iff.mpr silent
        rw [List.filterMap_append,none,List.nil_append,List.filterMap_cons_some one,
          List.filterMap_cons_none (plain_silent _ rfl true)]
        rfl
  · left
    apply LeaveAnswers.shutdownPlayer_finalizing
    change (told.contexts player).state ≠ _
    rw [state]
    intro none
    cases none

theorem onClientTimeReq_answers (clientTime : UInt32) (active : Active player s)
    (waits : (s.contexts player).state = .serverTimeNtf) (own : (s.contexts player).sessionId = sessionId) :
    Answered sessionId player s (onClientTimeReq env player clientTime s) := by
  have reached : reaches .onClientTimeReq player s = some .onClientTimeReq := by
    rw [reaches,waits]
    rfl
  let time := s.currTime + (s.currTime - clientTime) / 2
  let waiting := setState player .onClientTimeReq s
  have named : waiting.contexts player = {s.contexts player with state := .onClientTimeReq} := update_same s player _
  have contexts := write_contexts env (.serverTimeNtf time) waiting
  rw [onClientTimeReq,active.1,if_neg Bool.false_ne_true,expect,reached]
  change Answered sessionId player s (attemptWrite env player (.serverTimeNtf time) _ waiting)
  rw [attemptWrite]
  split
  next written =>
    apply attemptData_answers env s time
    · rw [contexts,named]
      exact own
    · rw [contexts,named]
    · rw [write,if_pos written]
    · rw [write,if_pos written]
      change ⟨_,sends env waiting⟩ :: s.log = _
      rw [written]
  · left
    apply LeaveAnswers.shutdownPlayer_finalizing
    rw [contexts,named]
    intro none
    cases none

end

theorem alone (s : Region) (sound : Sound s) (lasts : Lasts sessionId player s) (actor : Object)
    (live : Live s actor) (other : actor ≠ player) : (s.contexts actor).sessionId ≠ sessionId := by
  intro same
  have listed := sound.slots actor live
  rw [same,lasts.serves.found] at listed
  exact other (Option.some.inj listed).symm

theorem slotOf_live (s : Region) (sound : Sound s) (id : UInt32) (actor : Object)
    (found : slotOf id s.toLoop = some actor) :
    Live s actor ∧ serverId (s.contexts actor).sessionId = serverId id ∧
      sessionIndex (s.contexts actor).sessionId = sessionIndex id :=
  sound.slotted _ _ actor found

structure Spares (sessionId : UInt32) (player : Object) (s t : Region) : Prop where
  timed : timed (t.contexts player).state = timed (s.contexts player).state
  silent : ∃ new, t.log = new ++ s.log ∧ ∀ event ∈ new, tells sessionId event = none

theorem Aside.spares {s t : Region} (aside : Aside sessionId player actor s t) (lasts : Lasts sessionId player t) :
    Spares sessionId player s t := by
  refine ⟨?_,aside.silent⟩
  rcases aside.timed with queued | kept
  · rw [lasts.active.1] at queued
    cases queued
  · exact kept

theorem forSession_aside (id : UInt32) (handle : Object → Region → Region) (s : Region)
    (aside : ∀ actor t, slotOf id s.toLoop = some actor → t.contexts = s.contexts → t.log = s.log →
      Aside sessionId player actor t (handle actor t)) :
    ∃ actor, Aside sessionId player actor s (whileRunning (forSession id handle) s) := by
  rw [whileRunning]
  split
  · rw [forSession]
    split
    · exact ⟨player,.refl s⟩
    · dsimp only
      split
      next actor found =>
        have read (undefined : Bool) : Aside sessionId player actor s {s with undefined := undefined} :=
          contexts_aside s _ rfl rfl
        exact ⟨actor,(read _).trans (aside actor _ found rfl rfl)⟩
      · exact ⟨player,contexts_aside s _ rfl rfl⟩
  · exact ⟨player,.refl s⟩

theorem pass_spares (s : Region) (lasts : Lasts sessionId player {s with toLoop := loopPass s.toLoop}) :
    Spares sessionId player s {s with toLoop := loopPass s.toLoop} := by
  have deletes (actor : Object) (loop : Loop) :
      (deletePlayer actor loop).contexts = Function.update loop.contexts actor .clear := by
    rw [deletePlayer,emptySlot,eraseAvatar_rest]
  have kept : (drainBack deletePlayer s.finalizingQueue s.toLoop).contexts player =
        s.contexts player ∨
      ((drainBack deletePlayer s.finalizingQueue s.toLoop).contexts player).state = .none := by
    refine drainBack_invariant deletePlayer (fun loop : Loop =>
      loop.contexts player = s.contexts player ∨ (loop.contexts player).state = .none) s.finalizingQueue ?_
      s.toLoop (.inl rfl)
    intro actor _ loop before
    rw [deletes]
    by_cases same : player = actor
    · right
      rw [same,Function.update_self]
      rfl
    · rw [Function.update_of_ne same]
      exact before
  refine ⟨?_,[],rfl,fun _ none => by cases none⟩
  rcases kept with same | none
  · exact congrArg (fun context => timed context.state) same
  · exact absurd none lasts.active.2

theorem alloc_spares (env : Env) (s : Region) (id : UInt32) (avatarId : UInt64) (avatarName : WString)
    (active : Active player s)
    (lasts : Lasts sessionId player (step env s (.onRegionAllocReq id avatarId avatarName))) :
    Spares sessionId player s (step env s (.onRegionAllocReq id avatarId avatarName)) := by
  have still : Spares sessionId player s s := ⟨rfl,[],rfl,fun _ none => by cases none⟩
  rcases alloc_cases env id avatarId avatarName s with same | ⟨actor,pool,_,_,_,result⟩
  · rw [same]
    exact still
  · rw [result] at lasts ⊢
    let t := enrolled id avatarId actor pool s
    have contexts : t.contexts = s.contexts := rfl
    have log : t.log = s.log := rfl
    by_cases unused : (s.contexts actor).state = .none
    · have other : actor ≠ player := by
        intro same
        rw [same] at unused
        exact active.2 unused
      have reached : reaches .onRegionAllocReq actor t = some .onRegionAllocReq := by
        rw [reaches,contexts,unused]
        rfl
      rw [onRegionAllocReq,expect,reached] at lasts ⊢
      let named := (setState actor .onRegionAllocReq t).update actor fun context => {context with
        sessionId := id
        avatarId := avatarId
        avatarName := avatarName
        gateServer := if env.hasPeerServer (serverId id) then some (serverId id) else none}
      have apart : named.contexts player = s.contexts player := by
        change (Region.update _ actor _).contexts player = _
        rw [update_other _ actor player _ (Ne.symm other)]
        exact update_other t actor player _ (Ne.symm other)
      have aside : Aside sessionId player actor named (attempt env actor (.onRegionAllocAck id env.config.serverId 0)
          (stateTransition .regionAllocAck actor) named) :=
        attempt_aside env actor _ _ named (plain_silent _ rfl) fun u _ _ =>
          stateTransition_aside actor _ u fun same => absurd same other
      obtain ⟨kept,silent⟩ := aside.spares lasts
      rw [apart] at kept
      exact ⟨kept,silent⟩
    · rw [onRegionAllocReq_used env actor id avatarId avatarName t unused]
      exact ⟨rfl,[],rfl,fun _ none => by cases none⟩

/-- No request but that of its own client brings a player on in its visit. -/
theorem step_spares (env : Env) (s : Region) (action : Action) (sound : Sound s)
    (before : Lasts sessionId player s) (visits : timed (s.contexts player).state ≠ none)
    (other : ∀ id clientTime, action = .packetForward id (.clientTimeReq clientTime) → slotOf id s.toLoop ≠ some player)
    (lasts : Lasts sessionId player (step env s action)) :
    Spares sessionId player s (step env s action) := by
  have away (id : UInt32) (actor : Object) (found : slotOf id s.toLoop = some actor) (apart : actor ≠ player) :=
    alone s sound before actor (slotOf_live s sound id actor found).1 apart
  have session (id : UInt32) (handle : Object → Region → Region)
      (aside : ∀ actor t, slotOf id s.toLoop = some actor → t.contexts = s.contexts → t.log = s.log →
        Aside sessionId player actor t (handle actor t))
      (still : Lasts sessionId player (whileRunning (forSession id handle) s)) :
      Spares sessionId player s (whileRunning (forSession id handle) s) := by
    obtain ⟨actor,left⟩ := forSession_aside id handle s aside
    exact left.spares still
  cases action with
  | shutdown =>
    have stopped : Aside sessionId player player s
        (if s.shutdownStatus = .notShutdown then {s with shutdownStatus := .startShutdown} else s) := by
      split
      · exact contexts_aside s _ rfl rfl
      · exact .refl s
    exact stopped.spares lasts
  | tick currTime =>
    have told : Aside sessionId player player s (step env s (.tick currTime)) := contexts_aside s _ rfl rfl
    exact told.spares lasts
  | pass => exact pass_spares s lasts
  | shutdownPlayerReq actor => exact (shutdownPlayer_aside actor s).spares lasts
  | onRegionAllocReq id avatarId avatarName => exact alloc_spares env s id avatarId avatarName before.active lasts
  | onRegionReleaseReq id =>
    refine session id _ ?_ lasts
    intro actor t _ same _
    by_cases own : actor = player
    · subst own
      exact own_aside env t _ (by rw [same]; exact visits) (.inl rfl)
    · exact onRegionReleaseReq_aside actor t own
  | onRegionEnterReq id =>
    refine session id _ ?_ lasts
    intro actor t _ same _
    by_cases own : actor = player
    · subst own
      exact own_aside env t _ (by rw [same]; exact visits) (.inr (.inl rfl))
    · exact onRegionEnterReq_aside env actor t own
  | onRegionEnterAck id result =>
    refine session id _ ?_ lasts
    intro actor t found same _
    by_cases own : actor = player
    · subst own
      exact own_aside env t _ (by rw [same]; exact visits) (.inr (.inr (.inl ⟨result,rfl⟩)))
    · exact onCommandOnRegionEnterAck_aside env actor result t own (by rw [same]; exact away id actor found own)
  | onRegionLeaveReq id =>
    refine session id _ ?_ lasts
    intro actor t _ same _
    by_cases own : actor = player
    · subst own
      exact own_aside env t _ (by rw [same]; exact visits) (.inr (.inr (.inr rfl)))
    · exact onRegionLeaveReq_aside env actor t own
  | packetForward id packet =>
    refine session id _ ?_ lasts
    intro actor t found same _
    cases packet with
    | other => exact .refl t
    | regionChatReq message => exact onRegionChatReq_aside env actor message t
    | clientTimeReq clientTime =>
      have apart : actor ≠ player := by
        intro own
        rw [own] at found
        exact other id clientTime rfl found
      exact onClientTimeReq_aside env actor clientTime t apart (by rw [same]; exact away id actor found apart)

end

end Fantuan.RegionServer.Visits
