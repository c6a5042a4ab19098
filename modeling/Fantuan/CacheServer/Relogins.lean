import Fantuan.CacheServer.AvatarAcks
import Fantuan.CacheServer.EventPushes
import Fantuan.CacheServer.PoolFirings

/-! Two sessions of an account one after the other. Each is a sequence of its own to the pool, so that
only the requests of the later one can wait for what the earlier one writes.
-/
namespace Fantuan.CacheServer.Relogins
open Lib.Table Lib.Run Tool.ObjectPool CacheDBEvent Player Commands PlayerSteps Sessions PoolEvents
  PoolFirings EventPushes

def writes : EventData → Bool
  | .avatarSaveData _ _ | .avatarLogout _ | .avatarFinalize => true
  | _ => false

def reads : EventData → Bool
  | .getAvatarList _ _ | .avatarSelectData _ _ _ | .avatarEnterRegion _ _ => true
  | _ => false

/-- An event of such a kind that was pushed for the session. -/
def Pushed (kind : EventData → Bool) (sessionId : UInt32) (s : Cache) (event : Nat) : Prop :=
  event < s.dbConnPool.pushed ∧ (s.dbEvents event).sessionId = sessionId ∧
    kind (s.dbEvents event).data = true

instance (kind : EventData → Bool) (sessionId : UInt32) (s : Cache) : DecidablePred (Pushed kind sessionId s) :=
  fun _ => inferInstanceAs (Decidable (_ ∧ _ ∧ _))

/-- What was pushed to write for the session has been fired. -/
def Written (sessionId : UInt32) (s : Cache) : Prop :=
  ∀ event, Pushed writes sessionId s event → (s.dbConnPool.events event).fired = true

instance (kind : EventData → Bool) (sessionId : UInt32) (s : Cache) (P : Nat → Prop) [DecidablePred P] :
    Decidable (∀ event, Pushed kind sessionId s event → P event) :=
  decidable_of_iff (∀ event, event < s.dbConnPool.pushed → Pushed kind sessionId s event → P event)
    ⟨fun all event pushed => all event pushed.1 pushed,fun all event _ => all event⟩

/-- A thread that fires an event of the later session finds the earlier one written. -/
def Waits (earlier later : UInt32) (s : Cache) : Action → Prop
  | .work worker => ∀ event, s.dbConnPool.workers[worker]? = some (.popped event) →
      Pushed reads later s event → Written earlier s
  | _ => True

def Over (sessionId : UInt32) (s : Cache) : Prop :=
  find sessionId s.playerContextBySessionId = none ∧ Written sessionId s

/-- A list, select or enter request of the later session comes when the earlier one is over, which does
not log in again after it; a pass deletes at most one player. -/
def Succeeds (earlier later : UInt32) (s : Cache) : Action → Prop
  | .packetForward sessionId .avatarListReq => sessionId = later → Over earlier s
  | .packetForward sessionId (.avatarSelectReq _) => sessionId = later → Over earlier s
  | .onRegionEnterReq sessionId _ _ => sessionId = later → Over earlier s
  | .onLoginReq sessionId _ => sessionId = earlier → ∀ event, ¬ Pushed reads later s event
  | .drain => s.finalizingQueue.length ≤ 1
  | _ => True

instance (sessionId : UInt32) (s : Cache) : Decidable (Over sessionId s) :=
  inferInstanceAs (Decidable (_ ∧ ∀ event, Pushed writes sessionId s event → _))

instance (earlier later : UInt32) (s : Cache) : DecidablePred (Succeeds earlier later s)
  | .packetForward _ .avatarListReq | .packetForward _ (.avatarSelectReq _) | .onRegionEnterReq _ _ _ =>
    inferInstanceAs (Decidable (_ → Over earlier s))
  | .onLoginReq _ _ => inferInstanceAs (Decidable (_ → ∀ event, Pushed reads later s event → False))
  | .drain => inferInstanceAs (Decidable (_ ≤ 1))
  | .shutdown | .onLogoutReq _ | .packetForward _ (.avatarCreateReq _) | .packetForward _ .other
  | .saveData | .tick _ | .work _ | .result => inferInstanceAs (Decidable True)

/-- What a handler leaves of the events, and what it pushes. -/
structure Adds (kind : PlayerDBEvent → Prop) (s t : Cache) : Prop where
  pushed : s.dbConnPool.pushed ≤ t.dbConnPool.pushed
  old : ∀ event, event < s.dbConnPool.pushed → t.dbEvents event = s.dbEvents event
  new : ∀ event, s.dbConnPool.pushed ≤ event → event < t.dbConnPool.pushed → kind (t.dbEvents event)

theorem adds_same (kind : PlayerDBEvent → Prop) (s t : Cache) (pool : t.dbConnPool = s.dbConnPool)
    (events : t.dbEvents = s.dbEvents) : Adds kind s t := by
  refine ⟨by rw [pool],fun event _ => by rw [events],fun event from_ below => ?_⟩
  rw [pool] at below
  omega

theorem adds_trans (kind : PlayerDBEvent → Prop) (s t u : Cache) (first : Adds kind s t)
    (second : Adds kind t u) : Adds kind s u where
  pushed := first.pushed.trans second.pushed
  old := fun event below =>
    (second.old event (below.trans_le first.pushed)).trans (first.old event below)
  new := by
    intro event above below
    by_cases middle : event < t.dbConnPool.pushed
    · rw [second.old event middle]
      exact first.new event above middle
    · exact second.new event (Nat.le_of_not_lt middle) below

theorem push_adds (kind : PlayerDBEvent → Prop) (player : Object) (s : Cache) (data : EventData)
    (returnable : Bool) (allowed : kind ⟨(s.contexts player).sessionId,0,data⟩) :
    Adds kind s (pushSequenceEvent player data returnable s) where
  pushed := by
    obtain ⟨same,_⟩ | more := OpenEvents.push_pushed s player data returnable
    · rw [same]
    · omega
  old := fun event below => Function.update_of_ne (Nat.ne_of_lt below) ..
  new := by
    intro event above below
    obtain ⟨same,_⟩ | more := OpenEvents.push_pushed s player data returnable
    · omega
    · obtain rfl : event = s.dbConnPool.pushed := by omega
      rw [pushSequenceEvent]
      dsimp only
      rw [Function.update_self]
      exact allowed

theorem pushes_adds (kind : PlayerDBEvent → Prop) (s t : Cache) (pushes : Pushes kind s t) : Adds kind s t := by
  induction pushes with
  | refl => exact adds_same kind s s rfl rfl
  | tail _ step ih =>
    refine adds_trans kind _ _ _ ih ?_
    cases step with
    | other _ pool events => exact adds_same kind _ _ pool events
    | push player data returnable allowed => exact push_adds kind player _ data returnable allowed

/-- What a handler that no list, select or enter request calls may push. -/
abbrev Plain (event : PlayerDBEvent) : Prop := reads event.data = false

theorem plain_allows : Allows Plain := ⟨fun _ _ _ => rfl,fun _ _ _ => rfl,fun _ _ => rfl,fun _ => rfl⟩

/-- What a request of the player may push. -/
abbrev Own (sessionId : UInt32) (event : PlayerDBEvent) : Prop := event.sessionId = sessionId

def StillFired (s t : DbConnPool.Pool) : Prop :=
  ∀ event, (s.events event).fired = true → (t.events event).fired = true

theorem workerStep_fired (worker : Nat) (s : DbConnPool.Pool) : StillFired s (DbConnPool.workerStep worker s) := by
  intro event fired
  rw [workerStep_mark,fired,Bool.true_or]

/-- What a chain of steps leaves of the sessions and the events; a new event is one of a player. -/
structure Goes (s t : Cache) : Prop where
  sessions : t.playerContextBySessionId = s.playerContextBySessionId
  pool : Known s.dbConnPool → Known t.dbConnPool
  pushed : s.dbConnPool.pushed ≤ t.dbConnPool.pushed
  fired : ∀ event, event < s.dbConnPool.pushed →
    (s.dbConnPool.events event).fired = true → (t.dbConnPool.events event).fired = true
  old : ∀ event, event < s.dbConnPool.pushed →
    (t.dbEvents event).sessionId = (s.dbEvents event).sessionId ∧
      writes (t.dbEvents event).data = writes (s.dbEvents event).data ∧
      reads (t.dbEvents event).data = reads (s.dbEvents event).data
  new : ∀ event, s.dbConnPool.pushed ≤ event → event < t.dbConnPool.pushed →
    ∃ player, find (t.dbEvents event).sessionId s.playerContextBySessionId = some player

theorem goes_same (s t : Cache) (sessions : t.playerContextBySessionId = s.playerContextBySessionId)
    (pool : t.dbConnPool = s.dbConnPool) (events : t.dbEvents = s.dbEvents) : Goes s t := by
  refine ⟨sessions,fun known => by rw [pool]; exact known,by rw [pool],?_,?_,?_⟩
  · intro event _ fired
    rw [pool]
    exact fired
  · intro event _
    rw [events]
    exact ⟨rfl,rfl,rfl⟩
  · intro event above below
    rw [pool] at below
    omega

theorem goes_trans (s t u : Cache) (first : Goes s t) (second : Goes t u) : Goes s u where
  sessions := second.sessions.trans first.sessions
  pool := fun known => second.pool (first.pool known)
  pushed := first.pushed.trans second.pushed
  fired := fun event below fired =>
    second.fired event (below.trans_le first.pushed) (first.fired event below fired)
  old := by
    intro event below
    obtain ⟨session,write,read⟩ := first.old event below
    obtain ⟨session',write',read'⟩ := second.old event (below.trans_le first.pushed)
    exact ⟨session'.trans session,write'.trans write,read'.trans read⟩
  new := by
    intro event above below
    by_cases middle : event < t.dbConnPool.pushed
    · rw [(second.old event middle).1]
      exact first.new event above middle
    · rw [← first.sessions]
      exact second.new event (Nat.le_of_not_lt middle) below

theorem fireEvent_kinds (answer : Answer) (event : PlayerDBEvent) :
    writes (fireEvent answer event).data = writes event.data ∧
      reads (fireEvent answer event).data = reads event.data := by
  obtain ⟨sessionId,ret,data⟩ := event
  cases data <;> cases answer <;> exact ⟨rfl,rfl⟩

theorem work_goes (env : Env) (s : Cache) (worker : Nat) : Goes s (work env worker s) := by
  have same := OpenEvents.work_same env s worker
  have pushed := workerStep_pushed worker s.dbConnPool
  refine ⟨?_,?_,?_,?_,?_,?_⟩
  · rw [(same 0).1]
  · intro known
    rw [(same 0).2.2.1]
    exact workerStep_known _ known worker
  · rw [(same 0).2.2.1,pushed]
  · intro event _ fired
    rw [(same 0).2.2.1]
    exact workerStep_fired worker s.dbConnPool event fired
  · intro event _
    refine ⟨(same event).2.2.2.1,?_⟩
    rw [work]
    split
    next fired here =>
      dsimp only
      by_cases itself : event = fired
      · rw [itself,Function.update_self]
        exact fireEvent_kinds _ _
      · rw [Function.update_of_ne itself]
        exact ⟨rfl,rfl⟩
    · exact ⟨rfl,rfl⟩
  · intro event above below
    rw [(same 0).2.2.1,pushed] at below
    omega

theorem push_goes (s : Cache) (player : Object) (data : EventData) (returnable : Bool)
    (listed : Listed s player) : Goes s (pushSequenceEvent player data returnable s) := by
  have adds := push_adds (Own (s.contexts player).sessionId) player s data returnable rfl
  refine ⟨rfl,fun known => pushSequenceEvent_known _ known _ _ _,adds.pushed,?_,?_,?_⟩
  · intro event below fired
    rw [pushSequenceEvent]
    dsimp only
    rw [DbConnPool.pushSequenceEvent]
    split
    · exact fired
    · change (Function.update s.dbConnPool.events s.dbConnPool.pushed _ event).fired = true
      rw [Function.update_of_ne (Nat.ne_of_lt below)]
      exact fired
  · intro event below
    rw [adds.old event below]
    exact ⟨rfl,rfl,rfl⟩
  · intro event above below
    exact ⟨player,by rw [adds.new event above below]; exact listed⟩

theorem does_goes (env : Env) (s t : Cache) (does : Does env True False s t) : Goes s t := by
  induction does with
  | refl => exact goes_same s s rfl rfl rfl
  | tail _ step ih =>
    refine goes_trans _ _ _ ih ?_
    cases step with
    | work worker => exact work_goes env _ worker
    | push player data returnable listed => exact push_goes _ player data returnable listed
    | _ => exact goes_same _ _ rfl rfl rfl

structure Ready (earlier later : UInt32) (s : Cache) : Prop where
  sound : Sound s
  known : Known s.dbConnPool
  finished : ∀ event, Pushed reads later s event → Over earlier s

section
variable (env : Env) (earlier later : UInt32) (s : Cache)

theorem over_goes (t : Cache) (goes : Goes s t) (finished : Over earlier s) : Over earlier t := by
  refine ⟨by rw [goes.sessions]; exact finished.1,?_⟩
  intro event ⟨below,session,write⟩
  by_cases before : event < s.dbConnPool.pushed
  · obtain ⟨session',write',_⟩ := goes.old event before
    rw [session'] at session
    rw [write'] at write
    exact goes.fired event before (finished.2 event ⟨before,session,write⟩)
  · obtain ⟨player,found⟩ := goes.new event (Nat.le_of_not_lt before) below
    rw [session,finished.1] at found
    cases found

theorem goes_over (t : Cache) (goes : Goes s t) (finished : ∀ event, Pushed reads later s event → Over earlier s)
    (reading : ∀ event, s.dbConnPool.pushed ≤ event → event < t.dbConnPool.pushed →
      (t.dbEvents event).sessionId = later → reads (t.dbEvents event).data = true → Over earlier s)
    (event : Nat) (pushed : Pushed reads later t event) : Over earlier t := by
  obtain ⟨below,session,read⟩ := pushed
  apply over_goes earlier s t goes
  by_cases before : event < s.dbConnPool.pushed
  · obtain ⟨session',_,read'⟩ := goes.old event before
    rw [session'] at session
    rw [read'] at read
    exact finished event ⟨before,session,read⟩
  · exact reading event (Nat.le_of_not_lt before) below session read

theorem step_reading (action : Action) (plain : plainAction action = true) (keyed : Keyed s)
    (succeeds : Succeeds earlier later s action) (event : Nat)
    (above : s.dbConnPool.pushed ≤ event) (below : event < (step env s action).dbConnPool.pushed)
    (session : ((step env s action).dbEvents event).sessionId = later)
    (read : reads ((step env s action).dbEvents event).data = true) : Over earlier s := by
  have request (sessionId : UInt32) (handle : Object → Cache → Cache)
      (same : step env s action = whileRunning (forSession sessionId handle) s)
      (pushes : ∀ player, Pushes (Own (s.contexts player).sessionId) s (handle player s))
      (comes : sessionId = later → Over earlier s) : Over earlier s := by
    have own := pushes_adds (Own sessionId) s _ (whileRunning_pushes _ s (forSession sessionId handle)
      (forSession_pushes _ s sessionId handle fun player found => by
        have pushes := pushes player
        rw [keyed sessionId player found] at pushes
        exact pushes))
    rw [same] at below session
    exact comes ((own.new event above below).symm.trans session)
  have other (pushes : Pushes Plain s (step env s action)) : Over earlier s := by
    have silent : reads _ = false := (pushes_adds Plain s _ pushes).new event above below
    rw [read] at silent
    cases silent
  cases action with
  | onLoginReq => cases plain
  | result => cases plain
  | drain => cases plain
  | shutdown =>
    apply other
    exact whileRunning_pushes Plain s (fun s => {s with shutdownStatus := .startShutdown})
      (same_pushes Plain s _ rfl rfl)
  | onLogoutReq sessionId =>
    apply other
    exact whileRunning_pushes Plain s _ (forSession_pushes Plain s sessionId _ fun player _ =>
      onLogoutReq_pushes Plain env player s plain_allows)
  | onRegionEnterReq sessionId serverId avatarName =>
    exact request sessionId _ rfl
      (fun player => onRegionEnterReq_pushes _ env player s serverId avatarName fun _ => rfl) succeeds
  | packetForward sessionId packet =>
    cases packet with
    | avatarListReq =>
      exact request sessionId _ rfl (fun player => onAvatarListReq_pushes _ env player s fun _ => rfl) succeeds
    | avatarCreateReq avatarName =>
      apply other
      refine whileRunning_pushes Plain s _ (forSession_pushes Plain s sessionId _ fun player _ => ?_)
      rw [onPacketReceived]
      split
      · exact onAvatarCreateReq_pushes Plain env player s plain_allows _
      · exact nothing_pushes Plain s
    | avatarSelectReq avatarName =>
      refine request sessionId _ rfl (fun player => ?_) succeeds
      rw [onPacketReceived]
      split
      · exact onAvatarSelectReq_pushes _ env player s _ fun _ => rfl
      · exact nothing_pushes _ s
    | other =>
      apply other
      exact whileRunning_pushes Plain s _
        (forSession_pushes Plain s sessionId _ fun _ _ => nothing_pushes Plain s)
  | saveData =>
    apply other
    exact whileRunning_pushes Plain s _ (saveDataToDB_pushes Plain env s plain_allows)
  | tick currTime =>
    apply other
    exact same_pushes Plain s _ rfl rfl
  | work worker =>
    have goes := work_goes env s worker
    have same := (OpenEvents.work_same env s worker event).2.2.1
    change event < (work env worker s).dbConnPool.pushed at below
    rw [same,workerStep_pushed] at below
    omega

theorem step_ready (action : Action) (ready : Ready earlier later s)
    (succeeds : Succeeds earlier later s action) : Ready earlier later (step env s action) := by
  have single : Single s action := by
    cases action with
    | drain => exact succeeds
    | _ => trivial
  have sound := step_sound env s action ready.sound single
  have keyed := sound_keyed s ready.sound
  by_cases plain : plainAction action = true
  · have goes := does_goes env s _ (step_does env True False s action plain keyed fun _ => trivial)
    exact ⟨sound,goes.pool ready.known,goes_over earlier later s _ goes ready.finished
      (step_reading env earlier later s action plain keyed succeeds)⟩
  · cases action with
    | onLoginReq sessionId accountName =>
      rcases onLoginReq_cases env s sessionId accountName (unused s ready.sound) with
        same | ⟨player,pool,-,-,result⟩
      · rw [same]
        exact ready
      · rw [result] at sound ⊢
        refine ⟨sound,ready.known,?_⟩
        intro event pushed
        obtain ⟨gone,written⟩ := ready.finished event pushed
        refine ⟨?_,written⟩
        by_contra still
        obtain ⟨other,found⟩ := Option.ne_none_iff_exists'.mp still
        rcases find_insert_elim sessionId earlier player other _ found with old | ⟨rfl,-,-⟩
        · rw [gone] at old
          cases old
        · exact succeeds rfl event pushed
    | result =>
      rw [step,onDBEventResult] at sound ⊢
      split
      next event rest returned =>
        have popped : Goes s (taken event s) :=
          ⟨rfl,fun known => popFromDBEventReturnList_known _ known,le_rfl,fun _ _ => id,
            fun _ _ => ⟨rfl,rfl,rfl⟩,fun _ above below => absurd below (Nat.not_lt_of_le above)⟩
        have keyed : Keyed (taken event s) := keyed
        have goes := does_goes env (taken event s) _ (forSession_does env True False
          (s.dbEvents event).sessionId (fun player => onPlayerEventResult env player (s.dbEvents event)) _
          keyed fun player listed => onPlayerEventResult_does env True False player _ listed _
            (fun _ => trivial) fun guard => guard.elim)
        have adds := pushes_adds Plain _ _ (forSession_pushes Plain (taken event s) (s.dbEvents event).sessionId
          (fun player => onPlayerEventResult env player (s.dbEvents event))
          fun player _ => onPlayerEventResult_pushes Plain env player _ plain_allows _)
        have both := goes_trans _ _ _ popped goes
        rw [returned] at sound
        refine ⟨sound,both.pool ready.known,goes_over earlier later s _ both ready.finished ?_⟩
        intro other above below _ read
        have silent : reads _ = false := adds.new other above below
        exact absurd (silent.symm.trans read) Bool.false_ne_true
      · exact ready
    | drain =>
      obtain ⟨status,⟨-,result⟩ | ⟨player,-,result⟩⟩ := drain_cases s succeeds
      · rw [step,result] at sound ⊢
        exact ⟨sound,ready.known,ready.finished⟩
      · rw [step,result] at sound ⊢
        refine ⟨sound,ready.known,?_⟩
        intro event pushed
        obtain ⟨gone,written⟩ := ready.finished event pushed
        refine ⟨?_,written⟩
        by_contra still
        obtain ⟨other,found⟩ := Option.ne_none_iff_exists'.mp still
        have old := (find_erase_elim _ earlier other _ found).2
        rw [gone] at old
        cases old
    | _ => exact absurd rfl plain

end

private theorem ready_waits (earlier later : UInt32) (s : Cache) (action : Action)
    (ready : Ready earlier later s) : Waits earlier later s action := by
  cases action with
  | work worker => exact fun event _ pushed => (ready.finished event pushed).2
  | _ => trivial

theorem init_ready (config : Config) (earlier later : UInt32) : Ready earlier later (init config) :=
  ⟨init_sound config,new_known config.dbConnCount,fun _ pushed => absurd pushed.1 (Nat.not_lt_zero _)⟩

/-- The later session reads what the earlier one has written, in every run where its requests come when the
earlier session is over. -/
theorem relogin_waits (env : Env) (earlier later : UInt32) (actions : List Action)
    (succeeds : Guarded (step env) (Succeeds earlier later) (init env.config) actions) :
    Guarded (step env) (Waits earlier later) (init env.config) actions :=
  guarded_invariant (step env) (Succeeds earlier later) (Waits earlier later) (Ready earlier later)
    (step_ready env earlier later) (fun s action ready _ => ready_waits earlier later s action ready)
    (init env.config) actions succeeds (init_ready env.config earlier later)

def pairEnv : Env := {sampleEnv with config := ⟨1000,2⟩}

/-- The first session logs in and out and is deleted; the second lists and is answered. -/
def succession : List Action :=
  ([.onLoginReq firstSession [97],.onLogoutReq firstSession] : List Action) ++ answered ++
    ([.drain,.onLoginReq secondSession [97],.packetForward secondSession .avatarListReq] : List Action) ++ answered

theorem relogin_waits_succession :
    let list := run (step pairEnv) (init pairEnv.config) succession
    (list.dbConnPool.pushed = 2 ∧ (list.dbConnPool.events 1).fired = true) ∧
      Guarded (step pairEnv) (Waits firstSession secondSession) (init pairEnv.config) succession :=
  ⟨by decide +kernel,relogin_waits pairEnv firstSession secondSession succession (by decide +kernel)⟩

/-- The player of the first session leaves the region, and logs in again. -/
def relogin : List Action :=
  entering firstSession ++ ([.onLogoutReq firstSession,.onLoginReq secondSession [97],
    .packetForward secondSession .avatarListReq] : List Action)

/-- The first worker takes the logout event and stops; the second fires the finalize event and takes the
list event. -/
def overtaking : List Action :=
  [.work 0,.work 1,.work 1,.work 1,.work 1,.work 1,.work 1]

theorem relogin_overtakes : ¬ Guarded (step pairEnv) (Waits firstSession secondSession)
    (init pairEnv.config) (relogin ++ overtaking ++ [.work 1]) := by
  intro waits
  let state := run (step pairEnv) (init pairEnv.config) (relogin ++ overtaking)
  have here := (guarded_append (step pairEnv) (Waits firstSession secondSession) (init pairEnv.config)
    (relogin ++ overtaking) (.work 1) [] waits).2.1
  have popped : state.dbConnPool.workers[1]? = some (.popped 5) := by decide +kernel
  have list : Pushed reads secondSession state 5 := by decide +kernel
  have logout : Pushed writes firstSession state 3 := by decide +kernel
  have unfired : (state.dbConnPool.events 3).fired = false := by decide +kernel
  exact Bool.false_ne_true (unfired.symm.trans (here 5 popped list 3 logout))

end Fantuan.CacheServer.Relogins
