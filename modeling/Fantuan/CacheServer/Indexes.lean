import Fantuan.CacheServer.Sessions

/-! The indexes of the cache by sessions and avatars. Both are filled by inserts whose result is
ignored, and an entry by avatar is erased by the avatar its player has at the end, whoever
the entry leads to.
-/
namespace Fantuan.CacheServer.Indexes
open Lib.Table Lib.Index Lib.Run Tool.ObjectPool CacheDBEvent ServerLoop Player Commands PlayerSteps
  Sessions

structure Agree (s : Cache) : Prop where
  sessions : ∀ sessionId player, find sessionId s.playerContextBySessionId = some player →
    Live s player ∧ (s.contexts player).sessionId = sessionId
  avatars : ∀ avatarId player, find avatarId s.playerContextByAvatarId = some player →
    Live s player ∧ (s.contexts player).avatarContext.avatarId = avatarId
  loggedIn : ∀ player, Live s player → Listed s player
  entered : ∀ player, (s.contexts player).avatarContext.enterRegion = true →
    find (s.contexts player).avatarContext.avatarId s.playerContextByAvatarId = some player

/-- A login is for a new session, a result makes no avatars clash, and a pass deletes at most one
player, under whose avatar no other one is listed. -/
def Fresh (s : Cache) : Action → Prop
  | .onLoginReq sessionId _ => s.shutdownStatus = .notShutdown →
    s.playerContextPool.allocate.1.isSome = true → find sessionId s.playerContextBySessionId = none
  | .result => ∀ event ∈ s.dbConnPool.returnList.head?,
    ∀ player ∈ find (s.dbEvents event).sessionId s.playerContextBySessionId,
      Fits s player (s.dbEvents event)
  | .drain => s.finalizingQueue.length ≤ 1 ∧ ∀ player ∈ s.finalizingQueue, Alone s player
  | _ => True

instance (s : Cache) (player : Object) : Decidable (Alone s player) :=
  inferInstanceAs (Decidable (∀ other ∈ find _ s.playerContextByAvatarId, other = player))

instance (s : Cache) (player : Object) (event : PlayerDBEvent) : Decidable (Fits s player event) :=
  match event with
  | ⟨_,_,.avatarSelectData _ _ _⟩ => inferInstanceAs (Decidable (_ → _ → _))
  | ⟨_,_,.avatarEnterRegion _ _⟩ => inferInstanceAs (Decidable (_ → Alone s player))
  | ⟨_,_,.getAvatarList _ _⟩ | ⟨_,_,.avatarCreate _ _⟩ | ⟨_,_,.avatarSaveData _ _⟩
  | ⟨_,_,.avatarLogout _⟩ | ⟨_,_,.avatarFinalize⟩ => inferInstanceAs (Decidable (_ → True))

instance (s : Cache) : DecidablePred (Fresh s)
  | .onLoginReq _ _ => inferInstanceAs (Decidable (_ → _ → _))
  | .result => inferInstanceAs (Decidable (∀ event ∈ s.dbConnPool.returnList.head?,
      ∀ player ∈ find (s.dbEvents event).sessionId s.playerContextBySessionId,
        Fits s player (s.dbEvents event)))
  | .drain => inferInstanceAs (Decidable (_ ∧ ∀ player ∈ s.finalizingQueue, Alone s player))
  | .shutdown | .onLogoutReq _ | .onRegionEnterReq _ _ _ | .packetForward _ _ | .saveData | .tick _
  | .work _ => inferInstanceAs (Decidable True)

theorem init_agree (config : Config) : Agree (init config) where
  sessions := (init_sound config).sessions
  avatars := by
    intro avatarId player found
    rw [init,find_empty] at found
    cases found
  loggedIn := fun player live => absurd live (new_held _ player)
  entered := fun _ entered => by cases entered

theorem update_agree (s : Cache) (player : Object) (change : CachePlayerContext → CachePlayerContext)
    (sessionId : (change (s.contexts player)).sessionId = (s.contexts player).sessionId)
    (avatarId : (change (s.contexts player)).avatarContext.avatarId =
      (s.contexts player).avatarContext.avatarId)
    (enterRegion : (change (s.contexts player)).avatarContext.enterRegion = true →
      (s.contexts player).avatarContext.enterRegion = true)
    (agree : Agree s) : Agree (s.update player change) where
  sessions := by
    intro key other found
    obtain ⟨live,keyed⟩ := agree.sessions key other found
    exact ⟨live,(update_field CachePlayerContext.sessionId s player other change sessionId).trans keyed⟩
  avatars := by
    intro key other found
    obtain ⟨live,keyed⟩ := agree.avatars key other found
    exact ⟨live,(update_field (fun context => context.avatarContext.avatarId) s player other change
      avatarId).trans keyed⟩
  loggedIn := fun other live =>
    (listed_update s player other change sessionId).mpr (agree.loggedIn other live)
  entered := by
    intro other entered
    rw [update_field (fun context => context.avatarContext.avatarId) s player other change avatarId]
    apply agree.entered
    by_cases here : other = player
    · subst here
      rw [update_same] at entered
      exact enterRegion entered
    · rw [update_other s player other change here] at entered
      exact entered

theorem selectAvatar_agree (s : Cache) (player : Object) (avatarId : UInt64)
    (avatarName : List UInt16) (lastChannelId : UInt8) (chosen : Chosen s player avatarId)
    (agree : Agree s) : Agree (selectAvatar player avatarId avatarName lastChannelId s) where
  sessions := by
    intro key other found
    obtain ⟨live,keyed⟩ := agree.sessions key other found
    exact ⟨live,(update_field CachePlayerContext.sessionId s player other _ rfl).trans keyed⟩
  avatars := by
    intro key other found
    obtain ⟨live,keyed⟩ := agree.avatars key other found
    refine ⟨live,?_⟩
    by_cases here : other = player
    · subst here
      have own : find (s.contexts other).avatarContext.avatarId s.playerContextByAvatarId =
          some other := by
        rw [keyed]
        exact found
      rw [selectAvatar,update_same]
      exact (chosen own).symm.trans keyed
    · rw [selectAvatar,update_other s player other _ here]
      exact keyed
  loggedIn := fun other live => (listed_update s player other _ rfl).mpr (agree.loggedIn other live)
  entered := by
    intro other entered
    by_cases here : other = player
    · subst here
      have before : (s.contexts other).avatarContext.enterRegion = true := by
        rw [selectAvatar,update_same] at entered
        dsimp only at entered
        split at entered
        · cases entered
        · exact entered
      have own := agree.entered other before
      rw [selectAvatar,update_same]
      dsimp only
      rw [← chosen own]
      exact own
    · rw [selectAvatar,update_other s player other _ here] at entered ⊢
      exact agree.entered other entered

theorem enter_agree (s : Cache) (player : Object) (listed : Listed s player) (alone : Alone s player)
    (agree : Agree s) : Agree (enter player s) := by
  have own : find (s.contexts player).avatarContext.avatarId (enter player s).playerContextByAvatarId =
      some player := by
    change find _ (Lib.Table.insert _ player s.playerContextByAvatarId) = _
    cases old : find (s.contexts player).avatarContext.avatarId s.playerContextByAvatarId with
    | none => exact find_insert_same _ player _ old
    | some other =>
      obtain rfl := alone other old
      rw [Lib.Table.insert,old,Option.isSome_some,if_pos rfl]
      exact old
  have keep (other : Object) : ((enter player s).contexts other).avatarContext.avatarId =
      (s.contexts other).avatarContext.avatarId :=
    update_field (fun context => context.avatarContext.avatarId) s player other (fun context =>
      {context with avatarContext := {context.avatarContext with enterRegion := true}}) rfl
  refine ⟨?_,?_,?_,?_⟩
  · intro key other found
    obtain ⟨live,keyed⟩ := agree.sessions key other found
    exact ⟨live,(update_field CachePlayerContext.sessionId s player other (fun context =>
      {context with avatarContext := {context.avatarContext with enterRegion := true}}) rfl).trans keyed⟩
  · intro key other found
    rw [keep other]
    rcases find_insert_elim _ key player other _ found with old | ⟨rfl,rfl,-⟩
    · exact agree.avatars key other old
    · exact ⟨(agree.sessions _ other listed).1,rfl⟩
  · intro other live
    exact (listed_update s player other (fun context =>
      {context with avatarContext := {context.avatarContext with enterRegion := true}}) rfl).mpr
        (agree.loggedIn other live)
  · intro other entered
    rw [keep other]
    by_cases here : other = player
    · rw [here]
      exact own
    · change ((s.update player fun context => {context with
          avatarContext := {context.avatarContext with enterRegion := true}}).contexts
            other).avatarContext.enterRegion = true at entered
      rw [update_other s player other _ here] at entered
      have before := agree.entered other entered
      by_cases same : (s.contexts other).avatarContext.avatarId =
          (s.contexts player).avatarContext.avatarId
      · rw [same] at before
        exact absurd (alone other before) here
      · change find _ (Lib.Table.insert _ player s.playerContextByAvatarId) = _
        rw [find_insert_other _ _ player _ same]
        exact before

theorem does_agree (env : Env) (s t : Cache) (does : Does env True True s t) (agree : Agree s) :
    Agree t := by
  induction does with
  | refl => exact agree
  | tail _ step ih =>
    cases step with
    | work worker =>
      rw [work]
      split
      · exact ⟨ih.sessions,ih.avatars,ih.loggedIn,ih.entered⟩
      · exact ⟨ih.sessions,ih.avatars,ih.loggedIn,ih.entered⟩
    | change player change _ kept =>
      exact update_agree _ player change kept.sessionId kept.avatarId kept.enterRegion ih
    | move player event next => exact update_agree _ player _ rfl rfl id ih
    | queue player =>
      have marked := update_agree _ player (fun context => {context with finalizing := true}) rfl rfl
        id ih
      exact ⟨marked.sessions,marked.avatars,marked.loggedIn,marked.entered⟩
    | select player avatarId avatarName lastChannelId _ chosen =>
      exact selectAvatar_agree _ player avatarId avatarName lastChannelId (chosen trivial) ih
    | enter player listed alone => exact enter_agree _ player listed (alone trivial) ih
    | _ => exact ⟨ih.sessions,ih.avatars,ih.loggedIn,ih.entered⟩

theorem enrolled_agree (s : Cache) (sessionId : UInt32) (accountName : List UInt16)
    (player : Object) (pool : Pool) (allocated : s.playerContextPool.allocate = (some player,pool))
    (fresh : find sessionId s.playerContextBySessionId = none) (sound : Sound s) (agree : Agree s) :
    Agree (enrolled sessionId accountName player pool s) := by
  obtain ⟨-,unheld,held⟩ := allocate_sound _ _ player sound.pool allocated
  have others (other : Object) (live : Live s other) :
      (enrolled sessionId accountName player pool s).contexts other = s.contexts other := by
    apply enrolled_other
    rintro rfl
    exact unheld live
  refine ⟨(enrolled_sound s sessionId accountName player pool allocated sound).sessions,?_,?_,?_⟩
  · intro key other found
    obtain ⟨live,keyed⟩ := agree.avatars key other found
    rw [others other live]
    exact ⟨(held other).mpr (.inl live),keyed⟩
  · intro other live
    rcases (held other).mp live with before | rfl
    · have listed := agree.loggedIn other before
      have different : (s.contexts other).sessionId ≠ sessionId := by
        rintro same
        rw [Listed,same,fresh] at listed
        cases listed
      rw [Listed,others other before]
      exact (find_insert_other sessionId _ player _ different).trans listed
    · rw [Listed,enrolled_same]
      exact find_insert_same sessionId other _ fresh
  · intro other entered
    by_cases same : other = player
    · rw [same,enrolled_same,sound.blank player unheld] at entered
      cases entered
    · rw [enrolled_other _ _ player other _ _ same] at entered ⊢
      exact agree.entered other entered

theorem deleted_agree (s : Cache) (player : Object) (queue : s.finalizingQueue = [player])
    (alone : Alone s player) (sound : Sound s) (agree : Agree s) : Agree (deleted player s) := by
  have listed := (sound.queued player (by simp [queue])).1
  have held := (release_sound _ player sound.pool (sound_live s sound player listed)).2
  refine ⟨(deleted_sound s player queue sound).sessions,?_,?_,?_⟩
  · intro key other found
    obtain ⟨elsewhere,old⟩ := find_erase_elim _ key other _ found
    obtain ⟨live,keyed⟩ := agree.avatars key other old
    have different : other ≠ player := by
      rintro rfl
      exact elsewhere keyed.symm
    rw [deleted_other player other s different]
    exact ⟨(held other).mpr ⟨live,different⟩,keyed⟩
  · intro other live
    obtain ⟨before,different⟩ := (held other).mp live
    have found := agree.loggedIn other before
    have elsewhere : (s.contexts other).sessionId ≠ (s.contexts player).sessionId := by
      intro same
      rw [Listed,same,listed] at found
      exact different (Option.some.inj found).symm
    rw [Listed,deleted_other player other s different]
    change find _ (erase (s.contexts player).sessionId s.playerContextBySessionId) = some other
    rw [find_erase,if_neg elsewhere]
    exact found
  · intro other entered
    by_cases same : other = player
    · rw [same,deleted_same] at entered
      cases entered
    · rw [deleted_other player other s same] at entered ⊢
      have found := agree.entered other entered
      have elsewhere : (s.contexts other).avatarContext.avatarId ≠
          (s.contexts player).avatarContext.avatarId := by
        intro clash
        rw [clash] at found
        exact same (alone other found)
      change find _ (erase (s.contexts player).avatarContext.avatarId s.playerContextByAvatarId) = _
      rw [find_erase,if_neg elsewhere]
      exact found

theorem fresh_single (s : Cache) (action : Action) (fresh : Fresh s action) : Single s action := by
  cases action with
  | drain => exact fresh.1
  | _ => trivial

theorem step_agree (env : Env) (s : Cache) (action : Action) (sound : Sound s) (agree : Agree s)
    (fresh : Fresh s action) : Agree (step env s action) := by
  by_cases plain : plainAction action = true
  · exact does_agree env _ _
      (step_does env True True s action plain (sound_keyed s sound) fun _ => trivial) agree
  · cases action with
    | onLoginReq sessionId accountName =>
      rcases onLoginReq_cases env s sessionId accountName (unused s sound) with
        same | ⟨player,pool,running,allocated,result⟩
      · rw [same]
        exact agree
      · rw [result]
        exact enrolled_agree s sessionId accountName player pool allocated
          (fresh running (by rw [allocated]; rfl)) sound agree
    | result =>
      rw [step,onDBEventResult]
      split
      next event rest returned =>
        have keyed : Keyed (taken event s) := sound_keyed s sound
        have popped : Agree (taken event s) :=
          ⟨agree.sessions,agree.avatars,agree.loggedIn,agree.entered⟩
        refine does_agree env _ _ ?_ popped
        refine forSession_found env True True _ _ _ keyed fun player found listed => ?_
        refine onPlayerEventResult_does env True True player _ listed _ (fun _ => trivial) fun _ => ?_
        exact fresh event (by rw [returned]; rfl) player found
      · exact agree
    | drain =>
      obtain ⟨status,⟨-,result⟩ | ⟨player,queue,result⟩⟩ := drain_cases s fresh.1
      · rw [step,result]
        exact ⟨agree.sessions,agree.avatars,agree.loggedIn,agree.entered⟩
      · have rest := deleted_agree s player queue (fresh.2 player (by simp [queue])) sound agree
        rw [step,result]
        exact ⟨rest.sessions,rest.avatars,rest.loggedIn,rest.entered⟩
    | _ => exact absurd rfl plain

/-- The indexes agree in every run whose logins are for new sessions, whose results make no
avatars clash, and whose passes delete at most one player, alone under its avatar. -/
theorem cacheIndexes_agree (env : Env) (actions : List Action)
    (guarded : Guarded (step env) Fresh (init env.config) actions) :
    Agree (run (step env) (init env.config) actions) :=
  (run_invariant (step env) Fresh (fun s => Sound s ∧ Agree s)
    (fun s action whole fresh => ⟨step_sound env s action whole.1 (fresh_single s action fresh),
      step_agree env s action whole.1 whole.2 fresh⟩) _ actions guarded
    ⟨init_sound env.config,init_agree env.config⟩).2

/-- The player enters a region, logs out, is deleted and comes again. -/
def leaveAndReturn : List Action :=
  entering firstSession ++ ([.onLogoutReq firstSession] : List Action) ++ answered ++ answered ++
    ([.drain,.onLoginReq firstSession [97]] : List Action)

theorem cacheIndexes_agree_return :
    Agree (run (step sampleEnv) (init sampleEnv.config) leaveAndReturn) :=
  cacheIndexes_agree sampleEnv leaveAndReturn (by decide +kernel)

/-- Two sessions select the same avatar and enter the region. -/
theorem cacheIndexes_agree_twice :
    ¬ Agree (run (step sampleEnv) (init sampleEnv.config)
      (entering firstSession ++ entering secondSession)) := by
  intro agree
  have listed := agree.entered 1 (by decide +kernel)
  revert listed
  decide +kernel

end Fantuan.CacheServer.Indexes
