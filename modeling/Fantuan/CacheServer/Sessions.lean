import Fantuan.CacheServer.PlayerSteps
import Fantuan.Lib.Index

/-! The sessions of the cache: whoever is found under a session is live and has that session,
and whoever is in the queue is found, as long as a pass deletes at most one player.
-/
namespace Fantuan.CacheServer.Sessions
open Lib.Table Lib.Index Lib.Run Tool.ObjectPool ServerLoop Player Commands PlayerSteps

/-- A context is live from its login to its deletion. -/
def Live (s : Cache) (player : Object) : Prop := s.playerContextPool.Held player

instance (s : Cache) : DecidablePred (Live s) := fun player =>
  inferInstanceAs (Decidable (s.playerContextPool.Held player))

structure Sound (s : Cache) : Prop where
  pool : s.playerContextPool.Sound
  sessions : Lists s.playerContextBySessionId (Live s) fun player => (s.contexts player).sessionId
  blank : ∀ player, ¬ Live s player → s.contexts player = .clear
  queued : ∀ player ∈ s.finalizingQueue, Listed s player ∧ (s.contexts player).finalizing = true

theorem init_sound (config : Config) : Sound (init config) where
  pool := new_sound poolMax
  sessions := by
    intro sessionId player found
    rw [init,find_empty] at found
    cases found
  blank := fun _ _ => rfl
  queued := by simp [init]

theorem sound_keyed (s : Cache) (sound : Sound s) : Keyed s := fun sessionId player found =>
  (sound.sessions sessionId player found).2

theorem sound_live (s : Cache) (sound : Sound s) (player : Object) (listed : Listed s player) :
    Live s player :=
  (sound.sessions _ player listed).1

theorem update_sound (s : Cache) (player : Object) (change : CachePlayerContext → CachePlayerContext)
    (listed : Listed s player)
    (sessionId : (change (s.contexts player)).sessionId = (s.contexts player).sessionId)
    (finalizing : (s.contexts player).finalizing = true → (change (s.contexts player)).finalizing = true)
    (sound : Sound s) : Sound (s.update player change) where
  pool := sound.pool
  sessions := by
    intro key other found
    obtain ⟨live,keyed⟩ := sound.sessions key other found
    exact ⟨live,(update_field CachePlayerContext.sessionId s player other change sessionId).trans keyed⟩
  blank := by
    intro other dead
    have different : other ≠ player := by
      rintro rfl
      exact dead (sound_live s sound other listed)
    rw [update_other s player other change different]
    exact sound.blank other dead
  queued := by
    intro other member
    obtain ⟨found,marked⟩ := sound.queued other member
    refine ⟨(listed_update s player other change sessionId).mpr found,?_⟩
    by_cases here : other = player
    · subst here
      rw [update_same]
      exact finalizing marked
    · rw [update_other s player other change here]
      exact marked

theorem addPlayerToFinalizingQueue_sound (s : Cache) (player : Object) (listed : Listed s player)
    (sound : Sound s) : Sound (addPlayerToFinalizingQueue player s) := by
  have marked := update_sound s player (fun context => {context with finalizing := true}) listed rfl
    (fun _ => rfl) sound
  refine ⟨marked.pool,marked.sessions,marked.blank,fun other member => ?_⟩
  rcases List.mem_append.mp member with before | last
  · exact marked.queued other before
  · obtain rfl := List.mem_singleton.mp last
    exact ⟨(listed_update s other other (fun context => {context with finalizing := true}) rfl).mpr listed,
      addPlayerToFinalizingQueue_finalizing other s⟩

theorem does_sound (env : Env) (loud strict : Prop) (s t : Cache) (does : Does env loud strict s t)
    (sound : Sound s) : Sound t := by
  induction does with
  | refl => exact sound
  | tail _ step ih =>
    cases step with
    | work worker =>
      rw [work]
      split
      · exact ⟨ih.pool,ih.sessions,ih.blank,ih.queued⟩
      · exact ⟨ih.pool,ih.sessions,ih.blank,ih.queued⟩
    | change player change listed kept =>
      exact update_sound _ player change listed kept.sessionId (fun marked => by rw [kept.finalizing,marked])
        ih
    | move player event next listed =>
      exact update_sound _ player _ listed rfl id ih
    | queue player listed => exact addPlayerToFinalizingQueue_sound _ player listed ih
    | select player avatarId avatarName lastChannelId listed =>
      exact update_sound _ player _ listed rfl id ih
    | enter player listed =>
      have entered := update_sound _ player (fun context => {context with
        avatarContext := {context.avatarContext with enterRegion := true}}) listed rfl id ih
      exact ⟨entered.pool,entered.sessions,entered.blank,entered.queued⟩
    | _ => exact ⟨ih.pool,ih.sessions,ih.blank,ih.queued⟩

theorem enrolled_sound (s : Cache) (sessionId : UInt32) (accountName : List UInt16) (player : Object)
    (pool : Pool) (taken : s.playerContextPool.allocate = (some player,pool)) (sound : Sound s) :
    Sound (enrolled sessionId accountName player pool s) := by
  obtain ⟨whole,fresh,held⟩ := allocate_sound _ _ player sound.pool taken
  have others (other : Object) (live : Live s other) : other ≠ player := by
    rintro rfl
    exact fresh live
  refine ⟨whole,?_,?_,?_⟩
  · intro key other found
    rcases find_insert_elim sessionId key player other _ found with old | ⟨rfl,rfl,-⟩
    · obtain ⟨live,keyed⟩ := sound.sessions key other old
      refine ⟨(held other).mpr (.inl live),?_⟩
      dsimp only
      rw [enrolled_other _ _ player other _ _ (others other live)]
      exact keyed
    · refine ⟨(held other).mpr (.inr rfl),?_⟩
      dsimp only
      rw [enrolled_same]
      rfl
  · intro other dead
    have unheld : ¬ Live s other ∧ other ≠ player :=
      not_or.mp fun either => dead ((held other).mpr either)
    rw [enrolled_other _ _ player other _ _ unheld.2]
    exact sound.blank other unheld.1
  · intro other member
    obtain ⟨listed,marked⟩ := sound.queued other member
    have different := others other (sound_live s sound other listed)
    rw [Listed,enrolled_other _ _ player other _ _ different]
    refine ⟨?_,marked⟩
    exact find_insert_kept sessionId _ player other _ listed

theorem deleted_sound (s : Cache) (player : Object) (queue : s.finalizingQueue = [player])
    (sound : Sound s) : Sound (deleted player s) := by
  have listed := (sound.queued player (by simp [queue])).1
  obtain ⟨whole,held⟩ := release_sound _ player sound.pool (sound_live s sound player listed)
  refine ⟨whole,?_,?_,by simp [deleted]⟩
  · intro key other found
    obtain ⟨elsewhere,old⟩ := find_erase_elim _ key other _ found
    obtain ⟨live,keyed⟩ := sound.sessions key other old
    have different : other ≠ player := by
      rintro rfl
      exact elsewhere keyed.symm
    refine ⟨(held other).mpr ⟨live,different⟩,?_⟩
    dsimp only
    rw [deleted_other player other s different]
    exact keyed
  · intro other dead
    by_cases same : other = player
    · rw [same,deleted_same]
    · rw [deleted_other player other s same]
      apply sound.blank other
      intro live
      exact dead ((held other).mpr ⟨live,same⟩)

def Single (s : Cache) : Action → Prop
  | .drain => s.finalizingQueue.length ≤ 1
  | _ => True

theorem unused (s : Cache) (sound : Sound s) (player : Object) (pool : Pool)
    (taken : s.playerContextPool.allocate = (some player,pool)) :
    (s.contexts player).state = .none := by
  rw [sound.blank player (allocate_sound _ _ player sound.pool taken).2.1]
  rfl

/-- The next result is handled after it is taken from the list. -/
def taken (event : Nat) (s : Cache) : Cache :=
  {s with
    dbConnPool := DbConnPool.popFromDBEventReturnList s.dbConnPool
    log := .handled event :: s.log}

theorem step_sound (env : Env) (s : Cache) (action : Action) (sound : Sound s)
    (single : Single s action) : Sound (step env s action) := by
  by_cases plain : plainAction action = true
  · exact does_sound env True False _ _
      (step_does env True False s action plain (sound_keyed s sound) fun _ => trivial) sound
  · cases action with
    | onLoginReq sessionId accountName =>
      rcases onLoginReq_cases env s sessionId accountName (unused s sound) with
        same | ⟨player,pool,-,taken,result⟩
      · rw [same]
        exact sound
      · rw [result]
        exact enrolled_sound s sessionId accountName player pool taken sound
    | result =>
      rw [step,onDBEventResult]
      split
      next event rest returned =>
        have popped : Sound (taken event s) := ⟨sound.pool,sound.sessions,sound.blank,sound.queued⟩
        refine does_sound env True False _ _ ?_ popped
        refine forSession_does env True False _ _ _ (sound_keyed _ popped) fun player listed => ?_
        exact onPlayerEventResult_does env True False player _ listed _ (fun _ => trivial)
          fun guard => guard.elim
      · exact sound
    | drain =>
      obtain ⟨status,⟨-,result⟩ | ⟨player,queue,result⟩⟩ := drain_cases s single
      · rw [step,result]
        exact ⟨sound.pool,sound.sessions,sound.blank,sound.queued⟩
      · have rest := deleted_sound s player queue sound
        rw [step,result]
        exact ⟨rest.pool,rest.sessions,rest.blank,rest.queued⟩
    | _ => exact absurd rfl plain

end Fantuan.CacheServer.Sessions
