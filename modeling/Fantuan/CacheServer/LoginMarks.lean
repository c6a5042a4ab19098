import Fantuan.CacheServer.Settling

/-! What the marks of the log say of the logins: a login is queued as often as its player stands
in the queue, and once it is over it has been queued and deleted equally often.
-/
namespace Fantuan.CacheServer.LoginMarks
open Lib.Table Tool.ObjectPool CacheDBEvent ServerLoop Player Commands PlayerSteps Sessions OpenEvents
  Settling

/-- The players come and go as before; which of the events are open is left out. -/
structure Steady (s t : Cache) : Prop where
  pool : t.playerContextPool = s.playerContextPool
  sessions : t.playerContextBySessionId = s.playerContextBySessionId
  queue : t.finalizingQueue = s.finalizingQueue
  logins : t.logins = s.logins
  loginCount : t.loginCount = s.loginCount
  finalizing : ∀ player, (t.contexts player).finalizing = (s.contexts player).finalizing
  queued : ∀ login, t.log.count (.queued login) = s.log.count (.queued login)
  deleted : ∀ login, t.log.count (.deleted login) = s.log.count (.deleted login)

theorem steady_refl (s : Cache) : Steady s s :=
  ⟨rfl,rfl,rfl,rfl,rfl,fun _ => rfl,fun _ => rfl,fun _ => rfl⟩

theorem steady_trans (s t u : Cache) (first : Steady s t) (second : Steady t u) : Steady s u where
  pool := second.pool.trans first.pool
  sessions := second.sessions.trans first.sessions
  queue := second.queue.trans first.queue
  logins := second.logins.trans first.logins
  loginCount := second.loginCount.trans first.loginCount
  finalizing := fun player => (second.finalizing player).trans (first.finalizing player)
  queued := fun login => (second.queued login).trans (first.queued login)
  deleted := fun login => (second.deleted login).trans (first.deleted login)

theorem update_steady (s : Cache) (player : Object) (change : CachePlayerContext → CachePlayerContext)
    (finalizing : (change (s.contexts player)).finalizing = (s.contexts player).finalizing) :
    Steady s (s.update player change) where
  pool := rfl
  sessions := rfl
  queue := rfl
  logins := rfl
  loginCount := rfl
  finalizing := fun other => update_field CachePlayerContext.finalizing s player other change finalizing
  queued := fun _ => rfl
  deleted := fun _ => rfl

theorem mark_steady (s : Cache) (mark : Mark) (unqueued : ∀ login, mark ≠ .queued login)
    (undeleted : ∀ login, mark ≠ .deleted login) : Steady s {s with log := mark :: s.log} where
  pool := rfl
  sessions := rfl
  queue := rfl
  logins := rfl
  loginCount := rfl
  finalizing := fun _ => rfl
  queued := fun login => List.count_cons_of_ne (unqueued login)
  deleted := fun login => List.count_cons_of_ne (undeleted login)

theorem settles_steady (env : Env) (s t : Cache) (settles : Settles env s t) : Steady s t := by
  have same := steady_refl s
  cases settles with
  | quiet step =>
    cases step with
    | call mark plain =>
      apply mark_steady s mark
      · rintro login rfl
        cases plain
      · rintro login rfl
        cases plain
    | work worker =>
      rw [work]
      split
      · exact ⟨rfl,rfl,rfl,rfl,rfl,same.finalizing,same.queued,same.deleted⟩
      · exact ⟨rfl,rfl,rfl,rfl,rfl,same.finalizing,same.queued,same.deleted⟩
    | change player change _ kept => exact update_steady s player change kept.finalizing
    | move player => exact update_steady s player _ rfl
    | queue _ _ allowed => exact allowed.elim
    | select player => exact update_steady s player _ rfl
    | enter player =>
      have entered := update_steady s player (fun context => {context with
        avatarContext := {context.avatarContext with enterRegion := true}}) rfl
      exact ⟨rfl,rfl,rfl,rfl,rfl,entered.finalizing,entered.queued,entered.deleted⟩
    | _ => exact ⟨rfl,rfl,rfl,rfl,rfl,same.finalizing,same.queued,same.deleted⟩
  | ask => exact ⟨rfl,rfl,rfl,rfl,rfl,same.finalizing,same.queued,same.deleted⟩
  | acknowledge player => exact update_steady s player _ rfl

theorem settled_steady (env : Env) (s t : Cache) (settled : Settled env s t) : Steady s t := by
  induction settled with
  | refl => exact steady_refl s
  | tail _ step ih => exact steady_trans _ _ _ ih (settles_steady env _ _ step)

theorem taken_steady (event : Nat) (s : Cache) : Steady s (taken event s) := by
  have marked := mark_steady s (.handled event) (by simp) (by simp)
  exact ⟨rfl,rfl,rfl,rfl,rfl,marked.finalizing,marked.queued,marked.deleted⟩

structure Ledger (s : Cache) : Prop where
  known : ∀ player, Live s player → s.logins player < s.loginCount
  distinct : ∀ player other, Live s player → Live s other → s.logins player = s.logins other →
    player = other
  marked : ∀ player, s.finalizingQueue.count player = (s.contexts player).finalizing.toNat
  queued : ∀ player, Live s player →
    s.log.count (.queued (s.logins player)) = s.finalizingQueue.count player
  undeleted : ∀ player, Live s player → s.log.count (.deleted (s.logins player)) = 0
  past : ∀ login, (∀ player, Live s player → s.logins player ≠ login) →
    s.log.count (.queued login) = s.log.count (.deleted login) ∧ s.log.count (.deleted login) ≤ 1
  future : ∀ login, s.loginCount ≤ login → s.log.count (.queued login) = 0

theorem init_ledger (config : Config) : Ledger (init config) where
  known := fun player live => absurd live (new_held poolMax player)
  distinct := fun player _ live => absurd live (new_held poolMax player)
  marked := fun _ => rfl
  queued := fun player live => absurd live (new_held poolMax player)
  undeleted := fun _ _ => rfl
  past := fun _ _ => ⟨rfl,Nat.zero_le _⟩
  future := fun _ _ => rfl

theorem steady_ledger (s t : Cache) (steady : Steady s t) (ledger : Ledger s) : Ledger t := by
  have live (player : Object) : Live t player ↔ Live s player := by
    rw [Live,steady.pool]
    rfl
  refine ⟨?_,?_,?_,?_,?_,?_,?_⟩
  · intro player held
    rw [steady.logins,steady.loginCount]
    exact ledger.known player ((live player).mp held)
  · intro player other held held'
    rw [steady.logins]
    exact ledger.distinct player other ((live player).mp held) ((live other).mp held')
  · intro player
    rw [steady.queue,steady.finalizing]
    exact ledger.marked player
  · intro player held
    rw [steady.queued,steady.logins,steady.queue]
    exact ledger.queued player ((live player).mp held)
  · intro player held
    rw [steady.deleted,steady.logins]
    exact ledger.undeleted player ((live player).mp held)
  · intro login ended
    rw [steady.queued,steady.deleted]
    apply ledger.past login
    intro player held
    rw [← steady.logins]
    exact ended player ((live player).mpr held)
  · intro login later
    rw [steady.queued]
    rw [steady.loginCount] at later
    exact ledger.future login later

section
variable (s : Cache) (player : Object) (ledger : Ledger s)
include ledger

/-- A live player that is not queued yet is queued. -/
theorem addPlayerToFinalizingQueue_ledger (live : Live s player)
    (active : (s.contexts player).finalizing = false) :
    Ledger (addPlayerToFinalizingQueue player s) := by
  have counted (other : Object) : (addPlayerToFinalizingQueue player s).finalizingQueue.count other =
      s.finalizingQueue.count other + if player = other then 1 else 0 := by
    rw [addPlayerToFinalizingQueue,List.count_append,List.count_singleton]
    simp only [beq_iff_eq]
  have logged (login : Nat) : (addPlayerToFinalizingQueue player s).log.count (.queued login) =
      s.log.count (.queued login) + if s.logins player = login then 1 else 0 := by
    rw [addPlayerToFinalizingQueue,List.count_cons]
    simp only [beq_iff_eq,Mark.queued.injEq]
  have deleted (login : Nat) : (addPlayerToFinalizingQueue player s).log.count (.deleted login) =
      s.log.count (.deleted login) := List.count_cons_of_ne (by simp)
  refine ⟨ledger.known,ledger.distinct,?_,?_,?_,?_,?_⟩
  · intro other
    rw [counted,ledger.marked]
    by_cases same : other = player
    · rw [same,active,addPlayerToFinalizingQueue_finalizing]
      simp
    · have kept := update_other s player other (fun context => {context with finalizing := true}) same
      rw [if_neg (Ne.symm same),Nat.add_zero,← kept]
      rfl
  · intro other held
    change (addPlayerToFinalizingQueue player s).log.count (.queued (s.logins other)) = _
    rw [logged,counted,ledger.queued other held]
    by_cases same : other = player
    · rw [same,if_pos rfl,if_pos rfl]
    · rw [if_neg (Ne.symm same),
        if_neg fun equal => same (ledger.distinct other player held live equal.symm)]
  · intro other held
    rw [deleted]
    exact ledger.undeleted other held
  · intro login ended
    have different : s.logins player ≠ login := ended player live
    rw [logged,deleted,if_neg different]
    exact ledger.past login ended
  · intro login later
    have before := ledger.known player live
    change s.loginCount ≤ login at later
    rw [logged,if_neg (by omega)]
    exact ledger.future login later

theorem enrolled_ledger (sessionId : UInt32) (accountName : List UInt16) (pool : Pool)
    (allocated : s.playerContextPool.allocate = (some player,pool)) (sound : Sound s) :
    Ledger (enrolled sessionId accountName player pool s) := by
  obtain ⟨-,fresh,held⟩ := allocate_sound _ _ player sound.pool allocated
  have number (other : Object) : (enrolled sessionId accountName player pool s).logins other =
      if other = player then s.loginCount else s.logins other := by
    simp [enrolled,Cache.update,Function.update_apply]
  have unlogged : ∀ other, Live s other → s.logins other ≠ s.loginCount := by
    intro other live
    have before := ledger.known other live
    omega
  have unqueued := ledger.future s.loginCount le_rfl
  have older (other : Object) (live : Live s other) : other ≠ player := by
    rintro rfl
    exact fresh live
  refine ⟨?_,?_,?_,?_,?_,?_,?_⟩
  · intro other live
    change _ < s.loginCount + 1
    rw [number]
    split
    · omega
    next different =>
      have before := ledger.known other (((held other).mp live).resolve_right different)
      omega
  · intro first second live live'
    rw [number,number]
    rcases (held first).mp live with one | rfl
    · rw [if_neg (older first one)]
      rcases (held second).mp live' with two | rfl
      · rw [if_neg (older second two)]
        exact ledger.distinct first second one two
      · rw [if_pos rfl]
        exact fun same => absurd same (unlogged first one)
    · rw [if_pos rfl]
      rcases (held second).mp live' with two | rfl
      · rw [if_neg (older second two)]
        exact fun same => absurd same.symm (unlogged second two)
      · exact fun _ => rfl
  · intro other
    have before := ledger.marked other
    by_cases same : other = player
    · subst same
      rw [enrolled_same]
      exact before
    · rw [enrolled_other _ _ player other _ _ same]
      exact before
  · intro other live
    change s.log.count _ = s.finalizingQueue.count other
    rw [number]
    rcases (held other).mp live with before | rfl
    · rw [if_neg (older other before)]
      exact ledger.queued other before
    · rw [if_pos rfl,unqueued,ledger.marked,sound.blank other fresh]
      rfl
  · intro other live
    change s.log.count _ = 0
    rw [number]
    rcases (held other).mp live with before | rfl
    · rw [if_neg (older other before)]
      exact ledger.undeleted other before
    · rw [if_pos rfl,← (ledger.past s.loginCount unlogged).1,unqueued]
  · intro login ended
    apply ledger.past login
    intro other live
    have different := ended other ((held other).mpr (.inl live))
    rw [number,if_neg (older other live)] at different
    exact different
  · intro login later
    exact ledger.future login (Nat.le_of_succ_le later)

theorem deleted_ledger (queue : s.finalizingQueue = [player]) (sound : Sound s) :
    Ledger (deleted player s) := by
  have live := sound_live s sound player (sound.queued player (by simp [queue])).1
  have held := (release_sound _ player sound.pool live).2
  have once := ledger.queued player live
  rw [queue,List.count_singleton_self] at once
  have others (other : Object) (different : other ≠ player) : s.finalizingQueue.count other = 0 := by
    rw [queue,List.count_singleton,if_neg (by simpa using different.symm)]
  have queued (login : Nat) : (deleted player s).log.count (.queued login) =
      s.log.count (.queued login) := List.count_cons_of_ne (by simp)
  have logged (login : Nat) : (deleted player s).log.count (.deleted login) =
      s.log.count (.deleted login) + if s.logins player = login then 1 else 0 := by
    rw [deleted,Commands.deletePlayer,List.count_cons]
    simp only [beq_iff_eq,Mark.deleted.injEq]
  refine ⟨?_,?_,?_,?_,?_,?_,?_⟩
  · intro other live'
    exact ledger.known other ((held other).mp live').1
  · intro first second one two
    exact ledger.distinct first second ((held first).mp one).1 ((held second).mp two).1
  · intro other
    change List.count other [] = _
    by_cases same : other = player
    · rw [same,deleted_same]
      rfl
    · rw [deleted_other player other s same,← ledger.marked,others other same]
      rfl
  · intro other live'
    obtain ⟨before,different⟩ := (held other).mp live'
    rw [queued]
    exact (ledger.queued other before).trans (others other different)
  · intro other live'
    obtain ⟨before,different⟩ := (held other).mp live'
    change (deleted player s).log.count (.deleted (s.logins other)) = 0
    rw [logged,if_neg fun same => different (ledger.distinct other player before live same.symm)]
    exact ledger.undeleted other before
  · intro login ended
    rw [queued,logged]
    by_cases same : s.logins player = login
    · rw [if_pos same,← same,once,ledger.undeleted player live]
      simp
    · rw [if_neg same]
      apply ledger.past login
      intro other live'
      by_cases here : other = player
      · rw [here]
        exact same
      · exact ended other ((held other).mpr ⟨live',here⟩)
  · intro login later
    rw [queued]
    exact ledger.future login later

/-- Whatever happens, a login is queued and deleted at most once. -/
theorem ledger_once (login : Nat) :
    s.log.count (.queued login) ≤ 1 ∧ s.log.count (.deleted login) ≤ 1 := by
  by_cases current : ∃ player, Live s player ∧ s.logins player = login
  · obtain ⟨player,live,rfl⟩ := current
    rw [ledger.queued player live,ledger.marked,ledger.undeleted player live]
    exact ⟨Bool.toNat_le _,Nat.zero_le 1⟩
  · have ended : ∀ player, Live s player → s.logins player ≠ login :=
      fun player live same => current ⟨player,live,same⟩
    obtain ⟨same,once⟩ := ledger.past login ended
    rw [same]
    exact ⟨once,once⟩

/-- A login that was queued has been deleted, once the queue is empty. -/
theorem ledger_drained (login : Nat) (queued : 1 ≤ s.log.count (.queued login))
    (empty : s.finalizingQueue = []) :
    s.log.count (.queued login) = 1 ∧ s.log.count (.deleted login) = 1 := by
  obtain ⟨most,-⟩ := ledger_once s ledger login
  have once : s.log.count (.queued login) = 1 := by omega
  have ended : ∀ player, Live s player → s.logins player ≠ login := by
    rintro player live rfl
    rw [ledger.queued player live,empty] at once
    cases once
  rw [← (ledger.past login ended).1]
  exact ⟨once,once⟩

end

end Fantuan.CacheServer.LoginMarks
