import Fantuan.RegionServer.PlayerSteps
import Mathlib.Algebra.Group.Nat.Defs

/-! The two indexes of a region and its count of players. They agree with the live players as
long as no player is allocated for an avatar or a slot that is taken, and no pass finds two
players to delete.
-/
namespace Fantuan.RegionServer.Indexes
open Lib.Table Lib.Drain Lib.Run ServerBase.ServerCommon Tool.ObjectPool ServerLoop Player Commands
  PlayerSteps

def Live (s : Region) (player : Object) : Prop := s.playerContextPool.Held player

instance (s : Region) (player : Object) : Decidable (Live s player) :=
  inferInstanceAs (Decidable (Pool.Held _ _))

/-- Every live player is under its avatar and in the slot of its session, nothing else is in
the map and in the slots, and the live players are counted. -/
structure Agree (s : Region) : Prop where
  avatars : ∀ player, Live s player →
    find (s.contexts player).avatarId s.playerContextByAvatarId = some player
  slots : ∀ player, Live s player → slotOf (s.contexts player).sessionId s.toLoop = some player
  mapped : ∀ avatarId player, find avatarId s.playerContextByAvatarId = some player →
    Live s player ∧ (s.contexts player).avatarId = avatarId
  slotted : ∀ gate index player, slotAt gate index s.toLoop = some player →
    Live s player ∧ serverId (s.contexts player).sessionId = gate ∧
      sessionIndex (s.contexts player).sessionId = index
  count : s.playerCount.toNat = s.playerContextPool.heldObjects.card

/-- A player is allocated for a new avatar and a free slot, and a pass deletes one player. -/
def Fresh (s : Region) : Action → Prop
  | .onRegionAllocReq sessionId avatarId _ => s.shutdownStatus = .notShutdown →
    validSession sessionId s = true → s.playerContextPool.allocate.1.isSome = true →
      find avatarId s.playerContextByAvatarId = none ∧ slotOf sessionId s.toLoop = none
  | .pass => s.finalizingQueue.length ≤ 1
  | _ => True

instance (s : Region) : DecidablePred (Fresh s)
  | .onRegionAllocReq _ _ _ => inferInstanceAs (Decidable (_ → _ → _ → _ ∧ _))
  | .pass => inferInstanceAs (Decidable (_ ≤ _))
  | .shutdown | .onRegionReleaseReq _ | .onRegionEnterReq _ | .onRegionEnterAck _ _
  | .onRegionLeaveReq _ | .packetForward _ _ | .shutdownPlayerReq _ | .tick _ =>
    inferInstanceAs (Decidable True)

structure Sound (s : Region) : Prop extends Agree s where
  pool : s.playerContextPool.Sound
  held : ∀ player, Live s player ↔ (s.contexts player).state ≠ .none
  idle : ∀ player, (s.contexts player).state = .none → (s.contexts player).finalizing = false
  distinct : s.finalizingQueue.Nodup
  queued : ∀ player, player ∈ s.finalizingQueue ↔ (s.contexts player).finalizing = true
  usedSize : s.playerContextPool.usedSize = s.playerContextPool.heldObjects.card
  maxSize : s.playerContextPool.usedSize ≤ s.playerContextPool.maxSize ∧
    s.playerContextPool.maxSize < 2^16

theorem init_sound (config : Config) : Sound (init config) where
  avatars := fun player live => absurd live (new_held _ player)
  slots := fun player live => absurd live (new_held _ player)
  mapped := fun avatarId player found => by
    rw [init,find_empty] at found
    cases found
  slotted := fun _ _ _ found => by cases found
  count := rfl
  pool := new_sound _
  held := fun player => ⟨fun live => absurd live (new_held _ player),fun used => absurd rfl used⟩
  idle := fun _ _ => rfl
  distinct := List.nodup_nil
  queued := by simp [init,RegionPlayerContext.clear]
  usedSize := rfl
  maxSize := ⟨Nat.zero_le _,(poolMax config).toNat_lt⟩

theorem same_sound (s t : Region) (sound : Sound s) (pool : t.playerContextPool = s.playerContextPool)
    (avatars : t.playerContextByAvatarId = s.playerContextByAvatarId)
    (gates : t.gateServerContext = s.gateServerContext) (count : t.playerCount = s.playerCount)
    (ids : ∀ player, (t.contexts player).sessionId = (s.contexts player).sessionId ∧
      (t.contexts player).avatarId = (s.contexts player).avatarId)
    (used : ∀ player, (t.contexts player).state = .none ↔ (s.contexts player).state = .none)
    (idle : ∀ player, (t.contexts player).state = .none → (t.contexts player).finalizing = false)
    (distinct : t.finalizingQueue.Nodup)
    (queued : ∀ player, player ∈ t.finalizingQueue ↔ (t.contexts player).finalizing = true) :
    Sound t := by
  have lives (player : Object) : Live t player ↔ Live s player := by rw [Live,Live,pool]
  have slots (gate : UInt8) (index : UInt16) : slotAt gate index t.toLoop = slotAt gate index s.toLoop := by
    rw [slotAt,slotAt,gates]
  refine ⟨⟨?_,?_,?_,?_,?_⟩,?_,?_,idle,distinct,queued,?_,?_⟩
  · intro player live
    rw [(ids player).2,avatars]
    exact sound.avatars player ((lives player).mp live)
  · intro player live
    rw [(ids player).1,slotOf,slots]
    exact sound.slots player ((lives player).mp live)
  · intro avatarId player found
    rw [avatars] at found
    rw [lives,(ids player).2]
    exact sound.mapped avatarId player found
  · intro gate index player found
    rw [slots] at found
    rw [lives,(ids player).1]
    exact sound.slotted gate index player found
  · rw [count,pool]
    exact sound.count
  · rw [pool]
    exact sound.pool
  · intro player
    rw [lives,ne_eq,used]
    exact sound.held player
  · rw [pool]
    exact sound.usedSize
  · rw [pool]
    exact sound.maxSize

theorem playerStep_sound (s t : Region) (step : PlayerStep s t) (sound : Sound s) : Sound t := by
  cases step with
  | change player change kept =>
    have all (other : Object) : Kept (s.contexts other) ((s.update player change).contexts other) ∨
        (s.update player change).contexts other = s.contexts other := by
      by_cases same : other = player
      · subst same
        rw [update_same]
        exact .inl kept
      · exact .inr (update_other s player other change same)
    refine same_sound s _ sound rfl rfl rfl rfl ?_ ?_ ?_ sound.distinct ?_
    · intro other
      rcases all other with kept | same
      · exact ⟨kept.sessionId,kept.avatarId⟩
      · rw [same]
        exact ⟨rfl,rfl⟩
    · intro other
      rcases all other with kept | same
      · exact ⟨fun none => absurd none kept.used.2,fun none => absurd none kept.used.1⟩
      · rw [same]
    · intro other none
      rcases all other with kept | same
      · exact absurd none kept.used.2
      · rw [same] at none ⊢
        exact sound.idle other none
    · intro other
      change other ∈ s.finalizingQueue ↔ _
      rw [sound.queued]
      rcases all other with kept | same
      · rw [kept.finalizing]
      · rw [same]
  | queue player active used =>
    have absent : player ∉ s.finalizingQueue := by
      rw [sound.queued,active]
      decide
    let marked := s.update player fun context => {context with finalizing := true}
    have here : marked.contexts player = {s.contexts player with finalizing := true} := update_same ..
    have there (other : Object) (different : other ≠ player) : marked.contexts other = s.contexts other :=
      update_other s player other _ different
    refine same_sound s _ sound rfl rfl rfl rfl (fun other => ?_) (fun other => ?_) (fun other none => ?_)
      ?_ (fun other => ?_)
    · change (marked.contexts other).sessionId = _ ∧ (marked.contexts other).avatarId = _
      by_cases same : other = player
      · rw [same,here]
        exact ⟨rfl,rfl⟩
      · rw [there other same]
        exact ⟨rfl,rfl⟩
    · change (marked.contexts other).state = _ ↔ _
      by_cases same : other = player
      · rw [same,here]
      · rw [there other same]
    · change (marked.contexts other).state = _ at none
      change (marked.contexts other).finalizing = _
      by_cases same : other = player
      · rw [same,here] at none
        exact absurd none used
      · rw [there other same] at none ⊢
        exact sound.idle other none
    · refine List.nodup_append.mpr ⟨sound.distinct,by simp,fun other member last equal same => ?_⟩
      obtain rfl := List.mem_singleton.mp equal
      exact absent (same ▸ member)
    · change other ∈ s.finalizingQueue ++ [player] ↔ (marked.contexts other).finalizing = true
      rw [List.mem_append,List.mem_singleton,sound.queued]
      by_cases same : other = player
      · rw [same,here]
        simp
      · rw [there other same]
        simp [same]
  | say => exact {sound with}
  | save => exact {sound with}
  | mark => exact {sound with}
  | meet => exact {sound with}
  | clock => exact {sound with}
  | stop => exact {sound with}

theorem does_sound (s t : Region) (does : Does s t) (sound : Sound s) : Sound t := by
  induction does with
  | refl => exact sound
  | tail _ step ih => exact playerStep_sound _ _ step ih

theorem push_slots (sessionId : UInt32) (player : Object) (s : Region)
    (free : slotOf sessionId s.toLoop = none) (gate : UInt8) (index : UInt16) :
    slotAt gate index (pushPlayerToGateServerContext sessionId player s).2.toLoop =
      if gate = serverId sessionId ∧ index = sessionIndex sessionId then some player
      else slotAt gate index s.toLoop := by
  have before : ∀ index, ((s.gateServerContext (serverId sessionId)).getD fun _ => none) index =
      slotAt (serverId sessionId) index s.toLoop := by
    intro index
    rw [slotAt]
    cases s.gateServerContext (serverId sessionId) <;> rfl
  have untaken : (((s.gateServerContext (serverId sessionId)).getD fun _ => none)
      (sessionIndex sessionId)).isSome = false := by
    rw [before]
    exact Option.isSome_eq_false_iff.mpr (Option.isNone_iff_eq_none.mpr free)
  rw [pushPlayerToGateServerContext]
  simp only [untaken,Bool.false_eq_true,if_false]
  rw [slotAt]
  dsimp only
  by_cases same : gate = serverId sessionId
  · subst same
    rw [Function.update_self]
    by_cases here : index = sessionIndex sessionId
    · subst here
      rw [if_pos ⟨rfl,rfl⟩]
      exact Function.update_self ..
    · rw [if_neg (fun both => here both.2),← before]
      exact Function.update_of_ne here ..
  · rw [Function.update_of_ne same,if_neg (fun both => same both.1)]
    rfl

theorem emptySlot_slots (sessionId : UInt32) (s : Loop) (gate : UInt8) (index : UInt16) :
    slotAt gate index (emptySlot sessionId s) =
      if gate = serverId sessionId ∧ index = sessionIndex sessionId then none
      else slotAt gate index s := by
  rw [emptySlot,slotAt,slotAt]
  dsimp only
  by_cases same : gate = serverId sessionId
  · subst same
    rw [Function.update_self]
    cases s.gateServerContext (serverId sessionId) with
    | none => simp
    | some slots =>
      change Function.update slots (sessionIndex sessionId) none index = _
      by_cases here : index = sessionIndex sessionId
      · subst here
        rw [Function.update_self,if_pos ⟨rfl,rfl⟩]
      · rw [Function.update_of_ne here,if_neg (fun both => here both.2)]
  · rw [Function.update_of_ne same,if_neg (fun both => same both.1)]

structure Enrolls (player : Object) (sessionId : UInt32) (avatarId : UInt64) (s t : Region) : Prop where
  unheld : ¬ Live s player
  newAvatar : find avatarId s.playerContextByAvatarId = none
  newSlot : slotOf sessionId s.toLoop = none
  lives : ∀ other, Live t other ↔ Live s other ∨ other = player
  own : (t.contexts player).sessionId = sessionId ∧ (t.contexts player).avatarId = avatarId
  others : ∀ other, other ≠ player → t.contexts other = s.contexts other
  avatars : ∀ other, find other t.playerContextByAvatarId =
    if other = avatarId then some player else find other s.playerContextByAvatarId
  slots : ∀ gate index, slotAt gate index t.toLoop =
    if gate = serverId sessionId ∧ index = sessionIndex sessionId then some player else slotAt gate index s.toLoop

theorem enrolls_agree (player : Object) (sessionId : UInt32) (avatarId : UInt64) (s t : Region)
    (enrolls : Enrolls player sessionId avatarId s t) (agree : Agree s)
    (count : t.playerCount.toNat = t.playerContextPool.heldObjects.card) : Agree t := by
  have others (other : Object) (live : Live s other) : t.contexts other = s.contexts other := by
    apply enrolls.others
    rintro rfl
    exact enrolls.unheld live
  refine ⟨?_,?_,?_,?_,count⟩
  · intro other live
    rw [enrolls.avatars]
    rcases (enrolls.lives other).mp live with old | rfl
    · rw [others other old,if_neg]
      · exact agree.avatars other old
      · intro same
        have listed := agree.avatars other old
        rw [same,enrolls.newAvatar] at listed
        cases listed
    · exact if_pos enrolls.own.2
  · intro other live
    rw [slotOf,enrolls.slots]
    rcases (enrolls.lives other).mp live with old | rfl
    · rw [others other old,if_neg]
      · exact agree.slots other old
      · rintro ⟨gate,index⟩
        have free := enrolls.newSlot
        have placed := agree.slots other old
        rw [slotOf,gate,index] at placed
        rw [slotOf,placed] at free
        cases free
    · rw [enrolls.own.1]
      exact if_pos ⟨rfl,rfl⟩
  · intro other found listed
    rw [enrolls.avatars] at listed
    split at listed
    next same =>
      obtain rfl := Option.some.inj listed
      exact ⟨(enrolls.lives _).mpr (.inr rfl),enrolls.own.2.trans same.symm⟩
    · obtain ⟨live,own⟩ := agree.mapped other found listed
      rw [others found live]
      exact ⟨(enrolls.lives _).mpr (.inl live),own⟩
  · intro gate index found placed
    rw [enrolls.slots] at placed
    split at placed
    next same =>
      obtain rfl := Option.some.inj placed
      rw [enrolls.own.1]
      exact ⟨(enrolls.lives _).mpr (.inr rfl),same.1.symm,same.2.symm⟩
    · obtain ⟨live,own⟩ := agree.slotted gate index found placed
      rw [others found live]
      exact ⟨(enrolls.lives _).mpr (.inl live),own⟩

/-- A player is allocated for an avatar and a slot that nobody has. -/
theorem enrolled_sound (env : Env) (s : Region) (sessionId : UInt32) (avatarId : UInt64)
    (avatarName : WString) (player : Object) (pool : Pool) (sound : Sound s)
    (taken : s.playerContextPool.allocate = (some player,pool))
    (newAvatar : find avatarId s.playerContextByAvatarId = none)
    (newSlot : slotOf sessionId s.toLoop = none) :
    (s.contexts player).state = .none ∧
      Sound ((enrolled sessionId avatarId player pool s).update player
        (allocated env sessionId avatarId avatarName)) := by
  obtain ⟨still,unheld,held⟩ := allocate_sound _ pool player sound.pool taken
  have card := allocate_card _ pool player sound.pool taken
  have unused : (s.contexts player).state = .none := by
    by_contra used
    exact unheld ((sound.held player).mpr used)
  have room : s.playerContextPool.usedSize < s.playerContextPool.maxSize ∧
      pool.usedSize = s.playerContextPool.usedSize + 1 ∧
      pool.maxSize = s.playerContextPool.maxSize := by
    rw [Pool.allocate] at taken
    split at taken
    next room =>
      split at taken <;>
        · obtain ⟨-,rfl⟩ : _ ∧ _ = pool := by simpa using taken
          exact ⟨room,rfl,rfl⟩
    · cases taken
  obtain ⟨less,more,max⟩ := room
  obtain ⟨bound,limit⟩ := sound.maxSize
  have count := sound.count
  have usedSize := sound.usedSize
  let t := (enrolled sessionId avatarId player pool s).update player
    (allocated env sessionId avatarId avatarName)
  have here : t.contexts player = allocated env sessionId avatarId avatarName (s.contexts player) :=
    update_same ..
  have there (other : Object) (different : other ≠ player) : t.contexts other = s.contexts other :=
    update_other _ player other _ different
  have enrolls : Enrolls player sessionId avatarId s t :=
    ⟨unheld,newAvatar,newSlot,held,by rw [here]; exact ⟨rfl,rfl⟩,there,
      fun other => find_insert avatarId other player s.playerContextByAvatarId newAvatar,
      push_slots sessionId player _ newSlot⟩
  refine ⟨unused,enrolls_agree player sessionId avatarId s t enrolls sound.toAgree ?_,still,?_,?_,sound.distinct,?_,
    ?_,?_⟩
  · change (s.playerCount + 1).toNat = pool.heldObjects.card
    rw [UInt16.toNat_add]
    change (s.playerCount.toNat + 1) % _ = _
    omega
  · intro other
    rw [enrolls.lives]
    by_cases same : other = player
    · subst same
      rw [here]
      simp [allocated]
    · rw [there other same,sound.held]
      simp [same]
  · intro other none
    by_cases same : other = player
    · rw [same,here] at none
      cases none
    · rw [there other same] at none ⊢
      exact sound.idle other none
  · intro other
    refine (sound.queued other).trans ?_
    by_cases same : other = player
    · rw [same,here]
      exact Iff.rfl
    · rw [there other same]
  · change pool.usedSize = pool.heldObjects.card
    omega
  · change pool.usedSize ≤ pool.maxSize ∧ pool.maxSize < _
    omega

/-- The state after the only queued player is deleted. -/
def deleted (player : Object) (s : Region) : Region :=
  {s with toLoop := {deletePlayer player s.toLoop with finalizingQueue := []}}

theorem deletePlayer_listed (player : Object) (s : Region) (sound : Sound s) (live : Live s player) :
    deletePlayer player s.toLoop =
      let left := emptySlot (s.contexts player).sessionId {s.toLoop with
        playerContextByAvatarId := erase (s.contexts player).avatarId s.playerContextByAvatarId}
      {left with
        contexts := Function.update s.contexts player .clear
        playerCount := s.playerCount - 1
        playerContextPool := s.playerContextPool.release player} := by
  have listed := sound.avatars player live
  have erased : eraseAvatar player s.toLoop = {s.toLoop with
      playerContextByAvatarId := erase (s.contexts player).avatarId s.playerContextByAvatarId} := by
    rw [eraseAvatar,listed]
    exact if_pos rfl
  rw [deletePlayer,erased]
  rfl

structure Removes (player : Object) (s t : Region) : Prop where
  live : Live s player
  lives : ∀ other, Live t other ↔ Live s other ∧ other ≠ player
  others : ∀ other, other ≠ player → t.contexts other = s.contexts other
  avatars : ∀ other, find other t.playerContextByAvatarId =
    if other = (s.contexts player).avatarId then none else find other s.playerContextByAvatarId
  slots : ∀ gate index, slotAt gate index t.toLoop =
    if gate = serverId (s.contexts player).sessionId ∧ index = sessionIndex (s.contexts player).sessionId then none
    else slotAt gate index s.toLoop

theorem removes_agree (player : Object) (s t : Region) (removes : Removes player s t) (agree : Agree s)
    (count : t.playerCount.toNat = t.playerContextPool.heldObjects.card) : Agree t := by
  refine ⟨?_,?_,?_,?_,count⟩
  · intro other alive
    obtain ⟨alive,different⟩ := (removes.lives other).mp alive
    rw [removes.others other different,removes.avatars,if_neg]
    · exact agree.avatars other alive
    · intro same
      have listed := agree.avatars other alive
      rw [same,agree.avatars player removes.live] at listed
      exact different (Option.some.inj listed).symm
  · intro other alive
    obtain ⟨alive,different⟩ := (removes.lives other).mp alive
    rw [removes.others other different,slotOf,removes.slots,if_neg]
    · exact agree.slots other alive
    · rintro ⟨gate,index⟩
      have placed := agree.slots other alive
      rw [slotOf,gate,index] at placed
      exact different (Option.some.inj (placed.symm.trans (agree.slots player removes.live)))
  · intro avatarId other found
    rw [removes.avatars] at found
    split at found
    · cases found
    next unlike =>
      obtain ⟨alive,own⟩ := agree.mapped avatarId other found
      have different : other ≠ player := by
        rintro rfl
        exact unlike own.symm
      rw [removes.others other different]
      exact ⟨(removes.lives other).mpr ⟨alive,different⟩,own⟩
  · intro gate index other placed
    rw [removes.slots] at placed
    split at placed
    · cases placed
    next unlike =>
      obtain ⟨alive,own⟩ := agree.slotted gate index other placed
      have different : other ≠ player := by
        rintro rfl
        exact unlike ⟨own.1.symm,own.2.symm⟩
      rw [removes.others other different]
      exact ⟨(removes.lives other).mpr ⟨alive,different⟩,own⟩

theorem deleted_sound (player : Object) (s : Region) (sound : Sound s)
    (queue : s.finalizingQueue = [player]) : Sound (deleted player s) := by
  have finalizing : (s.contexts player).finalizing = true := by
    rw [← sound.queued,queue]
    exact List.mem_singleton_self player
  have used : (s.contexts player).state ≠ .none := by
    intro none
    rw [sound.idle player none] at finalizing
    cases finalizing
  have live := (sound.held player).mpr used
  have result := deletePlayer_listed player s sound live
  obtain ⟨still,held⟩ := release_sound s.playerContextPool player sound.pool live
  have card := release_card s.playerContextPool player sound.pool live
  have count := sound.count
  have usedSize := sound.usedSize
  obtain ⟨bound,limit⟩ := sound.maxSize
  let t := deleted player s
  have pool : t.playerContextPool = s.playerContextPool.release player :=
    congrArg Loop.playerContextPool result
  have contexts : t.contexts = Function.update s.contexts player .clear := congrArg Loop.contexts result
  have here : t.contexts player = .clear := by
    rw [contexts,Function.update_self]
  have there (other : Object) (different : other ≠ player) : t.contexts other = s.contexts other := by
    rw [contexts,Function.update_of_ne different]
  let erased := {s.toLoop with
    playerContextByAvatarId := erase (s.contexts player).avatarId s.playerContextByAvatarId}
  have gates : t.gateServerContext = (emptySlot (s.contexts player).sessionId erased).gateServerContext := by
    change (deletePlayer player s.toLoop).gateServerContext = _
    rw [result]
  have removes : Removes player s t := by
    refine ⟨live,?_,there,?_,?_⟩
    · intro other
      rw [Live,pool]
      exact held other
    · intro other
      rw [← find_erase]
      exact congrArg (find other) (congrArg Loop.playerContextByAvatarId result)
    · intro gate index
      rw [slotAt,gates]
      exact emptySlot_slots (s.contexts player).sessionId erased gate index
  refine ⟨removes_agree player s t removes sound.toAgree ?_,?_,?_,?_,List.nodup_nil,?_,?_,?_⟩
  · have less : t.playerCount = s.playerCount - 1 := congrArg Loop.playerCount result
    rw [less,pool,UInt16.toNat_sub_of_le]
    · change s.playerCount.toNat - 1 = _
      omega
    · rw [UInt16.le_iff_toNat_le]
      change 1 ≤ _
      omega
  · rw [pool]
    exact still
  · intro other
    rw [removes.lives,sound.held]
    by_cases same : other = player
    · rw [same,here]
      simp [RegionPlayerContext.clear]
    · rw [there other same]
      simp [same]
  · intro other none
    by_cases same : other = player
    · rw [same,here]
      rfl
    · rw [there other same] at none ⊢
      exact sound.idle other none
  · intro other
    change other ∈ [] ↔ _
    by_cases same : other = player
    · rw [same,here]
      simp [RegionPlayerContext.clear]
    · rw [there other same,← sound.queued,queue]
      simp [same]
  · rw [pool]
    change (s.playerContextPool.usedSize + (2^16 - 1)) % 2^16 = _
    omega
  · rw [pool]
    change (s.playerContextPool.usedSize + (2^16 - 1)) % 2^16 ≤ s.playerContextPool.maxSize ∧
      s.playerContextPool.maxSize < _
    omega

theorem pass_sound (s : Region) (sound : Sound s) (single : s.finalizingQueue.length ≤ 1) :
    Sound {s with toLoop := loopPass s.toLoop} := by
  cases queue : s.finalizingQueue with
  | nil =>
    have same : loopPass s.toLoop = s.toLoop := by
      rw [loopPass,queue,drainBack,← queue]
    rw [same]
    exact sound
  | cons player rest =>
    obtain rfl : rest = [] := by
      rw [queue,List.length_cons] at single
      exact List.length_eq_zero_iff.mp (by omega)
    have same : {s with toLoop := loopPass s.toLoop} = deleted player s := by
      rw [loopPass,queue,drainBack_singleton]
      rfl
    rw [same]
    exact deleted_sound player s sound queue

theorem step_sound (env : Env) (s : Region) (action : Action) (sound : Sound s)
    (fresh : Fresh s action) : Sound (step env s action) := by
  by_cases plain : plainAction action = true
  · exact does_sound _ _ (step_does env s action plain) sound
  · cases action with
    | onRegionAllocReq sessionId avatarId avatarName =>
      rcases alloc_cases env sessionId avatarId avatarName s with
        same | ⟨player,pool,running,valid,taken,result⟩
      · rw [same]
        exact sound
      · obtain ⟨newAvatar,newSlot⟩ := fresh running valid (by rw [taken]; rfl)
        obtain ⟨unused,listed⟩ := enrolled_sound env s sessionId avatarId avatarName player pool sound
          taken newAvatar newSlot
        rw [result]
        exact does_sound _ _ (onRegionAllocReq_unused env player sessionId avatarId avatarName _ unused)
          listed
    | pass => exact pass_sound s sound fresh
    | _ => exact absurd rfl plain

theorem run_sound (env : Env) (actions : List Action)
    (guarded : Guarded (step env) Fresh (init env.config) actions) :
    Sound (run (step env) (init env.config) actions) :=
  run_invariant (step env) Fresh Sound (step_sound env) _ actions guarded (init_sound env.config)

/-- The indexes agree in every run whose allocations are fresh and whose passes delete at most
one player each. -/
theorem indexes_agree (env : Env) (actions : List Action)
    (guarded : Guarded (step env) Fresh (init env.config) actions) :
    Agree (run (step env) (init env.config) actions) := (run_sound env actions guarded).toAgree

/-- The player leaves, is deleted in a pass and comes again. -/
def leaveAndReturn : List Action :=
  [.onRegionAllocReq firstSession 7 [97],.onRegionEnterReq firstSession,
    .onRegionLeaveReq firstSession,.pass,.onRegionAllocReq firstSession 7 [97]]

theorem indexes_agree_return :
    Agree (run (step sampleEnv) (init sampleEnv.config) leaveAndReturn) :=
  indexes_agree sampleEnv leaveAndReturn (by decide +kernel)

/-- The same avatar is allocated for another session before the old player is deleted. -/
theorem indexes_agree_twice :
    ¬ Agree (run (step sampleEnv) (init sampleEnv.config)
      [.onRegionAllocReq firstSession 7 [97],.onRegionAllocReq secondSession 7 [97]]) := by
  intro agree
  have listed := agree.avatars 1 (by decide +kernel)
  revert listed
  decide +kernel

end Fantuan.RegionServer.Indexes
