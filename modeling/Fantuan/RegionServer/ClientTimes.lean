import Fantuan.Lib.Clock
import Fantuan.RegionServer.ClientViews

/-! The time that a client is told when it asks for it: the server adds half of what its clock is ahead of
the client's, around the clock.
-/
namespace Fantuan.RegionServer.ClientTimes
open Lib.Clock Lib.Run Lib.Table ServerBase.ServerCommon Tool.ObjectPool Player Commands

def serverTime : Event → Option UInt32
  | ⟨.client (.serverTimeNtf time),_⟩ => some time
  | _ => none

def serverTimes (s : Region) : List UInt32 := s.log.filterMap serverTime

/-- The server time, and half of the shorter way between the two times. -/
def halfway (currTime clientTime : UInt32) : UInt32 := currTime + UInt32.ofNat (apart clientTime currTime / 2)

/-- In use, and waiting for the time of the client. -/
def Accepts (player : Object) (s : Region) : Prop :=
  (s.contexts player).finalizing = false ∧ (s.contexts player).state = .serverTimeNtf

/-- A time that the request makes the server send is the promised one. -/
def Fair (clientTime : UInt32) (before after : Region) : Prop :=
  ∀ time, serverTimes after = time :: serverTimes before → time = halfway before.currTime clientTime

theorem send_times (env : Env) (message : Message) (s : Region) (other : serverTime ⟨message,sends env s⟩ = none) :
    serverTimes (send env message s) = serverTimes s := by
  change (_ :: s.log).filterMap serverTime = _
  rw [List.filterMap_cons_none other]
  rfl

theorem write_times (env : Env) (packet : Packet) (s : Region) :
    serverTimes (write env packet s) = (serverTime ⟨.client packet,sends env s⟩).toList ++ serverTimes s := by
  have logged : (write env packet s).log = ⟨.client packet,sends env s⟩ :: s.log := by
    rw [write]
    split <;> rfl
  rw [serverTimes,logged,List.filterMap_cons]
  cases serverTime ⟨.client packet,sends env s⟩ <;> rfl

section
variable (env : Env) (player : Object)

/-- A region that goes on without telling a time. -/
def Untold (next : Region → Region) : Prop := ∀ s, serverTimes (next s) = serverTimes s

theorem stateTransition_untold (event : PlayerEvent) : Untold (stateTransition event player) := by
  intro s
  rw [stateTransition]
  split <;> rfl

theorem attempt_untold (message : Message) (next : Region → Region) (s : Region)
    (other : serverTime ⟨message,sends env s⟩ = none) (untold : Untold next) :
    serverTimes (attempt env player message next s) = serverTimes s := by
  have said := send_times env message s other
  rw [attempt]
  split
  · exact (untold _).trans said
  · rw [serverTimes,shutdownPlayer_log]
    exact said

theorem attemptData_untold (next : Region → Region) (untold : Untold next) :
    Untold (attemptData env player next) :=
  fun s => attempt_untold env player _ next s rfl untold

theorem attemptWrite_times (packet : Packet) (next : Region → Region) (untold : Untold next) (s : Region) :
    serverTimes (attemptWrite env player packet next s) =
      (serverTime ⟨.client packet,sends env s⟩).toList ++ serverTimes s := by
  have wrote := write_times env packet s
  rw [attemptWrite]
  split
  · exact (untold _).trans wrote
  · rw [serverTimes,shutdownPlayer_log]
    exact wrote

theorem foldl_untold {Item : Type} (handle : Region → Item → Region) (untold : ∀ item, Untold fun s => handle s item)
    (items : List Item) : Untold fun s => items.foldl handle s := by
  induction items with
  | nil => exact fun _ => rfl
  | cons item rest ih => exact fun s => (ih (handle s item)).trans (untold item s)

theorem withName_untold (next : List UInt8 → Region → Region) (untold : ∀ name, Untold (next name)) :
    Untold (withName env player next) := by
  intro s
  rw [withName]
  split
  · exact untold _ s
  · rfl

theorem broadcastData_untold : Untold (broadcastData env) := by
  intro s
  rw [broadcastData]
  refine (foldl_untold _ ?_ (List.range serverCountMax) _).trans ?_
  · intro gate t
    dsimp only
    split
    · rfl
    · exact send_times env _ t rfl
  · rfl

theorem sendInitialAvatarData_untold : Untold (sendInitialAvatarData env player) := by
  refine withName_untold env player _ ?_
  intro name s
  exact attemptWrite_times env player _ _
    (attemptData_untold env player _ (stateTransition_untold player .initAvatarNtf)) s

theorem initialMapEnter_untold : Untold (initialMapEnter env player) := by
  intro s
  rw [initialMapEnter.eq_def]
  cases s.avatars player with
  | none => rfl
  | some teleport =>
    dsimp only
    cases env.logicLoopByMap (if teleport = 0 then 1 else teleport) with
    | some logicLoop => rfl
    | none =>
      dsimp only
      rw [serverTimes,shutdownPlayer_log]
      rfl

theorem broadcastAvatarEnterNtf_untold : Untold (broadcastAvatarEnterNtf env player) := by
  refine withName_untold env player _ ?_
  intro name s
  exact attemptWrite_times env player _ _ (broadcastData_untold env) s

theorem sendRegionAvatars_untold : Untold (sendRegionAvatars env player) := by
  intro s
  refine foldl_untold _ ?_ (values s.playerContextByAvatarId) s
  intro other t
  dsimp only
  split
  · rfl
  · refine withName_untold env other _ ?_ t
    intro name u
    exact attemptWrite_times env player _ _ (attemptData_untold env player id fun _ => rfl) u

theorem afterTime_untold : Untold (attemptData env player fun s =>
    sendRegionAvatars env player <| broadcastAvatarEnterNtf env player <|
      initialMapEnter env player <| sendInitialAvatarData env player <|
      stateTransition .serverTime2Ntf player s) := by
  apply attemptData_untold
  intro s
  rw [sendRegionAvatars_untold,broadcastAvatarEnterNtf_untold,initialMapEnter_untold,
    sendInitialAvatarData_untold,stateTransition_untold]

theorem onClientTimeReq_times (clientTime : UInt32) (s : Region) (accepts : Accepts player s) :
    serverTimes (onClientTimeReq env player clientTime s) =
      (s.currTime + (s.currTime - clientTime) / 2) :: serverTimes s := by
  have reached : reaches .onClientTimeReq player s = some .onClientTimeReq := by
    rw [reaches,accepts.2]
    rfl
  rw [onClientTimeReq,accepts.1,if_neg Bool.false_ne_true,expect,reached]
  exact attemptWrite_times env player _ _ (afterTime_untold env player) _

end

theorem halfway_iff (currTime clientTime : UInt32) :
    currTime + (currTime - clientTime) / 2 = halfway currTime clientTime ↔ passed clientTime currTime ≤ 2^31 := by
  have small : apart clientTime currTime / 2 < 2^32 := by
    have least : apart clientTime currTime ≤ passed clientTime currTime := Nat.min_le_left ..
    have bound : passed clientTime currTime < 2^32 := UInt32.toNat_lt _
    omega
  rw [← half_passed_iff,halfway,UInt32.add_right_inj,← UInt32.toNat_inj,UInt32.toNat_div,UInt32.toNat_ofNat',
    Nat.mod_eq_of_lt small]
  rfl

/-- The promise is kept just where the client's clock is not ahead of the server's. -/
theorem fair_iff (env : Env) (player : Object) (clientTime : UInt32) (s : Region) :
    Fair clientTime s (onClientTimeReq env player clientTime s) ↔
      (Accepts player s → passed clientTime s.currTime ≤ 2^31) := by
  constructor
  · intro fair accepts
    exact (halfway_iff ..).mp (fair _ (onClientTimeReq_times env player clientTime s accepts))
  · intro behind time told
    by_cases accepts : Accepts player s
    · rw [onClientTimeReq_times env player clientTime s accepts,List.cons.injEq] at told
      rw [← told.1]
      exact (halfway_iff ..).mpr (behind accepts)
    · rw [ClientViews.onClientTimeReq_idle env player clientTime s fun both => accepts ⟨both.2,both.1⟩] at told
      have longer := congrArg List.length told
      rw [List.length_cons] at longer
      omega

/-- Five milliseconds ahead, a client is told a time half a period away. -/
theorem fair_ahead_unfair :
    let s := run (step sampleEnv) (init sampleEnv.config) (entered.take 3 ++ [Action.tick 5])
    let after := onClientTimeReq sampleEnv 0 10 s
    Accepts 0 s ∧ serverTimes after = 2147483650 :: serverTimes s ∧ halfway 5 10 = 7 ∧ ¬ Fair 10 s after := by
  intro s after
  have accepts : Accepts 0 s := ⟨by decide +kernel,by decide +kernel⟩
  have times : serverTimes after = 2147483650 :: serverTimes s := by decide +kernel
  refine ⟨accepts,times,by decide,?_⟩
  intro fair
  exact absurd (fair _ times) (by decide +kernel)

end Fantuan.RegionServer.ClientTimes
