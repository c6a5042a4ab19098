import Fantuan.CacheServer.AvatarArrays
import Fantuan.MasterServer.AvatarArrays

/-! The avatar counts of the cache and of the master. The cache takes every row that the
database returns, the master every count that comes with a list, and neither of them compares
it with AVATARCOUNT_MAX.
-/
namespace Fantuan.AvatarCounts
open Lib.Run MasterServer.Context MasterServer.Commands MasterServer.AvatarArrays

/-- In every run of the cache whose queries return rows that fit, and in every run of the master
whose lists fit, no count is beyond AVATARCOUNT_MAX and every access is inside its array. -/
theorem avatarCounts_bounded (cache : CacheServer.Player.Env)
    (cacheActions : List CacheServer.Commands.Action) (env : Env)
    (convert : List UInt8 → Option PrdAvatar) (actions : List Action)
    (rows : Guarded (CacheServer.Commands.step cache) (CacheServer.AvatarArrays.Fits cache)
      (CacheServer.Commands.init cache.config) cacheActions)
    (lists : Guarded (step (ackEnv env convert)) (Fits convert) (.init env.config) actions) :
    (Guarded (CacheServer.Commands.step cache) (CacheServer.AvatarArrays.Inside cache)
        (CacheServer.Commands.init cache.config) cacheActions ∧
      CacheServer.AvatarArrays.Counted
        (run (CacheServer.Commands.step cache) (CacheServer.Commands.init cache.config) cacheActions)) ∧
    Guarded (step (ackEnv env convert)) (Inside env convert) (.init env.config) actions ∧
      Counted (run (step (ackEnv env convert)) (.init env.config) actions) := by
  constructor
  · exact CacheServer.AvatarArrays.run_inside cache cacheActions rows
  · exact run_inside env convert actions lists

/-- The payload of an ack with this count and this length, and zeros as its entries. -/
def listAckPayload (count length : UInt8) (entries : Nat) : List UInt8 :=
  [0,0,0,0,count,length,0] ++ List.replicate (entries * ftdAvatarSize) 0

def sampleConvert (_ : List UInt8) : Option PrdAvatar := some ⟨7,[98]⟩

/-- A player asks for the list of avatars, and an ack with this payload comes back. -/
def listing (data : List UInt8) : List Action :=
  enterGate ++ ([.command (.packetForward gateSession 1 []),
    .command (.packetForward gateSession avatarListAckType data)] : List Action)

theorem avatarCounts_bounded_one :
    (Guarded (CacheServer.Commands.step CacheServer.Commands.sampleEnv)
        (CacheServer.AvatarArrays.Inside CacheServer.Commands.sampleEnv)
        (CacheServer.Commands.init CacheServer.Commands.sampleEnv.config)
        (CacheServer.Commands.entering CacheServer.Commands.firstSession) ∧
      CacheServer.AvatarArrays.Counted
        (run (CacheServer.Commands.step CacheServer.Commands.sampleEnv)
          (CacheServer.Commands.init CacheServer.Commands.sampleEnv.config)
          (CacheServer.Commands.entering CacheServer.Commands.firstSession))) ∧
    Guarded (step (ackEnv (sampleEnv fun _ => true) sampleConvert))
        (Inside (sampleEnv fun _ => true) sampleConvert) (.init (sampleEnv fun _ => true).config)
        (listing (listAckPayload 1 1 1)) ∧
      Counted (run (step (ackEnv (sampleEnv fun _ => true) sampleConvert))
        (.init (sampleEnv fun _ => true).config) (listing (listAckPayload 1 1 1))) :=
  avatarCounts_bounded CacheServer.Commands.sampleEnv
    (CacheServer.Commands.entering CacheServer.Commands.firstSession) (sampleEnv fun _ => true)
    sampleConvert (listing (listAckPayload 1 1 1)) (by decide +kernel) (by decide +kernel)

/-- Eleven avatars arrive, and the count of the player is eleven. -/
theorem avatarCounts_bounded_eleven :
    let env := sampleEnv fun _ => true
    let before := run (step (ackEnv env sampleConvert)) (.init env.config)
      (enterGate ++ [.command (.packetForward gateSession 1 [])])
    let ack := Action.command (.packetForward gateSession avatarListAckType (listAckPayload 11 11 11))
    ¬ Inside env sampleConvert before ack ∧
      ¬ Counted (step (ackEnv env sampleConvert) before ack) := by
  have eleven : ((step (ackEnv (sampleEnv fun _ => true) sampleConvert)
      (run (step (ackEnv (sampleEnv fun _ => true) sampleConvert)) (.init (sampleEnv fun _ => true).config)
        (enterGate ++ [.command (.packetForward gateSession 1 [])]))
      (.command (.packetForward gateSession avatarListAckType (listAckPayload 11 11 11)))).contexts
        0).avatars.length = 11 := by
    decide +kernel
  have outside : (⟨10,10⟩ : Lib.Visits.Access) ∈ accesses (sampleEnv fun _ => true) sampleConvert
      (run (step (ackEnv (sampleEnv fun _ => true) sampleConvert)) (.init (sampleEnv fun _ => true).config)
        (enterGate ++ [.command (.packetForward gateSession 1 [])]))
      (.command (.packetForward gateSession avatarListAckType (listAckPayload 11 11 11))) := by
    decide +kernel
  constructor
  · intro inside
    exact absurd (inside _ outside) (Nat.lt_irrefl 10)
  · intro counted
    have few := counted 0
    rw [eleven] at few
    revert few
    decide

end Fantuan.AvatarCounts
