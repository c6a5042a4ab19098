import Mathlib.Logic.Basic

/-! What the servers share: wide strings, the number of servers, the parts of a session
id and the shutdown status of a logic loop.
-/
namespace Fantuan.ServerBase.ServerCommon

abbrev WString := List UInt16

def serverCountMax := 128

def serverId (sessionId : UInt32) : UInt8 := (sessionId >>> 24).toUInt8

/-- session_index_, the two bytes in the middle. -/
def sessionIndex (sessionId : UInt32) : UInt16 := (sessionId >>> 8).toUInt16

/-- sequence_ is the lowest byte of a session id. -/
def nextSequence (sessionId : UInt32) : UInt32 :=
  sessionId / 256 * 256 + (sessionId + 1) % 256

theorem sessionIndex_toNat (sessionId : UInt32) :
    (sessionIndex sessionId).toNat = sessionId.toNat / 256 % 65536 := by
  simp [sessionIndex,Nat.shiftRight_eq_div_pow]

theorem serverId_toNat (sessionId : UInt32) :
    (serverId sessionId).toNat = sessionId.toNat / 16777216 := by
  have bound := sessionId.toNat_lt
  simp [serverId,Nat.shiftRight_eq_div_pow]
  omega

theorem nextSequence_toNat (sessionId : UInt32) :
    (nextSequence sessionId).toNat = sessionId.toNat / 256 * 256 + (sessionId.toNat + 1) % 256 := by
  have bound := sessionId.toNat_lt
  simp [nextSequence]
  omega

inductive ShutdownStatus where
  | notShutdown | startShutdown | readyForShutdown
  deriving DecidableEq

end Fantuan.ServerBase.ServerCommon
