import Fantuan.Lib.Frames

/-! The receive loop that Session, PeerClient and PeerServer each carry a copy of.
The copies differ in the packet head, the buffer, the widths of their integers and
the handler; the loop itself is written once: `drain` is the inner while, `receive`
the outer do-while. A received buffer is the list of its first m_iRecvBufLen bytes.
-/
namespace Fantuan.StarNet.RecvLoop
open Lib.Frames

structure Loop (Packet : Type) where
  format : Format UInt8
  bufSize : Nat -- sizeof(m_RecvBuf)
  lenBits : Nat -- width of iLen and iCopyLen
  read : List UInt8 → Packet -- the packet the handler finds at the front of the buffer
  handle : Packet → Bool -- whether the handler lets the loop go on
  readFrame : ∀ bytes more, Complete format bytes → read (bytes ++ more) = read bytes
  bufBound : bufSize ≤ 2^16
  lenBound : lenBits ≤ 32

theorem uint32_bits : 32 ≤ 32 := Nat.le_refl 32

inductive Action (Packet : Type) where
  -- memcpy(m_RecvBuf + offset, pBuf, length), with so many bytes of the chunk left
  | copy (offset length available : Nat)
  -- a call of the handler while so many bytes were buffered
  | handle (packet : Packet) (payload buffered : Nat) (accepted : Bool)
  deriving DecidableEq

inductive Exit where
  | returned (buf : List UInt8)
  | undefined -- a memcpy left its source or its target
  | running
  deriving DecidableEq

inductive Drained where
  | left (buf : List UInt8)
  | refused (buf : List UInt8)
  | running
  deriving DecidableEq

structure Drain (Packet : Type) where
  actions : List (Action Packet)
  outcome : Drained
  deriving DecidableEq

structure Run (Packet : Type) where
  actions : List (Action Packet)
  exit : Exit
  deriving DecidableEq

variable {Packet : Type} (loop : Loop Packet)

-- uint16 iFullLength = pPacket->m_iLen + HEAD
def fullLength (buf : List UInt8) : Nat := size loop.format buf % 2^16

def Drain.after (action : Action Packet) (drain : Drain Packet) : Drain Packet :=
  {drain with actions := action :: drain.actions}

def Run.after (actions : List (Action Packet)) (run : Run Packet) : Run Packet :=
  {run with actions := actions ++ run.actions}

def drain : Nat → List UInt8 → Drain Packet
  | 0, _ => ⟨[],.running⟩
  | fuel + 1, buf =>
    if loop.format.head ≤ buf.length then
      if fullLength loop buf ≤ buf.length then
        let packet := loop.read buf
        let accepted := loop.handle packet
        let action := .handle packet (loop.format.payload buf) buf.length accepted
        if accepted then (drain fuel (buf.drop (fullLength loop buf))).after action
        else ⟨[action],.refused buf⟩
      else ⟨[],.left buf⟩
    else ⟨[],.left buf⟩

-- the sum is computed in 32 bits, the difference is kept in the width of iCopyLen
def copyLength (buf chunk : List UInt8) : Nat :=
  if (buf.length + chunk.length) % 2^32 ≤ loop.bufSize then chunk.length
  else (buf.length + chunk.length - loop.bufSize) % 2^loop.lenBits

def receive : Nat → List UInt8 → List UInt8 → Run Packet
  | 0, _, _ => ⟨[],.running⟩
  | fuel + 1, buf, chunk =>
    let count := copyLength loop buf chunk
    let copied := .copy buf.length count chunk.length
    if buf.length + count ≤ loop.bufSize ∧ count ≤ chunk.length then
      let inner := drain loop fuel (buf ++ chunk.take count)
      match inner.outcome with
      | .running => ⟨copied :: inner.actions,.running⟩
      | .refused left => ⟨copied :: inner.actions,.returned left⟩
      | .left left =>
        if (chunk.drop count).isEmpty then ⟨copied :: inner.actions,.returned left⟩
        else (receive fuel left (chunk.drop count)).after (copied :: inner.actions)
    else ⟨[copied],.undefined⟩

def feed (fuel : Nat) : List UInt8 → List (List UInt8) → Run Packet
  | buf, [] => ⟨[],.returned buf⟩
  | buf, chunk :: chunks =>
    let first := receive loop fuel buf chunk
    match first.exit with
    | .returned left => (feed fuel left chunks).after first.actions
    | _ => first

def received {P : List UInt8 → Prop} (chunks : List {bytes // P bytes}) : List UInt8 :=
  (chunks.map Subtype.val).flatten

/-- What the loop may do: copies stay inside the chunk and the buffer, and the
handler gets no longer payload than is buffered and accepts it. -/
def Action.Good : Action Packet → Prop
  | .copy offset length available => offset + length ≤ loop.bufSize ∧ length ≤ available
  | .handle _ payload buffered accepted => loop.format.head + payload ≤ buffered ∧ accepted = true

def calls : List (Action Packet) → List (Packet × Bool)
  | [] => []
  | .copy _ _ _ :: actions => calls actions
  | .handle packet _ _ accepted :: actions => (packet,accepted) :: calls actions

/-- The copies of a chunk that meets so many pending bytes stay inside the buffer:
either all of it fits, or what overruns the buffer is no more than what is free,
and the same holds of the rest once the packets completed so far are gone. -/
def Fits (format : Format UInt8) (bufSize : Nat) (buf chunk : List UInt8) : Prop :=
  if buf.length + chunk.length ≤ bufSize then True
  else
    let excess := buf.length + chunk.length - bufSize
    if _inside : buf.length + excess ≤ bufSize then
      Fits format bufSize (tail format (buf ++ chunk.take excess)) (chunk.drop excess)
    else False
termination_by chunk.length
decreasing_by
  simp only [List.length_drop]
  omega

def FitsAll (format : Format UInt8) (bufSize : Nat) : List UInt8 → List (List UInt8) → Prop
  | _, [] => True
  | buf, chunk :: chunks =>
    Fits format bufSize buf chunk ∧ FitsAll format bufSize (tail format (buf ++ chunk)) chunks

end Fantuan.StarNet.RecvLoop
