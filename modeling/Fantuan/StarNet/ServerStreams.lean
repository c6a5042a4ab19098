import Fantuan.StarNet.Packet
import Fantuan.StarNet.RecvChunks

/-! Streams of ServerPackets in a receive loop whose handler refuses none of them. The stream is
handed over when every copy fits, and the copies and calls are good when the heads are short too.
-/
namespace Fantuan.StarNet.ServerStreams
open Lib.Frames Packet RecvLoop RecvStream RecvChunks

/-- A loop that hands every ServerPacket on, from a buffer shorter than 2^16. -/
structure Serves (loop : Loop ServerPacket) : Prop where
  format : loop.format = serverFormat
  read : loop.read = readServerPacket
  accepts : ∀ packet, loop.handle packet = true
  small : loop.bufSize < 2^16

/-- A packet whose length field is right and that a buffer of this size holds. -/
structure Held (bufSize : Nat) (packet : ServerPacket) : Prop where
  whole : packet.Whole
  room : packet.bytes.length ≤ bufSize

def streamOf (packets : List ServerPacket) : List UInt8 := (packets.map ServerPacket.bytes).flatten

/-- All calls return, the handler got these packets in this order, and the buffer is empty. -/
def Hands (loop : Loop ServerPacket) (chunks : List (List UInt8)) (packets : List ServerPacket) : Prop :=
  ∃ fuel, (feed loop fuel [] chunks).exit = .returned [] ∧
    calls (feed loop fuel [] chunks).actions = packets.map fun packet => (packet,true)

/-- No head met in these chunks announces a packet of 2^16 bytes or more. -/
def ShortHeads (buf : List UInt8) (chunks : List (List UInt8)) : Prop :=
  chunks ≠ [] → Heads serverFormat Short (buf ++ chunks.flatten)

theorem buffered_whole (buf : List UInt8) (enough : serverPacketHead ≤ buf.length)
    (whole : (readServerPacket buf).Whole) :
    serverPacketHead + Lib.Bytes.field 2 2 buf ≤ buf.length := by
  have bound := Lib.Bytes.field_lt 2 2 buf
  simp only [ServerPacket.Whole,readServerPacket,List.length_take,List.length_drop,
    UInt16.toNat_ofNat'] at whole
  omega

section
variable (loop : Loop ServerPacket) (serves : Serves loop)
include serves

theorem serves_near (bytes : List UInt8) : Heads loop.format (Near loop) bytes := by
  have near (bytes : List UInt8) : Near loop (size loop.format bytes) := by
    have bound := Lib.Bytes.field_lt 2 2 bytes
    rw [Near,serves.format]
    change 4 + Lib.Bytes.field 2 2 bytes ≤ 2^16 + 4
    omega
  exact ⟨fun frame _ => near frame,fun _ => near _⟩

theorem serves_accepted (bytes : List UInt8) : Accepted loop bytes := fun _ _ => serves.accepts _

section
variable (packets : List ServerPacket) (held : ∀ packet ∈ packets, Held loop.bufSize packet)
include held

theorem parts_framed : ∀ part ∈ packets.map ServerPacket.bytes,
    IsFrame loop.format part ∧ (loop.read part).Whole ∧ part.length ≤ loop.bufSize := by
  intro part member
  obtain ⟨packet,known,rfl⟩ := List.mem_map.mp member
  have whole := (held packet known).whole
  rw [serves.format,serves.read,readServerPacket_bytes packet whole]
  exact ⟨serverPacket_isFrame packet whole,whole,(held packet known).room⟩

theorem parts_read : (packets.map ServerPacket.bytes).map (fun part => (loop.read part,true)) =
    packets.map fun packet => (packet,true) := by
  rw [List.map_map]
  apply List.map_congr_left
  intro packet member
  change (loop.read packet.bytes,true) = (packet,true)
  rw [serves.read,readServerPacket_bytes packet (held packet member).whole]

theorem hands_iff (chunks : List (List UInt8)) (wide : Wide loop chunks)
    (cut : chunks.flatten = streamOf packets) :
    Hands loop chunks packets ↔ FitsAll serverFormat loop.bufSize [] chunks := by
  have parts := parts_framed loop serves packets held
  have read := parts_read loop serves packets held
  have small := serves.small
  rw [← serves.format]
  constructor
  · rintro ⟨fuel,returned,handedOver⟩
    rw [← read] at handedOver
    have buffered : ∀ buf, loop.format.head ≤ buf.length → (loop.read buf).Whole →
        loop.format.head + loop.format.payload buf ≤ buf.length := by
      rw [serves.format,serves.read]
      exact buffered_whole
    have near : ∀ part ∈ packets.map ServerPacket.bytes, Near loop part.length := by
      intro part member
      have room := (parts part member).2.2
      rw [Near]
      omega
    exact (feed_frames_short loop ServerPacket.Whole buffered _
      (fun part member => (parts part member).1) (fun part member => (parts part member).2.1) near
      chunks wide cut fuel [] returned handedOver).1
  · intro fits
    have short : ∀ part ∈ packets.map ServerPacket.bytes, part.length < 2^16 := by
      intro part member
      have room := (parts part member).2.2
      omega
    obtain ⟨fuel,returned,handedOver⟩ := feed_frames_delivers loop _
      (fun part member => (parts part member).1) chunks wide cut fits short
      (fun part _ => serves.accepts _)
    exact ⟨fuel,returned,handedOver.trans read⟩

end

section
variable (buf : List UInt8) (held : buf.length ≤ loop.bufSize) (chunks : List (List UInt8))
  (wide : Wide loop chunks)
include held wide

theorem returned_held (fuel : Nat) (rest : List UInt8) (returned : (feed loop fuel buf chunks).exit = .returned rest)
    (good : AllGood loop (feed loop fuel buf chunks).actions) : rest.length ≤ loop.bufSize :=
  (feed_short loop fuel buf rest chunks held wide (serves_near loop serves _) returned good).2.1

theorem good_returns (good : ∀ fuel, AllGood loop (feed loop fuel buf chunks).actions) :
    ∃ fuel rest, (feed loop fuel buf chunks).exit = .returned rest :=
  ⟨_,feed_ends loop _ buf chunks held wide serves.small (serves_near loop serves _) (Nat.lt_succ_self _)
    (good _)⟩

theorem good_iff : (∀ fuel, AllGood loop (feed loop fuel buf chunks).actions) ↔
    FitsAll serverFormat loop.bufSize buf chunks ∧ ShortHeads buf chunks := by
  have near := serves_near loop serves (buf ++ chunks.flatten)
  rw [ShortHeads,← serves.format]
  constructor
  · intro good
    obtain ⟨fuel,rest,returned⟩ := good_returns loop serves buf held chunks wide good
    obtain ⟨fits,-,short⟩ := feed_short loop fuel buf rest chunks held wide near returned (good fuel)
    exact ⟨fits,fun some => (short some).1⟩
  · rintro ⟨fits,short⟩ fuel
    by_cases none : chunks = []
    · simp [none,feed,AllGood]
    · exact feed_good loop fuel buf chunks held wide fits (short none) (serves_accepted loop serves _)

end

end

end Fantuan.StarNet.ServerStreams
