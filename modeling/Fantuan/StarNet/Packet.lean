import Fantuan.Lib.Bytes
import Fantuan.Lib.Frames

/-! The packet heads of the two wire formats: ServerPacket between client and
server, PeerPacket between servers. Both write their fields little-endian, and the
length field leaves the head out.
-/
namespace Fantuan.StarNet.Packet
open Lib.Bytes Lib.Frames

def maxInputBuffer : Nat := 1024

def maxPeerBuffer : Nat := 65536

structure ServerPacket where
  typeId : UInt16
  len : UInt16
  buf : List UInt8
  deriving DecidableEq

def serverPacketHead : Nat := 4

def readServerPacket (bytes : List UInt8) : ServerPacket where
  typeId := UInt16.ofNat (field 0 2 bytes)
  len := UInt16.ofNat (field 2 2 bytes)
  buf := (bytes.drop serverPacketHead).take (field 2 2 bytes)

def serverFormat : Format UInt8 where
  head := serverPacketHead
  payload := field 2 2
  headPos := by decide
  headOnly := fun bytes more enough => field_append 2 2 bytes more enough

def ServerPacket.bytes (packet : ServerPacket) : List UInt8 :=
  le 2 packet.typeId.toNat ++ (le 2 packet.len.toNat ++ packet.buf)

def ServerPacket.Whole (packet : ServerPacket) : Prop := packet.buf.length = packet.len.toNat

structure PeerPacket where
  filterId : UInt16
  funcId : UInt16
  len : UInt32
  buf : List UInt8
  deriving DecidableEq

def peerPacketHead : Nat := 8

def readPeerPacket (bytes : List UInt8) : PeerPacket where
  filterId := UInt16.ofNat (field 0 2 bytes)
  funcId := UInt16.ofNat (field 2 2 bytes)
  len := UInt32.ofNat (field 4 4 bytes)
  buf := (bytes.drop peerPacketHead).take (field 4 4 bytes)

def peerFormat : Format UInt8 where
  head := peerPacketHead
  payload := field 4 4
  headPos := by decide
  headOnly := fun bytes more enough => field_append 4 4 bytes more enough

def PeerPacket.bytes (packet : PeerPacket) : List UInt8 :=
  le 2 packet.filterId.toNat ++ (le 2 packet.funcId.toNat ++ (le 4 packet.len.toNat ++ packet.buf))

def PeerPacket.Whole (packet : PeerPacket) : Prop := packet.buf.length = packet.len.toNat

private theorem take_append_complete (bytes more : List UInt8) (head count : Nat)
    (inside : head + count ≤ bytes.length) :
    ((bytes ++ more).drop head).take count = (bytes.drop head).take count := by
  rw [List.drop_append_of_le_length (by omega)]
  apply List.take_append_of_le_length
  simp only [List.length_drop]
  omega

theorem readServerPacket_append (bytes more : List UInt8) (complete : Complete serverFormat bytes) :
    readServerPacket (bytes ++ more) = readServerPacket bytes := by
  have head : 4 ≤ bytes.length := complete.1
  have whole : 4 + field 2 2 bytes ≤ bytes.length := complete.2
  simp only [readServerPacket,serverPacketHead,field_append 0 2 bytes more (by omega),
    field_append 2 2 bytes more (by omega),take_append_complete bytes more 4 _ whole]

theorem readPeerPacket_append (bytes more : List UInt8) (complete : Complete peerFormat bytes) :
    readPeerPacket (bytes ++ more) = readPeerPacket bytes := by
  have head : 8 ≤ bytes.length := complete.1
  have whole : 8 + field 4 4 bytes ≤ bytes.length := complete.2
  simp only [readPeerPacket,peerPacketHead,field_append 0 2 bytes more (by omega),
    field_append 2 2 bytes more (by omega),field_append 4 4 bytes more (by omega),
    take_append_complete bytes more 8 _ whole]

private theorem field_front (width n : Nat) (after : List UInt8) (bound : n < 256 ^ width) :
    field 0 width (le width n ++ after) = n := field_le [] after width n bound

theorem serverPacket_fields (packet : ServerPacket) :
    field 0 2 packet.bytes = packet.typeId.toNat ∧ field 2 2 packet.bytes = packet.len.toNat := by
  constructor
  · exact field_front 2 _ _ packet.typeId.toNat_lt
  · have second := field_le (le 2 packet.typeId.toNat) packet.buf 2 packet.len.toNat packet.len.toNat_lt
    simpa [ServerPacket.bytes] using second

@[simp] theorem serverPacket_length (packet : ServerPacket) :
    packet.bytes.length = 4 + packet.buf.length := by
  simp only [ServerPacket.bytes,List.length_append,length_le]
  omega

theorem readServerPacket_bytes (packet : ServerPacket) (whole : packet.Whole) :
    readServerPacket packet.bytes = packet := by
  obtain ⟨typeId,len⟩ := serverPacket_fields packet
  have rest : (packet.bytes.drop 4).take packet.len.toNat = packet.buf := by
    have skipped : packet.bytes.drop 4 = packet.buf := by
      rw [ServerPacket.bytes,← List.append_assoc]
      exact List.drop_left' (by simp)
    rw [skipped,← whole,List.take_length]
  simp only [readServerPacket,serverPacketHead,typeId,len,rest,UInt16.ofNat_toNat]

theorem serverPacket_isFrame (packet : ServerPacket) (whole : packet.Whole) :
    IsFrame serverFormat packet.bytes := by
  have length := serverPacket_length packet
  have payload : serverFormat.payload packet.bytes = packet.len.toNat := (serverPacket_fields packet).2
  refine ⟨?_,?_⟩
  · change 4 ≤ packet.bytes.length
    omega
  · rw [size,payload,length,whole]
    rfl

theorem peerPacket_fields (packet : PeerPacket) :
    field 0 2 packet.bytes = packet.filterId.toNat ∧ field 2 2 packet.bytes = packet.funcId.toNat ∧
      field 4 4 packet.bytes = packet.len.toNat := by
  refine ⟨field_front 2 _ _ packet.filterId.toNat_lt,?_,?_⟩
  · have second := field_le (le 2 packet.filterId.toNat) (le 4 packet.len.toNat ++ packet.buf)
      2 packet.funcId.toNat packet.funcId.toNat_lt
    simpa [PeerPacket.bytes] using second
  · have third := field_le (le 2 packet.filterId.toNat ++ le 2 packet.funcId.toNat) packet.buf
      4 packet.len.toNat packet.len.toNat_lt
    simpa [PeerPacket.bytes] using third

@[simp] theorem peerPacket_length (packet : PeerPacket) :
    packet.bytes.length = 8 + packet.buf.length := by
  simp only [PeerPacket.bytes,List.length_append,length_le]
  omega

theorem readPeerPacket_bytes (packet : PeerPacket) (whole : packet.Whole) :
    readPeerPacket packet.bytes = packet := by
  obtain ⟨filterId,funcId,len⟩ := peerPacket_fields packet
  have rest : (packet.bytes.drop 8).take packet.len.toNat = packet.buf := by
    have skipped : packet.bytes.drop 8 = packet.buf := by
      rw [PeerPacket.bytes,← List.append_assoc,← List.append_assoc]
      exact List.drop_left' (by simp)
    rw [skipped,← whole,List.take_length]
  simp only [readPeerPacket,peerPacketHead,filterId,funcId,len,rest,UInt16.ofNat_toNat,
    UInt32.ofNat_toNat]

theorem peerPacket_isFrame (packet : PeerPacket) (whole : packet.Whole) :
    IsFrame peerFormat packet.bytes := by
  have length := peerPacket_length packet
  have payload : peerFormat.payload packet.bytes = packet.len.toNat := (peerPacket_fields packet).2.2
  refine ⟨?_,?_⟩
  · change 8 ≤ packet.bytes.length
    omega
  · rw [size,payload,length,whole]
    rfl

end Fantuan.StarNet.Packet
