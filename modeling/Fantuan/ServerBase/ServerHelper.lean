import Fantuan.Lib.Bytes
import Fantuan.ServerBase.ServerCommon
import Fantuan.StarNet.DataStream
import Mathlib.Logic.Function.Basic

/-! The broadcast helper: sessions gathered in one array for each gate, and the message that carries
an array to its gate. A PEER_SERVER is the id of the server it leads to.
-/
namespace Fantuan.ServerBase.ServerHelper
open Lib.Bytes ServerCommon StarNet.Packet StarNet.DataStream

def broadcastSessionMax : Nat := 128

structure GateServerSessionDesc where
  gateServer : Option UInt8
  arraySessionId : List UInt32
  inside : arraySessionId.length ≤ broadcastSessionMax

def GateServerSessionDesc.clear (desc : GateServerSessionDesc) : GateServerSessionDesc :=
  {desc with arraySessionId := [], inside := Nat.zero_le _}

def GateServerSessionDesc.add (sessionId : UInt32) (desc : GateServerSessionDesc) :
    GateServerSessionDesc :=
  if room : desc.arraySessionId.length < broadcastSessionMax then
    {desc with
      arraySessionId := desc.arraySessionId ++ [sessionId]
      inside := by rw [List.length_append]; exact room}
  else desc

/-- undefined is set by an access outside m_arrayGateServerSessionDesc or through a null pointer. -/
structure BroadcastHelper where
  arrayGateServerSessionDesc : Nat → GateServerSessionDesc
  undefined : Bool

def BroadcastHelper.clear (helper : BroadcastHelper) : BroadcastHelper :=
  {helper with arrayGateServerSessionDesc := fun id => (helper.arrayGateServerSessionDesc id).clear}

def BroadcastHelper.setGateServer (id : UInt8) (gateServer : Option UInt8) (helper : BroadcastHelper) :
    BroadcastHelper :=
  if serverCountMax ≤ id.toNat then helper
  else
    {helper with
      arrayGateServerSessionDesc := Function.update helper.arrayGateServerSessionDesc id.toNat
        {helper.arrayGateServerSessionDesc id.toNat with gateServer := gateServer}}

/-- The constructor, and Init of a loop. -/
def BroadcastHelper.new (getPeerServer : UInt8 → Option UInt8) : BroadcastHelper :=
  (List.range serverCountMax).foldl
    (fun helper id => helper.setGateServer (UInt8.ofNat id) (getPeerServer (UInt8.ofNat id)))
    ⟨fun _ => ⟨none,[],Nat.zero_le _⟩,false⟩

-- the id of the server is only asserted to be below SERVERCOUNT_MAX
def BroadcastHelper.addGateSession (sessionId : UInt32) (helper : BroadcastHelper) : BroadcastHelper :=
  let id := (serverId sessionId).toNat
  if serverCountMax ≤ id then {helper with undefined := true}
  else
    {helper with
      arrayGateServerSessionDesc := Function.update helper.arrayGateServerSessionDesc id
        ((helper.arrayGateServerSessionDesc id).add sessionId)}

/-- iTypeId, and the iLen bytes of pBuf. -/
structure Packet where
  typeId : UInt16
  buf : List UInt8
  short : buf.length < 2^16
  deriving DecidableEq

def Packet.len (packet : Packet) : UInt16 := UInt16.ofNat packet.buf.length

def sessionMemory (sessionIds : List UInt32) : List UInt8 := sessionIds.flatMap fun id => le 4 id.toNat

/-- The calls of Serialize in GatePeerSend::BroadcastData. -/
def broadcastPayload (sessionIds : List UInt32) (packet : Packet) : Option OutputStream :=
  let count := UInt16.ofNat sessionIds.length
  (OutputStream.new maxPeerBuffer).serialize (le 2 count.toNat) >>= fun stream =>
  stream.serialize (le 2 count.toNat) >>= fun stream =>
  stream.serializeArray 4 count (sessionMemory sessionIds) >>= fun stream =>
  stream.serialize (le 2 packet.typeId.toNat) >>= fun stream =>
  stream.serialize (le 2 packet.len.toNat) >>= fun stream =>
  stream.serialize (le 2 packet.len.toNat) >>= fun stream =>
  stream.serializeArray 1 packet.len packet.buf

def readSessions : Nat → List UInt8 → List UInt32
  | 0, _ => []
  | count + 1, bytes => UInt32.ofNat (ofLe (bytes.take 4)) :: readSessions count (bytes.drop 4)

structure Received where
  sessionCount : UInt16
  arraySessionId : List UInt8
  typeId : UInt16
  len : UInt16
  buf : List UInt8

/-- The calls of Serialize in BroadcastData_Callback. -/
def broadcastCallback (payload : List UInt8) : Option Received :=
  (InputStream.new 32 payload).serialize 2 >>= fun (count,stream) =>
  stream.serialize 2 >>= fun (length,stream) =>
  stream.serialize (arrayBytes 4 (UInt16.ofNat (ofLe length))) >>= fun (sessions,stream) =>
  stream.serialize 2 >>= fun (typeId,stream) =>
  stream.serialize 2 >>= fun (len,stream) =>
  stream.serialize 2 >>= fun (bufLength,stream) =>
  stream.serialize (arrayBytes 1 (UInt16.ofNat (ofLe bufLength))) >>= fun (buf,_) =>
  some ⟨UInt16.ofNat (ofLe count),sessions,UInt16.ofNat (ofLe typeId),UInt16.ofNat (ofLe len),buf⟩

structure Message where
  gate : UInt8
  payload : List UInt8
  deriving DecidableEq

/-- Send through the peer server of a gate, which has a connection or not; what is longer than the
output buffer is dropped without an error. -/
def send (connected : UInt8 → Bool) (gate : UInt8) (payload : List UInt8) : List Message :=
  if connected gate = false then []
  else if maxOutputBuffer < peerPacketHead + payload.length then []
  else [⟨gate,payload⟩]

/-- SendData for one gate: the result of BroadcastData is only asserted. -/
def sendDesc (connected : UInt8 → Bool) (packet : Packet) (desc : GateServerSessionDesc) :
    List Message × Bool :=
  if desc.arraySessionId.length = 0 then ([],false)
  else
    match broadcastPayload desc.arraySessionId packet with
    | none => ([],false)
    | some stream =>
      match desc.gateServer with
      | some gate => (send connected gate stream.data,false)
      | none => ([],true)

def BroadcastHelper.sendData (connected : UInt8 → Bool) (packet : Packet) (helper : BroadcastHelper) :
    List Message × BroadcastHelper :=
  let sent := (List.range serverCountMax).map fun id =>
    sendDesc connected packet (helper.arrayGateServerSessionDesc id)
  (sent.flatMap Prod.fst,
    {helper.clear with undefined := helper.undefined || sent.any Prod.snd})

theorem sessionMemory_length (sessionIds : List UInt32) :
    (sessionMemory sessionIds).length = 4 * sessionIds.length := by
  induction sessionIds with
  | nil => rfl
  | cons id rest ih =>
    rw [sessionMemory,List.flatMap_cons,List.length_append,length_le,List.length_cons]
    rw [sessionMemory] at ih
    omega

theorem readSessions_memory (sessionIds : List UInt32) :
    readSessions sessionIds.length (sessionMemory sessionIds) = sessionIds := by
  induction sessionIds with
  | nil => rfl
  | cons id rest ih =>
    have first : (sessionMemory (id :: rest)).take 4 = le 4 id.toNat := List.take_left' (length_le 4 _)
    have others : (sessionMemory (id :: rest)).drop 4 = sessionMemory rest :=
      List.drop_left' (length_le 4 _)
    rw [List.length_cons,readSessions,first,others,ih,ofLe_le 4 _ id.toNat_lt,UInt32.ofNat_toNat]

def broadcastBytes (sessionIds : List UInt32) (packet : Packet) : List UInt8 :=
  le 2 sessionIds.length ++ (le 2 sessionIds.length ++ (sessionMemory sessionIds ++
    (le 2 packet.typeId.toNat ++ (le 2 packet.buf.length ++ (le 2 packet.buf.length ++ packet.buf)))))

theorem broadcastBytes_length (sessionIds : List UInt32) (packet : Packet) :
    (broadcastBytes sessionIds packet).length = 10 + 4 * sessionIds.length + packet.buf.length := by
  simp only [broadcastBytes,List.length_append,length_le,sessionMemory_length]
  omega

theorem packet_len (packet : Packet) : packet.len.toNat = packet.buf.length :=
  UInt16.toNat_ofNat_of_lt packet.short

theorem serializeAll_room (values : List (List UInt8)) (stream : OutputStream)
    (room : stream.data.length + values.flatten.length ≤ stream.capacity) :
    ∃ next, values.foldlM (fun stream value => stream.serialize value) stream = some next := by
  induction values generalizing stream with
  | nil => exact ⟨stream,rfl⟩
  | cons value values ih =>
    rw [List.flatten_cons,List.length_append] at room
    have fits : (stream.data ++ value).length ≤ stream.capacity := by
      rw [List.length_append]
      omega
    obtain ⟨next,written⟩ := ih ⟨stream.capacity,stream.data ++ value,fits⟩
      (by change (stream.data ++ value).length + _ ≤ stream.capacity; rw [List.length_append]; omega)
    refine ⟨next,?_⟩
    rw [List.foldlM_cons,OutputStream.serialize,dif_pos fits]
    exact written

theorem serializeAll_data (values : List (List UInt8)) (stream next : OutputStream)
    (written : values.foldlM (fun stream value => stream.serialize value) stream = some next) :
    next.data = stream.data ++ values.flatten := by
  induction values generalizing stream with
  | nil =>
    rw [← Option.some.inj written,List.flatten_nil,List.append_nil]
  | cons value values ih =>
    rw [List.foldlM_cons] at written
    cases first : stream.serialize value with
    | none =>
      rw [first] at written
      cases written
    | some middle =>
      rw [first] at written
      rw [ih middle written,(output_serialize stream middle value first).1,List.flatten_cons,
        List.append_assoc]

theorem serializeArray_whole (stream : OutputStream) (size : Nat) (count : UInt16) (memory : List UInt8)
    (whole : arrayBytes size count = memory.length) :
    stream.serializeArray size count memory = stream.serialize memory := by
  rw [OutputStream.serializeArray,if_pos (Nat.le_of_eq whole),whole,List.take_length]

theorem count_toNat (sessionIds : List UInt32) (few : sessionIds.length ≤ broadcastSessionMax) :
    (UInt16.ofNat sessionIds.length).toNat = sessionIds.length :=
  UInt16.toNat_ofNat_of_lt (Nat.lt_of_le_of_lt few (by decide))

theorem sessions_bytes (sessionIds : List UInt32) (few : sessionIds.length ≤ broadcastSessionMax) :
    arrayBytes 4 (UInt16.ofNat sessionIds.length) = (sessionMemory sessionIds).length := by
  rw [arrayBytes,count_toNat sessionIds few,sessionMemory_length,Nat.mul_comm,Nat.mod_eq_of_lt]
  exact Nat.lt_of_le_of_lt (Nat.mul_le_mul_left 4 few) (by decide)

theorem buf_bytes (packet : Packet) : arrayBytes 1 packet.len = packet.buf.length := by
  rw [arrayBytes,packet_len,Nat.mul_one,Nat.mod_eq_of_lt packet.short]

def broadcastValues (sessionIds : List UInt32) (packet : Packet) : List (List UInt8) :=
  [le 2 sessionIds.length,le 2 sessionIds.length,sessionMemory sessionIds,le 2 packet.typeId.toNat,
    le 2 packet.buf.length,le 2 packet.buf.length,packet.buf]

theorem broadcastValues_flatten (sessionIds : List UInt32) (packet : Packet) :
    (broadcastValues sessionIds packet).flatten = broadcastBytes sessionIds packet := by
  simp only [broadcastValues,List.flatten_cons,List.flatten_nil,List.append_nil,broadcastBytes]

section
variable (sessionIds : List UInt32) (packet : Packet) (few : sessionIds.length ≤ broadcastSessionMax)
include few

theorem broadcastPayload_values : broadcastPayload sessionIds packet =
    (broadcastValues sessionIds packet).foldlM (fun stream value => stream.serialize value)
      (OutputStream.new maxPeerBuffer) := by
  simp only [broadcastPayload,broadcastValues,count_toNat sessionIds few,packet_len,
    serializeArray_whole _ 4 _ _ (sessions_bytes sessionIds few),
    serializeArray_whole _ 1 _ _ (buf_bytes packet),List.foldlM_cons,List.foldlM_nil,bind_pure]

theorem broadcastPayload_room (room : (broadcastBytes sessionIds packet).length ≤ maxPeerBuffer) :
    ∃ stream, broadcastPayload sessionIds packet = some stream := by
  obtain ⟨stream,written⟩ := serializeAll_room (broadcastValues sessionIds packet)
    (OutputStream.new maxPeerBuffer)
    (by rw [broadcastValues_flatten]; exact (Nat.zero_add _).symm ▸ room)
  exact ⟨stream,(broadcastPayload_values sessionIds packet few).trans written⟩

theorem broadcastPayload_data (stream : OutputStream)
    (written : broadcastPayload sessionIds packet = some stream) :
    stream.data = broadcastBytes sessionIds packet := by
  rw [broadcastPayload_values sessionIds packet few] at written
  rw [serializeAll_data _ _ stream written,broadcastValues_flatten]
  exact List.nil_append _

end

/-- What the gate reads is what was written. -/
theorem broadcastCallback_bytes (sessionIds : List UInt32) (packet : Packet)
    (few : sessionIds.length ≤ broadcastSessionMax) :
    broadcastCallback (broadcastBytes sessionIds packet) =
      some ⟨UInt16.ofNat sessionIds.length,sessionMemory sessionIds,packet.typeId,packet.len,packet.buf⟩ := by
  have total := broadcastBytes_length sessionIds packet
  have short : (broadcastBytes sessionIds packet).length < 2^32 := by
    have bound := packet.short
    rw [broadcastSessionMax] at few
    omega
  have small : sessionIds.length < 256^2 := Nat.lt_of_le_of_lt few (by decide)
  obtain ⟨s1,read1,ahead1,_⟩ := serialize_ahead _ (le 2 sessionIds.length) _
    (new_ahead 32 (broadcastBytes sessionIds packet) short)
  obtain ⟨s2,read2,ahead2,_⟩ := serialize_ahead s1 (le 2 sessionIds.length) _ ahead1
  obtain ⟨s3,read3,ahead3,_⟩ := serialize_ahead s2 (sessionMemory sessionIds) _ ahead2
  obtain ⟨s4,read4,ahead4,_⟩ := serialize_ahead s3 (le 2 packet.typeId.toNat) _ ahead3
  obtain ⟨s5,read5,ahead5,_⟩ := serialize_ahead s4 (le 2 packet.buf.length) _ ahead4
  obtain ⟨s6,read6,ahead6,_⟩ := serialize_ahead s5 (le 2 packet.buf.length) _ ahead5
  obtain ⟨s7,read7,_⟩ := serialize_ahead s6 packet.buf [] (by rw [List.append_nil]; exact ahead6)
  rw [length_le] at read1 read2 read4 read5 read6
  rw [broadcastCallback,read1]
  simp only [Option.bind_eq_bind,Option.bind_some]
  rw [read2]
  simp only [Option.bind_some]
  rw [ofLe_le 2 _ small,sessions_bytes sessionIds few,read3]
  simp only [Option.bind_some]
  rw [read4]
  simp only [Option.bind_some]
  rw [read5]
  simp only [Option.bind_some]
  rw [read6]
  simp only [Option.bind_some]
  rw [ofLe_le 2 _ packet.short]
  change (s6.serialize (arrayBytes 1 packet.len)).bind _ = _
  rw [buf_bytes,read7]
  simp only [Option.bind_some]
  rw [ofLe_le 2 _ packet.typeId.toNat_lt,UInt16.ofNat_toNat]
  rfl

end Fantuan.ServerBase.ServerHelper
