import Fantuan.GateServer.GateSessionRecv
import Fantuan.Gen.PeerCalls
import Fantuan.Lib.Run
import Mathlib.Data.List.Monad

/-! The gate between its clients and the servers behind it. A handler of a client's packet does nothing but
hand the packet on with SessionPeerSend::PacketForward, as it was saved by DelaySendData; the server behind
pushes a command for it, and dispatches what the command carries through its own tables.
-/
namespace Fantuan.GateServer.Relays
open Lib.Bytes Lib.Frames Lib.Run StarNet.Packet StarNet.RecvStream StarNet.Dispatch StarNet.Peer
open StarNet.RecvLoop hiding receive
open Gen.Declaration Gen.Emitted Gen.Generator Gen.Dispatching Gen.PeerCalls
open Gen.Call hiding Fits
open ServerBase.SessionRecv GateSessionRecv

def gateClient : Filter :=
  ⟨[⟨"AvatarListReq",[]⟩,⟨"AvatarCreateReq",[⟨"AvatarCreateData","data",""⟩]⟩,
    ⟨"AvatarSelectReq",[⟨"string","strAvatarName",""⟩]⟩,
    ⟨"ChannelSelectReq",[⟨"string","strChannelName",""⟩]⟩,⟨"ChannelLeaveReq",[]⟩]⟩

def regionClient : Filter :=
  ⟨[⟨"ClientTimeReq",[⟨"uint32","iClientTime",""⟩]⟩,⟨"RegionChatReq",[⟨"string","strMessage",""⟩]⟩]⟩

-- CLIENT_FILTER_GATE and CLIENT_FILTER_REGION
def gateTable : Table := ⟨2,gateClient⟩

def regionTable : Table := ⟨4,regionClient⟩

def gateTables : List Table := [gateTable,regionTable]

inductive Server where
  | master
  | region (id : UInt8)
  deriving DecidableEq

/-- The handlers of GateClient forward to g_pServer->m_pMasterServer, those of RegionClient to the session's
m_pRegionServer; none is NULL. -/
def serverOf (regionServer : Option UInt8) (filterId : UInt8) : Option Server :=
  if filterId.toNat = gateTable.filterId then some .master else regionServer.map .region

def packetAnswer (types : Types) (tables : List Table) (typeId : UInt16) (payload : List UInt8) : Received :=
  reached types .ft tables (filterOf typeId).toNat (funcOf typeId).toNat
    (packetReceived tables typeId payload)

/-- PacketForward, the first function of SessionPeer. -/
def forwardNode : Node := sessionPeer.node.get ⟨0,by decide⟩

/-- SessionPeerSend::PacketForward with the session's id and what DelaySendData has saved. none: the stub
returns -1, or DelaySendData has copied from outside the packet. -/
def packetForward (types : Types) (sessionId : UInt32) (packet : ServerPacket) : Option PeerMessage := do
  let delay ← delaySendData packet
  let payload ← (sendStub .pr forwardNode).run types
    [le 4 sessionId.toNat,le 2 delay.delayTypeId.toNat,le 2 delay.delayLen.toNat,delay.delayBuf]
  if fits : payload.length ≤ maxPeerBuffer then some ⟨0,0,payload,fits⟩ else none

abbrev Sent := List (Server × PeerMessage)

/-- GateSession::HandlePacket: the callback calls the handler, which forwards, or it returns false, which
nobody looks at. none: undefined. -/
def handleClientPacket (types : Types) (regionServer : Option UInt8) (sessionId : UInt32)
    (packet : ServerPacket) : Option Sent :=
  match packetAnswer types gateTables packet.typeId packet.buf with
  | .called _ => do
    let server ← serverOf regionServer (filterOf packet.typeId)
    let message ← packetForward types sessionId packet
    some [(server,message)]
  | .stopped .refused => some []
  | .stopped _ => none

def handleClientPackets (types : Types) (regionServer : Option UInt8) (sessionId : UInt32) :
    List ServerPacket → Option Sent
  | [] => some []
  | packet :: packets => do
    let first ← handleClientPacket types regionServer sessionId packet
    let others ← handleClientPackets types regionServer sessionId packets
    some (first ++ others)

structure Gate where
  sessions : UInt32 → Session
  regionServer : UInt32 → Option UInt8

inductive Event where
  -- COMMAND_ONDATA of a session
  | onData (sessionId : UInt32) (chunk : Chunk)
  -- GateSession::OnRegionBindReq, with a server that GetPeerServer knows
  | onRegionBindReq (sessionId : UInt32) (regionServerId : UInt8)
  -- whatever else the gate sends
  | send (server : Server) (message : PeerMessage)

/-- none: the event does not return, or does what is undefined. -/
def step (types : Types) (login : Login) (fuel : Nat) (g : Gate) : Event → Option (Gate × Sent)
  | .onData sessionId chunk =>
    let (session,run) := onData login fuel (g.sessions sessionId) chunk.val
    match run.exit with
    | .returned left => do
      let sent ← handleClientPackets types (g.regionServer sessionId) sessionId
        ((calls run.actions).map Prod.fst)
      some ({g with sessions :=
        Function.update g.sessions sessionId {session with recvBuf := left}},sent)
    | _ => none
  | .onRegionBindReq sessionId regionServerId =>
    some ({g with regionServer :=
      Function.update g.regionServer sessionId (some regionServerId)},[])
  | .send server message => some (g,[(server,message)])

def gateRun (types : Types) (login : Login) (fuel : Nat) : Gate → List Event → Option Sent
  | _, [] => some []
  | g, event :: events => do
    let (next,sent) ← step types login fuel g event
    let later ← gateRun types login fuel next events
    some (sent ++ later)

def toServer (server : Server) (sent : Sent) : List PeerMessage :=
  (sent.filter fun entry => entry.1 == server).map Prod.snd

structure Command where
  sessionId : UInt32
  typeId : UInt16
  data : List UInt8
  deriving DecidableEq

/-- SessionPeerRecv::PacketForward pushes a command with a copy of the payload. -/
def packetForwardCommand : Received → Option Command
  | .called [some sessionId,some typeId,some len,some buf] =>
    some ⟨UInt32.ofNat (ofLe sessionId),UInt16.ofNat (ofLe typeId),buf.take (ofLe len)⟩
  | _ => none

/-- The commands that a run of the server's OnPeerData pushes for PacketForward. -/
def commands (types : Types) (tables : List Table) (run : Run PeerPacket) : List Command :=
  (answers types tables run).filterMap fun entry =>
    if entry.1.filterId = 0 ∧ entry.1.funcId = 0 then packetForwardCommand entry.2 else none

/-- How far the packets of the sessions have come, and where those of regions go. -/
structure Streams where
  unfinished : UInt32 → List UInt8
  regionServer : UInt32 → Option UInt8

def Streams.next (s : Streams) : Event → Streams
  | .onData sessionId chunk =>
    let left := tail serverFormat (s.unfinished sessionId ++ chunk.val)
    {s with unfinished := Function.update s.unfinished sessionId left}
  | .onRegionBindReq sessionId regionServerId =>
    {s with regionServer := Function.update s.regionServer sessionId (some regionServerId)}
  | .send _ _ => s

def completed (s : Streams) (sessionId : UInt32) (chunk : Chunk) : List ServerPacket :=
  (frames serverFormat (s.unfinished sessionId ++ chunk.val)).map readServerPacket

/-- A client's packet for a server, with the arguments that the gate's callback has read out of it. -/
structure Delivery where
  server : Server
  sessionId : UInt32
  packet : ServerPacket
  args : List (Option (List UInt8))

def delivery (types : Types) (regionServer : Option UInt8) (sessionId : UInt32) (packet : ServerPacket) :
    Option Delivery :=
  match packetAnswer types gateTables packet.typeId packet.buf with
  | .called args => (serverOf regionServer (filterOf packet.typeId)).map fun server =>
    ⟨server,sessionId,packet,args⟩
  | .stopped _ => none

inductive Output where
  | relayed (delivery : Delivery)
  | other (server : Server) (message : PeerMessage)

def outputs (types : Types) (s : Streams) : Event → List Output
  | .onData sessionId chunk =>
    (completed s sessionId chunk).filterMap fun packet =>
      (delivery types (s.regionServer sessionId) sessionId packet).map .relayed
  | .onRegionBindReq _ _ => []
  | .send server message => [.other server message]

def allOutputs (types : Types) : Streams → List Event → List Output
  | _, [] => []
  | s, event :: events => outputs types s event ++ allOutputs types (s.next event) events

/-- What is to reach a server of the clients' packets: each once, in the order in which they are completed. -/
def deliveries (types : Types) (server : Server) (s : Streams) (events : List Event) : List Delivery :=
  (allOutputs types s events).filterMap fun
    | .relayed delivery => if delivery.server = server then some delivery else none
    | .other _ _ => none

/-- A callback that is called finds a server to forward to, and one that is not has refused its payload. -/
def Forwardable (types : Types) (regionServer : Option UInt8) (packet : ServerPacket) : Prop :=
  match packetAnswer types gateTables packet.typeId packet.buf with
  | .called _ => (serverOf regionServer (filterOf packet.typeId)).isSome = true
  | .stopped stop => stop = .refused

/-- The copies of the chunk fit, the heads it shows are short, and nothing else of the gate is a
PacketForward. -/
def Relayable (types : Types) (s : Streams) : Event → Prop
  | .onData sessionId chunk =>
    Fits serverFormat maxInputBuffer (s.unfinished sessionId) chunk.val ∧
      Heads serverFormat Short (s.unfinished sessionId ++ chunk.val) ∧
      ∀ packet ∈ completed s sessionId chunk, Forwardable types (s.regionServer sessionId) packet
  | .onRegionBindReq _ _ => True
  | .send _ message => ¬ (message.filterId = 0 ∧ message.funcId = 0)

/-- The sessions take packets, and hold what is unfinished. -/
structure Simulates (g : Gate) (s : Streams) : Prop where
  loggedIn : ∀ sessionId, LoggedIn (g.sessions sessionId)
  held : ∀ sessionId, (s.unfinished sessionId).length ≤ maxInputBuffer
  buffers : ∀ sessionId, (g.sessions sessionId).recvBuf = s.unfinished sessionId
  regions : g.regionServer = s.regionServer

/-- The tables of the process behind: those of its peers, and those of the packets it is forwarded. -/
structure Backend where
  peerTables : List Table
  packetTables : List Table

/-- The filter of the clients' packets that go to the server. -/
def Server.table : Server → Table
  | .master => gateTable
  | .region _ => regionTable

structure Serves (server : Server) (back : Backend) : Prop where
  session : sessionTable ∈ back.peerTables
  distinct : (back.peerTables.map (Table.index .pr)).Nodup
  small : ∀ table ∈ back.peerTables, table.filter.node.length < 2^16
  peersInside : ∀ table ∈ back.peerTables, table.index .pr < dispatchFilterMax
  packetsInside : ∀ table ∈ back.packetTables, table.index .ft < dispatchFilterMax
  handles : lastFilter .ft back.packetTables (server.table.index .ft) = some server.table.filter

/-- The sizes of the types of PacketForward's parameters. -/
structure Numbers (types : Types) : Prop where
  char : types.sizeOf "char" = some 1
  uint16 : types.sizeOf "uint16" = some 2
  uint32 : types.sizeOf "uint32" = some 4
  number : types.toInt "uint16" = some fun bytes => (ofLe bytes : Int)

theorem forwardNode_body : (sendStub .pr forwardNode).body =
    [.serialize "iSessionId",.serialize "iTypeId",.serialize "iLen",.assignLength "pBuf" "iLen",
      .serializeLength "pBuf",.serializeArray "pBuf"] := by
  rfl

theorem forwardNode_params : (sendStub .pr forwardNode).params =
    [⟨.value,"uint32","iSessionId"⟩,⟨.value,"uint16","iTypeId"⟩,⟨.value,"uint16","iLen"⟩,
      ⟨.pointer,"char","pBuf"⟩] := by
  rfl

def forwardValues (sessionId : UInt32) (packet : ServerPacket) : List (List UInt8) :=
  [le 4 sessionId.toNat,le 2 packet.typeId.toNat,le 2 packet.len.toNat,packet.buf]

def forwardPayload (sessionId : UInt32) (packet : ServerPacket) : List UInt8 :=
  le 4 sessionId.toNat ++ (le 2 packet.typeId.toNat ++ (le 2 packet.len.toNat ++
    (le 2 packet.len.toNat ++ packet.buf)))

theorem forwardPayload_length (sessionId : UInt32) (packet : ServerPacket) :
    (forwardPayload sessionId packet).length = 10 + packet.buf.length := by
  simp only [forwardPayload,List.length_append,length_le]
  omega

/-- A packet that is as long as its head says, and that m_RecvBuf holds. -/
structure Buffered (packet : ServerPacket) : Prop where
  whole : packet.Whole
  room : packet.buf.length ≤ maxInputBuffer

section Stubs
variable (types : Types) (numbers : Numbers types) (sessionId : UInt32) (packet : ServerPacket)
  (buffered : Buffered packet)
include numbers buffered

theorem forwardStub_run : (sendStub .pr forwardNode).run types (forwardValues sessionId packet) =
    some (forwardPayload sessionId packet) := by
  have length : UInt16.ofInt (packet.len.toNat : Int) = packet.len := by
    apply UInt16.toNat_inj.mp
    rw [Gen.Sending.ofInt_toNat]
    exact Nat.mod_eq_of_lt packet.len.toNat_lt
  have count : ofLe (le 2 packet.len.toNat) = packet.len.toNat := ofLe_le 2 _ packet.len.toNat_lt
  have capacity : (sendStub .pr forwardNode).capacity = 65536 := rfl
  have whole := buffered.whole
  have room := buffered.room
  have inside : packet.len.toNat ≤ packet.buf.length := Nat.le_of_eq whole.symm
  have fits : 10 + packet.len.toNat ≤ 65536 := by
    simp only [ServerPacket.Whole,maxInputBuffer] at whole room
    omega
  have all : packet.buf.take packet.len.toNat = packet.buf := List.take_of_length_le (Nat.le_of_eq whole)
  rw [SendStub.run,forwardNode_body,forwardNode_params,forwardValues,forwardPayload]
  simp [sendStatement,Frame.find,Decl.toInt,Decl.pointedSize,numbers.number,numbers.char,count,length,
    StarNet.DataStream.OutputStream.serialize,StarNet.DataStream.OutputStream.serializeArray,
    StarNet.DataStream.OutputStream.new,StarNet.DataStream.arrayBytes,SendState.write,capacity,inside,fits,all]

theorem forward_fits : ∀ binding ∈ forwardNode.paramSet.zip (forwardValues sessionId packet),
    Gen.Call.Fits types .pr (forwardNode.paramSet.zip (forwardValues sessionId packet)) binding.1
      binding.2 := by
  have count : ofLe (le 2 packet.len.toNat) = packet.len.toNat := ofLe_le 2 _ packet.len.toNat_lt
  have whole : packet.buf.length = packet.len.toNat := buffered.whole
  have natural : (packet.len.toNat : Int).toNat? = some packet.len.toNat := rfl
  simp [forwardNode,sessionPeer,forwardValues,Gen.Call.Fits,Param.kind,arrayLength,countOf,typeName,
    isUserDefinedType,numberTypes,numbers.char,numbers.uint16,numbers.uint32,numbers.number,count,
    whole,natural]

end Stubs

section Forwards
variable (types : Types) (numbers : Numbers types) (sessionId : UInt32) (packet : ServerPacket)
  (buffered : Buffered packet)

def forwardArguments : Arguments types .pr forwardNode :=
  ⟨forwardValues sessionId packet,rfl,forward_fits types numbers sessionId packet buffered⟩

theorem forward_sent : send types .pr sessionPeer ⟨0,by decide⟩
    (forwardArguments types numbers sessionId packet buffered) = some (forwardPayload sessionId packet) := by
  have compiles : SendCompiles (generateSendCpp .pr sessionPeer) := by decide
  unfold send
  rw [if_pos compiles]
  exact forwardStub_run types numbers sessionId packet buffered

def forwardCallOf : PeerCall types :=
  ⟨sessionTable,packetForwardIndex,forwardArguments types numbers sessionId packet buffered,
    forwardPayload sessionId packet,forward_sent types numbers sessionId packet buffered⟩

include numbers buffered

/-- DelaySendData and the stub take every buffered packet. -/
theorem packetForward_message : packetForward types sessionId packet =
    some (forwardCallOf types numbers sessionId packet buffered).message := by
  have whole : packet.buf.length = packet.len.toNat := buffered.whole
  have room := buffered.room
  have saved : delaySendData packet = some ⟨packet.typeId,packet.len,packet.buf⟩ := by
    rw [delaySendData,if_pos ⟨Nat.le_of_eq whole.symm,by omega⟩,List.take_of_length_le (by omega)]
  have fits : (forwardPayload sessionId packet).length ≤ maxPeerBuffer :=
    (forwardCallOf types numbers sessionId packet buffered).fits
  have stub := forwardStub_run types numbers sessionId packet buffered
  rw [forwardValues] at stub
  rw [packetForward,saved]
  simp only [Option.bind_eq_bind,Option.bind_some,stub]
  rw [dif_pos fits]
  rfl

theorem forward_carried : ∀ binding ∈ (forwardArguments types numbers sessionId packet buffered).bindings,
    Gen.Receiving.Carried .pr binding.1 binding.2 := by
  have room := buffered.room
  simp only [maxInputBuffer] at room
  simp [Arguments.bindings,forwardArguments,forwardNode,sessionPeer,forwardValues,Gen.Receiving.Carried]
  omega

theorem forward_answer (tables : List Table) (listed : sessionTable ∈ tables)
    (distinct : (tables.map (Table.index .pr)).Nodup)
    (small : ∀ table ∈ tables, table.filter.node.length < 2^16)
    (inside : ∀ table ∈ tables, table.index .pr < dispatchFilterMax) :
    answer types tables (forwardCallOf types numbers sessionId packet buffered).message.packet =
      .called ((forwardValues sessionId packet).map some) := by
  refine (answer_called tables distinct small _ listed).mpr ⟨inside,?_,?_⟩
  · change Gen.RoundTrip.CallbacksCompile .pr sessionPeer
    decide
  · exact forward_carried types numbers sessionId packet buffered

omit numbers in
theorem forward_command : packetForwardCommand (.called ((forwardValues sessionId packet).map some)) =
    some ⟨sessionId,packet.typeId,packet.buf⟩ := by
  have whole : packet.buf.length = packet.len.toNat := buffered.whole
  have id : ofLe (le 4 sessionId.toNat) = sessionId.toNat := ofLe_le 4 _ sessionId.toNat_lt
  have typeId : ofLe (le 2 packet.typeId.toNat) = packet.typeId.toNat := ofLe_le 2 _ packet.typeId.toNat_lt
  have length : ofLe (le 2 packet.len.toNat) = packet.len.toNat := ofLe_le 2 _ packet.len.toNat_lt
  have all : packet.buf.take packet.len.toNat = packet.buf := List.take_of_length_le (Nat.le_of_eq whole)
  simp only [forwardValues,List.map_cons,List.map_nil,packetForwardCommand,id,typeId,length,all,
    UInt32.ofNat_toNat,UInt16.ofNat_toNat]

end Forwards

section Answers
variable (types : Types) (tables others : List Table) (typeId : UInt16) (payload : List UInt8)

theorem packetAnswer_agrees (inside : ∀ table ∈ tables, table.index .ft < dispatchFilterMax)
    (othersInside : ∀ table ∈ others, table.index .ft < dispatchFilterMax)
    (same : lastFilter .ft tables (filterOf typeId).toNat = lastFilter .ft others (filterOf typeId).toNat) :
    packetAnswer types tables typeId payload = packetAnswer types others typeId payload := by
  obtain ⟨all,filters⟩ := register_filters .ft tables
  obtain ⟨otherAll,otherFilters⟩ := register_filters .ft others
  obtain ⟨array,started⟩ := all.mpr inside
  obtain ⟨other,otherStarted⟩ := otherAll.mpr othersInside
  have found : array.getFilter (filterOf typeId).toNat = other.getFilter (filterOf typeId).toNat := by
    by_cases here : (filterOf typeId).toNat < dispatchFilterMax
    · rw [filters array started _ here,otherFilters other otherStarted _ here,same]
    · have outside (array : DispatchFilterArray Callback) :
          array.getFilter (filterOf typeId).toNat = none := by
        by_contra some
        exact here ((getFilter_inside array _).mp (Option.ne_none_iff_exists'.mp some))
      rw [outside array,outside other]
  have dispatched : packetReceived tables typeId payload = packetReceived others typeId payload := by
    rw [packetReceived,packetReceived,started,otherStarted,registered,registered,onPacketReceived,
      onPacketReceived,DispatchFilterArray.dispatch,DispatchFilterArray.dispatch,found]
  rw [packetAnswer,packetAnswer,dispatched]
  unfold reached
  rw [same]

theorem called_table (args : List (Option (List UInt8)))
    (called : packetAnswer types gateTables typeId payload = .called args) :
    (filterOf typeId).toNat = 2 ∨ (filterOf typeId).toNat = 4 := by
  cases last : lastFilter .ft gateTables (filterOf typeId).toNat with
  | none =>
    rw [packetAnswer] at called
    unfold reached at called
    rw [last] at called
    split at called <;> cases called
  | some filter =>
    rw [lastFilter] at last
    simp [gateTables,gateTable,regionTable,Table.index] at last
    omega

end Answers

theorem calls_member (actions : List (Action ServerPacket)) (packet : ServerPacket) (accepted : Bool)
    (member : (packet,accepted) ∈ calls actions) :
    ∃ payload buffered, Action.handle packet payload buffered accepted ∈ actions := by
  induction actions with
  | nil => cases member
  | cons action actions ih =>
    cases action with
    | copy =>
      obtain ⟨payload,buffered,later⟩ := ih member
      exact ⟨payload,buffered,List.mem_cons_of_mem _ later⟩
    | handle =>
      rcases List.mem_cons.mp member with same | later
      · cases same
        exact ⟨_,_,List.mem_cons_self⟩
      · obtain ⟨payload,buffered,later⟩ := ih later
        exact ⟨payload,buffered,List.mem_cons_of_mem _ later⟩

theorem handled_buffered (run : Run ServerPacket) (good : AllGood packetLoop run.actions)
    (logged : ∀ action ∈ run.actions, StarNet.RecvChunks.Logged packetLoop run.exit action) :
    ∀ packet ∈ (calls run.actions).map Prod.fst, Buffered packet := by
  intro packet member
  obtain ⟨⟨packet,accepted⟩,listed,rfl⟩ := List.mem_map.mp member
  obtain ⟨payload,buffered,handled⟩ := calls_member run.actions packet accepted listed
  have inside := (good _ handled).1
  obtain ⟨buf,-,held,rfl,rfl,rfl,-⟩ := logged _ handled
  have inside : 4 + field 2 2 buf ≤ buf.length := inside
  have held : buf.length ≤ 1024 := held
  have bound := field_lt 2 2 buf
  change Buffered (readServerPacket buf)
  constructor
  · simp only [ServerPacket.Whole,readServerPacket,serverPacketHead,List.length_take,List.length_drop,
      UInt16.toNat_ofNat']
    omega
  · simp only [readServerPacket,serverPacketHead,maxInputBuffer,List.length_take,List.length_drop]
    omega

structure Completes (left : List UInt8) (packets : List ServerPacket) (run : Run ServerPacket) : Prop where
  returned : run.exit = .returned left
  handled : (calls run.actions).map Prod.fst = packets
  held : left.length ≤ maxInputBuffer
  buffered : ∀ packet ∈ packets, Buffered packet

theorem receive_completes (buf : List UInt8) (held : buf.length ≤ maxInputBuffer) (chunk : Chunk)
    (fits : Fits serverFormat maxInputBuffer buf chunk.val)
    (short : Heads serverFormat Short (buf ++ chunk.val)) (fuel : Nat)
    (enough : buf.length + 2 * chunk.val.length + 1 < fuel) :
    Completes (tail serverFormat (buf ++ chunk.val)) ((frames serverFormat (buf ++ chunk.val)).map readServerPacket)
      (StarNet.RecvLoop.receive packetLoop fuel buf chunk.val) := by
  have wide : chunk.val.length < 2^packetLoop.lenBits := chunk.property
  have accepted : Accepted packetLoop (buf ++ chunk.val) := fun _ _ => rfl
  have near : Heads packetLoop.format (StarNet.RecvStream.Near packetLoop) (buf ++ chunk.val) :=
    ⟨fun frame _ => size_near frame,fun _ => size_near _⟩
  obtain ⟨returned,handed⟩ :=
    StarNet.RecvChunks.receive_delivers packetLoop fuel buf chunk.val held wide fits short accepted enough
  have good :=
    StarNet.RecvChunks.receive_good packetLoop fuel buf chunk.val held wide fits short accepted
  have logged := StarNet.RecvChunks.receive_logged packetLoop fuel buf chunk.val
  obtain ⟨-,-,-,-,room⟩ :=
    StarNet.RecvChunks.receive_short packetLoop fuel buf chunk.val _ held wide near returned good
  have packets : (calls (StarNet.RecvLoop.receive packetLoop fuel buf chunk.val).actions).map Prod.fst =
      (frames serverFormat (buf ++ chunk.val)).map readServerPacket := by
    rw [handed,delivered,List.map_map]
    rfl
  refine ⟨returned,packets,room,?_⟩
  rw [← packets]
  exact handled_buffered _ good logged

/-- What a relayed packet is, and that nothing else is a PacketForward. -/
def Output.Sound (types : Types) : Output → Prop
  | .relayed delivery => Buffered delivery.packet ∧
      packetAnswer types gateTables delivery.packet.typeId delivery.packet.buf = .called delivery.args ∧
      (filterOf delivery.packet.typeId).toNat = delivery.server.table.index .ft
  | .other _ message => ¬ (message.filterId = 0 ∧ message.funcId = 0)

def Output.emit (types : Types) : Output → Option (Server × PeerMessage)
  | .relayed delivery =>
    (packetForward types delivery.sessionId delivery.packet).map (Prod.mk delivery.server)
  | .other server message => some (server,message)

def Emits (types : Types) (outputs : List Output) (sent : Sent) : Prop :=
  outputs.mapM (Output.emit types) = some sent ∧ ∀ output ∈ outputs, output.Sound types

theorem emits_append (types : Types) (first second : List Output) (sent later : Sent)
    (emits : Emits types first sent) (others : Emits types second later) :
    Emits types (first ++ second) (sent ++ later) := by
  refine ⟨?_,?_⟩
  · rw [List.mapM_append,emits.1,others.1]
    rfl
  · intro output member
    rcases List.mem_append.mp member with here | there
    · exact emits.2 output here
    · exact others.2 output there

section Steps
variable (types : Types) (numbers : Numbers types)
include numbers

omit numbers in
theorem serverOf_table (regionServer : Option UInt8) (typeId : UInt16) (payload : List UInt8)
    (args : List (Option (List UInt8))) (server : Server)
    (called : packetAnswer types gateTables typeId payload = .called args)
    (target : serverOf regionServer (filterOf typeId) = some server) :
    (filterOf typeId).toNat = server.table.index .ft := by
  rcases called_table types typeId payload args called with gate | region
  · rw [serverOf,gate,if_pos (show 2 = gateTable.filterId from rfl)] at target
    obtain rfl := Option.some.inj target
    exact gate
  · rw [serverOf,region,if_neg (by decide)] at target
    obtain ⟨id,-,rfl⟩ := Option.map_eq_some_iff.mp target
    exact region

theorem handle_emits (regionServer : Option UInt8) (sessionId : UInt32) (packet : ServerPacket)
    (buffered : Buffered packet) (forwardable : Forwardable types regionServer packet) :
    ∃ sent, handleClientPacket types regionServer sessionId packet = some sent ∧
      Emits types ((delivery types regionServer sessionId packet).map Output.relayed).toList sent := by
  rw [Forwardable] at forwardable
  rw [handleClientPacket,delivery]
  cases called : packetAnswer types gateTables packet.typeId packet.buf with
  | called args =>
    rw [called] at forwardable
    obtain ⟨server,target⟩ := Option.isSome_iff_exists.mp forwardable
    have message := packetForward_message types numbers sessionId packet buffered
    simp only [target,message,Option.map_some,Option.toList_some,Option.bind_eq_bind,Option.bind_some]
    refine ⟨_,rfl,?_,?_⟩
    · rw [List.mapM_cons,Output.emit,message]
      rfl
    · rw [List.forall_mem_singleton]
      exact ⟨buffered,called,serverOf_table types regionServer _ _ args server called target⟩
  | stopped stop =>
    rw [called] at forwardable
    obtain rfl : stop = .refused := forwardable
    exact ⟨[],rfl,rfl,by simp⟩

theorem handles_emit (regionServer : Option UInt8) (sessionId : UInt32) (packets : List ServerPacket)
    (buffered : ∀ packet ∈ packets, Buffered packet)
    (forwardable : ∀ packet ∈ packets, Forwardable types regionServer packet) :
    ∃ sent, handleClientPackets types regionServer sessionId packets = some sent ∧
      Emits types (packets.filterMap fun packet =>
        (delivery types regionServer sessionId packet).map .relayed) sent := by
  induction packets with
  | nil => exact ⟨[],rfl,rfl,by simp⟩
  | cons packet packets ih =>
    obtain ⟨here,others⟩ := List.forall_mem_cons.mp buffered
    obtain ⟨first,rest⟩ := List.forall_mem_cons.mp forwardable
    obtain ⟨sent,handled,emits⟩ := handle_emits types numbers regionServer sessionId packet here first
    obtain ⟨later,handledLater,emitsLater⟩ := ih others rest
    refine ⟨sent ++ later,?_,?_⟩
    · rw [handleClientPackets,handled,handledLater]
      rfl
    · have joined := emits_append types _ _ _ _ emits emitsLater
      cases made : delivery types regionServer sessionId packet with
      | none =>
        rw [made] at joined
        rwa [List.filterMap_cons_none (by rw [made]; rfl)]
      | some delivery =>
        rw [made] at joined
        rwa [List.filterMap_cons_some (by rw [made]; rfl)]

variable (login : Login)

/-- Bytes enough for any chunk of these events. -/
def steps : List Event → Nat
  | [] => 0
  | .onData _ chunk :: events => 2 * chunk.val.length + steps events
  | _ :: events => steps events

omit numbers in
theorem simulates_data (g : Gate) (s : Streams) (simulates : Simulates g s) (sessionId : UInt32) (chunk : Chunk)
    (room : (tail serverFormat (s.unfinished sessionId ++ chunk.val)).length ≤ maxInputBuffer) :
    Simulates {g with sessions := Function.update g.sessions sessionId {g.sessions sessionId with
      recvBuf := tail serverFormat (s.unfinished sessionId ++ chunk.val)}}
      (s.next (.onData sessionId chunk)) := by
  constructor
  · intro other
    by_cases same : other = sessionId
    · subst same
      simp only [Function.update_self]
      exact simulates.loggedIn other
    · simpa only [Function.update_of_ne same] using simulates.loggedIn other
  · intro other
    by_cases same : other = sessionId
    · subst same
      simpa only [Streams.next,Function.update_self] using room
    · simpa only [Streams.next,Function.update_of_ne same] using simulates.held other
  · intro other
    by_cases same : other = sessionId
    · subst same
      simp only [Streams.next,Function.update_self]
    · simpa only [Streams.next,Function.update_of_ne same] using simulates.buffers other
  · exact simulates.regions

theorem step_emits (g : Gate) (s : Streams) (simulates : Simulates g s) (event : Event)
    (relayable : Relayable types s event) (fuel : Nat) (enough : maxInputBuffer + steps [event] + 1 < fuel) :
    ∃ next sent, step types login fuel g event = some (next,sent) ∧ Simulates next (s.next event) ∧
      Emits types (outputs types s event) sent := by
  cases event with
  | onData sessionId chunk =>
    obtain ⟨fits,short,forwardable⟩ := relayable
    have held := simulates.held sessionId
    have loggedIn := simulates.loggedIn sessionId
    simp only [steps] at enough
    obtain ⟨returned,handled,room,buffered⟩ := receive_completes (s.unfinished sessionId) held chunk fits short
      fuel (by omega)
    have run : onData login fuel (g.sessions sessionId) chunk.val = (g.sessions sessionId,
        StarNet.RecvLoop.receive packetLoop fuel (s.unfinished sessionId) chunk.val) := by
      rw [onData,if_neg (not_not_intro loggedIn.1),if_neg loggedIn.2,simulates.buffers]
    obtain ⟨sent,handles,emits⟩ :=
      handles_emit types numbers (s.regionServer sessionId) sessionId _ buffered forwardable
    refine ⟨_,sent,?_,simulates_data g s simulates sessionId chunk room,emits⟩
    rw [step,run]
    simp only [returned,handled,simulates.regions,handles,Option.bind_eq_bind,Option.bind_some]
  | onRegionBindReq sessionId regionServerId =>
    refine ⟨_,[],rfl,?_,rfl,by simp [outputs]⟩
    refine ⟨simulates.loggedIn,simulates.held,simulates.buffers,?_⟩
    simp only [Streams.next,simulates.regions]
  | send server message =>
    refine ⟨g,_,rfl,simulates,rfl,?_⟩
    rw [outputs,List.forall_mem_singleton]
    exact relayable

omit numbers in
theorem steps_cons (event : Event) (events : List Event) :
    steps (event :: events) = steps [event] + steps events := by
  cases event <;> simp [steps]

theorem gateRun_emits (g : Gate) (s : Streams) (simulates : Simulates g s) (events : List Event)
    (relayable : Guarded Streams.next (Relayable types) s events) (fuel : Nat)
    (enough : maxInputBuffer + steps events + 1 < fuel) :
    ∃ sent, gateRun types login fuel g events = some sent ∧ Emits types (allOutputs types s events) sent := by
  induction events generalizing g s with
  | nil => exact ⟨[],rfl,rfl,by simp [allOutputs]⟩
  | cons event events ih =>
    obtain ⟨here,later⟩ := relayable
    rw [steps_cons] at enough
    obtain ⟨next,sent,stepped,kept,emits⟩ :=
      step_emits types numbers login g s simulates event here fuel (by omega)
    obtain ⟨rest,ran,others⟩ := ih next (s.next event) kept later (by omega)
    refine ⟨sent ++ rest,?_,emits_append types _ _ _ _ emits others⟩
    rw [gateRun,stepped]
    simp only [Option.bind_eq_bind,Option.bind_some,ran]

end Steps

def Delivery.command (delivery : Delivery) : Command :=
  ⟨delivery.sessionId,delivery.packet.typeId,delivery.packet.buf⟩

def Output.deliveryTo (server : Server) : Output → Option Delivery
  | .relayed delivery => if delivery.server = server then some delivery else none
  | .other _ _ => none

/-- What is sent besides the clients' packets is taken by the server, and short. -/
def OthersTaken (types : Types) (tables : List Table) (server : Server) (outputs : List Output) : Prop :=
  ∀ message, .other server message ∈ outputs →
    peerPacketHead + message.payload.length < 2^16 ∧ dispatch types tables message.packet = true

section Servers
variable (types : Types) (numbers : Numbers types) (server : Server) (back : Backend)
  (serves : Serves server back)
include numbers serves

/-- Each message for the server is taken, and pushes the command of its packet if it is a client's. -/
theorem output_taken (output : Output) (sound : output.Sound types) (entry : Server × PeerMessage)
    (emitted : output.emit types = some entry) (here : entry.1 = server)
    (others : ∀ message, output = .other server message →
      peerPacketHead + message.payload.length < 2^16 ∧ dispatch types back.peerTables message.packet = true) :
    peerPacketHead + entry.2.payload.length < 2^16 ∧
      dispatch types back.peerTables entry.2.packet = true ∧
      (if entry.2.packet.filterId = 0 ∧ entry.2.packet.funcId = 0 then
        packetForwardCommand (answer types back.peerTables entry.2.packet) else none) =
        (output.deliveryTo server).map Delivery.command := by
  cases output with
  | relayed delivery =>
    obtain ⟨buffered,-,-⟩ := sound
    rw [Output.emit,packetForward_message types numbers delivery.sessionId delivery.packet buffered,
      Option.map_some] at emitted
    obtain rfl := Option.some.inj emitted
    have answered := forward_answer types numbers delivery.sessionId delivery.packet buffered back.peerTables
      serves.session serves.distinct serves.small serves.peersInside
    have length : (forwardCallOf types numbers delivery.sessionId delivery.packet buffered).message.payload.length =
        10 + delivery.packet.buf.length := forwardPayload_length delivery.sessionId delivery.packet
    have room := buffered.room
    simp only [maxInputBuffer] at room
    refine ⟨?_,?_,?_⟩
    · rw [length,peerPacketHead]
      omega
    · rw [dispatch,answered]
    · rw [if_pos ⟨rfl,rfl⟩,answered,forward_command delivery.sessionId delivery.packet buffered,
        Output.deliveryTo,if_pos here]
      rfl
  | other target message =>
    obtain rfl := Option.some.inj emitted
    obtain rfl : target = server := here
    obtain ⟨short,taken⟩ := others message rfl
    exact ⟨short,taken,if_neg sound⟩

omit numbers serves in
theorem emit_server (output : Output) (entry : Server × PeerMessage)
    (emitted : output.emit types = some entry) (away : entry.1 ≠ server) : output.deliveryTo server = none := by
  cases output with
  | relayed delivery =>
    obtain ⟨message,-,rfl⟩ := Option.map_eq_some_iff.mp emitted
    exact if_neg away
  | other => rfl

/-- What is sent to the server is taken there, and pushes the commands of the clients' packets. -/
theorem sent_taken (outputs : List Output) (sent : Sent) (emits : Emits types outputs sent)
    (others : OthersTaken types back.peerTables server outputs) :
    (∀ message ∈ toServer server sent, peerPacketHead + message.payload.length < 2^16 ∧
      dispatch types back.peerTables message.packet = true) ∧
    ((toServer server sent).filterMap fun message =>
      if message.packet.filterId = 0 ∧ message.packet.funcId = 0 then
        packetForwardCommand (answer types back.peerTables message.packet) else none) =
      (outputs.filterMap (Output.deliveryTo server)).map Delivery.command := by
  induction outputs generalizing sent with
  | nil =>
    obtain rfl := Option.some.inj emits.1
    simp [toServer]
  | cons output outputs ih =>
    obtain ⟨emitted,sound⟩ := emits
    obtain ⟨here,later⟩ := List.forall_mem_cons.mp sound
    rw [List.mapM_cons] at emitted
    obtain ⟨entry,first,emitted⟩ := Option.bind_eq_some_iff.mp emitted
    obtain ⟨rest,emittedRest,same⟩ := Option.bind_eq_some_iff.mp emitted
    obtain rfl := Option.some.inj same
    obtain ⟨taken,pushed⟩ := ih rest ⟨emittedRest,later⟩ fun message member =>
      others message (List.mem_cons_of_mem output member)
    by_cases addressed : entry.1 = server
    · have listed : toServer server (entry :: rest) = entry.2 :: toServer server rest := by
        simp [toServer,addressed]
      obtain ⟨short,dispatched,command⟩ := output_taken types numbers server back serves output here entry
        first addressed fun message same => others message (same ▸ List.mem_cons_self)
      rw [listed]
      refine ⟨List.forall_mem_cons.mpr ⟨⟨short,dispatched⟩,taken⟩,?_⟩
      rw [List.filterMap_cons,command,List.filterMap_cons]
      cases output.deliveryTo server with
      | none => exact pushed
      | some delivery => simp only [Option.map_some,List.map_cons,pushed]
    · have listed : toServer server (entry :: rest) = toServer server rest := by
        simp [toServer,addressed]
      rw [listed,List.filterMap_cons_none (emit_server types server output entry first addressed)]
      exact ⟨taken,pushed⟩

end Servers

theorem deliveries_outputs (types : Types) (server : Server) (s : Streams) (events : List Event) :
    (allOutputs types s events).filterMap (Output.deliveryTo server) = deliveries types server s events := by
  rw [deliveries]
  refine List.filterMap_congr fun output _ => ?_
  cases output <;> rfl

theorem sent_listed (types : Types) (server : Server) (message : PeerMessage) (s : Streams) (events : List Event)
    (member : .other server message ∈ allOutputs types s events) : .send server message ∈ events := by
  induction events generalizing s with
  | nil => cases member
  | cons event events ih =>
    rcases List.mem_append.mp member with here | later
    · cases event with
      | onData sessionId chunk =>
        obtain ⟨packet,-,made⟩ := List.mem_filterMap.mp here
        obtain ⟨delivery,-,same⟩ := Option.map_eq_some_iff.mp made
        cases same
      | onRegionBindReq => cases here
      | send =>
        cases List.mem_singleton.mp here
        exact List.mem_cons_self
    · exact List.mem_cons_of_mem event (ih _ later)

theorem delivery_sound (types : Types) (server : Server) (s : Streams) (events : List Event)
    (sound : ∀ output ∈ allOutputs types s events, output.Sound types) :
    ∀ delivery ∈ deliveries types server s events, delivery.server = server ∧
      (Output.relayed delivery).Sound types := by
  intro delivery member
  rw [← deliveries_outputs] at member
  obtain ⟨output,listed,made⟩ := List.mem_filterMap.mp member
  cases output with
  | relayed found =>
    rw [Output.deliveryTo] at made
    split at made
    next here =>
      obtain rfl := Option.some.inj made
      exact ⟨here,sound _ listed⟩
    next => cases made
  | other => cases made

/-- What is sent to the server, in any chunks that fit: OnPeerData returns, the commands it pushes for
PacketForward are those of the clients' packets for this server, in the order in which the gate received
their last bytes, and the handlers are called with what the gate's callbacks have read. -/
def Delivers (types : Types) (s : Streams) (events : List Event) (sent : Sent) (server : Server)
    (back : Backend) : Prop :=
  ∀ chunks : List PeerChunk,
    StarNet.RecvLoop.received chunks = StarNet.Peer.stream (toServer server sent) →
    FitsAll peerFormat maxPeerBuffer [] (chunks.map Subtype.val) →
    ∃ fuel rest, (PeerClient.onConnection.onPeerDatas (dispatch types back.peerTables) fuel chunks).exit =
        .returned rest ∧
      commands types back.peerTables
          (PeerClient.onConnection.onPeerDatas (dispatch types back.peerTables) fuel chunks) =
        (deliveries types server s events).map Delivery.command ∧
      ∀ delivery ∈ deliveries types server s events,
        packetAnswer types back.packetTables delivery.packet.typeId delivery.packet.buf =
          .called delivery.args

/-- The clients' packets reach the servers behind the gate, whatever chunks come in for whichever sessions
and whatever else is sent between them. -/
theorem gateRun_relays (types : Types) (numbers : Numbers types) (login : Login) (g : Gate) (s : Streams)
    (simulates : Simulates g s) (events : List Event)
    (relayable : Guarded Streams.next (Relayable types) s events) :
    ∃ fuel sent, gateRun types login fuel g events = some sent ∧
      ∀ (server : Server) (back : Backend), Serves server back →
        (∀ message, .send server message ∈ events → peerPacketHead + message.payload.length < 2^16 ∧
          dispatch types back.peerTables message.packet = true) →
        Delivers types s events sent server back := by
  obtain ⟨sent,ran,emits⟩ := gateRun_emits types numbers login g s simulates events relayable
    (maxInputBuffer + steps events + 2) (Nat.lt_succ_self _)
  refine ⟨_,sent,ran,fun server back serves others chunks cut fits => ?_⟩
  obtain ⟨taken,pushed⟩ := sent_taken types numbers server back serves (allOutputs types s events) sent emits
    fun message member => others message (sent_listed types server message s events member)
  have runs (fuel : Nat) :=
    peerClient_feed (dispatch types back.peerTables) fuel PeerClient.onConnection rfl chunks
  obtain ⟨fuel,rest,returned,-,handed⟩ := sound_dispatches (dispatch types back.peerTables) _ _ chunks cut runs
    ⟨fits,fun message member => (taken message member).1,fun message member => (taken message member).2⟩
  refine ⟨fuel,rest,returned,?_,?_⟩
  · rw [commands,answers,handed,List.map_map,List.filterMap_map,← deliveries_outputs,← pushed]
    rfl
  · intro delivery member
    obtain ⟨rfl,-,called,filter⟩ := delivery_sound types server s events emits.2 delivery member
    rw [← called]
    refine packetAnswer_agrees types back.packetTables gateTables _ _ serves.packetsInside (by decide) ?_
    rw [filter,serves.handles]
    cases delivery.server <;> rfl

def listRequest : Chunk := ⟨[0,2,0,0],by decide⟩

theorem listRequest_frame : IsFrame serverFormat listRequest.val := ⟨by decide,by decide⟩

theorem listRequest_frames : frames serverFormat listRequest.val = [listRequest.val] := by
  have framed := frames_flatten serverFormat [listRequest.val] (by
    rw [List.forall_mem_singleton]
    exact listRequest_frame)
  rwa [List.flatten_singleton] at framed

theorem listRequest_tail : tail serverFormat listRequest.val = [] := by
  have none := tail_flatten serverFormat [listRequest.val] (by
    rw [List.forall_mem_singleton]
    exact listRequest_frame)
  rwa [List.flatten_singleton] at none

def emptyStreams : Streams := ⟨fun _ => [],fun _ => none⟩

theorem listRequest_relayable (sessionId : UInt32) :
    Relayable numbers emptyStreams (.onData sessionId listRequest) := by
  have answered : packetAnswer numbers gateTables 0x0200 [] = .called [] := by decide
  have size : size serverFormat listRequest.val = 4 := by decide
  refine ⟨fits_whole serverFormat maxInputBuffer [] listRequest.val (by decide),⟨?_,?_⟩,?_⟩
  · change ∀ frame ∈ frames serverFormat listRequest.val, _
    rw [listRequest_frames,List.forall_mem_singleton,size]
    exact (by decide : 4 < 2^16)
  · change serverFormat.head ≤ (tail serverFormat listRequest.val).length → _
    rw [listRequest_tail]
    exact fun enough => absurd enough (by decide)
  · have packets : completed emptyStreams sessionId listRequest = [⟨0x0200,0,[]⟩] := by
      change (frames serverFormat listRequest.val).map readServerPacket = _
      rw [listRequest_frames]
      decide
    rw [packets,List.forall_mem_singleton,Forwardable,answered]
    rfl

theorem listRequest_next (sessionId : UInt32) :
    emptyStreams.next (.onData sessionId listRequest) = emptyStreams := by
  have left : tail serverFormat (emptyStreams.unfinished sessionId ++ listRequest.val) = [] :=
    listRequest_tail
  have same : Function.update emptyStreams.unfinished sessionId [] = emptyStreams.unfinished :=
    Function.update_eq_self sessionId emptyStreams.unfinished
  simp only [Streams.next,left,same]

def listEvents : List Event :=
  [.onData 7 listRequest,.send .master disconnectCall.message,.onData 9 listRequest]

theorem listEvents_relayable : Guarded Streams.next (Relayable numbers) emptyStreams listEvents := by
  have other : ¬ (disconnectCall.message.filterId = 0 ∧ disconnectCall.message.funcId = 0) := by decide
  refine ⟨listRequest_relayable 7,?_⟩
  rw [listRequest_next]
  exact ⟨other,listRequest_relayable 9,trivial⟩

def idleGate : Gate := ⟨fun _ => ⟨4,id,[]⟩,fun _ => none⟩

def unusedLogin : Login := fun session _ => (session,⟨[],.running⟩)

def masterBack : Backend := ⟨[sessionTable],[gateTable]⟩

theorem masterBack_serves : Serves .master masterBack where
  session := List.mem_cons_self
  distinct := by decide
  small := by decide
  peersInside := by decide
  packetsInside := by decide
  handles := by rfl

theorem idleGate_simulates : Simulates idleGate emptyStreams where
  loggedIn := fun _ => ⟨rfl,by change (4 : Int) ≠ 1; decide⟩
  held := fun _ => Nat.zero_le _
  buffers := fun _ => rfl
  regions := rfl

/-- The requests of two clients for their avatars, with the end of a session between them. -/
theorem gateRun_relays_lists :
    ∃ fuel sent, gateRun numbers unusedLogin fuel idleGate listEvents = some sent ∧
      Delivers numbers emptyStreams listEvents sent .master masterBack := by
  obtain ⟨fuel,sent,ran,delivers⟩ := gateRun_relays numbers ⟨rfl,rfl,rfl,rfl⟩ unusedLogin idleGate emptyStreams
    idleGate_simulates listEvents listEvents_relayable
  refine ⟨fuel,sent,ran,delivers .master masterBack masterBack_serves ?_⟩
  intro message member
  have only : message = disconnectCall.message := by simpa [listEvents] using member
  rw [only]
  exact ⟨by decide,by decide⟩

end Fantuan.GateServer.Relays
