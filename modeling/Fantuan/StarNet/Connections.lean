import Fantuan.StarNet.DataStream
import Mathlib.Logic.Function.Basic

/-! A pool of output contexts and the connections that send from it. A context is the number under
which it was allocated. What the allocator and WSASend answer is given with each call.
-/
namespace Fantuan.StarNet.Connections
open Packet DataStream

inductive OperationType where
  | recv | send
  deriving DecidableEq

/-- sizeof(buffer_), output_buffer_size_ and BUFEXTENT: every pool is created with MAX_OUTPUT_BUFFER. -/
def contextBuffer : Nat := (16 + 16) * 2 + maxOutputBuffer + 1024

/-- wsabufLen is the len of wsabuf_, and buffer what has been written to buffer_. -/
structure Context where
  operationType : OperationType
  wsabufLen : Nat
  buffer : List UInt8
  inside : buffer.length ≤ contextBuffer

structure Connection where
  connected : Bool
  iorefs : Nat
  iorefmax : Nat
  deriving DecidableEq

structure Post where
  connection : Nat
  context : Nat
  bytes : List UInt8
  deriving DecidableEq

/-- The last context pushed and the newest send are first; undefined is set by an access through
a null pointer. -/
structure Net where
  outputContextPool : List Nat
  outputContextCount : Nat
  contexts : Nat → Context
  connections : Nat → Connection
  inFlight : List Post
  undefined : Bool

def newContext : Context := ⟨.send,0,[],Nat.zero_le _⟩

def init : Net := ⟨[],0,fun _ => newContext,fun _ => ⟨false,0,65536⟩,[],false⟩

structure Answers where
  malloc : Bool
  wsaSend : Bool

def popOutputContext (answers : Answers) (s : Net) : Option Nat × Net :=
  match s.outputContextPool with
  | context :: rest => (some context,{s with outputContextPool := rest})
  | [] =>
    if answers.malloc then
      (some s.outputContextCount,{s with
        contexts := Function.update s.contexts s.outputContextCount newContext
        outputContextCount := s.outputContextCount + 1})
    else (none,s)

def pushOutputContext (context : Nat) (s : Net) : Net :=
  {s with outputContextPool := context :: s.outputContextPool}

def Net.connect (connection : Nat) (change : Connection → Connection) (s : Net) : Net :=
  {s with connections := Function.update s.connections connection (change (s.connections connection))}

def asyncDisconnect (connection : Nat) (s : Net) : Net :=
  s.connect connection fun line => {line with connected := false}

/-- AsyncSend of a context. -/
def postSend (answers : Answers) (connection context : Nat) (s : Net) : Net :=
  let line := s.connections connection
  if line.iorefmax < line.iorefs then asyncDisconnect connection (pushOutputContext context s)
  else
    let counted := s.connect connection fun line => {line with iorefs := line.iorefs + 1}
    let data := s.contexts context
    if answers.wsaSend then
      {counted with inFlight := ⟨connection,context,data.buffer.take data.wsabufLen⟩ :: s.inFlight}
    else
      (asyncDisconnect connection (pushOutputContext context counted)).connect connection fun line =>
        {line with iorefs := line.iorefs - 1}

/-- AsyncSend of a buffer, which is that of the context. -/
def asyncSend (answers : Answers) (connection len context : Nat) (s : Net) : Net :=
  if (s.contexts context).operationType ≠ .send then s
  else if maxOutputBuffer < len then s
  else postSend answers connection context {s with
    contexts := Function.update s.contexts context {s.contexts context with wsabufLen := len}}

/-- The packet of a sender is copied to the start of buffer_. -/
def write (context : Nat) (bytes : List UInt8) (inside : bytes.length ≤ contextBuffer) (s : Net) : Net :=
  {s with
    contexts := Function.update s.contexts context
      {s.contexts context with buffer := bytes, inside := inside}}

/-- m_pPacket is the buffer of a context; its m_iLen and m_Buf are the stream. -/
structure PeerOutputStream where
  packet : Option Nat
  stream : OutputStream
  room : stream.capacity = maxPeerBuffer

def newPeerOutputStream (answers : Answers) (s : Net) : PeerOutputStream × Net :=
  let (packet,popped) := popOutputContext answers s
  (⟨packet,.new maxPeerBuffer,OutputStream.new_capacity maxPeerBuffer⟩,popped)

def PeerOutputStream.destroy (stream : PeerOutputStream) (s : Net) : Net :=
  match stream.packet with
  | some context => pushOutputContext context s
  | none => s

/-- m_pPacket as SetId leaves it. -/
def PeerOutputStream.peerPacket (stream : PeerOutputStream) (filterId funcId : UInt16) : PeerPacket :=
  ⟨filterId,funcId,UInt32.ofNat stream.stream.data.length,stream.stream.data⟩

theorem peerPacket_inside (stream : PeerOutputStream) (filterId funcId : UInt16) :
    (stream.peerPacket filterId funcId).bytes.length ≤ contextBuffer := by
  have fits : stream.stream.data.length ≤ maxPeerBuffer := stream.room ▸ stream.stream.fits
  calc (stream.peerPacket filterId funcId).bytes.length = 8 + stream.stream.data.length :=
        peerPacket_length (stream.peerPacket filterId funcId)
    _ ≤ 8 + maxPeerBuffer := Nat.add_le_add_left fits 8
    _ ≤ contextBuffer := by decide

/-- Send to a PEER_CLIENT, which has a connection, and to a PEER_SERVER, where GetConnId may find none.
The result, m_pPacket after it, and the network. -/
def PeerOutputStream.send (stream : PeerOutputStream) (answers : Answers) (connId : Option Nat)
    (filterId funcId : UInt16) (s : Net) : Int × PeerOutputStream × Net :=
  match connId, stream.packet with
  | none, _ => (-1,stream,s)
  | some connection, some context =>
    (0,{stream with packet := none},
      asyncSend answers connection (peerPacketHead + stream.stream.data.length) context
        (write context (stream.peerPacket filterId funcId).bytes (peerPacket_inside ..) s))
  | some _, none => (0,stream,{s with undefined := true})

/-- The values that a sender serializes; the first one that does not fit ends it. -/
def PeerOutputStream.serializeAll (stream : PeerOutputStream) : List (List UInt8) → Option PeerOutputStream
  | [] => some stream
  | value :: values =>
    match written : stream.stream.serialize value with
    | some next =>
      {stream with
        stream := next
        room := (output_serialize stream.stream next value written).2.trans stream.room}.serializeAll values
    | none => none

/-- A packet for a peer, from the constructor of its stream to the destructor. Without a buffer the
stream is used all the same. -/
def sendPeer (answers : Answers) (connId : Option Nat) (filterId funcId : UInt16)
    (values : List (List UInt8)) (s : Net) : Int × Net :=
  let (stream,taken) := newPeerOutputStream answers s
  if stream.packet.isNone then (-1,{taken with undefined := true})
  else match stream.serializeAll values with
    | none => (-1,stream.destroy taken)
    | some full =>
      let (result,left,sent) := full.send answers connId filterId funcId taken
      (result,left.destroy sent)

/-- The worker takes the n-th send that is in flight from the completion port. -/
def completed (n : Nat) (s : Net) : Net :=
  match s.inFlight[n]? with
  | some post =>
    (pushOutputContext post.context {s with inFlight := s.inFlight.eraseIdx n}).connect post.connection
      fun line => {line with iorefs := line.iorefs - 1}
  | none => s

end Fantuan.StarNet.Connections
