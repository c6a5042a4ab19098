import Fantuan.Gen.Sending
import Fantuan.Lib.Run
import Fantuan.StarNet.Connections

/-! What becomes of a packet whose send is reported as a success. AsyncSend returns nothing, so that
its callers report a success wherever they call it.
-/
namespace Fantuan.ServerBase.SendResults
open Lib.Run StarNet.Packet StarNet.DataStream StarNet.Connections

/-- iLen is a uint16. -/
abbrev Data := {bytes : List UInt8 // bytes.length < 2^16}

def serverPacket (typeId : UInt16) (data : Data) : ServerPacket :=
  ⟨typeId,UInt16.ofNat data.val.length,data.val⟩

theorem serverPacket_size (typeId : UInt16) (data : Data) :
    (serverPacket typeId data).bytes.length = 4 + data.val.length :=
  serverPacket_length (serverPacket typeId data)

theorem serverPacket_inside (typeId : UInt16) (data : Data) :
    (serverPacket typeId data).bytes.length ≤ contextBuffer := by
  calc (serverPacket typeId data).bytes.length = 4 + data.val.length := serverPacket_size typeId data
    _ ≤ 4 + 2^16 := Nat.add_le_add_left (Nat.le_of_lt data.property) 4
    _ ≤ contextBuffer := by decide

def sendData (answers : Answers) (connection : Option Nat) (typeId : UInt16) (data : Data) (s : Net) :
    Int × Net :=
  match popOutputContext answers s with
  | (none,popped) => (-1,popped)
  | (some context,popped) =>
    let packet := serverPacket typeId data
    let written := write context packet.bytes (serverPacket_inside typeId data) popped
    match connection with
    | some connection => (0,asyncSend answers connection (packet.len.toNat + serverPacketHead) context written)
    | none => (0,{written with undefined := true})

def sendPacket (answers : Answers) (connection : Option Nat) (typeId : UInt16) (data : Data) (s : Net) :
    Int × Net :=
  sendData answers connection typeId data s

structure StubCall where
  types : Gen.Emitted.Types
  filter : Gen.Declaration.Filter
  filterId : UInt8
  index : Fin filter.node.length
  arguments : Gen.Call.Arguments types .ft (filter.node.get index)

def StubCall.typeId (call : StubCall) : UInt16 := UInt16.ofNat (call.filterId.toNat * 256 + call.index)

/-- What the stub has in its stream when all calls of Serialize have succeeded. -/
def StubCall.payload (call : StubCall) : Option Data :=
  match sent : Gen.Call.send call.types .ft call.filter call.index call.arguments with
  | some payload =>
    some ⟨payload,Nat.lt_of_le_of_lt
      (Gen.Sending.send_encodes call.types .ft call.filter call.index call.arguments payload sent).2.2.2
      (by decide)⟩
  | none => none

/-- The stub does not look at what SendPacket returns. -/
def StubCall.run (call : StubCall) (answers : Answers) (connection : Option Nat) (s : Net) : Int × Net :=
  match call.payload with
  | some data => (0,(sendPacket answers connection call.typeId data s).2)
  | none => (-1,s)

inductive Send where
  | sendData (connection : Option Nat) (typeId : UInt16) (data : Data)
  | stub (call : StubCall) (connection : Option Nat)
  | peer (connId : Option Nat) (filterId funcId : UInt16) (values : List (List UInt8))

def Send.run (answers : Answers) (s : Net) : Send → Int × Net
  | .sendData connection typeId data => ServerBase.SendResults.sendData answers connection typeId data s
  | .stub call connection => call.run answers connection s
  | .peer connId filterId funcId values => sendPeer answers connId filterId funcId values s

def Send.connection : Send → Option Nat
  | .sendData connection _ _ => connection
  | .stub _ connection => connection
  | .peer connId _ _ _ => connId

/-- The bytes of the packet, where a sender can build it. -/
def Send.packet : Send → Option (List UInt8)
  | .sendData _ typeId data => some (serverPacket typeId data).bytes
  | .stub call _ => call.payload.map fun data => (serverPacket call.typeId data).bytes
  | .peer _ filterId funcId values =>
    (PeerOutputStream.serializeAll ⟨none,.new maxPeerBuffer,OutputStream.new_capacity _⟩ values).map
      fun stream => (stream.peerPacket filterId funcId).bytes

/-- The context is in its pool or belongs to a send in flight. -/
def Held (s : Net) (context : Nat) : Prop :=
  context ∈ s.outputContextPool ∨ ∃ post ∈ s.inFlight, post.context = context

/-- A success means that the whole packet is in flight, and no context is lost. -/
structure Honest (send : Send) (s : Net) (result : Int) (t : Net) : Prop where
  defined : t.undefined = s.undefined
  handed : result = 0 → ∃ connection packet context, send.connection = some connection ∧
    send.packet = some packet ∧ t.inFlight = ⟨connection,context,packet⟩ :: s.inFlight
  kept : ∀ context < t.outputContextCount, Held t context ∨ context < s.outputContextCount ∧ ¬ Held s context

def Accepts (answers : Answers) (connection len : Nat) (s : Net) : Prop :=
  len ≤ maxOutputBuffer ∧ (s.connections connection).iorefs ≤ (s.connections connection).iorefmax ∧
    answers.wsaSend = true

instance (answers : Answers) (connection len : Nat) (s : Net) : Decidable (Accepts answers connection len s) :=
  inferInstanceAs (Decidable (_ ∧ _))

def Available (answers : Answers) (s : Net) : Prop := s.outputContextPool ≠ [] ∨ answers.malloc = true

def Taken (answers : Answers) (send : Send) (s : Net) : Prop :=
  ∃ connection packet, send.connection = some connection ∧ send.packet = some packet ∧
    Accepts answers connection packet.length s

/-- SendData may be without a buffer, a stub may be without a packet, and a peer without a packet or
without a connection. -/
def Sendable (answers : Answers) (s : Net) (send : Send) : Prop :=
  match send with
  | .sendData .. => Available answers s → Taken answers send s
  | .stub .. => send.packet ≠ none → Available answers s ∧ Taken answers send s
  | .peer .. =>
    Available answers s ∧ (send.packet ≠ none → send.connection ≠ none → Taken answers send s)

inductive Action where
  | send (answers : Answers) (send : Send)
  | completed (n : Nat)
  | connected (connection iorefmax : Nat)
  | asyncDisconnect (connection : Nat)
  | asyncRecv (connection : Nat)
  | received (connection : Nat)

/-- SetRefMax belongs to OnConnection, and a receive counts as a reference too. -/
def step (s : Net) : Action → Net
  | .send answers send => (send.run answers s).2
  | .completed n => StarNet.Connections.completed n s
  | .connected connection iorefmax =>
    s.connect connection fun line => {line with connected := true, iorefmax := iorefmax}
  | .asyncDisconnect connection => StarNet.Connections.asyncDisconnect connection s
  | .asyncRecv connection => s.connect connection fun line => {line with iorefs := line.iorefs + 1}
  | .received connection => s.connect connection fun line => {line with iorefs := line.iorefs - 1}

/-- The contexts of the pool are for sends, and the process has not crashed. -/
structure Sound (s : Net) : Prop where
  sends : ∀ context, (s.contexts context).operationType = .send
  defined : s.undefined = false

/-- What a context from the pool leaves behind. -/
structure Popped (context : Nat) (s t : Net) : Prop where
  sends : ∀ other, (t.contexts other).operationType = .send
  inFlight : t.inFlight = s.inFlight
  connections : t.connections = s.connections
  defined : t.undefined = s.undefined
  kept : ∀ other < t.outputContextCount,
    other = context ∨ Held t other ∨ other < s.outputContextCount ∧ ¬ Held s other

theorem update_sends (contexts : Nat → Context) (context : Nat) (data : Context)
    (sends : ∀ other, (contexts other).operationType = .send) (own : data.operationType = .send) (other : Nat) :
    (Function.update contexts context data other).operationType = .send := by
  by_cases same : other = context
  · rw [same,Function.update_self]
    exact own
  · rw [Function.update_of_ne same]
    exact sends other

section
variable (answers : Answers) (s : Net)

theorem pop_cases (sends : ∀ context, (s.contexts context).operationType = .send) :
    (¬ Available answers s ∧ popOutputContext answers s = (none,s)) ∨
      ∃ context t, Available answers s ∧ popOutputContext answers s = (some context,t) ∧ Popped context s t := by
  rw [popOutputContext]
  cases list : s.outputContextPool with
  | cons context rest =>
    refine .inr ⟨context,_,.inl (by simp [list]),rfl,sends,rfl,rfl,rfl,fun other created => ?_⟩
    by_cases held : Held s other
    · rcases held with pooled | posted
      · rw [list] at pooled
        rcases List.mem_cons.mp pooled with same | later
        · exact .inl same
        · exact .inr (.inl (.inl later))
      · exact .inr (.inl (.inr posted))
    · exact .inr (.inr ⟨created,held⟩)
  | nil =>
    dsimp only
    split
    next allocated =>
      refine .inr ⟨s.outputContextCount,_,.inr allocated,rfl,
        update_sends s.contexts _ newContext sends rfl,rfl,rfl,rfl,fun other created => ?_⟩
      rcases Nat.lt_succ_iff_lt_or_eq.mp created with before | same
      · by_cases held : Held s other
        · rcases held with pooled | posted
          · rw [list] at pooled
            cases pooled
          · exact .inr (.inl (.inr posted))
        · exact .inr (.inr ⟨before,held⟩)
      · exact .inl same
    next failed =>
      refine .inl ⟨?_,rfl⟩
      rintro (pooled | allocated)
      · exact pooled list
      · exact failed allocated

theorem push_kept (context : Nat) (t : Net) (popped : Popped context s t) :
    ∀ other < (pushOutputContext context t).outputContextCount,
      Held (pushOutputContext context t) other ∨ other < s.outputContextCount ∧ ¬ Held s other := by
  intro other created
  rcases popped.kept other created with same | held | lost
  · exact .inl (.inl (by rw [same]; exact List.mem_cons_self))
  · exact .inl (held.imp (List.mem_cons_of_mem _) id)
  · exact .inr lost

theorem asyncSend_written (connection context : Nat) (bytes : List UInt8)
    (inside : bytes.length ≤ contextBuffer) (t : Net) (popped : Popped context s t) :
    let sent := asyncSend answers connection bytes.length context (write context bytes inside t)
    sent.undefined = s.undefined ∧
      if Accepts answers connection bytes.length s then
        sent.inFlight = ⟨connection,context,bytes⟩ :: s.inFlight ∧
          ∀ other < sent.outputContextCount, Held sent other ∨ other < s.outputContextCount ∧ ¬ Held s other
      else sent.inFlight = s.inFlight := by
  intro sent
  let written := write context bytes inside t
  let ready : Net := {written with
    contexts := Function.update written.contexts context
      {written.contexts context with wsabufLen := bytes.length}}
  have filled : written.contexts context = {t.contexts context with buffer := bytes, inside := inside} :=
    Function.update_self ..
  have operation : (written.contexts context).operationType = .send := by
    rw [filled]
    exact popped.sends context
  have result : sent = if maxOutputBuffer < bytes.length then written
      else postSend answers connection context ready := by
    change asyncSend answers connection bytes.length context written = _
    rw [asyncSend,if_neg (by simp [operation])]
  have whole : (ready.contexts context).buffer.take (ready.contexts context).wsabufLen = bytes := by
    rw [show ready.contexts context = {written.contexts context with wsabufLen := bytes.length} from
      Function.update_self ..,filled]
    exact List.take_length
  have lines : ready.connections = s.connections := popped.connections
  rw [result]
  by_cases long : maxOutputBuffer < bytes.length
  · rw [if_pos long,if_neg fun accepts => absurd accepts.1 (by omega)]
    exact ⟨popped.defined,popped.inFlight⟩
  · rw [if_neg long,postSend,lines]
    dsimp only
    by_cases busy : (s.connections connection).iorefmax < (s.connections connection).iorefs
    · rw [if_pos busy,if_neg fun accepts => absurd accepts.2.1 (by omega)]
      exact ⟨popped.defined,popped.inFlight⟩
    · rw [if_neg busy]
      cases posts : answers.wsaSend with
      | false =>
        rw [if_neg (by simp),if_neg fun accepts => absurd accepts.2.2 (by simp [posts])]
        exact ⟨popped.defined,popped.inFlight⟩
      | true =>
        rw [if_pos rfl,if_pos ⟨by omega,by omega,posts⟩,whole]
        refine ⟨popped.defined,?_,fun other created => ?_⟩
        · change _ :: t.inFlight = _
          rw [popped.inFlight]
        · rcases popped.kept other created with same | held | lost
          · exact .inl (.inr ⟨_,List.mem_cons_self,same.symm⟩)
          · refine .inl (held.imp id ?_)
            rintro ⟨post,member,same⟩
            exact ⟨post,List.mem_cons_of_mem _ member,same⟩
          · exact .inr lost

theorem taken_iff (send : Send) (connection : Nat) (bytes : List UInt8)
    (has : send.connection = some connection) (built : send.packet = some bytes) :
    Taken answers send s ↔ Accepts answers connection bytes.length s := by
  rw [Taken,has,built]
  simp

theorem asyncSend_honest (send : Send) (connection context : Nat) (bytes : List UInt8)
    (inside : bytes.length ≤ contextBuffer) (t : Net) (popped : Popped context s t)
    (has : send.connection = some connection) (built : send.packet = some bytes) :
    Honest send s 0 (asyncSend answers connection bytes.length context (write context bytes inside t)) ↔
      Taken answers send s := by
  obtain ⟨defined,outcome⟩ := asyncSend_written answers s connection context bytes inside t popped
  rw [taken_iff answers s send connection bytes has built]
  split at outcome
  next accepted =>
    refine iff_of_true ⟨defined,fun _ => ?_,outcome.2⟩ accepted
    exact ⟨connection,bytes,context,has,built,outcome.1⟩
  next refused =>
    refine iff_of_false (fun honest => ?_) refused
    obtain ⟨_,_,_,-,-,posted⟩ := honest.handed rfl
    rw [outcome] at posted
    exact absurd (congrArg List.length posted) (by simp)

theorem push_honest (send : Send) (result : Int) (failed : result ≠ 0) (context : Nat) (t : Net)
    (popped : Popped context s t) : Honest send s result (pushOutputContext context t) :=
  ⟨popped.defined,fun success => absurd success failed,push_kept s context t popped⟩

theorem same_honest (send : Send) (result : Int) (failed : result ≠ 0) : Honest send s result s := by
  refine ⟨rfl,fun success => absurd success failed,fun context created => ?_⟩
  by_cases held : Held s context
  · exact .inl held
  · exact .inr ⟨created,held⟩

theorem crash_dishonest (send : Send) (result : Int) (t : Net) (sound : Sound s) (crashed : t.undefined = true) :
    ¬ Honest send s result t := by
  intro honest
  have defined := honest.defined
  rw [crashed,sound.defined] at defined
  cases defined

theorem idle_dishonest (send : Send) (t : Net) (idle : t.inFlight = s.inFlight) : ¬ Honest send s 0 t := by
  intro honest
  obtain ⟨_,_,_,-,-,posted⟩ := honest.handed rfl
  rw [idle] at posted
  exact absurd (congrArg List.length posted) (by simp)

theorem serverPacket_len (typeId : UInt16) (data : Data) :
    (serverPacket typeId data).len.toNat + serverPacketHead = (serverPacket typeId data).bytes.length := by
  have small := data.property
  rw [serverPacket_length]
  simp only [serverPacket,serverPacketHead,UInt16.toNat_ofNat']
  omega

theorem sendData_honest (send : Send) (connection : Option Nat) (typeId : UInt16) (data : Data)
    (sound : Sound s) (has : send.connection = connection)
    (built : send.packet = some (serverPacket typeId data).bytes) (available : Available answers s) :
    (sendData answers connection typeId data s).1 = 0 ∧
      (Honest send s 0 (sendData answers connection typeId data s).2 ↔ Taken answers send s) := by
  rcases pop_cases answers s sound.sends with ⟨empty,-⟩ | ⟨context,t,-,taken,popped⟩
  · exact absurd available empty
  · rw [sendData,taken]
    dsimp only
    cases connection with
    | some connection =>
      refine ⟨rfl,?_⟩
      simp only [serverPacket_len]
      exact asyncSend_honest answers s send connection context _ _ t popped has built
    | none =>
      refine ⟨rfl,iff_of_false (crash_dishonest s send 0 _ sound rfl) ?_⟩
      rintro ⟨connection,-,some,-⟩
      rw [has] at some
      cases some

theorem sendData_unavailable (connection : Option Nat) (typeId : UInt16) (data : Data) (sound : Sound s)
    (empty : ¬ Available answers s) : sendData answers connection typeId data s = (-1,s) := by
  rcases pop_cases answers s sound.sends with ⟨-,none⟩ | ⟨_,_,available,-⟩
  · rw [sendData,none]
  · exact absurd available empty

end

theorem serializeAll_packet (packet : Option Nat) (stream : PeerOutputStream) (values : List (List UInt8)) :
    {stream with packet := packet}.serializeAll values =
      (stream.serializeAll values).map fun full => {full with packet := packet} := by
  induction values generalizing stream with
  | nil => rfl
  | cons value values ih =>
    rw [PeerOutputStream.serializeAll,PeerOutputStream.serializeAll]
    split
    next next written =>
      split
      next other again =>
        obtain rfl := Option.some.inj (written.symm.trans again)
        exact ih {stream with
          stream := next
          room := (output_serialize stream.stream next value written).2.trans stream.room}
      next none =>
        rw [none] at written
        cases written
    next none =>
      split
      next other again =>
        rw [none] at again
        cases again
      · rfl

theorem sendPeer_honest (answers : Answers) (s : Net) (connId : Option Nat) (filterId funcId : UInt16)
    (values : List (List UInt8)) (sound : Sound s) :
    Honest (.peer connId filterId funcId values) s (sendPeer answers connId filterId funcId values s).1
        (sendPeer answers connId filterId funcId values s).2 ↔
      Sendable answers s (.peer connId filterId funcId values) := by
  let send : Send := .peer connId filterId funcId values
  rcases pop_cases answers s sound.sends with ⟨empty,none⟩ | ⟨context,t,available,taken,popped⟩
  · rw [sendPeer,newPeerOutputStream,none]
    exact iff_of_false (crash_dishonest s send _ _ sound rfl) fun sendable => empty sendable.1
  · have built : send.packet =
        (PeerOutputStream.serializeAll ⟨none,.new maxPeerBuffer,OutputStream.new_capacity _⟩ values).map fun stream =>
          (stream.peerPacket filterId funcId).bytes := rfl
    have full := serializeAll_packet (some context) ⟨none,.new maxPeerBuffer,OutputStream.new_capacity _⟩ values
    change PeerOutputStream.serializeAll ⟨some context,.new maxPeerBuffer,rfl⟩ values = _ at full
    rw [sendPeer,newPeerOutputStream,taken]
    dsimp only
    rw [if_neg (by simp),full]
    cases serialized : PeerOutputStream.serializeAll ⟨none,.new maxPeerBuffer,OutputStream.new_capacity _⟩ values with
    | none =>
      rw [serialized] at built
      exact iff_of_true (push_honest s send (-1) (by decide) context t popped)
        ⟨available,fun some => absurd built some⟩
    | some stream =>
      rw [serialized] at built
      cases connId with
      | none =>
        exact iff_of_true (push_honest s send (-1) (by decide) context t popped)
          ⟨available,fun _ some => absurd rfl some⟩
      | some connection =>
        have inside := peerPacket_inside stream filterId funcId
        have honest := asyncSend_honest answers s send connection context
          (stream.peerPacket filterId funcId).bytes inside t popped rfl built
        have len : peerPacketHead + stream.stream.data.length =
            (stream.peerPacket filterId funcId).bytes.length :=
          (peerPacket_length (stream.peerPacket filterId funcId)).symm
        have result : Honest send s 0 (asyncSend answers connection
            (peerPacketHead + stream.stream.data.length) context
            (write context (stream.peerPacket filterId funcId).bytes inside t)) ↔ Taken answers send s := by
          rw [len]
          exact honest
        refine result.trans ⟨fun takes => ⟨available,fun _ _ => takes⟩,fun sendable => ?_⟩
        exact sendable.2 (by rw [built]; simp) (by simp [Send.connection])

theorem send_honest (answers : Answers) (s : Net) (send : Send) (sound : Sound s) :
    Honest send s (send.run answers s).1 (send.run answers s).2 ↔ Sendable answers s send := by
  cases send with
  | sendData connection typeId data =>
    rw [Send.run,Sendable]
    by_cases available : Available answers s
    · obtain ⟨success,honest⟩ := sendData_honest answers s (.sendData connection typeId data) connection typeId
        data sound rfl rfl available
      rw [success,honest]
      exact ⟨fun takes _ => takes,fun takes => takes available⟩
    · rw [sendData_unavailable answers s connection typeId data sound available]
      exact iff_of_true (same_honest s _ (-1) (by decide)) fun some => absurd some available
  | stub call connection =>
    rw [Send.run,Sendable,StubCall.run]
    cases payload : call.payload with
    | none =>
      have unbuilt : (Send.stub call connection).packet = none := by
        rw [Send.packet,payload]
        rfl
      exact iff_of_true (same_honest s _ (-1) (by decide)) fun some => absurd unbuilt some
    | some data =>
      have built : (Send.stub call connection).packet = some (serverPacket call.typeId data).bytes := by
        rw [Send.packet,payload]
        rfl
      have some : (Send.stub call connection).packet ≠ none := by
        rw [built]
        simp
      by_cases available : Available answers s
      · refine (sendData_honest answers s (.stub call connection) connection call.typeId data sound rfl built
          available).2.trans ?_
        exact ⟨fun takes _ => ⟨available,takes⟩,fun sendable => (sendable some).2⟩
      · dsimp only
        rw [sendPacket,sendData_unavailable answers s connection call.typeId data sound available]
        exact iff_of_false (idle_dishonest s _ s rfl) fun sendable => available (sendable some).1
  | peer connId filterId funcId values => exact sendPeer_honest answers s connId filterId funcId values sound

def Sends (s : Net) : Prop := ∀ context, (s.contexts context).operationType = .send

theorem asyncSend_sends (answers : Answers) (connection len context : Nat) (s : Net) (sends : Sends s) :
    Sends (asyncSend answers connection len context s) := by
  have ready := update_sends s.contexts context {s.contexts context with wsabufLen := len} sends (sends context)
  rw [asyncSend]
  split
  · exact sends
  · split
    · exact sends
    · rw [postSend]
      dsimp only
      split
      · exact ready
      · split
        · exact ready
        · exact ready

theorem write_sends (context : Nat) (bytes : List UInt8) (inside : bytes.length ≤ contextBuffer) (s : Net)
    (sends : Sends s) : Sends (write context bytes inside s) :=
  update_sends s.contexts context _ sends (sends context)

theorem sendData_sends (answers : Answers) (connection : Option Nat) (typeId : UInt16) (data : Data) (s : Net)
    (sends : Sends s) : Sends (sendData answers connection typeId data s).2 := by
  rcases pop_cases answers s sends with ⟨-,none⟩ | ⟨context,t,-,taken,popped⟩
  · rw [sendData,none]
    exact sends
  · have written := write_sends context _ (serverPacket_inside typeId data) t popped.sends
    rw [sendData,taken]
    dsimp only
    split
    · exact asyncSend_sends answers _ _ context _ written
    · exact written

theorem send_sends (stream : PeerOutputStream) (answers : Answers) (connId : Option Nat)
    (filterId funcId : UInt16) (s : Net) (sends : Sends s) :
    Sends (stream.send answers connId filterId funcId s).2.2 := by
  rw [PeerOutputStream.send.eq_def]
  split
  · exact sends
  · exact asyncSend_sends answers _ _ _ _ (write_sends _ _ _ s sends)
  · exact sends

theorem destroy_sends (stream : PeerOutputStream) (s : Net) (sends : Sends s) : Sends (stream.destroy s) := by
  rw [PeerOutputStream.destroy]
  split
  · exact sends
  · exact sends

theorem sendPeer_sends (answers : Answers) (connId : Option Nat) (filterId funcId : UInt16)
    (values : List (List UInt8)) (s : Net) (sends : Sends s) :
    Sends (sendPeer answers connId filterId funcId values s).2 := by
  have popped : Sends (newPeerOutputStream answers s).2 := by
    rw [newPeerOutputStream]
    rcases pop_cases answers s sends with ⟨-,none⟩ | ⟨context,t,-,taken,popped⟩
    · rw [none]
      exact sends
    · rw [taken]
      exact popped.sends
  rw [sendPeer]
  dsimp only
  split
  · exact popped
  · split
    · exact destroy_sends _ _ popped
    · exact destroy_sends _ _ (send_sends _ answers connId filterId funcId _ popped)

theorem run_sends (answers : Answers) (s : Net) (send : Send) (sends : Sends s) :
    Sends (send.run answers s).2 := by
  cases send with
  | sendData connection typeId data => exact sendData_sends answers connection typeId data s sends
  | stub call connection =>
    rw [Send.run,StubCall.run]
    split
    next data _ => exact sendData_sends answers connection call.typeId data s sends
    · exact sends
  | peer connId filterId funcId values => exact sendPeer_sends answers connId filterId funcId values s sends

def StepHonest (s : Net) : Action → Prop
  | .send answers send => Honest send s (send.run answers s).1 (send.run answers s).2
  | _ => True

def StepSendable (s : Net) : Action → Prop
  | .send answers send => Sendable answers s send
  | _ => True

theorem step_sound (s : Net) (action : Action) (sound : Sound s) (sendable : StepSendable s action) :
    Sound (step s action) := by
  cases action with
  | send answers send =>
    have honest := (send_honest answers s send sound).mpr sendable
    exact ⟨run_sends answers s send sound.sends,honest.defined.trans sound.defined⟩
  | completed n =>
    rw [step,completed]
    split
    · exact ⟨sound.sends,sound.defined⟩
    · exact sound
  | _ => exact ⟨sound.sends,sound.defined⟩

/-- In a run every success that is reported means that the whole packet is in flight and no context
is lost if and only if every packet is sendable when it is sent. -/
theorem run_honest (actions : List Action) :
    Guarded step StepHonest init actions ↔ Guarded step StepSendable init actions := by
  refine guarded_congr step StepSendable StepHonest Sound step_sound ?_ init actions ⟨fun _ => rfl,rfl⟩
  intro s action sound
  cases action with
  | send answers send => exact send_honest answers s send sound
  | _ => exact Iff.rfl

/-- VersionAck with the reason 0, the first function of the login server's filter. -/
def versionAck : StubCall where
  types := ⟨fun name => if name = "int32" then some 4 else none,fun _ => none⟩
  filter := ⟨[⟨"VersionAck",[⟨"int32","iReason",""⟩]⟩]⟩
  filterId := 1
  index := ⟨0,by decide⟩
  arguments := ⟨[[0,0,0,0]],rfl,by decide⟩

def largeData : Data := ⟨List.replicate 65497 0,by rw [List.length_replicate]; decide⟩

theorem largeData_length : largeData.val.length = 65497 := List.length_replicate

/-- A stub without a buffer returns 0 and sends nothing; and SendData of 65497 bytes returns 0, and
its context is neither in flight nor back in the pool. -/
theorem run_honest_unsent :
    let stub := Send.stub versionAck (some 0)
    let large := Send.sendData (some 0) 1 largeData
    ((stub.run ⟨false,true⟩ init).1 = 0 ∧ ¬ Honest stub init 0 (stub.run ⟨false,true⟩ init).2) ∧
      (large.run ⟨true,true⟩ init).1 = 0 ∧ ¬ Honest large init 0 (large.run ⟨true,true⟩ init).2 ∧
      ¬ Held (large.run ⟨true,true⟩ init).2 0 := by
  intro stub large
  have sound : Sound init := ⟨fun _ => rfl,rfl⟩
  have length : (serverPacket 1 largeData).bytes.length = 65501 := by
    rw [serverPacket_size,largeData_length]
  obtain ⟨success,honest⟩ := sendData_honest ⟨true,true⟩ init large (some 0) 1 largeData sound rfl rfl (.inr rfl)
  refine ⟨⟨by decide +kernel,idle_dishonest init stub _ (by decide +kernel)⟩,success,?_,?_⟩
  · change ¬ Honest large init 0 (sendData ⟨true,true⟩ (some 0) 1 largeData init).2
    rw [honest,taken_iff _ _ large 0 _ rfl rfl,Accepts,length]
    decide
  · change ¬ Held (sendData ⟨true,true⟩ (some 0) 1 largeData init).2 0
    rw [sendData,show popOutputContext ⟨true,true⟩ init = (some 0,_) from rfl]
    simp only [serverPacket_len,length]
    rw [asyncSend,if_neg (by decide),if_pos (by decide),Held]
    decide

end Fantuan.ServerBase.SendResults
