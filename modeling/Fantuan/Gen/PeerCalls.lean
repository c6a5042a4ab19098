import Fantuan.Gen.Dispatching
import Fantuan.Gen.RoundTrip
import Fantuan.StarNet.Peer

/-! Calls of the Send stubs that PRGen emits, made over one connection, and what they are at the other
end: the handlers are called through the tables with whatever the callbacks read out of the packets.
-/
namespace Fantuan.Gen.PeerCalls
open StarNet.Packet StarNet.Dispatch StarNet.Peer
open StarNet.RecvLoop hiding receive Fits
open StarNet.RecvStream (fitsAll_whole)
open Declaration Emitted Generator Call Receiving RoundTrip Dispatching

/-- A call of a stub of which all calls of Serialize have succeeded. -/
structure PeerCall (types : Types) where
  table : Table
  index : Fin table.filter.node.length
  arguments : Arguments types .pr (table.filter.node.get index)
  payload : List UInt8
  sent : send types .pr table.filter index arguments = some payload

variable {types : Types}

theorem PeerCall.fits (call : PeerCall types) : call.payload.length ≤ maxPeerBuffer :=
  (Sending.send_encodes types .pr call.table.filter call.index call.arguments call.payload call.sent).2.2.2

-- stream.SetId(filterId, index)
def PeerCall.message (call : PeerCall types) : PeerMessage where
  filterId := UInt16.ofNat call.table.filterId
  funcId := UInt16.ofNat call.index
  payload := call.payload
  fits := call.fits

/-- What a dispatch comes to. The function at a place of a table is the callback of the filter that was
registered there last. -/
def reached (types : Types) (language : Language) (tables : List Table) (filterId funcId : Nat) :
    Dispatched Callback → Received
  | .refused => .stopped .refused
  | .undefined => .stopped .undefined
  | .called _ payload =>
    match lastFilter language tables filterId with
    | some filter =>
      if inside : funcId < filter.node.length then receive types language filter ⟨funcId,inside⟩ payload
      else .stopped .undefined
    | none => .stopped .undefined

def answer (types : Types) (tables : List Table) (packet : PeerPacket) : Received :=
  reached types .pr tables packet.filterId.toNat packet.funcId.toNat
    (peerClientReceived tables packet.filterId packet.funcId packet.buf)

/-- PeerClient::Dispatch, which returns what the callback returns. -/
def dispatch (types : Types) (tables : List Table) (packet : PeerPacket) : Bool :=
  match answer types tables packet with
  | .called _ => true
  | .stopped _ => false

/-- The packets that Dispatch got, each with what became of it. -/
def answers (types : Types) (tables : List Table) (run : Run PeerPacket) : List (PeerPacket × Received) :=
  (calls run.actions).map fun call => (call.1,answer types tables call.1)

/-- All calls of OnPeerData return, and the handlers were called for these packets with the arguments of
the stubs' calls, in this order and no others. -/
def Handles (tables : List Table) (run : Nat → Run PeerPacket) (peerCalls : List (PeerCall types)) : Prop :=
  ∃ fuel rest, (run fuel).exit = .returned rest ∧ answers types tables (run fuel) =
    peerCalls.map fun call => (call.message.packet,.called (call.arguments.values.map some))

/-- The full length fits sixteen bits, the tables are inside the array, the callbacks compile and every
argument is carried. -/
def Served (tables : List Table) (call : PeerCall types) : Prop :=
  peerPacketHead + call.payload.length < 2^16 ∧
    (∀ table ∈ tables, table.index .pr < dispatchFilterMax) ∧ CallbacksCompile .pr call.table.filter ∧
    ∀ binding ∈ call.arguments.bindings, Carried .pr binding.1 binding.2

theorem lastFilter_listed (language : Language) (tables : List Table)
    (distinct : (tables.map (Table.index language)).Nodup) (table : Table) (listed : table ∈ tables) :
    lastFilter language tables (table.index language) = some table.filter := by
  have reversed : (tables.reverse.map (Table.index language)).Nodup := by
    rw [List.map_reverse]
    exact List.nodup_reverse.mpr distinct
  have found := Lib.Table.find_listed (Table.index language) tables.reverse reversed table
    (List.mem_reverse.mpr listed)
  simp only [lastFilter,beq_eq_decide]
  rw [found,Option.map_some]

theorem index_dispatch (language : Language) (filter : Filter) (index : Fin filter.node.length)
    (small : filter.node.length < 2^16) (payload : List UInt8) :
    (dispatchFilter language filter).dispatch index payload =
      .called (callback language (filter.node.get index)) payload := by
  have count : (dispatchFilter language filter).funcCount.toNat = filter.node.length + 1 := by
    rw [dispatchFilter,funcTable_length,UInt32.toNat_ofNat']
    exact Nat.mod_eq_of_lt (by omega)
  have inside := index.isLt
  have found : (dispatchFilter language filter).func[index.val]? =
      some (some (callback language (filter.node.get index))) := by
    change ((generateRecvCpp language filter).map some ++ [none])[index.val]? = _
    rw [generateRecvCpp,List.getElem?_append_left (by rwa [List.length_map,List.length_map])]
    simp
  rw [DispatchFilter.dispatch,count,if_neg (by omega),found]

section Calls
variable (tables : List Table) (distinct : (tables.map (Table.index .pr)).Nodup)
  (small : ∀ table ∈ tables, table.filter.node.length < 2^16)

theorem receive_carried (call : PeerCall types) :
    receive types .pr call.table.filter call.index call.payload =
        .called (call.arguments.values.map some) ↔
      CallbacksCompile .pr call.table.filter ∧
        ∀ binding ∈ call.arguments.bindings, Carried .pr binding.1 binding.2 := by
  obtain ⟨stubs,names,encoded,short⟩ :=
    Sending.send_encodes types .pr call.table.filter call.index call.arguments call.payload call.sent
  have carries := callback_carries call.arguments names call.payload short encoded
  rw [← callbacks_compile .pr call.table.filter stubs,← carries,receive]
  by_cases compile : RecvCompiles (generateRecvCpp .pr call.table.filter)
  · rw [if_pos compile]
    cases ran : (callback .pr (call.table.filter.node.get call.index)).run types call.payload with
    | error stop => simp
    | ok state => simp [compile]
  · simp [compile]

include distinct small

theorem answer_receives (call : PeerCall types) (listed : call.table ∈ tables)
    (inside : ∀ table ∈ tables, table.index .pr < dispatchFilterMax) :
    answer types tables call.message.packet =
      receive types .pr call.table.filter call.index call.payload := by
  have filterId : call.message.packet.filterId.toNat = call.table.index .pr := UInt16.toNat_ofNat'
  have funcId : call.message.packet.funcId.toNat = call.index := by
    have bound := small call.table listed
    have index := call.index.isLt
    change (UInt16.ofNat call.index).toNat = call.index
    rw [UInt16.toNat_ofNat']
    exact Nat.mod_eq_of_lt (by omega)
  have last := lastFilter_listed .pr tables distinct call.table listed
  obtain ⟨all,filters⟩ := register_filters .pr tables
  obtain ⟨array,started⟩ := all.mpr inside
  have found := filters array started (call.table.index .pr) (inside call.table listed)
  have called : peerClientReceived tables call.message.packet.filterId call.message.packet.funcId
      call.message.packet.buf =
        .called (callback .pr (call.table.filter.node.get call.index)) call.payload := by
    rw [peerClientReceived,started,registered,peerDispatch,DispatchFilterArray.dispatch,filterId,funcId,
      found,last]
    exact index_dispatch .pr call.table.filter call.index (small call.table listed) call.payload
  rw [answer,called,reached,filterId,last]
  simp only [funcId,dif_pos call.index.isLt]

/-- A table outside the array leaves none of the calls an answer. -/
theorem answer_called (call : PeerCall types) (listed : call.table ∈ tables) :
    answer types tables call.message.packet = .called (call.arguments.values.map some) ↔
      (∀ table ∈ tables, table.index .pr < dispatchFilterMax) ∧ CallbacksCompile .pr call.table.filter ∧
        ∀ binding ∈ call.arguments.bindings, Carried .pr binding.1 binding.2 := by
  by_cases inside : ∀ table ∈ tables, table.index .pr < dispatchFilterMax
  · rw [answer_receives tables distinct small call listed inside,receive_carried]
    exact (and_iff_right inside).symm
  · have none : register .pr tables = none := by
      by_contra some
      exact inside ((register_filters .pr tables).1.mp (Option.ne_none_iff_exists'.mp some))
    have stopped : answer types tables call.message.packet = .stopped .undefined := by
      rw [answer,peerClientReceived,none,registered,reached]
    rw [stopped]
    exact iff_of_false (by simp) (fun served => inside served.1)

end Calls

theorem calls_dispatch (tables : List Table) (run : Run PeerPacket)
    (logged : ∀ action ∈ run.actions,
      StarNet.RecvChunks.Logged (peerLoop (dispatch types tables)) run.exit action) :
    calls run.actions = (answers types tables run).map fun entry => (entry.1,dispatch types tables entry.1) := by
  obtain ⟨actions,exit⟩ := run
  rw [answers,List.map_map]
  change calls actions = (calls actions).map _
  induction actions with
  | nil => rfl
  | cons action actions ih =>
    have rest := ih fun other member => logged other (List.mem_cons_of_mem action member)
    cases action with
    | copy => exact rest
    | handle packet payload buffered accepted =>
      obtain ⟨-,-,-,-,-,-,same⟩ := logged _ (List.mem_cons_self ..)
      obtain rfl : accepted = dispatch types tables packet := same
      rw [calls,List.map_cons]
      exact congrArg _ rest

theorem answers_called (tables : List Table) (run : Run PeerPacket) (peerCalls : List (PeerCall types))
    (handled : answers types tables run =
      peerCalls.map fun call => (call.message.packet,.called (call.arguments.values.map some))) :
    ∀ call ∈ peerCalls,
      answer types tables call.message.packet = .called (call.arguments.values.map some) := by
  intro call member
  have listed : (call.message.packet,Received.called (call.arguments.values.map some)) ∈
      answers types tables run := by
    rw [handled]
    exact List.mem_map_of_mem member
  obtain ⟨entry,-,same⟩ := List.mem_map.mp listed
  obtain ⟨packet,same⟩ := Prod.mk.inj same
  rwa [packet] at same

theorem called_dispatch (tables : List Table) (call : PeerCall types)
    (answered : answer types tables call.message.packet = .called (call.arguments.values.map some)) :
    dispatch types tables call.message.packet = true := by
  rw [dispatch,answered]

section Streams
variable (tables : List Table) (peerCalls : List (PeerCall types)) (chunks : List PeerChunk)
  (run : Nat → Run PeerPacket)
  (runs : ∀ fuel, run fuel = feed (peerLoop (dispatch types tables)) fuel [] (chunks.map Subtype.val))
include runs

theorem handles_dispatches (handles : Handles tables run peerCalls) :
    Dispatches run (peerCalls.map PeerCall.message) ∧ ∀ call ∈ peerCalls,
      answer types tables call.message.packet = .called (call.arguments.values.map some) := by
  obtain ⟨fuel,rest,returned,handled⟩ := handles
  have answered := answers_called tables _ peerCalls handled
  have logged := StarNet.RecvChunks.feed_logged (peerLoop (dispatch types tables)) fuel [] (chunks.map Subtype.val)
  rw [← runs] at logged
  have results := calls_dispatch tables (run fuel) logged
  rw [handled,List.map_map] at results
  refine ⟨⟨fuel,rest,returned,?_,?_⟩,answered⟩
  · intro offset length available member
    exact logged _ member (by rw [returned]; simp)
  · rw [results,List.map_map]
    refine List.map_congr_left fun call member => ?_
    exact congrArg (Prod.mk _) (called_dispatch tables call (answered call member))

omit runs in
theorem dispatches_handles (dispatches : Dispatches run (peerCalls.map PeerCall.message))
    (answered : ∀ call ∈ peerCalls,
      answer types tables call.message.packet = .called (call.arguments.values.map some)) :
    Handles tables run peerCalls := by
  obtain ⟨fuel,rest,returned,-,handed⟩ := dispatches
  refine ⟨fuel,rest,returned,?_⟩
  rw [answers,handed,List.map_map,List.map_map]
  exact List.map_congr_left fun call member => congrArg (Prod.mk _) (answered call member)

end Streams

/-- The calls are made at the other end with their arguments, in their order and once each, if and only
if every copy of the cut fits and every call is served. -/
theorem peerCalls_handled_iff (tables : List Table) (distinct : (tables.map (Table.index .pr)).Nodup)
    (small : ∀ table ∈ tables, table.filter.node.length < 2^16) (peerCalls : List (PeerCall types))
    (listed : ∀ call ∈ peerCalls, call.table ∈ tables) (chunks : List PeerChunk)
    (cut : received chunks = stream (peerCalls.map PeerCall.message)) :
    Handles tables
        (fun fuel => PeerClient.onConnection.onPeerDatas (dispatch types tables) fuel chunks) peerCalls ↔
      FitsAll peerFormat maxPeerBuffer [] (chunks.map Subtype.val) ∧
        ∀ call ∈ peerCalls, Served tables call := by
  have runs (fuel : Nat) := peerClient_feed (dispatch types tables) fuel PeerClient.onConnection rfl chunks
  have called (call : PeerCall types) (member : call ∈ peerCalls) :=
    answer_called tables distinct small call (listed call member)
  constructor
  · intro handles
    obtain ⟨dispatched,answered⟩ := handles_dispatches tables peerCalls chunks _ runs handles
    obtain ⟨fits,short,-⟩ := dispatches_sound (dispatch types tables) _ _ chunks cut runs dispatched
    refine ⟨fits,fun call member => ⟨?_,(called call member).mp (answered call member)⟩⟩
    exact short call.message (List.mem_map_of_mem member)
  · rintro ⟨fits,served⟩
    have answered (call : PeerCall types) (member : call ∈ peerCalls) :=
      (called call member).mpr (served call member).2
    refine dispatches_handles tables peerCalls _ ?_ answered
    refine sound_dispatches (dispatch types tables) _ _ chunks cut runs ⟨fits,?_,?_⟩
    · rw [List.forall_mem_map]
      exact fun call member => (served call member).1
    · rw [List.forall_mem_map]
      exact fun call member => called_dispatch tables call (answered call member)

/-- The types of the parameters of SessionPeer. -/
def numbers : Types where
  sizeOf := fun name => [("char",1),("uint8",1),("uint16",2),("uint32",4)].lookup name
  toInt := fun name => if name = "uint16" then some fun bytes => Lib.Bytes.ofLe bytes else none

def sessionPeer : Filter :=
  ⟨[⟨"PacketForward",
      [⟨"uint32","iSessionId",""⟩,⟨"uint16","iTypeId",""⟩,⟨"uint16","iLen",""⟩,⟨"char","pBuf","iLen"⟩]⟩,
    ⟨"OnSessionDisconnect",[⟨"uint32","iSessionId",""⟩]⟩,
    ⟨"Disconnect",[⟨"uint32","iSessionid",""⟩,⟨"uint8","iReason",""⟩]⟩,
    ⟨"SendData",
      [⟨"uint32","iSessionId",""⟩,⟨"uint16","iTypeId",""⟩,⟨"uint16","iLen",""⟩,⟨"char","pBuf","iLen"⟩]⟩]⟩

def sessionTable : Table := ⟨0,sessionPeer⟩

def packetForwardIndex : Fin sessionTable.filter.node.length :=
  ⟨0,by decide⟩

def forwardCall : PeerCall numbers :=
  ⟨sessionTable,packetForwardIndex,⟨[[7,0,0,0],[1,2],[2,0],[5,6]],rfl,by decide⟩,
    [7,0,0,0,1,2,2,0,2,0,5,6],by decide⟩

def disconnectCall : PeerCall numbers :=
  ⟨sessionTable,⟨1,by decide⟩,⟨[[7,0,0,0]],rfl,by decide⟩,[7,0,0,0],by decide⟩

theorem sessionCalls_served : ∀ call ∈ [forwardCall,disconnectCall], Served [sessionTable] call := by
  rw [List.forall_mem_cons,List.forall_mem_singleton]
  exact ⟨⟨by decide,by decide,by decide,by decide⟩,by decide,by decide,by decide,by decide⟩

/-- A packet that is forwarded, and the end of its session, in chunks that cut both heads. -/
theorem peerCalls_handled_session :
    Handles [sessionTable] (fun fuel => PeerClient.onConnection.onPeerDatas
      (dispatch numbers [sessionTable]) fuel
        [⟨[0,0,0,0,12,0],by decide⟩,⟨[0,0,7,0,0,0,1,2,2,0,2,0,5,6,0,0,1],by decide⟩,
          ⟨[0,4,0,0,0,7,0,0,0],by decide⟩]) [forwardCall,disconnectCall] :=
  (peerCalls_handled_iff [sessionTable] (by decide) (by decide) [forwardCall,disconnectCall]
    (by rw [List.forall_mem_cons,List.forall_mem_singleton]; exact ⟨List.mem_cons_self,List.mem_cons_self⟩)
    _ (by decide)).mpr ⟨fitsAll_whole _ _ _ _ (by decide),sessionCalls_served⟩

end Fantuan.Gen.PeerCalls
