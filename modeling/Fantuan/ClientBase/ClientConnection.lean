import Fantuan.StarNet.RecvChunks
import Fantuan.StarNet.Packet

/-! ClientBase: the login on a connection and the packets it cuts out of the received bytes. The ciphers
of openssl are parameters. A received buffer is the list of its first m_iRecvBufLen bytes.
-/
namespace Fantuan.ClientBase.ClientConnection
open Lib.Bytes Lib.Frames StarNet.Packet StarNet.RecvLoop

def maxOutputBuffer := 65500
def maxTokenLen := 512

def desBlock := 8

/-- setKeyChecked refuses a key that is weak or has a wrong parity. -/
structure Des (Schedule : Type) where
  blank : Schedule
  setKey : List UInt8 → Schedule
  setKeyChecked : List UInt8 → Option Schedule
  decrypt : Schedule → List UInt8 → List UInt8

/-- The public key: RSA_size and RSA_public_encrypt, which may fail. Its padding is random: a call is
told apart by how many bytes are left to be sent. -/
structure PublicKey where
  size : Nat
  encrypt : Nat → List UInt8 → Option (List UInt8)

inductive ConnectState where
  | notConnect | connecting | connected | connectFailed | disconnected | destroying | loggedIn
  deriving DecidableEq

/-- tokenBuf has its first m_iTokenLen bytes, the terminator among them. -/
structure TokenPacket where
  des : List UInt8
  tokenLen : UInt16
  tokenBuf : List UInt8

def TokenPacket.clear : TokenPacket := ⟨List.replicate desBlock 0,0,[]⟩

def TokenPacket.bytes (packet : TokenPacket) : List UInt8 :=
  packet.des ++ (le 2 packet.tokenLen.toNat ++ packet.tokenBuf)

/-- The first request after the reply, to the login server or to the gate. -/
inductive Request where
  | versionReq | avatarListReq
  deriving DecidableEq

structure Client (Schedule : Type) where
  state : ConnectState
  recvBuf : List UInt8
  inLogin : Bool
  loginFailed : Bool
  tokenPacket : TokenPacket
  des : List UInt8
  desSchedule : Schedule
  requests : List Request

section
variable {Schedule : Type} (crypto : Des Schedule)

def clear : Client Schedule where
  state := .notConnect
  recvBuf := []
  inLogin := true
  loginFailed := false
  tokenPacket := .clear
  des := List.replicate desBlock 0
  desSchedule := crypto.blank
  requests := []

omit crypto in
/-- strcpy_s and strlen of a string without zeros. -/
def login (token : List UInt8) (client : Client Schedule) : Client Schedule :=
  {client with tokenPacket := {client.tokenPacket with
    tokenLen := UInt16.ofNat (token.length + 1)
    tokenBuf := token ++ [0]}}

/-- The blocks of the token packet, each as long as the key allows; an unfinished loop has no result. -/
def encryptBlocks (key : PublicKey) : Nat → List UInt8 → Option (List UInt8)
  | 0, _ => none
  | fuel + 1, packet => do
    let block ← key.encrypt packet.length (packet.take (key.size - 12))
    let rest := packet.drop (key.size - 12)
    if block.length ≠ key.size then none
    else if rest = [] then some block
    else do
      let blocks ← encryptBlocks key fuel rest
      some (block ++ blocks)

/-- desKey is the random key; the received buffer stays as it is. -/
def onClientConnection (key : PublicKey) (desKey : List UInt8) (client : Client Schedule) :
    Client Schedule × Option (List UInt8) :=
  let tokenPacket := {client.tokenPacket with des := desKey}
  ({client with
      state := .connected
      tokenPacket := tokenPacket
      desSchedule := crypto.setKey desKey},
    encryptBlocks key tokenPacket.bytes.length tokenPacket.bytes)

/-- From the login server the client goes on to the gate with the same token; otherwise it is cleared. -/
def onClientDisconnect (client : Client Schedule) : Client Schedule :=
  if client.loginFailed then clear crypto
  else if client.inLogin then {client with state := .notConnect, inLogin := false}
  else clear crypto

/-- res[0] is the first word of the decrypted key. -/
def handleLoginPacket (block : List UInt8) (client : Client Schedule) : Bool × Client Schedule :=
  let des := crypto.decrypt client.desSchedule block
  let tried := {client with des := des}
  if field 0 4 des = 0 then (false,tried)
  else match crypto.setKeyChecked des with
    | none => (false,tried)
    | some schedule => (true,{tried with
        state := .loggedIn
        desSchedule := schedule
        requests := client.requests ++ [if client.inLogin then .versionReq else .avatarListReq]})

/-- What OnClientData takes out of the buffer. -/
inductive Consumed where
  | reply (block : List UInt8)
  | packet (packet : ServerPacket)
  deriving DecidableEq

inductive LoginEnd where
  | left | refused | running
  deriving DecidableEq

structure LoginRun (Schedule : Type) where
  consumed : List Consumed
  outcome : LoginEnd
  client : Client Schedule

/-- The phase is not tested again before the next block is taken. -/
def loginLoop : Nat → Client Schedule → LoginRun Schedule
  | 0, client => ⟨[],.running,client⟩
  | fuel + 1, client =>
    if desBlock ≤ client.recvBuf.length then
      let block := client.recvBuf.take desBlock
      match handleLoginPacket crypto block client with
      | (false,tried) => ⟨[],.refused,tried⟩
      | (true,accepted) =>
        let next := loginLoop fuel {accepted with recvBuf := client.recvBuf.drop desBlock}
        {next with consumed := .reply block :: next.consumed}
    else ⟨[],.left,client⟩

omit crypto in
/-- OnPacketReceived; isLoginFailedAck tells which packets reach LoginFailedAck. -/
def handlePackets (isLoginFailedAck : ServerPacket → Bool) (packets : List ServerPacket)
    (client : Client Schedule) : Client Schedule :=
  {client with loginFailed := client.loginFailed || packets.any isLoginFailedAck}

/-- HandlePacket always returns 0. -/
def packetLoop : Loop ServerPacket where
  format := serverFormat
  bufSize := maxOutputBuffer
  lenBits := 32
  read := readServerPacket
  handle := fun _ => true
  readFrame := readServerPacket_append
  bufBound := by decide
  lenBound := StarNet.RecvLoop.uint32_bits

inductive DataEnd where
  | returned
  | undefined -- a memcpy left its source or its target
  | running
  deriving DecidableEq

structure DataRun (Schedule : Type) where
  consumed : List Consumed
  exit : DataEnd
  client : Client Schedule

def DataRun.after (consumed : List Consumed) (run : DataRun Schedule) : DataRun Schedule :=
  {run with consumed := consumed ++ run.consumed}

omit crypto in
def dispatched (actions : List (Action ServerPacket)) : List ServerPacket :=
  (calls actions).map fun call => call.1

variable (isLoginFailedAck : ServerPacket → Bool)

/-- The data of a connection that is still connected. -/
def onClientData : Nat → Client Schedule → List UInt8 → DataRun Schedule
  | 0, client, _ => ⟨[],.running,client⟩
  | fuel + 1, client, chunk =>
    let count := copyLength packetLoop client.recvBuf chunk
    if client.recvBuf.length + count ≤ maxOutputBuffer ∧ count ≤ chunk.length then
      let buf := client.recvBuf ++ chunk.take count
      let rest := chunk.drop count
      if client.state = .connected then
        let login := loginLoop crypto fuel {client with recvBuf := buf}
        match login.outcome with
        | .running => ⟨login.consumed,.running,login.client⟩
        | .refused => ⟨login.consumed,.returned,login.client⟩
        | .left =>
          if rest.isEmpty then ⟨login.consumed,.returned,login.client⟩
          else (onClientData fuel login.client rest).after login.consumed
      else
        let inner := drain packetLoop fuel buf
        let packets := dispatched inner.actions
        let handled := handlePackets isLoginFailedAck packets client
        match inner.outcome with
        | .running => ⟨packets.map .packet,.running,handled⟩
        | .refused left => ⟨packets.map .packet,.returned,{handled with recvBuf := left}⟩
        | .left left =>
          if rest.isEmpty then ⟨packets.map .packet,.returned,{handled with recvBuf := left}⟩
          else (onClientData fuel {handled with recvBuf := left} rest).after (packets.map .packet)
    else ⟨[],.undefined,client⟩

def onClientDatas (fuel : Nat) : Client Schedule → List (List UInt8) → DataRun Schedule
  | client, [] => ⟨[],.returned,client⟩
  | client, chunk :: chunks =>
    let first := onClientData crypto isLoginFailedAck fuel client chunk
    match first.exit with
    | .returned => (onClientDatas fuel first.client chunks).after first.consumed
    | _ => first

end

end Fantuan.ClientBase.ClientConnection
