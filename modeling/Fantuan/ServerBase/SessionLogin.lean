import Fantuan.ServerBase.SessionRecv

/-! The login of a session: the blocks that OnData cuts out of the received bytes, and the token packet
HandleLoginPacket collects from them. The ciphers of openssl are parameters, and so are the functions of
the derived session, which leave the received bytes and the token packet alone.
-/
namespace Fantuan.ServerBase.SessionLogin
open Lib.Bytes StarNet.Packet StarNet.RecvLoop
open SessionRecv (packetLoop sessionStateOnConnection)

def maxTokenLen := 512

def desBlock := 8

def tokenHead := 10

def sizeofTokenPacket := 522

/-- The private key and DES; setKeyChecked refuses a key that is weak or has a wrong parity. -/
structure Ciphers (Schedule : Type) where
  privateKeyLen : Nat
  privateDecrypt : List UInt8 → Option (List UInt8)
  setKeyChecked : List UInt8 → Option Schedule
  setKey : List UInt8 → Schedule
  encrypt : Schedule → List UInt8 → List UInt8

/-- tokenPacket has the first m_iLoginBufLen bytes of m_TokenPacket; the others are zero. -/
structure Session (Derived Schedule : Type) where
  recvBuf : List UInt8
  tokenPacket : List UInt8
  desSchedule : Schedule
  desBlock : List UInt8
  derived : Derived

/-- What the derived session and its server do: the state machine, the checks and what they send. -/
structure Virtuals (Derived : Type) where
  currState : Derived → Int
  onDataState : Derived → Int
  checkLoginToken : UInt16 → List UInt8 → Derived → Int32 × Derived
  popOutputBuffer : Derived → Bool × Derived
  randomKey : Derived → List UInt8 × Derived
  loggedInNtf : Derived → Int32 × Derived
  disconnect : Derived → Derived
  onPacketReceived : ServerPacket → Derived → Derived

/-- What CheckLoginToken is called with, beside the key that was sent. -/
structure Check where
  desBlock : List UInt8
  tokenLen : UInt16
  tokenBuf : List UInt8
  deriving DecidableEq

structure Handled where
  result : Int
  checked : Option Check
  sent : Option (List UInt8)
  deriving DecidableEq

inductive Consumed where
  | block (handled : Handled)
  | packet (packet : ServerPacket)
  deriving DecidableEq

/-- A block in the middle of the token packet. -/
def early : Handled := ⟨0,none,none⟩

def tokenLen (collected : List UInt8) : Nat := field 8 2 collected

def check (collected : List UInt8) : Check where
  desBlock := collected.take desBlock
  tokenLen := UInt16.ofNat (tokenLen collected)
  tokenBuf := (collected ++ List.replicate (sizeofTokenPacket - collected.length) 0).drop tokenHead

section
variable {Derived Schedule : Type} (virtuals : Virtuals Derived) (ciphers : Ciphers Schedule)

/-- The connection is there, so it is only asked to disconnect. -/
def disconnected (session : Session Derived Schedule) : Session Derived Schedule :=
  {session with derived := virtuals.disconnect session.derived}

/-- The new key of the server goes back under the key of the client. -/
def acceptToken (session : Session Derived Schedule) : Handled × Session Derived Schedule :=
  let checked := check session.tokenPacket
  match virtuals.popOutputBuffer session.derived with
  | (false,derived) => (⟨-3,some checked,none⟩,disconnected virtuals {session with derived := derived})
  | (true,derived) =>
    let (key,keyed) := virtuals.randomKey derived
    let reply := ciphers.encrypt session.desSchedule key
    let (notified,told) := virtuals.loggedInNtf keyed
    let session := {session with desBlock := key, desSchedule := ciphers.setKey key, derived := told}
    if notified ≠ 0 then (⟨-3,some checked,none⟩,disconnected virtuals session)
    else (⟨1,some checked,some reply⟩,session)

def checkToken (session : Session Derived Schedule) : Handled × Session Derived Schedule :=
  let checked := check session.tokenPacket
  match ciphers.setKeyChecked checked.desBlock with
  | none => (⟨-3,none,none⟩,disconnected virtuals session)
  | some schedule =>
    let (valid,derived) := virtuals.checkLoginToken checked.tokenLen checked.tokenBuf session.derived
    let session := {session with desSchedule := schedule, derived := derived}
    if valid ≠ 0 then (⟨-2,some checked,none⟩,disconnected virtuals session)
    else acceptToken virtuals ciphers session

/-- Without a result the decrypted piece was written past m_TokenPacket; iTotalLen is a uint16. -/
def handleLoginPacket (block : List UInt8) (session : Session Derived Schedule) :
    Option (Handled × Session Derived Schedule) :=
  match ciphers.privateDecrypt block with
  | none => some (⟨-1,none,none⟩,disconnected virtuals session)
  | some piece =>
    let collected := session.tokenPacket ++ piece
    let session := {session with tokenPacket := collected}
    let totalLen := (tokenHead + tokenLen collected) % 2^16
    if sizeofTokenPacket < collected.length then none
    else if collected.length < tokenHead then some (early,session)
    else if totalLen < collected.length ∨ maxTokenLen < tokenLen collected then
      some (⟨-1,none,none⟩,disconnected virtuals session)
    else if totalLen = collected.length then some (checkToken virtuals ciphers session)
    else some (early,session)

inductive LoginEnd where
  | left | refused | undefined | running
  deriving DecidableEq

structure LoginRun (Derived Schedule : Type) where
  handled : List Handled
  outcome : LoginEnd
  session : Session Derived Schedule

/-- The state is not tested again before the next block is taken. -/
def loginLoop : Nat → Session Derived Schedule → LoginRun Derived Schedule
  | 0, session => ⟨[],.running,session⟩
  | fuel + 1, session =>
    if ciphers.privateKeyLen ≤ session.recvBuf.length then
      match handleLoginPacket virtuals ciphers (session.recvBuf.take ciphers.privateKeyLen) session with
      | none => ⟨[],.undefined,session⟩
      | some (handled,tried) =>
        if handled.result < 0 then ⟨[handled],.refused,tried⟩
        else
          let next := loginLoop fuel {tried with recvBuf := tried.recvBuf.drop ciphers.privateKeyLen}
          {next with handled := handled :: next.handled}
    else ⟨[],.left,session⟩

inductive DataEnd where
  | returned
  | undefined -- a memcpy or a decryption left its source or its target
  | running
  deriving DecidableEq

structure DataRun (Derived Schedule : Type) where
  consumed : List Consumed
  exit : DataEnd
  session : Session Derived Schedule

def DataRun.after (consumed : List Consumed) (run : DataRun Derived Schedule) : DataRun Derived Schedule :=
  {run with consumed := consumed ++ run.consumed}

/-- The copies of a chunk; the state is tested once for each. -/
def onDataCopies : Nat → Session Derived Schedule → List UInt8 → DataRun Derived Schedule
  | 0, session, _ => ⟨[],.running,session⟩
  | fuel + 1, session, chunk =>
    let count := copyLength packetLoop session.recvBuf chunk
    if session.recvBuf.length + count ≤ maxInputBuffer ∧ count ≤ chunk.length then
      let buf := session.recvBuf ++ chunk.take count
      let rest := chunk.drop count
      if virtuals.currState session.derived = sessionStateOnConnection then
        let login := loginLoop virtuals ciphers fuel {session with recvBuf := buf}
        let consumed := login.handled.map .block
        match login.outcome with
        | .running => ⟨consumed,.running,login.session⟩
        | .undefined => ⟨consumed,.undefined,login.session⟩
        | .refused => ⟨consumed,.returned,login.session⟩
        | .left =>
          if rest.isEmpty then ⟨consumed,.returned,login.session⟩
          else (onDataCopies fuel login.session rest).after consumed
      else
        let inner := drain packetLoop fuel buf
        let packets := (calls inner.actions).map fun call => call.1
        let consumed := packets.map .packet
        let handled := {session with
          derived := packets.foldl (fun derived packet => virtuals.onPacketReceived packet derived)
            session.derived}
        match inner.outcome with
        | .running => ⟨consumed,.running,handled⟩
        | .refused left => ⟨consumed,.returned,{handled with recvBuf := left}⟩
        | .left left =>
          if rest.isEmpty then ⟨consumed,.returned,{handled with recvBuf := left}⟩
          else (onDataCopies fuel {handled with recvBuf := left} rest).after consumed
    else ⟨[],.undefined,session⟩

def onData (fuel : Nat) (session : Session Derived Schedule) (chunk : List UInt8) : DataRun Derived Schedule :=
  if virtuals.onDataState session.derived ≠ virtuals.currState session.derived then ⟨[],.returned,session⟩
  else onDataCopies virtuals ciphers fuel session chunk

/-- iLen is a uint16, and a receive without bytes is a disconnect. -/
abbrev Chunk := {bytes : List UInt8 // bytes ≠ [] ∧ bytes.length < 2^16}

def onDatas (fuel : Nat) : Session Derived Schedule → List Chunk → DataRun Derived Schedule
  | session, [] => ⟨[],.returned,session⟩
  | session, chunk :: chunks =>
    let first := onData virtuals ciphers fuel session chunk.val
    match first.exit with
    | .returned => (onDatas fuel first.session chunks).after first.consumed
    | _ => first

end

end Fantuan.ServerBase.SessionLogin
