import Fantuan.ClientBase.ClientConnection
import Fantuan.Lib.Run

/-! The logins of a client: the connections that it opens, what it hears on them and how they end. The loop thread
handles the commands of a connection, the user calls Login and Logout, and a worker thread sees connections come up
and go down.
-/
namespace Fantuan.ClientBase.ClientLogins
open Lib.Run
open ClientConnection (ConnectState maxTokenLen)

/-- What the user passes has a terminator in the array of its caller. -/
abbrev Token := {bytes : List UInt8 // bytes.length < maxTokenLen}

def Token.clear : Token := ⟨[],Nat.zero_lt_succ _⟩

/-- rsa says that m_pRSA is not NULL. -/
structure Client where
  connId : Option Nat
  state : ConnectState
  inLogin : Bool
  loginFailed : Bool
  token : Token
  gateIP : UInt32
  gatePort : UInt16
  rsa : Bool

def Client.clear : Client where
  connId := none
  state := .notConnect
  inLogin := true
  loginFailed := false
  token := .clear
  gateIP := 0
  gatePort := 0
  rsa := false

/-- leaving: connected_ is 0, but requests are pending; left: none is. -/
inductive Status where
  | connecting | connected | leaving | left | freed
  deriving DecidableEq

/-- Opened by the user's Login of an attempt, or for its gate. -/
inductive Role where
  | login (attempt : Nat)
  | gate (attempt : Option Nat)
  deriving DecidableEq

structure Connection where
  status : Status
  role : Role
  ip : UInt32
  port : UInt16
  token : Token

/-- attempt is that of the last Login since the client was cleared, and heard the address of the last LoginNtf
since then. attempts, tokens and ntfs are those of all attempts. -/
structure World where
  client : Client
  connections : Nat → Connection
  next : Nat
  attempt : Option Nat
  attempts : Nat
  tokens : Nat → Token
  ntfs : List (Nat × UInt32 × UInt16)
  heard : Option (UInt32 × UInt16)

def initial : World where
  client := .clear
  connections _ := ⟨.freed,.gate none,0,0,.clear⟩
  next := 0
  attempt := none
  attempts := 0
  tokens _ := .clear
  ntfs := []
  heard := none

namespace World

def setStatus (s : World) (connection : Nat) (status : Status) : World :=
  {s with connections := Function.update s.connections connection {s.connections connection with status := status}}

def status (s : World) (connection : Nat) : Status := (s.connections connection).status

def clear (s : World) : World := {s with client := .clear, attempt := none, heard := none}

end World

/-- Connection::Close refuses what is in use and deletes the rest; there is no result for what has been deleted. -/
def close (connection : Nat) (s : World) : Option World :=
  match s.status connection with
  | .connected | .leaving => some s
  | .connecting | .left => some (s.setStatus connection .freed)
  | .freed => none

def asyncDisconnect (connection : Nat) (s : World) : Option World :=
  match s.status connection with
  | .connected => some (s.setStatus connection .leaving)
  | .connecting | .leaving | .left => some s
  | .freed => none

/-- Whether the public key file opens and holds a key, and whether Connection::Connect succeeds. -/
structure Answers where
  file : Option Bool
  connects : Bool

def Answers.opens (answers : Answers) : Bool := answers.file.isSome && answers.connects

/-- m_ConnId is closed first. -/
def leave (s : World) : Option World :=
  match s.client.connId with
  | none => some s
  | some connection => close connection s

def connect (ip : UInt32) (port : UInt16) (role : Role) (s : World) : World :=
  {s with
    connections := Function.update s.connections s.next ⟨.connecting,role,ip,port,s.client.token⟩
    next := s.next + 1}

/-- Login once m_ConnId has been closed and the key file is open. -/
def enter (ip : UInt32) (port : UInt16) (token : Token) (role : Role) (key connects : Bool) (s : World) : World :=
  let s := {s with client := {s.client with token := token, rsa := key}}
  if connects = true then connect ip port role s else s

/-- The user's Login begins an attempt unless the key file is missing. -/
def userLogin (ip : UInt32) (port : UInt16) (token : Token) (answers : Answers) (s : World) : Option World :=
  (leave s).map fun s =>
    match answers.file with
    | none => s
    | some key => enter ip port token (.login s.attempts) key answers.connects
        {s with
          attempt := some s.attempts
          attempts := s.attempts + 1
          tokens := Function.update s.tokens s.attempts token}

def gateLogin (answers : Answers) (s : World) : Option World :=
  (leave s).map fun s =>
    match answers.file with
    | none => s
    | some key => enter s.client.gateIP s.client.gatePort s.client.token (.gate s.attempt) key answers.connects s

def logout (s : World) : Option World :=
  match s.client.connId with
  | none => some s
  | some connection => asyncDisconnect connection s

/-- RSA_size reads m_pRSA. -/
def onClientConnection (connection : Nat) (s : World) : Option World :=
  if s.client.rsa = true then some {s with client := {s.client with connId := some connection, state := .connected}}
  else none

def onClientDisconnect (answers : Answers) (s : World) : Option World :=
  if s.client.loginFailed = true then some s.clear
  else if s.client.inLogin = true then
    gateLogin answers {s with client := {s.client with state := .notConnect, inLogin := false}}
  else some s.clear

inductive Packet where
  | loginNtf (gateIP : UInt32) (gatePort : UInt16)
  | loginFailedAck (reason : Int32)
  | other

/-- The attempt to whose login server a connection leads. -/
def Role.attempt : Role → Option Nat
  | .login attempt => some attempt
  | .gate _ => none

/-- A packet that has come on a connection; m_ConnId may hold another one. -/
def onPacket (connection : Nat) (s : World) : Packet → World
  | .loginNtf gateIP gatePort =>
    let s := ((s.client.connId.bind fun mine => asyncDisconnect mine s).getD s)
    {s with
      client := {s.client with gateIP := gateIP, gatePort := gatePort}
      ntfs := ((s.connections connection).role.attempt.map fun attempt => (attempt,gateIP,gatePort)).toList ++ s.ntfs
      heard := some (gateIP,gatePort)}
  | .loginFailedAck _ => {s with client := {s.client with loginFailed := true}}
  | .other => s

/-- Received data that completes a login reply, or packets. -/
inductive Data where
  | reply
  | packets (packets : List Packet)

def onClientData (connection : Nat) (data : Data) (s : World) : Option World :=
  match s.client.connId with
  | none => none
  | some mine =>
    match s.status mine with
    | .freed => none
    | .connected =>
      match data with
      | .reply =>
        some (if s.client.state = .connected then {s with client := {s.client with state := .loggedIn}} else s)
      | .packets packets => some (if s.client.state = .connected then s else packets.foldl (onPacket connection) s)
    | _ => some s

inductive Action where
  | login (ip : UInt32) (port : UInt16) (token : Token) (answers : Answers)
  | logout
  | comesUp (connection : Nat)
  | fails (connection : Nat)
  | goesDown (connection : Nat)
  | drains (connection : Nat)
  | onConnection (connection : Nat)
  | onData (connection : Nat) (data : Data)
  | onDisconnect (connection : Nat) (answers : Answers)

/-- A worker sees the status of a connection change. -/
def become (connection : Nat) (old new : Status) (s : World) : World :=
  if s.status connection = old then s.setStatus connection new else s

/-- No result where memory that has been freed, or NULL, is used. -/
def next (s : World) : Action → Option World
  | .login ip port token answers => userLogin ip port token answers s
  | .logout => logout s
  | .comesUp connection => some (become connection .connecting .connected s)
  | .fails connection => some (become connection .connecting .freed s)
  | .goesDown connection => some (become connection .connected .leaving s)
  | .drains connection => some (become connection .leaving .left s)
  | .onConnection connection => onClientConnection connection s
  | .onData connection data => onClientData connection data s
  | .onDisconnect _ answers => onClientDisconnect answers s

def step (s : World) (action : Action) : World := (next s action).getD s

/-- As after Clear, and the next Login opens its connection. -/
structure Again (s : World) : Prop where
  cleared : s.client = .clear
  works : ∀ ip port token, ∃ t, userLogin ip port token ⟨some true,true⟩ s = some t ∧
    t.connections s.next = ⟨.connecting,.login s.attempts,ip,port,token⟩

/-- A gate connection is opened to the address of a LoginNtf of the current attempt with its token, and it is sent
the token of its attempt. The end of a login connection either opens one or leads back to the beginning. -/
structure Right (s : World) (action : Action) (t : World) : Prop where
  gate : ∀ attempt, s.next < t.next → (t.connections s.next).role = .gate attempt → ∃ n, s.attempt = some n ∧
    (n,(t.connections s.next).ip,(t.connections s.next).port) ∈ s.ntfs ∧ (t.connections s.next).token = s.tokens n
  sent : ∀ connection n, action = .onConnection connection → (s.connections connection).role = .gate (some n) →
    t.client.token = s.tokens n
  ended : ∀ connection answers n, action = .onDisconnect connection answers →
    (s.connections connection).role = .login n → s.next < t.next ∨ Again t

def Rightly (s : World) (action : Action) : Prop := ∃ t, next s action = some t ∧ Right s action t

/-- m_ConnId does not hold a connection that has been deleted. -/
def Held (s : World) : Prop := ∀ connection, s.client.connId = some connection → s.status connection ≠ .freed

/-- The token of the current attempt; after Clear there is none. -/
def currentToken (s : World) : Token := (s.attempt.map s.tokens).getD .clear

/-- The address that was heard last is one that a LoginNtf of the current attempt carried. -/
def Told (s : World) : Prop := ∃ n ip port, s.attempt = some n ∧ s.heard = some (ip,port) ∧ (n,ip,port) ∈ s.ntfs

/-- In the login phase a connection ends only once the client has been told where the gate is; and m_ConnId, the key
and the token are those of the attempt wherever they are used. -/
def Orderly (s : World) : Action → Prop
  | .login _ _ _ _ | .logout => Held s
  | .onData _ _ => s.client.connId ≠ none ∧ Held s
  | .onConnection connection => s.client.rsa = true ∧
    ∀ n, (s.connections connection).role = .gate (some n) → currentToken s = s.tokens n
  | .onDisconnect connection answers => s.client.loginFailed = true ∨ s.client.inLogin = false ∨ Held s ∧
    if answers.opens = true then Told s else ∀ n, (s.connections connection).role ≠ .login n
  | _ => True

/-- What the client holds is what it has heard and been given since it was cleared. -/
structure Sound (s : World) : Prop where
  gate : (s.client.gateIP,s.client.gatePort) = s.heard.getD (0,0)
  token : s.client.token = currentToken s
  told : ∀ n ip port, s.attempt = some n → (n,ip,port) ∈ s.ntfs → s.heard ≠ none
  heard : ∀ n ip port, (n,ip,port) ∈ s.ntfs → n < s.attempts
  roles : ∀ connection n, (s.connections connection).role = .login n → n < s.attempts

section
variable (s : World) (sound : Sound s)

theorem setStatus_role (connection other : Nat) (status : Status) :
    ((s.setStatus connection status).connections other).role = (s.connections other).role := by
  rw [World.setStatus]
  dsimp only
  by_cases same : other = connection
  · rw [same,Function.update_self]
  · rw [Function.update_of_ne same]

include sound

theorem setStatus_sound (connection : Nat) (status : Status) : Sound (s.setStatus connection status) where
  gate := sound.gate
  token := sound.token
  told := sound.told
  heard := sound.heard
  roles other n role := sound.roles other n ((setStatus_role s connection other status).symm.trans role)

theorem clear_sound : Sound s.clear where
  gate := rfl
  token := rfl
  told _ _ _ none := by cases none
  heard := sound.heard
  roles := sound.roles

theorem client_sound (client : Client) (gateIP : client.gateIP = s.client.gateIP)
    (gatePort : client.gatePort = s.client.gatePort) (token : client.token = s.client.token) :
    Sound {s with client := client} where
  gate := by rw [gateIP,gatePort]; exact sound.gate
  token := token.trans sound.token
  told := sound.told
  heard := sound.heard
  roles := sound.roles

theorem connect_sound (ip : UInt32) (port : UInt16) (role : Role) (known : ∀ n, role = .login n → n < s.attempts) :
    Sound (connect ip port role s) where
  gate := sound.gate
  token := sound.token
  told := sound.told
  heard := sound.heard
  roles connection n login := by
    rw [connect] at login
    dsimp only at login
    by_cases same : connection = s.next
    · rw [same,Function.update_self] at login
      exact known n login
    · rw [Function.update_of_ne same] at login
      exact sound.roles connection n login

theorem become_sound (connection : Nat) (old new : Status) : Sound (become connection old new s) := by
  rw [become]
  split
  · exact setStatus_sound s sound connection new
  · exact sound

theorem close_sound (connection : Nat) (t : World) (closed : close connection s = some t) : Sound t := by
  rw [close] at closed
  split at closed
  · cases closed
    exact sound
  · cases closed
    exact sound
  · cases closed
    exact setStatus_sound s sound connection .freed
  · cases closed
    exact setStatus_sound s sound connection .freed
  · cases closed

theorem asyncDisconnect_sound (connection : Nat) (t : World) (left : asyncDisconnect connection s = some t) :
    Sound t := by
  rw [asyncDisconnect] at left
  split at left
  · cases left
    exact setStatus_sound s sound connection .leaving
  · cases left
    exact sound
  · cases left
    exact sound
  · cases left
    exact sound
  · cases left

theorem leave_sound (t : World) (left : leave s = some t) : Sound t := by
  rw [leave] at left
  split at left
  · cases left
    exact sound
  · exact close_sound s sound _ t left

omit sound in
theorem enter_sound (ip : UInt32) (port : UInt16) (token : Token) (role : Role) (key connects : Bool)
    (begun : Sound {s with client := {s.client with token := token}}) (known : ∀ n, role = .login n → n < s.attempts) :
    Sound (enter ip port token role key connects s) := by
  have entered := client_sound _ begun {s.client with token := token, rsa := key} rfl rfl rfl
  rw [enter]
  split
  · exact connect_sound _ entered ip port role known
  · exact entered

theorem attempt_sound (token : Token) :
    Sound {s with
      client := {s.client with token := token}
      attempt := some s.attempts
      attempts := s.attempts + 1
      tokens := Function.update s.tokens s.attempts token} where
  gate := sound.gate
  token := by
    change token = Function.update s.tokens s.attempts token s.attempts
    rw [Function.update_self]
  told n ip port mine told := by
    cases mine
    exact absurd (sound.heard s.attempts ip port told) (Nat.lt_irrefl _)
  heard n ip port told := Nat.lt_succ_of_lt (sound.heard n ip port told)
  roles connection n login := Nat.lt_succ_of_lt (sound.roles connection n login)

theorem userLogin_sound (ip : UInt32) (port : UInt16) (token : Token) (answers : Answers) (t : World)
    (entered : userLogin ip port token answers s = some t) : Sound t := by
  obtain ⟨u,left,rfl⟩ := Option.map_eq_some_iff.mp entered
  have kept := leave_sound s sound u left
  split
  · exact kept
  next key _ =>
    have begun := attempt_sound u kept token
    refine enter_sound _ ip port token _ key _ begun ?_
    rintro n same
    cases same
    exact Nat.lt_succ_self _

theorem gateLogin_sound (answers : Answers) (t : World) (entered : gateLogin answers s = some t) : Sound t := by
  obtain ⟨u,left,rfl⟩ := Option.map_eq_some_iff.mp entered
  have kept := leave_sound s sound u left
  split
  · exact kept
  · exact enter_sound u _ _ _ _ _ _ kept fun n same => by cases same

theorem onPacket_sound (connection : Nat) (packet : Packet) : Sound (onPacket connection s packet) := by
  cases packet with
  | loginNtf gateIP gatePort =>
    let u := (s.client.connId.bind fun mine => asyncDisconnect mine s).getD s
    have kept : Sound u := by
      dsimp only [u]
      cases s.client.connId with
      | none => exact sound
      | some mine =>
        cases left : asyncDisconnect mine s with
        | none => simpa [left] using sound
        | some t => simpa [left] using asyncDisconnect_sound s sound mine t left
    refine ⟨rfl,kept.token,fun _ _ _ _ _ => Option.some_ne_none _,fun n ip port told => ?_,kept.roles⟩
    rcases List.mem_append.mp told with new | old
    · obtain ⟨attempt,mine,same⟩ := Option.map_eq_some_iff.mp (Option.mem_toList.mp new)
      cases same
      refine kept.roles connection n ?_
      change ((u.connections connection).role.attempt) = some n at mine
      cases role : (u.connections connection).role with
      | login other =>
        rw [role] at mine
        cases mine
        rfl
      | gate other =>
        rw [role] at mine
        cases mine
    · exact kept.heard n ip port old
  | loginFailedAck reason => exact client_sound s sound _ rfl rfl rfl
  | other => exact sound

theorem onPackets_sound (connection : Nat) (packets : List Packet) :
    Sound (packets.foldl (onPacket connection) s) := by
  induction packets generalizing s with
  | nil => exact sound
  | cons packet packets ih => exact ih _ (onPacket_sound s sound connection packet)

theorem onClientData_sound (connection : Nat) (data : Data) (t : World)
    (heard : onClientData connection data s = some t) : Sound t := by
  unfold onClientData at heard
  split at heard
  · cases heard
  · split at heard
    · cases heard
    · split at heard
      · cases heard
        split
        · exact client_sound s sound _ rfl rfl rfl
        · exact sound
      · cases heard
        split
        · exact sound
        · exact onPackets_sound s sound connection _
    · cases heard
      exact sound

theorem onClientDisconnect_sound (answers : Answers) (t : World) (ended : onClientDisconnect answers s = some t) :
    Sound t := by
  rw [onClientDisconnect] at ended
  split at ended
  · cases ended
    exact clear_sound s sound
  · split at ended
    · have closing := client_sound s sound {s.client with state := .notConnect, inLogin := false} rfl rfl rfl
      exact gateLogin_sound _ closing answers t ended
    · cases ended
      exact clear_sound s sound

theorem next_sound (action : Action) (t : World) (stepped : next s action = some t) : Sound t := by
  cases action with
  | login ip port token answers => exact userLogin_sound s sound ip port token answers t stepped
  | logout =>
    rw [next,logout] at stepped
    split at stepped
    · cases stepped
      exact sound
    · exact asyncDisconnect_sound s sound _ t stepped
  | comesUp connection =>
    cases stepped
    exact become_sound s sound _ _ _
  | fails connection =>
    cases stepped
    exact become_sound s sound _ _ _
  | goesDown connection =>
    cases stepped
    exact become_sound s sound _ _ _
  | drains connection =>
    cases stepped
    exact become_sound s sound _ _ _
  | onConnection connection =>
    rw [next,onClientConnection] at stepped
    split at stepped
    · cases stepped
      exact client_sound s sound _ rfl rfl rfl
    · cases stepped
  | onData connection data => exact onClientData_sound s sound connection data t stepped
  | onDisconnect connection answers => exact onClientDisconnect_sound s sound answers t stepped

end

section
variable (s : World)

theorem held_none (mine : s.client.connId = none) : Held s := by
  intro connection held
  rw [mine] at held
  cases held

theorem held_some (connection : Nat) (mine : s.client.connId = some connection) :
    Held s ↔ s.status connection ≠ .freed := by
  constructor
  · intro held
    exact held connection mine
  · intro live other same
    obtain rfl := Option.some.inj (mine.symm.trans same)
    exact live

theorem close_cases (connection : Nat) :
    (s.status connection = .freed ∧ close connection s = none) ∨
      s.status connection ≠ .freed ∧
        (close connection s = some s ∨ close connection s = some (s.setStatus connection .freed)) := by
  rw [close]
  cases s.status connection <;> simp

theorem asyncDisconnect_cases (connection : Nat) :
    (s.status connection = .freed ∧ asyncDisconnect connection s = none) ∨
      s.status connection ≠ .freed ∧
        (asyncDisconnect connection s = some s ∨
          asyncDisconnect connection s = some (s.setStatus connection .leaving)) := by
  rw [asyncDisconnect]
  cases s.status connection <;> simp

/-- What closing m_ConnId leaves as it is. -/
structure Beside (s t : World) : Prop where
  client : t.client = s.client
  next : t.next = s.next
  attempt : t.attempt = s.attempt
  attempts : t.attempts = s.attempts

theorem leave_beside : (Held s ∧ ∃ t, leave s = some t ∧ Beside s t) ∨ ¬ Held s ∧ leave s = none := by
  cases mine : s.client.connId with
  | none =>
    refine .inl ⟨held_none s mine,s,?_,rfl,rfl,rfl,rfl⟩
    rw [leave,mine]
  | some connection =>
    rw [held_some s connection mine]
    have closed : leave s = close connection s := by rw [leave,mine]
    rw [closed]
    rcases close_cases s connection with ⟨freed,none⟩ | ⟨live,same | changed⟩
    · exact .inr ⟨not_not.mpr freed,none⟩
    · exact .inl ⟨live,s,same,rfl,rfl,rfl,rfl⟩
    · exact .inl ⟨live,_,changed,rfl,rfl,rfl,rfl⟩

theorem right_still (action : Action) (t : World) (same : t.next = s.next)
    (connects : ∀ connection, action ≠ .onConnection connection)
    (ends : ∀ connection answers, action ≠ .onDisconnect connection answers) : Right s action t where
  gate attempt less := by rw [same] at less; exact absurd less (Nat.lt_irrefl _)
  sent connection n here := absurd here (connects connection)
  ended connection answers n here := absurd here (ends connection answers)

theorem enter_next (ip : UInt32) (port : UInt16) (token : Token) (role : Role) (key connects : Bool) :
    (enter ip port token role key connects s).next = if connects = true then s.next + 1 else s.next := by
  rw [enter]
  cases connects <;> rfl

theorem enter_opens (ip : UInt32) (port : UInt16) (token : Token) (role : Role) (key : Bool) :
    (enter ip port token role key true s).connections s.next = ⟨.connecting,role,ip,port,token⟩ := by
  rw [enter,if_pos rfl,connect]
  exact Function.update_self ..

theorem login_rightly (ip : UInt32) (port : UInt16) (token : Token) (answers : Answers) :
    Rightly s (.login ip port token answers) ↔ Held s := by
  rcases leave_beside s with ⟨held,u,left,beside⟩ | ⟨lost,none⟩
  · refine iff_of_true ⟨_,Option.map_eq_some_iff.mpr ⟨u,left,rfl⟩,?_,?_,?_⟩ held
    · intro attempt less gate
      obtain ⟨file,connects⟩ := answers
      cases file with
      | none =>
        change s.next < u.next at less
        rw [beside.next] at less
        exact absurd less (Nat.lt_irrefl _)
      | some key =>
        cases connects with
        | false =>
          change s.next < u.next at less
          rw [beside.next] at less
          exact absurd less (Nat.lt_irrefl _)
        | true =>
          rw [← beside.next] at gate
          dsimp only at gate
          have opened := enter_opens {u with
            attempt := some u.attempts
            attempts := u.attempts + 1
            tokens := Function.update u.tokens u.attempts token} ip port token (.login u.attempts) key
          dsimp only at opened
          rw [opened] at gate
          cases gate
    · intro connection n here
      cases here
    · intro connection answers n here
      cases here
  · refine iff_of_false ?_ lost
    rintro ⟨t,entered,-⟩
    rw [next,userLogin,none] at entered
    cases entered

theorem logout_rightly : Rightly s .logout ↔ Held s := by
  have right (t : World) (same : t.next = s.next) : Right s .logout t :=
    right_still s _ t same (fun _ here => by cases here) fun _ _ here => by cases here
  cases mine : s.client.connId with
  | none =>
    refine iff_of_true ⟨s,?_,right s rfl⟩ (held_none s mine)
    rw [next,logout,mine]
  | some connection =>
    have stepped : next s .logout = asyncDisconnect connection s := by rw [next,logout,mine]
    rw [held_some s connection mine]
    rcases asyncDisconnect_cases s connection with ⟨freed,none⟩ | ⟨live,same | changed⟩
    · refine iff_of_false ?_ (not_not.mpr freed)
      rintro ⟨t,left,-⟩
      rw [stepped,none] at left
      cases left
    · exact iff_of_true ⟨s,stepped.trans same,right s rfl⟩ live
    · exact iff_of_true ⟨_,stepped.trans changed,right _ rfl⟩ live

theorem become_next (connection : Nat) (old new : Status) : (become connection old new s).next = s.next := by
  rw [become]
  split <;> rfl

theorem onPacket_next (connection : Nat) (packet : Packet) : (onPacket connection s packet).next = s.next := by
  cases packet with
  | loginNtf gateIP gatePort =>
    change ((s.client.connId.bind fun mine => asyncDisconnect mine s).getD s).next = s.next
    cases s.client.connId with
    | none => rfl
    | some mine =>
      change ((asyncDisconnect mine s).getD s).next = s.next
      rcases asyncDisconnect_cases s mine with ⟨-,none⟩ | ⟨-,same | changed⟩
      · rw [none]
        rfl
      · rw [same]
        rfl
      · rw [changed]
        rfl
  | loginFailedAck reason => rfl
  | other => rfl

theorem onPackets_next (connection : Nat) (packets : List Packet) :
    (packets.foldl (onPacket connection) s).next = s.next := by
  induction packets generalizing s with
  | nil => rfl
  | cons packet packets ih => exact (ih _).trans (onPacket_next s connection packet)

theorem data_rightly (connection : Nat) (data : Data) :
    Rightly s (.onData connection data) ↔ s.client.connId ≠ none ∧ Held s := by
  have right (t : World) (same : t.next = s.next) : Right s (.onData connection data) t :=
    right_still s _ t same (fun _ here => by cases here) fun _ _ here => by cases here
  cases mine : s.client.connId with
  | none =>
    refine iff_of_false ?_ fun held => held.1 rfl
    rintro ⟨t,heard,-⟩
    unfold next onClientData at heard
    rw [mine] at heard
    cases heard
  | some other =>
    rw [held_some s other mine]
    have stepped : next s (.onData connection data) = onClientData connection data s := rfl
    unfold onClientData at stepped
    rw [mine] at stepped
    dsimp only at stepped
    cases status : s.status other with
    | freed =>
      refine iff_of_false ?_ fun live => live.2 rfl
      rintro ⟨t,heard,-⟩
      rw [stepped,status] at heard
      cases heard
    | connected =>
      rw [status] at stepped
      refine iff_of_true ?_ ⟨Option.some_ne_none _,by decide⟩
      cases data with
      | reply =>
        refine ⟨_,stepped,right _ ?_⟩
        split <;> rfl
      | packets packets =>
        refine ⟨_,stepped,right _ ?_⟩
        split
        · rfl
        · exact onPackets_next s connection packets
    | connecting | leaving | left =>
      rw [status] at stepped
      exact iff_of_true ⟨s,stepped,right s rfl⟩ ⟨Option.some_ne_none _,by decide⟩

theorem again_clear : Again s.clear where
  cleared := rfl
  works ip port token := by
    let begun : World := {s.clear with
      attempt := some s.attempts
      attempts := s.attempts + 1
      tokens := Function.update s.tokens s.attempts token}
    exact ⟨enter ip port token (.login s.attempts) true true begun,rfl,
      enter_opens begun ip port token (.login s.attempts) true⟩

theorem clear_right (connection : Nat) (answers : Answers) : Right s (.onDisconnect connection answers) s.clear where
  gate attempt less := absurd less (Nat.lt_irrefl _)
  sent connection n here := by cases here
  ended _ _ _ _ _ := .inr (again_clear s)

variable (sound : Sound s)
include sound

theorem current_token (n : Nat) (mine : s.attempt = some n) : s.client.token = s.tokens n := by
  rw [sound.token,currentToken,mine]
  rfl

theorem told_iff : Told s ↔ ∃ n, s.attempt = some n ∧ (n,s.client.gateIP,s.client.gatePort) ∈ s.ntfs ∧
    s.client.token = s.tokens n := by
  have gate := sound.gate
  constructor
  · rintro ⟨n,ip,port,mine,heard,told⟩
    rw [heard] at gate
    cases gate
    exact ⟨n,mine,told,current_token s sound n mine⟩
  · rintro ⟨n,mine,told,-⟩
    cases heard : s.heard with
    | none => exact absurd heard (sound.told n _ _ mine told)
    | some address =>
      rw [heard] at gate
      refine ⟨n,_,_,mine,?_,told⟩
      rw [heard]
      exact congrArg some gate.symm

theorem connection_rightly (connection : Nat) :
    Rightly s (.onConnection connection) ↔ Orderly s (.onConnection connection) := by
  have stepped : next s (.onConnection connection) = onClientConnection connection s := rfl
  rw [onClientConnection] at stepped
  constructor
  · rintro ⟨t,connected,right⟩
    rw [stepped] at connected
    split at connected
    next key =>
      cases connected
      exact ⟨key,fun n role => sound.token.symm.trans (right.sent connection n rfl role)⟩
    · cases connected
  · rintro ⟨key,tokens⟩
    rw [if_pos key] at stepped
    refine ⟨_,stepped,?_,?_,?_⟩
    · intro attempt less
      exact absurd less (Nat.lt_irrefl _)
    · intro other n here role
      cases here
      exact sound.token.trans (tokens n role)
    · intro other answers n here
      cases here

theorem gateLogin_rightly (connection : Nat) (answers : Answers) (u : World) (beside : Beside s u)
    (phase : u.client.inLogin = false) (left : leave s = some u) :
    (∃ t, gateLogin answers s = some t ∧ Right s (.onDisconnect connection answers) t) ↔
      if answers.opens = true then Told s else ∀ n, (s.connections connection).role ≠ .login n := by
  obtain ⟨file,connects⟩ := answers
  have still (t : World) (entered : gateLogin ⟨file,connects⟩ s = some t) (same : t.next = s.next)
      (later : t.client.inLogin = false) :
      (∃ t, gateLogin ⟨file,connects⟩ s = some t ∧ Right s (.onDisconnect connection ⟨file,connects⟩) t) ↔
        ∀ n, (s.connections connection).role ≠ .login n := by
    constructor
    · rintro ⟨other,entered',right⟩ n role
      obtain rfl := Option.some.inj (entered.symm.trans entered')
      rcases right.ended connection _ n rfl role with less | again
      · rw [same] at less
        exact absurd less (Nat.lt_irrefl _)
      · rw [again.cleared] at later
        cases later
    · intro gate
      refine ⟨t,entered,?_,?_,?_⟩
      · intro attempt less
        rw [same] at less
        exact absurd less (Nat.lt_irrefl _)
      · intro other n here
        cases here
      · intro other answers n here role
        cases here
        exact absurd role (gate n)
  cases file with
  | none =>
    refine still u ?_ beside.next phase
    rw [gateLogin,left]
    rfl
  | some key =>
    cases connects with
    | false =>
      refine still (enter u.client.gateIP u.client.gatePort u.client.token (.gate u.attempt) key false u) ?_ beside.next
        phase
      rw [gateLogin,left]
      rfl
    | true =>
      have entered : gateLogin ⟨some key,true⟩ s =
          some (enter u.client.gateIP u.client.gatePort u.client.token (.gate u.attempt) key true u) := by
        rw [gateLogin,left]
        rfl
      have opened := enter_opens u u.client.gateIP u.client.gatePort u.client.token (.gate u.attempt) key
      have later := enter_next u u.client.gateIP u.client.gatePort u.client.token (.gate u.attempt) key true
      rw [beside.next,beside.client,beside.attempt] at opened
      rw [if_pos rfl,beside.next,beside.client,beside.attempt] at later
      rw [beside.client,beside.attempt] at entered
      have opens : (⟨some key,true⟩ : Answers).opens = true := rfl
      rw [if_pos opens,told_iff s sound]
      constructor
      · rintro ⟨t,entered',right⟩
        obtain rfl := Option.some.inj (entered.symm.trans entered')
        have gate := right.gate s.attempt (by rw [later]; exact Nat.lt_succ_self _) (by rw [opened])
        rw [opened] at gate
        exact gate
      · intro told
        refine ⟨_,entered,?_,?_,?_⟩
        · intro attempt _ _
          rw [opened]
          exact told
        · intro other n here
          cases here
        · intro other answers n _ _
          exact .inl (by rw [later]; exact Nat.lt_succ_self _)

theorem disconnect_rightly (connection : Nat) (answers : Answers) :
    Rightly s (.onDisconnect connection answers) ↔ Orderly s (.onDisconnect connection answers) := by
  have stepped : next s (.onDisconnect connection answers) = onClientDisconnect answers s := rfl
  rw [onClientDisconnect] at stepped
  by_cases failed : s.client.loginFailed = true
  · rw [if_pos failed] at stepped
    exact iff_of_true ⟨_,stepped,clear_right s connection answers⟩ (.inl failed)
  · rw [if_neg failed] at stepped
    by_cases phase : s.client.inLogin = true
    · rw [if_pos phase] at stepped
      let closing : World := {s with client := {s.client with state := .notConnect, inLogin := false}}
      have kept : Sound closing := client_sound s sound _ rfl rfl rfl
      have orderly : Orderly s (.onDisconnect connection answers) ↔ Held s ∧
          if answers.opens = true then Told s else ∀ n, (s.connections connection).role ≠ .login n := by
        rw [Orderly,phase]
        simp [failed]
      rw [orderly]
      rcases leave_beside closing with ⟨held,u,left,beside⟩ | ⟨lost,none⟩
      · have gate := gateLogin_rightly closing kept connection answers u beside
          (congrArg Client.inLogin beside.client) left
        have heldHere : Held s := held
        rw [and_iff_right heldHere]
        refine Iff.trans ?_ gate
        constructor
        · rintro ⟨t,entered,right⟩
          exact ⟨t,stepped.symm.trans entered,right.gate,right.sent,right.ended⟩
        · rintro ⟨t,entered,right⟩
          exact ⟨t,stepped.trans entered,right.gate,right.sent,right.ended⟩
      · refine iff_of_false ?_ fun held => lost held.1
        rintro ⟨t,entered,-⟩
        rw [stepped,gateLogin,none] at entered
        cases entered
    · rw [if_neg phase] at stepped
      exact iff_of_true ⟨_,stepped,clear_right s connection answers⟩ (.inr (.inl (Bool.eq_false_iff.mpr phase)))

theorem step_rightly (action : Action) : Rightly s action ↔ Orderly s action := by
  have status (connection : Nat) (old new : Status) (action : Action)
      (stepped : next s action = some (become connection old new s))
      (connects : ∀ connection, action ≠ .onConnection connection)
      (ends : ∀ connection answers, action ≠ .onDisconnect connection answers) : Rightly s action :=
    ⟨_,stepped,right_still s action _ (become_next s connection old new) connects ends⟩
  cases action with
  | login ip port token answers => exact login_rightly s ip port token answers
  | logout => exact logout_rightly s
  | comesUp connection | fails connection | goesDown connection | drains connection =>
    refine iff_of_true (status connection _ _ _ rfl ?_ ?_) trivial
    · intro other here
      cases here
    · intro other answers here
      cases here
  | onConnection connection => exact connection_rightly s sound connection
  | onData connection data => exact data_rightly s connection data
  | onDisconnect connection answers => exact disconnect_rightly s sound connection answers

end

theorem step_sound (s : World) (action : Action) (sound : Sound s) : Sound (step s action) := by
  rw [step]
  cases stepped : next s action with
  | none => exact sound
  | some t => exact next_sound s sound action t stepped

theorem initial_sound : Sound initial where
  gate := rfl
  token := rfl
  told _ _ _ none := by cases none
  heard _ _ _ told := by cases told
  roles _ _ login := by cases login

/-- The client goes on to the gate as it should, and comes back to the beginning otherwise, exactly in the runs that
are orderly. -/
theorem client_logins_iff (actions : List Action) :
    Guarded step Rightly initial actions ↔ Guarded step Orderly initial actions :=
  guarded_congr step Orderly Rightly Sound (fun s action sound _ => step_sound s action sound)
    (fun s action sound => step_rightly s sound action) initial actions initial_sound

/-- The login server goes away before it says anything: the client opens a connection to 0.0.0.0 and port 0. -/
theorem client_logins_lost :
    let user : Action := .login 16777343 9000 ⟨[97],by decide⟩ ⟨some true,true⟩
    let up := [user,.comesUp 0,.onConnection 0,.goesDown 0,.drains 0]
    let lost : Action := .onDisconnect 0 ⟨some true,true⟩
    ¬ Guarded step Rightly initial (up ++ [lost]) ∧
      (((run step initial (up ++ [lost])).connections 1).role,((run step initial (up ++ [lost])).connections 1).ip,
        ((run step initial (up ++ [lost])).connections 1).port) = (.gate (some 0),0,0) := by
  refine ⟨fun guarded => ?_,rfl⟩
  obtain ⟨-,⟨t,stepped,right⟩,-⟩ := guarded_append step Rightly initial _ _ [] guarded
  cases stepped
  obtain ⟨n,-,told,-⟩ := right.gate (some 0) (by decide) rfl
  cases told

end Fantuan.ClientBase.ClientLogins
