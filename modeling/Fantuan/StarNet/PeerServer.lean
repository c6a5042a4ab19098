import Fantuan.Lib.Run
import Mathlib.Logic.Function.Basic

/-! The connector of a peer, with the connections that it makes. The calls of GetConnId and the worker
take turns in any order; what the allocator and the system answer is given with each step. A receive of 0 bytes,
whose trace reads the acceptor that such a connection does not have, is left out.
-/
namespace Fantuan.StarNet.PeerServer
open Lib.Run

inductive State where
  | notConnect | connecting | connected | connectFailed | disconnected | destorying
  deriving DecidableEq

/-- How far a Connection has come. ConnectEx is posted where it is connecting, and DisconnectEx where it
is disconnecting. -/
inductive Phase where
  | connecting
  -- connected_ is 1, and SO_UPDATE_CONNECT_CONTEXT was refused: OnConnection is not called
  | unconfirmed
  | connected
  | disconnecting
  -- connected_ is 0, and DisconnectEx was refused
  | refused
  | disconnected
  deriving DecidableEq

/-- connected_ -/
def Phase.up : Phase → Bool
  | .unconfirmed | .connected => true
  | _ => false

/-- connections are those that are allocated, under the ids that are their addresses; waiting counts the
calls of GetConnId that are in its loop. -/
structure Link where
  connId : Nat
  state : State
  recvBufLen : Nat
  connections : Nat → Option Phase
  waiting : Nat

/-- Init. The memory of the connector may hold anything. -/
def init (connId recvBufLen : Nat) : Link := ⟨connId,.notConnect,recvBufLen,fun _ => none,0⟩

/-- create is where Connection::Create makes one, unless something fails in it, and iorefs what iorefs_
of m_ConnId is at that time. -/
structure Answers where
  create : Option Nat
  connectEx : Bool
  iorefs : Nat

def Link.put (connection : Nat) (phase : Option Phase) (s : Link) : Link :=
  {s with connections := Function.update s.connections connection phase}

/-- Connection::Connect, which deletes what it has made where ConnectEx is refused. -/
def connect (answers : Answers) (s : Link) : Bool × Link :=
  match answers.create with
  | some connection => if answers.connectEx then (true,s.put connection (some .connecting)) else (false,s)
  | none => (false,s)

/-- Connection::Close, where acceptor_ is null. -/
def close (connection iorefs : Nat) (s : Link) : Link :=
  match s.connections connection with
  | some phase => if iorefs ≠ 0 ∨ phase.up = true then s else s.put connection none
  | none => s

def asyncDisconnect (connection : Nat) (disconnectEx : Bool) (s : Link) : Link :=
  match s.connections connection with
  | some phase =>
    if phase.up then s.put connection (some (if disconnectEx then .disconnecting else .refused)) else s
  | none => s

inductive Call where
  | returns (connId : Option Nat)
  | waits
  deriving DecidableEq

def getConnId (answers : Answers) (s : Link) : Call × Link :=
  match s.state with
  | .connected => (.returns (some s.connId),s)
  | .disconnected => (.returns none,{close s.connId answers.iorefs s with state := .notConnect})
  | .notConnect =>
    let (posted,tried) := connect answers {s with state := .connecting}
    if posted then (.waits,{tried with waiting := tried.waiting + 1})
    else (.returns none,{tried with state := .notConnect})
  -- the switch has no case for these
  | .connecting | .connectFailed | .destorying => (.returns none,s)

/-- A call in the loop looks at the state again. -/
def wake (s : Link) : Call × Link :=
  match s.state with
  | .connecting => (.waits,s)
  | .connected => (.returns (some s.connId),{s with waiting := s.waiting - 1})
  | _ => (.returns none,{s with waiting := s.waiting - 1})

def onConnection (connId : Nat) (s : Link) : Link :=
  {s with connId := connId, state := .connected, recvBufLen := 0}

def onDisconnect (s : Link) : Link := {s with state := .disconnected}

def onConnectFailed (answers : Answers) (s : Link) : Link :=
  match s.state with
  | .destorying => {s with state := .notConnect}
  | .connecting => {s with state := .connectFailed}
  | _ =>
    let (posted,tried) := connect answers s
    if posted then tried else {tried with state := .notConnect}

/-- bResult is that of the completion port; received says that a context is popped and WSARecv posted. -/
structure Completion where
  bResult : Bool
  setsockopt : Bool
  received : Bool
  disconnectEx : Bool
  answers : Answers

def operationConnect (connection : Nat) (done : Completion) (s : Link) : Link :=
  if done.bResult then
    if done.setsockopt then
      let made := onConnection connection (s.put connection (some .connected))
      if done.received then made else asyncDisconnect connection done.disconnectEx made
    else s.put connection (some .unconfirmed)
  else close connection 0 (onConnectFailed done.answers s)

/-- The worker's OPERATION_DISCONNECT, once iorefs_ is 0. -/
def operationDisconnect (connection : Nat) (s : Link) : Link :=
  onDisconnect (s.put connection (some .disconnected))

inductive Event where
  | getConnId (answers : Answers)
  | wake
  | operationConnect (connection : Nat) (done : Completion)
  | asyncDisconnect (connection : Nat) (disconnectEx : Bool)
  | operationDisconnect (connection : Nat)

def step (s : Link) : Event → Link
  | .getConnId answers => (getConnId answers s).2
  | .wake => (wake s).2
  | .operationConnect connection done => operationConnect connection done s
  | .asyncDisconnect connection disconnectEx => asyncDisconnect connection disconnectEx s
  | .operationDisconnect connection => operationDisconnect connection s

def call (s : Link) : Event → Option Call
  | .getConnId answers => some (getConnId answers s).1
  | .wake => some (wake s).1
  | _ => none

/-- The allocator hands out memory that is free. -/
def Fresh (s : Link) (answers : Answers) : Prop :=
  ∀ connection ∈ answers.create, s.connections connection = none

/-- The worker completes what is posted, and a connection is asked to disconnect by those that OnConnection
has told of it. -/
def Enabled (s : Link) : Event → Prop
  | .getConnId answers => Fresh s answers
  | .wake => 0 < s.waiting
  | .operationConnect connection done =>
    s.connections connection = some .connecting ∧ Fresh s done.answers
  | .asyncDisconnect connection _ => s.connections connection = some .connected
  | .operationDisconnect connection => s.connections connection = some .disconnecting

instance decidableEnabled (s : Link) : DecidablePred (Enabled s)
  | .getConnId answers => inferInstanceAs (Decidable (∀ connection ∈ answers.create, _))
  | .wake => inferInstanceAs (Decidable (_ < _))
  | .operationConnect _ done =>
    inferInstanceAs (Decidable (_ ∧ ∀ connection ∈ done.answers.create, _))
  | .asyncDisconnect _ _ => inferInstanceAs (Decidable (_ = _))
  | .operationDisconnect _ => inferInstanceAs (Decidable (_ = _))

/-- A call of GetConnId returns the id of a connection that is up, or posts a new attempt where the system
lets it. -/
def Gains (s : Link) : Prop :=
  ∀ answers : Answers,
    (∃ connection, (getConnId answers s).1 = .returns (some connection) ∧
      s.connections connection = some .connected) ∨
    (answers.connectEx = true → ∀ connection ∈ answers.create,
      (getConnId answers s).2.connections connection = some .connecting)

/-- Finitely many calls lead to one that gains, whatever they are answered. What is posted by then may be
completed in between. -/
inductive Recovers : Link → Prop where
  | gains (s : Link) (now : Gains s) : Recovers s
  | calls (s : Link) (next : ∀ answers, Fresh s answers → Recovers (getConnId answers s).2) : Recovers s
  | connects (s : Link) (connection : Nat) (done : Completion)
      (enabled : Enabled s (.operationConnect connection done))
      (next : Recovers (operationConnect connection done s)) : Recovers s
  | disconnects (s : Link) (connection : Nat) (enabled : Enabled s (.operationDisconnect connection))
      (next : Recovers (operationDisconnect connection s)) : Recovers s

/-- No id that is returned is that of a connection that has been closed. -/
def Open (s : Link) (event : Event) : Prop :=
  ∀ connection, call s event = some (.returns (some connection)) → s.connections connection ≠ none

/-- No attempt fails while the connector waits for it or is left unconfirmed, and DisconnectEx is not
refused. -/
def Lossless (s : Link) : Event → Prop
  | .operationConnect _ done =>
    if done.bResult then done.setsockopt = true ∧ (done.received = true ∨ done.disconnectEx = true)
    else s.state ≠ .connecting
  | .asyncDisconnect _ disconnectEx => disconnectEx = true
  | _ => True

def Idle (connections : Nat → Option Phase) : Prop :=
  ∀ other phase, connections other = some phase → phase = .disconnected

/-- The connections but one have been disconnected. -/
def Only (connection : Nat) (phase : Phase) (connections : Nat → Option Phase) : Prop :=
  connections connection = some phase ∧
    ∀ other found, connections other = some found → other = connection ∨ found = .disconnected

inductive Sound : Link → Prop where
  | notConnect (s : Link) (state : s.state = .notConnect) (idle : Idle s.connections) : Sound s
  | connecting (s : Link) (state : s.state = .connecting) (connection : Nat)
      (only : Only connection .connecting s.connections) : Sound s
  | connected (s : Link) (state : s.state = .connected)
      (only : Only s.connId .connected s.connections) : Sound s
  | disconnecting (s : Link) (state : s.state = .connected)
      (only : Only s.connId .disconnecting s.connections) : Sound s
  | disconnected (s : Link) (state : s.state = .disconnected)
      (last : s.connections s.connId = some .disconnected) (idle : Idle s.connections) : Sound s

inductive Dead : Link → Prop where
  | connectFailed (s : Link) (state : s.state = .connectFailed) (idle : Idle s.connections) : Dead s
  | unconfirmed (s : Link) (state : s.state = .connecting) (connection : Nat)
      (only : Only connection .unconfirmed s.connections) : Dead s
  | refused (s : Link) (state : s.state = .connected)
      (only : Only s.connId .refused s.connections) : Dead s

theorem idle_not (connections : Nat → Option Phase) (idle : Idle connections) (connection : Nat)
    (phase : Phase) (busy : phase ≠ .disconnected) : connections connection ≠ some phase :=
  fun found => busy (idle connection phase found)

theorem only_eq (connections : Nat → Option Phase) (connection other : Nat) (phase found : Phase)
    (only : Only connection phase connections) (busy : found ≠ .disconnected)
    (here : connections other = some found) : other = connection ∧ found = phase := by
  obtain rfl | gone := only.2 other found here
  · exact ⟨rfl,Option.some.inj (here.symm.trans only.1)⟩
  · exact absurd gone busy

theorem idle_put (connections : Nat → Option Phase) (idle : Idle connections) (connection : Nat)
    (phase : Phase) : Only connection phase (Function.update connections connection (some phase)) := by
  refine ⟨Function.update_self ..,fun other found here => ?_⟩
  by_cases same : other = connection
  · exact .inl same
  · rw [Function.update_of_ne same] at here
    exact .inr (idle other found here)

theorem only_put (connections : Nat → Option Phase) (connection : Nat) (phase next : Phase)
    (only : Only connection phase connections) :
    Only connection next (Function.update connections connection (some next)) := by
  refine ⟨Function.update_self ..,fun other found here => ?_⟩
  by_cases same : other = connection
  · exact .inl same
  · rw [Function.update_of_ne same] at here
    exact only.2 other found here

theorem only_end (connections : Nat → Option Phase) (connection : Nat) (phase : Phase)
    (last : Option Phase) (only : Only connection phase connections)
    (ended : ∀ found ∈ last, found = .disconnected) :
    Idle (Function.update connections connection last) := by
  intro other found here
  by_cases same : other = connection
  · rw [same,Function.update_self] at here
    exact ended found here
  · rw [Function.update_of_ne same] at here
    exact (only.2 other found here).resolve_left same

theorem idle_close (connection iorefs : Nat) (s : Link) (idle : Idle s.connections) :
    Idle (close connection iorefs s).connections := by
  unfold close
  cases found : s.connections connection with
  | none => exact idle
  | some phase =>
    dsimp only
    split
    · exact idle
    · intro other phase here
      by_cases same : other = connection
      · rw [same] at here
        change Function.update s.connections connection none connection = some phase at here
        rw [Function.update_self] at here
        cases here
      · change Function.update s.connections connection none other = some phase at here
        rw [Function.update_of_ne same] at here
        exact idle other phase here

theorem getConnId_sound (answers : Answers) (s : Link) (sound : Sound s) : Sound (getConnId answers s).2 := by
  unfold getConnId
  cases sound with
  | notConnect state idle =>
    rw [state]
    obtain ⟨create,connectEx,iorefs⟩ := answers
    cases create with
    | none => exact .notConnect _ rfl idle
    | some connection =>
      cases connectEx with
      | false => exact .notConnect _ rfl idle
      | true => exact .connecting _ rfl connection (idle_put s.connections idle connection .connecting)
  | connecting state connection only =>
    rw [state]
    exact .connecting s state connection only
  | connected state only =>
    rw [state]
    exact .connected s state only
  | disconnecting state only =>
    rw [state]
    exact .disconnecting s state only
  | disconnected state last idle =>
    rw [state]
    exact .notConnect _ rfl (idle_close s.connId answers.iorefs s idle)

theorem getConnId_dead (answers : Answers) (s : Link) (dead : Dead s) : (getConnId answers s).2 = s := by
  unfold getConnId
  cases dead with
  | connectFailed state idle => rw [state]
  | unconfirmed state connection only => rw [state]
  | refused state only => rw [state]

theorem wake_sound (s : Link) (sound : Sound s) : Sound (wake s).2 := by
  unfold wake
  cases sound with
  | notConnect state idle =>
    rw [state]
    exact .notConnect _ rfl idle
  | connecting state connection only =>
    rw [state]
    exact .connecting s state connection only
  | connected state only =>
    rw [state]
    exact .connected _ rfl only
  | disconnecting state only =>
    rw [state]
    exact .disconnecting _ rfl only
  | disconnected state last idle =>
    rw [state]
    exact .disconnected _ rfl last idle

theorem wake_dead (s : Link) (dead : Dead s) : Dead (wake s).2 := by
  unfold wake
  cases dead with
  | connectFailed state idle =>
    rw [state]
    exact .connectFailed _ rfl idle
  | unconfirmed state connection only =>
    rw [state]
    exact .unconfirmed s state connection only
  | refused state only =>
    rw [state]
    exact .refused _ rfl only

theorem sound_busy (s : Link) (sound : Sound s) (connection : Nat) (phase : Phase)
    (busy : phase ≠ .disconnected) (found : s.connections connection = some phase) :
    Only connection phase s.connections ∧
      s.state = (if phase = .connecting then .connecting else .connected) ∧
      (phase ≠ .connecting → connection = s.connId) := by
  cases sound with
  | notConnect _ idle | disconnected _ _ idle => exact absurd found (idle_not _ idle _ _ busy)
  | connecting state line only =>
    obtain ⟨rfl,rfl⟩ := only_eq _ _ _ _ _ only busy found
    exact ⟨only,state,fun other => absurd rfl other⟩
  | connected state only | disconnecting state only =>
    obtain ⟨rfl,rfl⟩ := only_eq _ _ _ _ _ only busy found
    exact ⟨only,state,fun _ => rfl⟩

theorem dead_phase (s : Link) (dead : Dead s) (connection : Nat) (phase : Phase)
    (found : s.connections connection = some phase) :
    phase = .disconnected ∨ phase = .unconfirmed ∨ phase = .refused := by
  cases dead with
  | connectFailed _ idle => exact .inl (idle connection phase found)
  | unconfirmed _ line only =>
    obtain rfl | gone := only.2 connection phase found
    · exact .inr (.inl (Option.some.inj (found.symm.trans only.1)))
    · exact .inl gone
  | refused _ only =>
    obtain rfl | gone := only.2 connection phase found
    · exact .inr (.inr (Option.some.inj (found.symm.trans only.1)))
    · exact .inl gone

theorem asyncDisconnect_connected (s : Link) (disconnectEx : Bool) (state : s.state = .connected)
    (only : Only s.connId .connected s.connections) :
    (disconnectEx = true → Sound (asyncDisconnect s.connId disconnectEx s)) ∧
      (disconnectEx = false → Dead (asyncDisconnect s.connId disconnectEx s)) := by
  unfold asyncDisconnect
  rw [only.1]
  constructor
  · rintro rfl
    exact .disconnecting _ state (only_put _ _ _ _ only)
  · rintro rfl
    exact .refused _ state (only_put _ _ _ _ only)

theorem operationConnect_sound (s : Link) (connection : Nat) (done : Completion) (sound : Sound s)
    (attempt : s.connections connection = some .connecting) :
    (Lossless s (.operationConnect connection done) → Sound (operationConnect connection done s)) ∧
      (¬ Lossless s (.operationConnect connection done) → Dead (operationConnect connection done s)) := by
  obtain ⟨only,state,-⟩ := sound_busy s sound connection _ (by decide) attempt
  rw [if_pos rfl] at state
  obtain ⟨bResult,setsockopt,received,disconnectEx,answers⟩ := done
  unfold operationConnect Lossless
  cases bResult with
  | false =>
    constructor
    · intro waits
      exact absurd state waits
    · intro _
      have failed : onConnectFailed answers s = {s with state := .connectFailed} := by
        rw [onConnectFailed,state]
      have closed : close connection 0 {s with state := .connectFailed} =
          Link.put connection none {s with state := .connectFailed} := by
        rw [close,attempt]
        rfl
      change Dead (close connection 0 (onConnectFailed answers s))
      rw [failed,closed]
      exact .connectFailed _ rfl (only_end _ _ _ _ only fun _ found => nomatch found)
  | true =>
    cases setsockopt with
    | false =>
      exact ⟨fun told => (nomatch told.1),fun _ => .unconfirmed _ state connection (only_put _ _ _ _ only)⟩
    | true =>
      have up := only_put s.connections connection .connecting .connected only
      cases received with
      | true =>
        exact ⟨fun _ => .connected _ rfl up,fun lost => absurd ⟨rfl,.inl rfl⟩ lost⟩
      | false =>
        obtain ⟨kept,lost⟩ := asyncDisconnect_connected
          (onConnection connection (s.put connection (some .connected))) disconnectEx rfl up
        constructor
        · intro told
          exact kept (told.2.resolve_left Bool.false_ne_true)
        · intro loses
          apply lost
          cases disconnectEx with
          | false => rfl
          | true => exact absurd ⟨rfl,.inr rfl⟩ loses

theorem step_sound (s : Link) (event : Event) (sound : Sound s) (enabled : Enabled s event) :
    (Lossless s event → Sound (step s event)) ∧ (¬ Lossless s event → Dead (step s event)) := by
  cases event with
  | getConnId answers => exact ⟨fun _ => getConnId_sound answers s sound,fun lost => absurd trivial lost⟩
  | wake => exact ⟨fun _ => wake_sound s sound,fun lost => absurd trivial lost⟩
  | operationConnect connection done => exact operationConnect_sound s connection done sound enabled.1
  | asyncDisconnect connection disconnectEx =>
    obtain ⟨only,state,own⟩ := sound_busy s sound connection _ (by decide) enabled
    obtain rfl := own (by decide)
    obtain ⟨kept,lost⟩ := asyncDisconnect_connected s disconnectEx state only
    exact ⟨kept,fun loses => lost (Bool.eq_false_iff.mpr loses)⟩
  | operationDisconnect connection =>
    obtain ⟨only,-,own⟩ := sound_busy s sound connection _ (by decide) enabled
    obtain rfl := own (by decide)
    refine ⟨fun _ => .disconnected _ rfl (Function.update_self ..) ?_,fun lost => absurd trivial lost⟩
    exact only_end _ _ _ _ only fun _ found => (Option.some.inj found).symm

theorem step_dead (s : Link) (event : Event) (dead : Dead s) (enabled : Enabled s event) :
    Dead (step s event) := by
  cases event with
  | getConnId answers =>
    change Dead (getConnId answers s).2
    rw [getConnId_dead answers s dead]
    exact dead
  | wake => exact wake_dead s dead
  | operationConnect connection done =>
    obtain gone | gone | gone := dead_phase s dead connection _ enabled.1 <;> cases gone
  | asyncDisconnect connection disconnectEx =>
    obtain gone | gone | gone := dead_phase s dead connection _ enabled <;> cases gone
  | operationDisconnect connection =>
    obtain gone | gone | gone := dead_phase s dead connection _ enabled <;> cases gone

theorem recovers_notConnect (s : Link) (state : s.state = .notConnect) : Recovers s := by
  refine .gains s fun answers => .inr fun accepted connection made => ?_
  obtain ⟨create,connectEx,iorefs⟩ := answers
  obtain rfl : create = some connection := made
  obtain rfl : connectEx = true := accepted
  rw [getConnId,state]
  exact Function.update_self ..

theorem recovers_connected (s : Link) (state : s.state = .connected)
    (up : s.connections s.connId = some .connected) : Recovers s := by
  refine .gains s fun answers => .inl ⟨s.connId,?_,up⟩
  rw [getConnId,state]

theorem recovers_disconnected (s : Link) (state : s.state = .disconnected) : Recovers s := by
  refine .calls s fun answers _ => recovers_notConnect _ ?_
  rw [getConnId,state]

theorem sound_recovers (s : Link) (sound : Sound s) : Recovers s := by
  cases sound with
  | notConnect state _ => exact recovers_notConnect s state
  | connecting _ connection only =>
    refine .connects s connection ⟨true,true,true,true,none,true,0⟩ ⟨only.1,fun _ found => nomatch found⟩ ?_
    exact recovers_connected _ rfl (Function.update_self ..)
  | connected state only => exact recovers_connected s state only.1
  | disconnecting _ only => exact .disconnects s s.connId only.1 (recovers_disconnected _ rfl)
  | disconnected state _ _ => exact recovers_disconnected s state

theorem dead_not (s : Link) (dead : Dead s) (connection : Nat) (phase : Phase)
    (under : phase = .connecting ∨ phase = .connected ∨ phase = .disconnecting) :
    s.connections connection ≠ some phase := by
  intro found
  obtain rfl | rfl | rfl := dead_phase s dead connection phase found <;>
    obtain other | other | other := under <;> cases other

theorem recovers_not_dead (s : Link) (recovers : Recovers s) : ¬ Dead s := by
  induction recovers with
  | gains s now =>
    intro dead
    obtain ⟨connection,-,up⟩ | posts := now ⟨some 0,true,0⟩
    · exact dead_not s dead connection _ (.inr (.inl rfl)) up
    · have posted := posts rfl 0 rfl
      rw [getConnId_dead _ s dead] at posted
      exact dead_not s dead 0 _ (.inl rfl) posted
  | calls s _ ih =>
    intro dead
    apply ih ⟨none,false,0⟩ (fun _ found => nomatch found)
    rw [getConnId_dead _ s dead]
    exact dead
  | connects s connection done enabled _ _ => exact fun dead => dead_not s dead connection _ (.inl rfl) enabled.1
  | disconnects s connection enabled _ _ =>
    exact fun dead => dead_not s dead connection _ (.inr (.inr rfl)) enabled

theorem init_sound (connId recvBufLen : Nat) : Sound (init connId recvBufLen) :=
  .notConnect _ rfl fun _ _ found => nomatch found

theorem call_returns (s : Link) (event : Event) (connection : Nat)
    (returned : call s event = some (.returns (some connection))) :
    s.state = .connected ∧ connection = s.connId := by
  cases event with
  | getConnId answers =>
    have here := Option.some.inj returned
    unfold getConnId at here
    cases state : s.state with
    | connected =>
      rw [state] at here
      cases here
      exact ⟨rfl,rfl⟩
    | notConnect =>
      rw [state] at here
      dsimp only at here
      split at here <;> cases here
    | _ =>
      rw [state] at here
      cases here
  | wake =>
    have here := Option.some.inj returned
    unfold wake at here
    cases state : s.state with
    | connected =>
      rw [state] at here
      cases here
      exact ⟨rfl,rfl⟩
    | _ =>
      rw [state] at here
      cases here
  | _ => cases returned

theorem step_kept (s : Link) (event : Event) (kept : Sound s ∨ Dead s) (enabled : Enabled s event) :
    Sound (step s event) ∨ Dead (step s event) := by
  obtain sound | dead := kept
  · obtain ⟨keeps,loses⟩ := step_sound s event sound enabled
    by_cases lossless : Lossless s event
    · exact .inl (keeps lossless)
    · exact .inr (loses lossless)
  · exact .inr (step_dead s event dead enabled)

theorem kept_open (s : Link) (event : Event) (kept : Sound s ∨ Dead s) : Open s event := by
  intro connection returned gone
  obtain ⟨state,rfl⟩ := call_returns s event connection returned
  obtain ⟨_,found⟩ : ∃ phase, s.connections s.connId = some phase := by
    obtain sound | dead := kept
    · cases sound with
      | connected _ only => exact ⟨_,only.1⟩
      | disconnecting _ only => exact ⟨_,only.1⟩
      | notConnect other _ | connecting other _ _ | disconnected other _ _ => cases state.symm.trans other
    · cases dead with
      | refused _ only => exact ⟨_,only.1⟩
      | connectFailed other _ | unconfirmed other _ _ => cases state.symm.trans other
  cases found.symm.trans gone

theorem step_recovers_iff (s : Link) (event : Event) (sound : Sound s) (enabled : Enabled s event) :
    Recovers (step s event) ↔ Lossless s event := by
  obtain ⟨keeps,loses⟩ := step_sound s event sound enabled
  constructor
  · intro recovers
    by_contra lost
    exact recovers_not_dead _ recovers (loses lost)
  · intro lossless
    exact sound_recovers _ (keeps lossless)

/-- In any order of the calls and of what the worker completes, the connector recovers from every state and
returns no id that is closed, just as long as no attempt is lost and no disconnect refused. -/
theorem peerServer_recovers_iff (connId recvBufLen : Nat) (events : List Event)
    (enabled : Guarded step Enabled (init connId recvBufLen) events) :
    (Recovers (init connId recvBufLen) ∧
        Guarded step (fun s event => Recovers (step s event)) (init connId recvBufLen) events ∧
        Guarded step Open (init connId recvBufLen) events) ↔
      Guarded step Lossless (init connId recvBufLen) events := by
  have start := init_sound connId recvBufLen
  have recovers : Guarded step (fun s event => Recovers (step s event)) (init connId recvBufLen) events ↔
      Guarded step Lossless (init connId recvBufLen) events :=
    guarded_within step Enabled Lossless _ Sound
      (fun s event sound enabled => (step_sound s event sound enabled).1) step_recovers_iff _ events enabled start
  have opens : Guarded step Open (init connId recvBufLen) events :=
    guarded_invariant step Enabled Open (fun s => Sound s ∨ Dead s) step_kept
      (fun s event kept _ => kept_open s event kept) _ events enabled (.inl start)
  constructor
  · rintro ⟨-,always,-⟩
    exact recovers.mp always
  · intro lossless
    exact ⟨sound_recovers _ start,recovers.mpr lossless,opens⟩

/-- An attempt that succeeds, the disconnect, and a new attempt at the address of the connection closed. -/
def reconnects : List Event :=
  [.getConnId ⟨some 1,true,0⟩,.operationConnect 1 ⟨true,true,true,true,none,true,0⟩,.wake,
    .asyncDisconnect 1 true,.operationDisconnect 1,.getConnId ⟨none,true,0⟩,.getConnId ⟨some 1,true,0⟩]

theorem peerServer_recovers_reconnects :
    (Recovers (init 0 0) ∧ Guarded step (fun s event => Recovers (step s event)) (init 0 0) reconnects ∧
        Guarded step Open (init 0 0) reconnects) ↔ Guarded step Lossless (init 0 0) reconnects :=
  peerServer_recovers_iff 0 0 reconnects (by decide)

/-- GetConnId posts an attempt, which fails: every further call returns NULL and does nothing. -/
theorem peerServer_dead :
    let events : List Event := [.getConnId ⟨some 1,true,0⟩,.operationConnect 1 ⟨false,true,true,true,none,true,0⟩]
    let s := run step (init 0 0) events
    Guarded step Enabled (init 0 0) events ∧ s.state = .connectFailed ∧
      (∀ answers, getConnId answers s = (.returns none,s)) ∧ ¬ Recovers s ∧
      ¬ Guarded step (fun s event => Recovers (step s event)) (init 0 0) events := by
  intro events s
  have dead : Dead s := by
    refine .connectFailed s rfl fun other phase found => ?_
    by_cases same : other = 1
    · rw [same] at found
      cases found
    · change Function.update (Function.update (fun _ => none) 1 (some Phase.connecting)) 1 none other =
        some phase at found
      rw [Function.update_of_ne same,Function.update_of_ne same] at found
      cases found
  have lost : ¬ Recovers s := fun recovers => recovers_not_dead s recovers dead
  refine ⟨by decide,rfl,fun answers => rfl,lost,?_⟩
  intro all
  exact lost all.2.1

end Fantuan.StarNet.PeerServer
