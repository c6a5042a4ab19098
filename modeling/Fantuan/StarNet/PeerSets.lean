import Fantuan.Lib.Run
import Mathlib.Data.List.Nodup
import Mathlib.Logic.Function.Basic

/-! The registries of a server's peers: those that connect to it, and those that it connects to. An object
is the address of its memory, which holds anything when it is allocated.
-/
namespace Fantuan.StarNet.PeerSets
open Lib.Run

structure PeerClient where
  connId : Nat
  recvBufLen : Nat
  deriving DecidableEq

/-- client is client_ of the connections; connected are those that OnConnection has been told of, and
OnDisconnect not yet. -/
structure PeerClientSet where
  peerClients : List Nat
  memory : Nat → PeerClient
  client : Nat → Option Nat
  connected : List Nat

/-- The result, and what is pushed. -/
def addConnector (connector : Nat) (s : PeerClientSet) : Bool × PeerClientSet :=
  if s.peerClients.any fun other => (s.memory other).connId == (s.memory connector).connId then (false,s)
  else (true,{s with peerClients := s.peerClients ++ [connector]})

def deleteConnector (connId : Nat) (s : PeerClientSet) : PeerClientSet :=
  {s with peerClients := s.peerClients.eraseP fun other => (s.memory other).connId == connId}

/-- malloc is the address with the bytes that it holds. -/
def onConnection (connId : Nat) (malloc : Option (Nat × PeerClient)) (s : PeerClientSet) :
    Bool × PeerClientSet :=
  match malloc with
  | some (connector,bytes) =>
    let (added,next) := addConnector connector {s with memory := Function.update s.memory connector bytes}
    if added then
      (true,{next with
        memory := Function.update next.memory connector ⟨connId,0⟩
        client := Function.update next.client connId (some connector)})
    else (false,next)
  | none => (false,s)

/-- What is freed keeps its bytes. -/
def onDisconnect (connId : Nat) (s : PeerClientSet) : PeerClientSet :=
  match s.client connId with
  | some _ => deleteConnector connId s
  | none => s

structure SockAddr where
  addr : UInt32
  port : UInt16
  deriving DecidableEq

def htons (port : UInt16) : UInt16 := port <<< 8 ||| port >>> 8

structure Lookup where
  ip : UInt32
  port : UInt16
  malloc : Option Nat
  result : Option Nat

/-- created are the connectors that have been allocated. -/
structure PeerServerSet where
  peerServers : List Nat
  sockAddr : Nat → SockAddr
  created : List Nat
  lookups : List Lookup

def getPeerServer (ip : UInt32) (port : UInt16) (malloc : Option Nat) (s : PeerServerSet) :
    Option Nat × PeerServerSet :=
  match s.peerServers.find? fun connector =>
    (s.sockAddr connector).port == htons port && (s.sockAddr connector).addr == ip with
  | some connector => (some connector,s)
  | none =>
    match malloc with
    | some connector =>
      (some connector,{s with
        sockAddr := Function.update s.sockAddr connector ⟨ip,htons port⟩
        created := connector :: s.created})
    | none => (none,s)

/-- The destructor: the connectors that are destroyed and freed. -/
def destroyed (s : PeerServerSet) : List Nat := s.peerServers

structure Peers where
  clients : PeerClientSet
  servers : PeerServerSet

def init (memory : Nat → PeerClient) (sockAddr : Nat → SockAddr) : Peers :=
  ⟨⟨[],memory,fun _ => none,[]⟩,⟨[],sockAddr,[],[]⟩⟩

inductive Event where
  | onConnection (connId : Nat) (malloc : Option (Nat × PeerClient))
  | onDisconnect (connId : Nat)
  | getPeerServer (ip : UInt32) (port : UInt16) (malloc : Option Nat)

/-- A connection that is told of. Accept has set client_ to NULL. -/
def told (connId : Nat) (s : PeerClientSet) : PeerClientSet :=
  {s with client := Function.update s.client connId none, connected := connId :: s.connected}

def step (s : Peers) : Event → Peers
  | .onConnection connId malloc => {s with clients := (onConnection connId malloc (told connId s.clients)).2}
  | .onDisconnect connId =>
    let gone := onDisconnect connId s.clients
    {s with clients := {gone with connected := gone.connected.erase connId}}
  | .getPeerServer ip port malloc =>
    let (result,next) := getPeerServer ip port malloc s.servers
    {s with servers := {next with lookups := ⟨ip,port,malloc,result⟩ :: next.lookups}}

/-- A connection is not told of twice, and what is allocated has been free. -/
def Enabled (s : Peers) : Event → Prop
  | .onConnection connId malloc =>
    connId ∉ s.clients.connected ∧ ∀ memory ∈ malloc, memory.1 ∉ s.clients.peerClients
  | .onDisconnect connId => connId ∈ s.clients.connected
  | .getPeerServer _ _ malloc => ∀ connector ∈ malloc, connector ∉ s.servers.created

instance decidableEnabled (s : Peers) : DecidablePred (Enabled s)
  | .onConnection _ malloc => inferInstanceAs (Decidable (_ ∧ ∀ memory ∈ malloc, _))
  | .onDisconnect _ => inferInstanceAs (Decidable (_ ∈ _))
  | .getPeerServer _ _ malloc => inferInstanceAs (Decidable (∀ connector ∈ malloc, _))

/-- The registry holds each connected peer once, under the id of its connection. -/
def Exact (s : PeerClientSet) : Prop :=
  (s.peerClients.map fun client => (s.memory client).connId).Nodup ∧
    ∀ connId, connId ∈ s.connected ↔
      ∃ client ∈ s.peerClients, (s.memory client).connId = connId ∧ s.client connId = some client

def Accepts (s : Peers) : Event → Prop
  | .onConnection connId malloc => (onConnection connId malloc (told connId s.clients)).1 = true
  | _ => True

/-- The connector is that of every earlier call for the address. -/
def Same (s : Peers) : Event → Prop
  | .getPeerServer ip port malloc => ∀ earlier ∈ s.servers.lookups, earlier.ip = ip → earlier.port = port →
      earlier.result = (getPeerServer ip port malloc s.servers).1
  | _ => True

def DestroysAll (s : PeerServerSet) : Prop := ∀ connector ∈ s.created, connector ∈ destroyed s

/-- There is memory, and what it holds for m_ConnId is not the id of a peer that is registered. -/
def Clean (s : Peers) : Event → Prop
  | .onConnection _ malloc => ∃ memory ∈ malloc, ∀ client ∈ s.clients.peerClients,
      (s.clients.memory client).connId ≠ memory.2.connId
  | _ => True

/-- An address is asked for again only where there was no memory for it, and is none. -/
def Once (s : Peers) : Event → Prop
  | .getPeerServer ip port malloc => ∀ earlier ∈ s.servers.lookups, earlier.ip = ip → earlier.port = port →
      earlier.malloc = none ∧ malloc = none
  | _ => True

def creates : Event → Bool
  | .getPeerServer _ _ malloc => malloc.isSome
  | _ => false

structure Registered (s : PeerClientSet) : Prop where
  own : ∀ client ∈ s.peerClients,
    s.client (s.memory client).connId = some client ∧ (s.memory client).connId ∈ s.connected
  known : ∀ connId ∈ s.connected, ∀ client, s.client connId = some client →
    client ∈ s.peerClients ∧ (s.memory client).connId = connId
  addresses : s.peerClients.Nodup
  connections : s.connected.Nodup

theorem registered_ids (s : PeerClientSet) (registered : Registered s) :
    (s.peerClients.map fun client => (s.memory client).connId).Nodup := by
  refine registered.addresses.map_on fun first listed second other same => ?_
  have one := (registered.own first listed).1
  rw [same,(registered.own second other).1] at one
  exact (Option.some.inj one).symm

theorem exact_iff (s : PeerClientSet) (registered : Registered s) :
    Exact s ↔ ∀ connId ∈ s.connected, (s.client connId).isSome = true := by
  constructor
  · intro exact connId member
    obtain ⟨client,-,-,found⟩ := (exact.2 connId).mp member
    rw [found]
    rfl
  · intro clients
    refine ⟨registered_ids s registered,fun connId => ⟨fun member => ?_,?_⟩⟩
    · obtain ⟨client,found⟩ := Option.isSome_iff_exists.mp (clients connId member)
      obtain ⟨listed,same⟩ := registered.known connId member client found
      exact ⟨client,listed,same,found⟩
    · rintro ⟨client,listed,rfl,-⟩
      exact (registered.own client listed).2

theorem eraseP_distinct (clients : List Nat) (key : Nat → Nat) (distinct : (clients.map key).Nodup)
    (connId client : Nat) (kept : client ∈ clients.eraseP fun other => key other == connId) :
    key client ≠ connId := by
  induction clients with
  | nil => cases kept
  | cons first rest ih =>
    obtain ⟨new,others⟩ := List.nodup_cons.mp distinct
    rw [List.eraseP_cons] at kept
    by_cases same : key first = connId
    · rw [same,beq_self_eq_true,cond_true] at kept
      intro equal
      exact new (List.mem_map.mpr ⟨client,kept,equal.trans same.symm⟩)
    · rw [beq_eq_false_iff_ne.mpr same,cond_false] at kept
      obtain rfl | later := List.mem_cons.mp kept
      · exact same
      · exact ih others later

theorem told_refused (connId : Nat) (s : PeerClientSet) (memory : Nat → PeerClient)
    (registered : Registered s) (new : connId ∉ s.connected)
    (unchanged : ∀ client ∈ s.peerClients, memory client = s.memory client) :
    Registered {told connId s with memory := memory} := by
  refine ⟨fun client listed => ?_,fun other member client found => ?_,registered.addresses,
    List.nodup_cons.mpr ⟨new,registered.connections⟩⟩
  · change Function.update s.client connId none (memory client).connId = some client ∧
      (memory client).connId ∈ connId :: s.connected
    rw [unchanged client listed]
    obtain ⟨own,member⟩ := registered.own client listed
    have differs : (s.memory client).connId ≠ connId := fun same => new (same ▸ member)
    rw [Function.update_of_ne differs]
    exact ⟨own,List.mem_cons_of_mem _ member⟩
  · change Function.update s.client connId none other = some client at found
    change client ∈ s.peerClients ∧ (memory client).connId = other
    by_cases same : other = connId
    · rw [same,Function.update_self] at found
      cases found
    · rw [Function.update_of_ne same] at found
      obtain ⟨listed,own⟩ := registered.known other ((List.mem_cons.mp member).resolve_left same) client found
      rw [unchanged client listed]
      exact ⟨listed,own⟩

theorem told_accepted (connId connector : Nat) (s : PeerClientSet) (registered : Registered s)
    (new : connId ∉ s.connected) (free : connector ∉ s.peerClients) :
    Registered ⟨s.peerClients ++ [connector],Function.update s.memory connector ⟨connId,0⟩,
      Function.update s.client connId (some connector),connId :: s.connected⟩ := by
  have other_of : ∀ client ∈ s.peerClients, client ≠ connector := fun client listed same => free (same ▸ listed)
  refine ⟨fun client listed => ?_,fun other member client found => ?_,?_,
    List.nodup_cons.mpr ⟨new,registered.connections⟩⟩
  · dsimp only at listed ⊢
    obtain old | added := List.mem_append.mp listed
    · rw [Function.update_of_ne (other_of client old)]
      obtain ⟨own,member⟩ := registered.own client old
      have differs : (s.memory client).connId ≠ connId := fun same => new (same ▸ member)
      rw [Function.update_of_ne differs]
      exact ⟨own,List.mem_cons_of_mem _ member⟩
    · rw [List.mem_singleton.mp added,Function.update_self]
      exact ⟨Function.update_self ..,List.mem_cons_self⟩
  · dsimp only at member found ⊢
    by_cases same : other = connId
    · rw [same,Function.update_self] at found
      obtain rfl := Option.some.inj found
      rw [Function.update_self,same]
      exact ⟨List.mem_append_right _ (List.mem_singleton.mpr rfl),rfl⟩
    · rw [Function.update_of_ne same] at found
      obtain ⟨listed,own⟩ := registered.known other ((List.mem_cons.mp member).resolve_left same) client found
      rw [Function.update_of_ne (other_of client listed)]
      exact ⟨List.mem_append_left _ listed,own⟩
  · rw [List.nodup_append]
    refine ⟨registered.addresses,List.nodup_singleton connector,fun client listed added member => ?_⟩
    rw [List.mem_singleton.mp member]
    exact other_of client listed

theorem onConnection_cases (connId : Nat) (malloc : Option (Nat × PeerClient)) (s : PeerClientSet)
    (free : ∀ memory ∈ malloc, memory.1 ∉ s.peerClients) :
    ((∃ memory ∈ malloc, ∀ client ∈ s.peerClients, (s.memory client).connId ≠ memory.2.connId) ∧
      ∃ connector ∉ s.peerClients, onConnection connId malloc s =
        (true,⟨s.peerClients ++ [connector],Function.update s.memory connector ⟨connId,0⟩,
          Function.update s.client connId (some connector),s.connected⟩)) ∨
    ((¬ ∃ memory ∈ malloc, ∀ client ∈ s.peerClients, (s.memory client).connId ≠ memory.2.connId) ∧
      ∃ memory : Nat → PeerClient, onConnection connId malloc s = (false,{s with memory := memory}) ∧
        ∀ client ∈ s.peerClients, memory client = s.memory client) := by
  cases malloc with
  | none => exact .inr ⟨fun ⟨_,found,_⟩ => (nomatch found),s.memory,rfl,fun _ _ => rfl⟩
  | some given =>
    obtain ⟨connector,bytes⟩ := given
    have new := free _ rfl
    have kept : ∀ client ∈ s.peerClients, Function.update s.memory connector bytes client = s.memory client :=
      fun client listed => Function.update_of_ne (by rintro rfl; exact new listed) ..
    have test : (s.peerClients.any fun other => (Function.update s.memory connector bytes other).connId ==
        (Function.update s.memory connector bytes connector).connId) = true ↔
        ∃ client ∈ s.peerClients, (s.memory client).connId = bytes.connId := by
      rw [List.any_eq_true,Function.update_self]
      constructor
      · rintro ⟨client,listed,same⟩
        rw [kept client listed] at same
        exact ⟨client,listed,beq_iff_eq.mp same⟩
      · rintro ⟨client,listed,same⟩
        rw [← same,← kept client listed]
        exact ⟨client,listed,beq_self_eq_true _⟩
    unfold onConnection addConnector
    dsimp only
    by_cases taken : ∃ client ∈ s.peerClients, (s.memory client).connId = bytes.connId
    · rw [if_pos (test.mpr taken)]
      refine .inr ⟨?_,Function.update s.memory connector bytes,rfl,kept⟩
      rintro ⟨memory,found,distinct⟩
      obtain rfl := Option.some.inj found
      obtain ⟨client,listed,same⟩ := taken
      exact distinct client listed same
    · rw [if_neg (fun any => taken (test.mp any))]
      refine .inl ⟨⟨(connector,bytes),rfl,fun client listed same => taken ⟨client,listed,same⟩⟩,connector,new,?_⟩
      dsimp only
      rw [if_pos rfl,Function.update_idem]

theorem onConnection_step (s : PeerClientSet) (connId : Nat) (malloc : Option (Nat × PeerClient))
    (registered : Registered s) (new : connId ∉ s.connected)
    (free : ∀ memory ∈ malloc, memory.1 ∉ s.peerClients) :
    Registered (onConnection connId malloc (told connId s)).2 ∧
      (Exact s → ((onConnection connId malloc (told connId s)).1 = true ∧
          Exact (onConnection connId malloc (told connId s)).2 ↔
        ∃ memory ∈ malloc, ∀ client ∈ s.peerClients, (s.memory client).connId ≠ memory.2.connId)) := by
  obtain ⟨clean,connector,unused,accepts⟩ | ⟨stale,memory,refuses,unchanged⟩ :=
    onConnection_cases connId malloc (told connId s) free
  · rw [accepts]
    dsimp only [told]
    rw [Function.update_idem]
    have next := told_accepted connId connector s registered new unused
    refine ⟨next,fun exact => ⟨fun _ => clean,fun _ => ⟨rfl,(exact_iff _ next).mpr fun other member => ?_⟩⟩⟩
    change (Function.update s.client connId (some connector) other).isSome = true
    by_cases same : other = connId
    · rw [same,Function.update_self]
      rfl
    · rw [Function.update_of_ne same]
      exact (exact_iff s registered).mp exact other ((List.mem_cons.mp member).resolve_left same)
  · rw [refuses]
    refine ⟨told_refused connId s memory registered new unchanged,fun _ => ⟨fun both => ?_,fun clean => ?_⟩⟩
    · cases both.1
    · exact absurd clean stale

theorem onDisconnect_step (s : PeerClientSet) (connId : Nat) (registered : Registered s) :
    let next : PeerClientSet := {onDisconnect connId s with connected := (onDisconnect connId s).connected.erase connId}
    Registered next ∧ (Exact s → Exact next) := by
  intro next
  have fields : next.memory = s.memory ∧ next.client = s.client ∧ next.connected = s.connected.erase connId := by
    dsimp only [next]
    unfold onDisconnect
    cases s.client connId <;> exact ⟨rfl,rfl,rfl⟩
  obtain ⟨memory,clients,connected⟩ := fields
  have member : ∀ other, other ∈ next.connected ↔ other ≠ connId ∧ other ∈ s.connected := by
    intro other
    rw [connected]
    exact registered.connections.mem_erase_iff
  have listed : ∀ client, client ∈ next.peerClients ↔ client ∈ s.peerClients ∧ (s.memory client).connId ≠ connId := by
    intro client
    dsimp only [next]
    unfold onDisconnect
    cases found : s.client connId with
    | none =>
      refine ⟨fun old => ⟨old,fun same => ?_⟩,fun both => both.1⟩
      have own := (registered.own client old).1
      rw [same,found] at own
      cases own
    | some own =>
      constructor
      · intro kept
        exact ⟨List.mem_of_mem_eraseP kept,eraseP_distinct s.peerClients _ (registered_ids s registered) _ _ kept⟩
      · rintro ⟨old,differs⟩
        have other : ¬ ((s.memory client).connId == connId) = true := fun same => differs (beq_iff_eq.mp same)
        exact (List.mem_eraseP_of_neg (p := fun other => (s.memory other).connId == connId) other).mpr old
  have sublist : next.peerClients.Sublist s.peerClients := by
    dsimp only [next]
    unfold onDisconnect
    cases s.client connId with
    | none => exact List.Sublist.refl _
    | some _ => exact List.eraseP_sublist
  have kept : Registered next := by
    refine ⟨fun client here => ?_,fun other here client found => ?_,registered.addresses.sublist sublist,?_⟩
    · obtain ⟨old,differs⟩ := (listed client).mp here
      obtain ⟨own,told⟩ := registered.own client old
      rw [memory,clients]
      exact ⟨own,(member _).mpr ⟨differs,told⟩⟩
    · obtain ⟨differs,old⟩ := (member other).mp here
      rw [clients] at found
      obtain ⟨entered,own⟩ := registered.known other old client found
      rw [memory]
      exact ⟨(listed client).mpr ⟨entered,own ▸ differs⟩,own⟩
    · rw [connected]
      exact registered.connections.erase connId
  refine ⟨kept,fun exact => (exact_iff next kept).mpr fun other here => ?_⟩
  rw [clients]
  exact (exact_iff s registered).mp exact other ((member other).mp here).2

theorem step_registered (s : Peers) (event : Event) (registered : Registered s.clients)
    (enabled : Enabled s event) : Registered (step s event).clients := by
  cases event with
  | onConnection connId malloc =>
    exact (onConnection_step s.clients connId malloc registered enabled.1 enabled.2).1
  | onDisconnect connId => exact (onDisconnect_step s.clients connId registered).1
  | getPeerServer ip port malloc => exact registered

theorem step_exact_iff (s : Peers) (event : Event) (registered : Registered s.clients)
    (exact : Exact s.clients) (enabled : Enabled s event) :
    (Accepts s event ∧ Exact (step s event).clients) ↔ Clean s event := by
  cases event with
  | onConnection connId malloc =>
    exact (onConnection_step s.clients connId malloc registered enabled.1 enabled.2).2 exact
  | onDisconnect connId =>
    exact ⟨fun _ => trivial,fun _ => ⟨trivial,(onDisconnect_step s.clients connId registered).2 exact⟩⟩
  | getPeerServer ip port malloc => exact ⟨fun _ => trivial,fun _ => ⟨trivial,exact⟩⟩

structure Unrecorded (s : PeerServerSet) : Prop where
  none : s.peerServers = []
  made : ∀ lookup ∈ s.lookups, lookup.result = lookup.malloc ∧
    ∀ connector ∈ lookup.malloc, connector ∈ s.created

theorem getPeerServer_unrecorded (ip : UInt32) (port : UInt16) (malloc : Option Nat) (s : PeerServerSet)
    (unrecorded : Unrecorded s) :
    (getPeerServer ip port malloc s).1 = malloc ∧
      (getPeerServer ip port malloc s).2.peerServers = [] ∧
      (getPeerServer ip port malloc s).2.created = malloc.toList ++ s.created ∧
      (getPeerServer ip port malloc s).2.lookups = s.lookups := by
  unfold getPeerServer
  rw [unrecorded.none]
  cases malloc with
  | none => exact ⟨rfl,unrecorded.none,rfl,rfl⟩
  | some _ => exact ⟨rfl,rfl,rfl,rfl⟩

theorem step_unrecorded (s : Peers) (event : Event) (unrecorded : Unrecorded s.servers) :
    Unrecorded (step s event).servers := by
  cases event with
  | getPeerServer ip port malloc =>
    obtain ⟨result,servers,created,lookups⟩ := getPeerServer_unrecorded ip port malloc s.servers unrecorded
    refine ⟨servers,fun lookup member => ?_⟩
    change lookup ∈ (⟨ip,port,malloc,_⟩ :: (getPeerServer ip port malloc s.servers).2.lookups : List Lookup) at member
    change _ ∧ ∀ connector ∈ lookup.malloc, connector ∈ (getPeerServer ip port malloc s.servers).2.created
    rw [created]
    obtain rfl | earlier := List.mem_cons.mp member
    · exact ⟨result,fun connector here => List.mem_append_left _ (Option.mem_toList.mpr here)⟩
    · rw [lookups] at earlier
      obtain ⟨same,made⟩ := unrecorded.made lookup earlier
      exact ⟨same,fun connector here => List.mem_append_right _ (made connector here)⟩
  | _ => exact unrecorded

theorem same_iff (s : Peers) (event : Event) (unrecorded : Unrecorded s.servers) (enabled : Enabled s event) :
    Same s event ↔ Once s event := by
  cases event with
  | getPeerServer ip port malloc =>
    have result := (getPeerServer_unrecorded ip port malloc s.servers unrecorded).1
    change (∀ earlier ∈ s.servers.lookups, earlier.ip = ip → earlier.port = port →
      earlier.result = (getPeerServer ip port malloc s.servers).1) ↔ _
    rw [result]
    constructor
    · intro same earlier member ip port
      have equal := same earlier member ip port
      obtain ⟨returned,made⟩ := unrecorded.made earlier member
      rw [returned] at equal
      cases malloc with
      | none => exact ⟨equal,rfl⟩
      | some connector => exact absurd (made connector equal) (enabled connector rfl)
    · intro once earlier member ip port
      obtain ⟨first,second⟩ := once earlier member ip port
      rw [(unrecorded.made earlier member).1,first,second]
  | _ => exact Iff.rfl

theorem created_iff (s : Peers) (events : List Event) (unrecorded : Unrecorded s.servers) :
    (run step s events).servers.created = [] ↔
      s.servers.created = [] ∧ ∀ event ∈ events, creates event = false := by
  induction events generalizing s with
  | nil => exact ⟨fun empty => ⟨empty,fun _ member => nomatch member⟩,fun both => both.1⟩
  | cons event events ih =>
    rw [run,ih _ (step_unrecorded s event unrecorded),List.forall_mem_cons,← and_assoc]
    apply and_congr_left
    intro _
    cases event with
    | getPeerServer ip port malloc =>
      change (getPeerServer ip port malloc s.servers).2.created = [] ↔ _
      rw [(getPeerServer_unrecorded ip port malloc s.servers unrecorded).2.2.1]
      cases malloc with
      | none => exact ⟨fun empty => ⟨empty,rfl⟩,fun both => both.1⟩
      | some connector => exact ⟨fun empty => (nomatch empty),fun both => (nomatch both.2)⟩
    | _ => exact ⟨fun empty => ⟨empty,rfl⟩,fun both => both.1⟩

theorem init_registered (memory : Nat → PeerClient) (sockAddr : Nat → SockAddr) :
    Registered (init memory sockAddr).clients ∧ Exact (init memory sockAddr).clients := by
  have registered : Registered (init memory sockAddr).clients :=
    ⟨fun _ listed => (nomatch listed),fun _ member => (nomatch member),List.nodup_nil,List.nodup_nil⟩
  exact ⟨registered,(exact_iff _ registered).mpr fun _ member => nomatch member⟩

/-- In any run of the peers: the registry of those that connect is exact as long as each gets memory that
does not hold the id of another; a lookup finds the connector of an earlier one only where both find none;
and the destructor destroys every connector just if there is none. -/
theorem peerSets_exact_iff (memory : Nat → PeerClient) (sockAddr : Nat → SockAddr) (events : List Event)
    (enabled : Guarded step Enabled (init memory sockAddr) events) :
    (Guarded step (fun s event => Accepts s event ∧ Exact (step s event).clients) (init memory sockAddr) events ↔
      Guarded step Clean (init memory sockAddr) events) ∧
    (Guarded step Same (init memory sockAddr) events ↔ Guarded step Once (init memory sockAddr) events) ∧
    (DestroysAll (run step (init memory sockAddr) events).servers ↔ ∀ event ∈ events, creates event = false) := by
  have unrecorded : Unrecorded (init memory sockAddr).servers := ⟨rfl,fun _ member => nomatch member⟩
  refine ⟨?_,?_,?_⟩
  · refine guarded_within step Enabled Clean _ (fun s => Registered s.clients ∧ Exact s.clients) ?_ ?_ _ events
      enabled (init_registered memory sockAddr)
    · intro s event both enabled clean
      exact ⟨step_registered s event both.1 enabled,((step_exact_iff s event both.1 both.2 enabled).mpr clean).2⟩
    · exact fun s event both enabled => step_exact_iff s event both.1 both.2 enabled
  · exact guarded_iff step Enabled Same Once (fun s => Unrecorded s.servers)
      (fun s event unrecorded _ => step_unrecorded s event unrecorded) same_iff _ events enabled unrecorded
  · have last := run_invariant step Enabled (fun s => Unrecorded s.servers)
      (fun s event unrecorded _ => step_unrecorded s event unrecorded) _ events enabled unrecorded
    have created := created_iff (init memory sockAddr) events unrecorded
    unfold DestroysAll destroyed
    rw [last.none]
    constructor
    · intro all
      exact (created.mp (List.eq_nil_iff_forall_not_mem.mpr fun connector member => nomatch all connector member)).2
    · intro none connector member
      rw [created.mpr ⟨rfl,none⟩] at member
      exact member

/-- Two peers connect, one leaves; another connects, in the memory of the first. -/
def sampleEvents : List Event :=
  [.onConnection 1 (some (100,⟨0,0⟩)),.onConnection 2 (some (200,⟨0,0⟩)),.onDisconnect 1,
    .onConnection 3 (some (100,⟨1,0⟩)),.getPeerServer 16777343 7000 (some 300)]

theorem peerSets_exact_sample :
    (Guarded step (fun s event => Accepts s event ∧ Exact (step s event).clients)
        (init (fun _ => ⟨0,0⟩) fun _ => ⟨0,0⟩) sampleEvents ↔
      Guarded step Clean (init (fun _ => ⟨0,0⟩) fun _ => ⟨0,0⟩) sampleEvents) ∧
    (Guarded step Same (init (fun _ => ⟨0,0⟩) fun _ => ⟨0,0⟩) sampleEvents ↔
      Guarded step Once (init (fun _ => ⟨0,0⟩) fun _ => ⟨0,0⟩) sampleEvents) ∧
    (DestroysAll (run step (init (fun _ => ⟨0,0⟩) fun _ => ⟨0,0⟩) sampleEvents).servers ↔
      ∀ event ∈ sampleEvents, creates event = false) :=
  peerSets_exact_iff (fun _ => ⟨0,0⟩) (fun _ => ⟨0,0⟩) sampleEvents (by decide)

/-- The first peer leaves, and its connection is accepted again, in other memory; the next peer gets the
memory of the first, which holds that id still, and is refused. Two calls for one address make two
connectors, and the destructor destroys none. -/
theorem peerSets_exact_stale :
    let s := init (fun _ => ⟨0,0⟩) fun _ => ⟨0,0⟩
    let peers : List Event := [.onConnection 1 (some (100,⟨0,0⟩)),.onDisconnect 1,.onConnection 1 (some (200,⟨0,0⟩))]
    let t := run step s peers
    let lookups : List Event := [.getPeerServer 16777343 7000 (some 300),.getPeerServer 16777343 7000 (some 400)]
    let u := run step s lookups
    (Guarded step Enabled s (peers ++ [.onConnection 2 (some (100,⟨1,0⟩))]) ∧ t.clients.memory 100 = ⟨1,0⟩ ∧
      (onConnection 2 (some (100,⟨1,0⟩)) (told 2 t.clients)).1 = false ∧
      ¬ Exact (step t (.onConnection 2 (some (100,⟨1,0⟩)))).clients) ∧
    Guarded step Enabled s lookups ∧ u.servers.lookups.map Lookup.result = [some 400,some 300] ∧
      destroyed u.servers = [] ∧ ¬ DestroysAll u.servers := by
  intro s peers t lookups u
  refine ⟨⟨by decide,rfl,by decide,fun exact => ?_⟩,by decide,rfl,rfl,fun all => nomatch all 300 (by decide)⟩
  obtain ⟨client,listed,-,found⟩ := (exact.2 2).mp (by decide)
  have alone : client = 200 := List.mem_singleton.mp listed
  rw [alone] at found
  revert found
  decide

end Fantuan.StarNet.PeerSets
