import Mathlib.Data.Fintype.Prod
import Fantuan.Lib.Ledger
import Fantuan.Lib.Links
import Fantuan.Lib.Run
import Fantuan.Lib.Threads
import Fantuan.StarNet.Connections

/-! The contexts of the pools of a process, under any interleaving of the threads that take them, post them and give
them back. What is sent to a peer client is taken from the pool of PeerServerSet and given back to that of
PeerClientSet, from which nothing is ever sent.
-/
namespace Fantuan.StarNet.ContextPools
open Packet DataStream Lib.Ledger Lib.Links Lib.Run Lib.Threads
open Connections (OperationType)

/-- The pools of ServerBase, PeerServerSet and PeerClientSet. -/
inductive ContextPool where
  | server | peerServer | peerClient
  deriving DecidableEq

instance : Fintype ContextPool := ⟨{.server,.peerServer,.peerClient},fun pool => by cases pool <;> decide⟩

instance : Fintype OperationType := ⟨{.recv,.send},fun kind => by cases kind <;> decide⟩

/-- The list of a pool, for input or for output. -/
abbrev Place := OperationType × ContextPool

structure Connection where
  contextPool : ContextPool
  id : Nat
  deriving DecidableEq

/-- What WSARecv or WSASend has accepted and the worker has not yet completed. -/
structure Post where
  operation : OperationType
  connection : Connection
  context : Nat
  deriving DecidableEq

def Post.place (post : Post) : Place := (post.operation,post.connection.contextPool)

def Post.entry (post : Post) : Place × Nat := (post.place,post.context)

/-- A context is the number under which it was allocated. Nothing refers to the lost ones any more, which came from the
list that is noted with them; passed is how many contexts of other pools the connections to peer clients got. -/
structure Shared where
  contextPool : Place → SList Nat
  -- each of them is in memory, so that it does not come to 2^32
  contextCount : Place → Nat
  allocated : Nat
  operationType : Nat → OperationType
  posted : List Post
  lost : List (Place × Nat)
  passed : Nat

/-- What a caller does with the context that it gets. -/
inductive Use where
  | receive (connection : Connection)
  | send (connection : Connection) (len : Nat)
  | giveBack
  | abandon
  deriving DecidableEq

/-- The pool of the buffers that are sent to a connection: a PeerOutputStream has one of PeerServerSet, whatever peer
it is sent to. -/
def source : ContextPool → ContextPool
  | .server => .server
  | .peerServer | .peerClient => .peerServer

def Use.place : Use → Place
  | .receive connection => (.recv,connection.contextPool)
  | .send connection _ => (.send,source connection.contextPool)
  | .giveBack => (.send,.peerServer)
  | .abandon => (.send,.server)

/-- The instructions of PopInputContext, PopOutputContext, AsyncSend, AsyncRecv and of the worker that take or give a
context; post is WSARecv or WSASend. -/
inductive Instr where
  | pop (use : Use)
  | malloc (use : Use)
  | increment (place : Place)
  | asyncSend (connection : Connection) (len context : Nat)
  | testMax (connection : Connection) (context : Nat)
  | post (post : Post)
  | push (place : Place) (context : Nat)
  | abandon (context : Nat)
  deriving DecidableEq

abbrev State := Pool Shared Instr

def init : State :=
  ⟨⟨fun _ => .empty,fun _ => 0,0,fun _ => .recv,[],[],0⟩,[]⟩

def Use.next (context : Nat) : Use → Instr
  | .receive connection => .post ⟨.recv,connection,context⟩
  | .send connection len => .asyncSend connection len context
  | .giveBack => .push (.send,.peerServer) context
  | .abandon => .abandon context

def lose (place : Place) (context : Nat) (s : Shared) : Shared := {s with lost := (place,context) :: s.lost}

def pass (connection : Connection) (s : Shared) : Shared :=
  {s with passed := if connection.contextPool = .peerClient then s.passed + 1 else s.passed}

-- each answer is that of the system to the instruction; to testMax it is whether iorefs_ is above iorefmax_
def exec : Instr → Bool → Shared → Shared × List Instr
  | .pop use, _, s =>
    match (s.contextPool use.place).pop with
    | (some context,rest) =>
      ({s with contextPool := Function.update s.contextPool use.place rest},[use.next context])
    | (none,_) => (s,[.malloc use])
  | .malloc use, answer, s =>
    if answer then
      ({s with
        allocated := s.allocated + 1
        operationType := Function.update s.operationType s.allocated use.place.1},
        [.increment use.place,use.next s.allocated])
    else (s,[])
  | .increment place, _, s =>
    ({s with contextCount := Function.update s.contextCount place (s.contextCount place + 1)},[])
  | .asyncSend connection len context, _, s =>
    if s.operationType context ≠ .send then (lose (.send,source connection.contextPool) context s,[])
    else if maxOutputBuffer < len then (lose (.send,source connection.contextPool) context s,[])
    else (pass connection s,[.testMax connection context])
  | .testMax connection context, beyond, s =>
    (s,[if beyond then .push (.send,connection.contextPool) context else .post ⟨.send,connection,context⟩])
  | .post post, accepted, s =>
    if accepted then ({s with posted := post :: s.posted},[]) else (s,[.push post.place post.context])
  | .push place context, _, s =>
    ({s with contextPool := Function.update s.contextPool place ((s.contextPool place).push context)},[])
  | .abandon context, _, s => (lose (.send,.server) context s,[])

/-- A call of a user, a connection that the handler has accepted, a completion that the worker takes from the queue, or
the next instruction of a thread. -/
inductive Action where
  | sendData (id : Nat) (len : UInt16)
  | handleLoginPacket (id : Nat) (notified : Bool)
  | unsent
  | sendServer (id len : Nat)
  | sendClient (id len : Nat)
  | onConnection (connection : Connection)
  | completed (n dwNumRead : Nat)
  | thread (thread : Nat) (answer : Bool)

/-- sizeof(DES_cblock) -/
def desBlock : Nat := 8

/-- The worker looks at the operation type of the context. -/
def workerThread (post : Post) (dwNumRead : Nat) (s : Shared) : Instr :=
  match s.operationType post.context with
  | .recv =>
    if dwNumRead = 0 then .push (.recv,post.connection.contextPool) post.context
    else .post ⟨.recv,post.connection,post.context⟩
  | .send => .push (.send,post.connection.contextPool) post.context

-- a PeerOutputStream with a field that does not fit, or for which there is no connection, is unsent
def step (s : State) : Action → State
  | .sendData id len => s.spawn [.pop (.send ⟨.server,id⟩ (len.toNat + serverPacketHead))]
  | .handleLoginPacket id notified =>
    s.spawn [.pop (if notified then .send ⟨.server,id⟩ desBlock else .abandon)]
  | .unsent => s.spawn [.pop .giveBack]
  | .sendServer id len => s.spawn [.pop (.send ⟨.peerServer,id⟩ (peerPacketHead + len))]
  | .sendClient id len => s.spawn [.pop (.send ⟨.peerClient,id⟩ (peerPacketHead + len))]
  | .onConnection connection => s.spawn [.pop (.receive connection)]
  | .completed n dwNumRead =>
    match s.shared.posted[n]? with
    | none => s
    | some post =>
      Pool.spawn [workerThread post dwNumRead s.shared]
        {s with shared := {s.shared with posted := s.shared.posted.eraseIdx n}}
  | .thread thread answer => s.resume exec thread answer

def drain : Nat → SList Nat → Option (List Nat)
  | 0, _ => none
  | fuel + 1, list =>
    if list.depth = 0 then some []
    else match list.pop with
      | (some context,rest) => (drain fuel rest).map (context :: ·)
      | (none,_) => none

/-- Destroy for a list, once nothing else happens any more: a wait whose condition fails does not end. -/
def destroy (fuel : Nat) (place : Place) (s : Shared) : Option (List Nat) :=
  if (s.contextPool place).depth ≠ s.contextCount place then none else drain fuel (s.contextPool place)

/-- Destroy of a pool ends, and has freed what lies in it. -/
def Destroyed (pool : ContextPool) (s : Shared) : Prop :=
  ∀ kind, ∃ fuel freed, destroy fuel (kind,pool) s = some freed ∧ (s.contextPool (kind,pool)).Holds freed

abbrev Weight := Multiset (Place × Nat) × Multiset Place

/-- The context that a thread has, with the list to which it goes, and the contexts that it still has to count. -/
def bound : Instr → Weight
  | .pop _ | .malloc _ => 0
  | .increment place => (0,{place})
  | .asyncSend connection _ context => ({((.send,source connection.contextPool),context)},0)
  | .testMax connection context => ({((.send,connection.contextPool),context)},0)
  | .post post => ({post.entry},0)
  | .push place context => ({(place,context)},0)
  | .abandon context => ({((.send,.server),context)},0)

/-- Where the contexts are: on a list, with the system, lost or with a thread. -/
def entries (free : Place → List Nat) (s : Shared) (held : Multiset (Place × Nat)) : Multiset (Place × Nat) :=
  stored free + Multiset.ofList (s.posted.map Post.entry) + Multiset.ofList s.lost + held

/-- No list is broken, and every context that was allocated is in one place. -/
def Placed (s : State) : Prop :=
  ∃ free : Place → List Nat, (∀ place, (s.shared.contextPool place).Holds (free place)) ∧
    (entries free s.shared (s.pending bound).1).map Prod.snd = Multiset.range s.shared.allocated

/-- A buffer of the pool is too long for AsyncSend, or LoggedInNtf has failed; or the connection to a peer client gets
it, which belongs to another pool. -/
def Straying (pool : ContextPool) : Instr → Prop
  | .asyncSend connection len _ =>
    if maxOutputBuffer < len then source connection.contextPool = pool
    else connection.contextPool = .peerClient ∧ pool ≠ .server
  | .abandon _ => pool = .server
  | _ => False

instance (pool : ContextPool) : DecidablePred (Straying pool)
  | .asyncSend connection len _ =>
    inferInstanceAs (Decidable (if maxOutputBuffer < len then source connection.contextPool = pool
      else connection.contextPool = .peerClient ∧ pool ≠ .server))
  | .abandon _ => inferInstanceAs (Decidable (pool = .server))
  | .pop _ | .malloc _ | .increment _ | .testMax _ _ | .post _ | .push _ _ => inferInstanceAs (Decidable False)

def Strays (pool : ContextPool) (s : State) : Action → Prop
  | .thread thread _ => ∃ instr, s.next thread = some instr ∧ Straying pool instr
  | _ => False

def Quiet (s : State) : Prop := s.Idle ∧ s.shared.posted = []

instance (s : State) : Decidable (Quiet s) := inferInstanceAs (Decidable (_ ∧ _))

/-- A pool has as many contexts as it counts, but for those that have passed from one to another. -/
def Balanced (place : Place) (contexts count passed : Nat) : Prop :=
  contexts + (if place = (.send,.peerServer) then passed else 0) =
    count + if place = (.send,.peerClient) then passed else 0

/-- What holds of the contexts on the lists and of those that the threads have. -/
structure Sound (free : Place → List Nat) (s : Shared) (w : Weight) : Prop where
  holds : ∀ place, (s.contextPool place).Holds (free place)
  once : (entries free s w.1).map Prod.snd = Multiset.range s.allocated
  typed : ∀ entry ∈ entries free s w.1, s.operationType entry.2 = entry.1.1
  balanced : ∀ place, Balanced place ((entries free s w.1).countP fun entry => entry.1 = place)
    (s.contextCount place + w.2.count place) s.passed
  output : ∀ entry ∈ s.lost, entry.1.1 = .send ∧ entry.1.2 ≠ .peerClient

theorem next_bound (use : Use) (context : Nat) : bound (use.next context) = ({(use.place,context)},0) := by
  cases use <;> rfl

theorem Sound.same {free left : Place → List Nat} {s t : Shared} {w v : Weight} (sound : Sound free s w)
    (holds : ∀ place, (t.contextPool place).Holds (left place)) (still : entries left t v.1 = entries free s w.1)
    (allocated : t.allocated = s.allocated) (typed : t.operationType = s.operationType)
    (counted : t.contextCount = s.contextCount) (counting : v.2 = w.2) (passed : t.passed = s.passed)
    (output : ∀ entry ∈ t.lost, entry.1.1 = .send ∧ entry.1.2 ≠ .peerClient) : Sound left t v := by
  refine ⟨holds,?_,?_,?_,output⟩
  · rw [still,allocated]
    exact sound.once
  · rw [still,typed]
    exact sound.typed
  · rw [still,counted,counting,passed]
    exact sound.balanced

section
variable {free : Place → List Nat} {s : Shared} {others : Weight}

theorem taken_sound (use : Use) (context : Nat) (rest : List Nat) (popped : SList Nat)
    (listed : free use.place = context :: rest) (tail : popped.Holds rest) (sound : Sound free s others) :
    Sound (Function.update free use.place rest)
      {s with contextPool := Function.update s.contextPool use.place popped} (others + bound (use.next context)) := by
  rw [next_bound]
  refine sound.same ?_ ?_ rfl rfl rfl (add_zero _) rfl sound.output
  · intro place
    change (Function.update s.contextPool use.place popped place).Holds _
    by_cases here : place = use.place
    · rw [here,Function.update_self,Function.update_self]
      exact tail
    · rw [Function.update_of_ne here,Function.update_of_ne here]
      exact sound.holds place
  · simp only [entries]
    rw [stored_pop free use.place context rest listed,← Multiset.singleton_add]
    change _ + (others.1 + _) = _
    abel

theorem malloc_sound (use : Use) (sound : Sound free s others) :
    Sound free {s with
      allocated := s.allocated + 1
      operationType := Function.update s.operationType s.allocated use.place.1}
      (others + (bound (.increment use.place) + bound (use.next s.allocated))) := by
  rw [next_bound]
  have more : entries free s (others.1 + (0 + {(use.place,s.allocated)})) =
      (use.place,s.allocated) ::ₘ entries free s others.1 := by
    simp only [entries]
    rw [← Multiset.singleton_add]
    abel
  refine ⟨sound.holds,?_,?_,?_,sound.output⟩
  · change (entries free s (others.1 + (0 + {(use.place,s.allocated)}))).map Prod.snd = Multiset.range (s.allocated + 1)
    rw [more,Multiset.map_cons,sound.once,Multiset.range_succ]
  · intro entry member
    change entry ∈ entries free s (others.1 + (0 + {(use.place,s.allocated)})) at member
    rw [more] at member
    rcases Multiset.mem_cons.mp member with rfl | before
    · exact Function.update_self ..
    · have known : entry.2 ∈ Multiset.range s.allocated := by
        rw [← sound.once]
        exact Multiset.mem_map_of_mem _ before
      change Function.update s.operationType s.allocated _ entry.2 = _
      rw [Function.update_of_ne (Nat.ne_of_lt (Multiset.mem_range.mp known))]
      exact sound.typed entry before
  · intro place
    have before := sound.balanced place
    change Balanced place
      ((entries free s (others.1 + (0 + {(use.place,s.allocated)}))).countP fun entry => entry.1 = place)
      (s.contextCount place + (others.2 + ({use.place} + 0)).count place) s.passed
    rw [more,Multiset.countP_cons,add_zero,Multiset.count_add,Multiset.count_singleton]
    unfold Balanced at before ⊢
    by_cases here : use.place = place
    · rw [if_pos here,if_pos here.symm]
      omega
    · rw [if_neg here,if_neg (Ne.symm here)]
      omega

theorem increment_sound (place : Place) (sound : Sound free s (others + (0,{place}))) :
    Sound free {s with contextCount := Function.update s.contextCount place (s.contextCount place + 1)} others := by
  have same : (others + ((0,{place}) : Weight)).1 = others.1 := add_zero _
  obtain ⟨holds,once,typed,balanced,output⟩ := sound
  rw [same] at once typed balanced
  refine ⟨holds,once,typed,?_,output⟩
  intro other
  have before := balanced other
  change Balanced other _ (s.contextCount other + (others.2 + {place}).count other) s.passed at before
  rw [Multiset.count_add,Multiset.count_singleton] at before
  change Balanced other _ (Function.update s.contextCount place (s.contextCount place + 1) other + others.2.count other)
    s.passed
  by_cases here : other = place
  · rw [if_pos here] at before
    rw [here,Function.update_self,Nat.add_assoc,Nat.add_comm 1]
    rw [here] at before
    exact before
  · rw [if_neg here] at before
    rw [Function.update_of_ne here]
    exact before

theorem lose_sound (place : Place) (context : Nat) (output : place.1 = .send ∧ place.2 ≠ .peerClient)
    (sound : Sound free s (others + ({(place,context)},0))) : Sound free (lose place context s) others := by
  refine sound.same sound.holds ?_ rfl rfl rfl (add_zero _).symm rfl ?_
  · simp only [entries,lose]
    rw [← Multiset.cons_coe,← Multiset.singleton_add]
    change _ = _ + (others.1 + {(place,context)})
    abel
  · intro entry member
    rcases List.mem_cons.mp member with rfl | before
    · exact output
    · exact sound.output entry before

theorem posted_sound (post : Post) (sound : Sound free s (others + ({post.entry},0))) :
    Sound free {s with posted := post :: s.posted} others := by
  refine sound.same sound.holds ?_ rfl rfl rfl (add_zero _).symm rfl sound.output
  simp only [entries,List.map_cons]
  rw [← Multiset.cons_coe,← Multiset.singleton_add]
  change _ = _ + (others.1 + {post.entry})
  abel

theorem held_absent (place : Place) (entry : Place × Nat) (sound : Sound free s (others + ({entry},0))) :
    entry.2 ∉ free place := by
  intro listed
  have twice := sound.once
  have whole : entries free s (others + ((({entry},0)) : Weight)).1 = entry ::ₘ entries free s others.1 := by
    simp only [entries]
    rw [← Multiset.singleton_add]
    change _ + (others.1 + {entry}) = _
    abel
  rw [whole,Multiset.map_cons] at twice
  have distinct : (entry.2 ::ₘ (entries free s others.1).map Prod.snd).Nodup := by
    rw [twice]
    exact Multiset.nodup_range _
  refine (Multiset.nodup_cons.mp distinct).1 (Multiset.mem_map.mpr ⟨(place,entry.2),?_,rfl⟩)
  have there : (place,entry.2) ∈ stored free := (mem_stored free place entry.2).mpr listed
  simp only [entries,Multiset.mem_add]
  exact .inl (.inl (.inl there))

theorem push_sound (place : Place) (context : Nat) (sound : Sound free s (others + ({(place,context)},0))) :
    Sound (Function.update free place (context :: free place))
      {s with contextPool := Function.update s.contextPool place ((s.contextPool place).push context)} others := by
  have absent : context ∉ free place := held_absent place (place,context) sound
  refine sound.same ?_ ?_ rfl rfl rfl (add_zero _).symm rfl sound.output
  · intro other
    change (Function.update s.contextPool place _ other).Holds _
    by_cases here : other = place
    · rw [here,Function.update_self,Function.update_self]
      exact push_holds context _ _ absent (sound.holds place)
    · rw [Function.update_of_ne here,Function.update_of_ne here]
      exact sound.holds other
  · simp only [entries]
    rw [stored_push,← Multiset.singleton_add]
    change _ = _ + (others.1 + {(place,context)})
    abel

theorem pass_balanced (place : Place) (contexts count passed : Nat)
    (before : Balanced place (contexts + if (.send,.peerServer) = place then 1 else 0) count passed) :
    Balanced place (contexts + if (.send,.peerClient) = place then 1 else 0) count (passed + 1) := by
  unfold Balanced at *
  obtain ⟨kind,pool⟩ := place
  cases kind <;> cases pool <;> simp at before ⊢ <;> omega

theorem pass_sound (connection : Connection) (context : Nat)
    (sound : Sound free s (others + ({((.send,source connection.contextPool),context)},0))) :
    Sound free (pass connection s) (others + ({((.send,connection.contextPool),context)},0)) := by
  have whole (place : Place) : entries free s (others + ((({(place,context)},0)) : Weight)).1 =
      (place,context) ::ₘ entries free s others.1 := by
    simp only [entries]
    rw [← Multiset.singleton_add]
    change _ + (others.1 + {(place,context)}) = _
    abel
  by_cases client : connection.contextPool = .peerClient
  · obtain ⟨holds,once,typed,balanced,output⟩ := sound
    rw [client] at once typed balanced ⊢
    rw [pass,if_pos client]
    refine ⟨holds,?_,?_,?_,output⟩
    · change (entries free s _).map Prod.snd = _
      rw [whole,Multiset.map_cons]
      rw [whole,Multiset.map_cons] at once
      exact once
    · intro entry member
      change entry ∈ entries free s _ at member
      rw [whole] at member typed
      rcases Multiset.mem_cons.mp member with rfl | before
      · exact typed ((.send,source .peerClient),context) (Multiset.mem_cons_self _ _)
      · exact typed entry (Multiset.mem_cons_of_mem before)
    · intro place
      have before := balanced place
      change Balanced place _ (s.contextCount place + (others.2 + 0).count place) s.passed at before
      change Balanced place ((entries free s _).countP fun entry => entry.1 = place)
        (s.contextCount place + (others.2 + 0).count place) (s.passed + 1)
      rw [whole,Multiset.countP_cons] at before ⊢
      exact pass_balanced place _ _ _ before
  · have stays : source connection.contextPool = connection.contextPool := by
      revert client
      cases connection.contextPool <;> decide
    rw [stays] at sound
    rw [pass,if_neg client]
    exact sound

theorem source_output (pool : ContextPool) : source pool ≠ .peerClient := by
  cases pool <;> decide

theorem weigh_one (instr : Instr) : weigh bound [instr] = bound instr := by
  simp [weigh]

theorem asyncSend_typed (connection : Connection) (len context : Nat)
    (sound : Sound free s (others + bound (.asyncSend connection len context))) : s.operationType context = .send := by
  apply sound.typed ((.send,source connection.contextPool),context)
  simp only [entries,Multiset.mem_add]
  exact .inr (Multiset.mem_add.mpr (.inr (Multiset.mem_singleton_self _)))

theorem exec_sound (instr : Instr) (answer : Bool) (sound : Sound free s (others + bound instr)) :
    ∃ left, Sound left (exec instr answer s).1 (others + weigh bound (exec instr answer s).2) := by
  cases instr with
  | pop use =>
    have before : Sound free s others := by simpa [bound] using sound
    have holds := before.holds use.place
    cases listed : free use.place with
    | nil =>
      rw [listed] at holds
      have popped : exec (.pop use) answer s = (s,[.malloc use]) := by rw [exec,pop_nil _ holds]
      rw [popped,weigh_one]
      exact ⟨free,sound⟩
    | cons context rest =>
      rw [listed] at holds
      obtain ⟨popped,pop,tail⟩ := pop_cons _ context rest holds
      have taken : exec (.pop use) answer s =
          ({s with contextPool := Function.update s.contextPool use.place popped},[use.next context]) := by
        rw [exec,pop]
      rw [taken,weigh_one]
      exact ⟨_,taken_sound use context rest popped listed tail before⟩
  | malloc use =>
    have before : Sound free s others := by simpa [bound] using sound
    rw [exec]
    split
    · refine ⟨free,?_⟩
      have both : weigh bound [.increment use.place,use.next s.allocated] =
          bound (.increment use.place) + bound (use.next s.allocated) := by simp [weigh]
      rw [both]
      exact malloc_sound use before
    · exact ⟨free,sound⟩
  | increment place => exact ⟨free,by rw [exec]; simpa [weigh] using increment_sound place sound⟩
  | asyncSend connection len context =>
    have lost : Sound free (lose (.send,source connection.contextPool) context s) (others + weigh bound []) := by
      simpa [weigh] using lose_sound (.send,source connection.contextPool) context ⟨rfl,source_output _⟩ sound
    rw [exec]
    split
    · exact ⟨free,lost⟩
    · split
      · exact ⟨free,lost⟩
      · rw [weigh_one]
        exact ⟨free,pass_sound connection context sound⟩
  | testMax connection context =>
    rw [exec,weigh_one]
    split <;> exact ⟨free,sound⟩
  | post post =>
    rw [exec]
    split
    · exact ⟨free,by simpa [weigh] using posted_sound post sound⟩
    · rw [weigh_one]
      exact ⟨free,sound⟩
  | push place context => exact ⟨_,by rw [exec]; simpa [weigh] using push_sound place context sound⟩
  | abandon context =>
    exact ⟨free,by rw [exec]; simpa [weigh] using lose_sound (.send,.server) context ⟨rfl,by decide⟩ sound⟩

end

def Kept (s : State) : Prop := ∃ free, Sound free s.shared (s.pending bound)

theorem spawn_kept (program : List Instr) (s : State) (nothing : weigh bound program = 0) (kept : Kept s) :
    Kept (s.spawn program) := by
  obtain ⟨free,sound⟩ := kept
  refine ⟨free,?_⟩
  rw [spawn_pending,nothing,zero_add]
  exact sound

theorem completed_kept (s : State) (n dwNumRead : Nat) (kept : Kept s) : Kept (step s (.completed n dwNumRead)) := by
  obtain ⟨free,sound⟩ := kept
  rw [step]
  cases found : s.shared.posted[n]? with
  | none => exact ⟨free,sound⟩
  | some post =>
    obtain ⟨inside,entry⟩ := List.getElem?_eq_some_iff.mp found
    have split : Multiset.ofList (s.shared.posted.map Post.entry) =
        post.entry ::ₘ Multiset.ofList ((s.shared.posted.eraseIdx n).map Post.entry) := by
      rw [Multiset.cons_coe,← List.map_cons,← entry]
      exact Multiset.coe_eq_coe.mpr ((List.getElem_cons_eraseIdx_perm inside).symm.map _)
    have typed : s.shared.operationType post.context = post.operation := by
      apply sound.typed post.entry
      simp only [entries,Multiset.mem_add,split]
      exact .inl (.inl (.inr (Multiset.mem_cons_self _ _)))
    have own : bound (workerThread post dwNumRead s.shared) = ({post.entry},0) := by
      rw [workerThread,typed,Post.entry,Post.place]
      cases post.operation with
      | recv =>
        dsimp only
        split <;> rfl
      | send => rfl
    refine ⟨free,?_⟩
    rw [spawn_pending,weigh_one,own]
    refine sound.same sound.holds ?_ rfl rfl rfl (zero_add _) rfl sound.output
    simp only [entries]
    rw [split,← Multiset.singleton_add]
    change stored free + Multiset.ofList ((s.shared.posted.eraseIdx n).map Post.entry) + Multiset.ofList s.shared.lost +
      ({post.entry} + (s.pending bound).1) = _
    abel

theorem step_kept (s : State) (action : Action) (kept : Kept s) : Kept (step s action) := by
  cases action with
  | completed n dwNumRead => exact completed_kept s n dwNumRead kept
  | thread thread answer =>
    exact resume_kept exec bound (fun shared weight => ∃ free, Sound free shared weight) thread answer s
      (fun instr _ _ ⟨_,sound⟩ => exec_sound instr answer sound) kept
  | _ => exact spawn_kept _ s (by simp [weigh,bound]) kept

theorem init_kept : Kept init := by
  have empty : entries (fun _ => []) init.shared (init.pending bound).1 = 0 := by
    rw [entries,stored_empty]
    rfl
  refine ⟨fun _ => [],fun _ => empty_holds,?_,?_,?_,?_⟩
  · rw [empty]
    rfl
  · intro entry member
    rw [empty] at member
    cases member
  · intro place
    rw [empty,Balanced]
    change 0 + ite _ 0 0 = 0 + ite _ 0 0
    rw [ite_self,ite_self]
  · intro entry member
    cases member

theorem run_kept (actions : List Action) : Kept (run step init actions) :=
  run_invariant step (fun _ _ => True) Kept (fun s action kept _ => step_kept s action kept) init actions
    (guarded_true step init actions) init_kept

/-- In every state no list of a pool is broken, and each context that was allocated is in one place. -/
theorem contexts_placed (actions : List Action) : Placed (run step init actions) := by
  obtain ⟨free,sound⟩ := run_kept actions
  exact ⟨free,sound.holds,sound.once⟩

/-- How many contexts the pool has lost or given to another one, or got from another one. -/
def strayed (pool : ContextPool) (s : Shared) : Nat :=
  s.lost.countP (fun entry => entry.1.2 = pool) + if pool = .server then 0 else s.passed

section
variable (pool : ContextPool) (s : Shared)

theorem lose_strayed (place : Place) (context : Nat) :
    strayed pool (lose place context s) = strayed pool s + if place.2 = pool then 1 else 0 := by
  rw [strayed,lose,List.countP_cons,strayed]
  simp only [decide_eq_true_eq]
  omega

theorem pass_strayed (connection : Connection) : strayed pool (pass connection s) =
    strayed pool s + if connection.contextPool = .peerClient ∧ pool ≠ .server then 1 else 0 := by
  unfold strayed pass
  dsimp only
  by_cases server : pool = .server
  · simp [server]
  · by_cases client : connection.contextPool = .peerClient
    · simp [server,client,Nat.add_assoc]
    · simp [server,client]

theorem exec_plain (instr : Instr) (answer : Bool)
    (sends : ∀ connection len context, instr ≠ .asyncSend connection len context)
    (abandons : ∀ context, instr ≠ .abandon context) : strayed pool (exec instr answer s).1 = strayed pool s := by
  cases instr with
  | asyncSend connection len context => exact absurd rfl (sends connection len context)
  | abandon context => exact absurd rfl (abandons context)
  | pop use =>
    rw [exec]
    split <;> rfl
  | malloc use =>
    rw [exec]
    split <;> rfl
  | post post =>
    rw [exec]
    split <;> rfl
  | _ => rfl

theorem exec_strayed (instr : Instr) (answer : Bool)
    (typed : ∀ connection len context, instr = .asyncSend connection len context → s.operationType context = .send) :
    (Straying pool instr → strayed pool (exec instr answer s).1 = strayed pool s + 1) ∧
      (¬ Straying pool instr → strayed pool (exec instr answer s).1 = strayed pool s) := by
  cases instr with
  | asyncSend connection len context =>
    rw [exec,if_neg (not_not.mpr (typed connection len context rfl)),Straying]
    split
    · rw [lose_strayed]
      exact ⟨fun own => by rw [if_pos own],fun other => by rw [if_neg other,Nat.add_zero]⟩
    · rw [pass_strayed]
      exact ⟨fun goes => by rw [if_pos goes],fun stays => by rw [if_neg stays,Nat.add_zero]⟩
  | abandon context =>
    rw [exec,lose_strayed,Straying]
    exact ⟨fun own => by rw [if_pos own.symm],fun other => by rw [if_neg (Ne.symm other),Nat.add_zero]⟩
  | _ => exact ⟨False.elim,fun _ => exec_plain pool s _ answer (by simp) (by simp)⟩

end

theorem step_strayed (pool : ContextPool) (s : State) (action : Action) (kept : Kept s) :
    (Strays pool s action → strayed pool (step s action).shared = strayed pool s.shared + 1) ∧
      (¬ Strays pool s action → strayed pool (step s action).shared = strayed pool s.shared) := by
  cases action with
  | thread thread answer =>
    rw [step]
    cases next : s.next thread with
    | none =>
      have idle : s.resume exec thread answer = s := by
        rcases resume_cases exec thread answer s with ⟨_,same⟩ | ⟨_,_,_,_,some,_⟩
        · exact same
        · rw [next] at some
          cases some
      rw [idle]
      refine ⟨?_,fun _ => rfl⟩
      intro ⟨instr,there,_⟩
      rw [next] at there
      cases there
    | some instr =>
      obtain ⟨free,sound⟩ := kept
      obtain ⟨others,pending,_,shared⟩ := resume_pending exec bound thread answer s instr next
      rw [pending] at sound
      rw [shared]
      obtain ⟨strays,stays⟩ := exec_strayed pool s.shared instr answer fun connection len context same => by
        rw [same] at sound
        exact asyncSend_typed connection len context sound
      refine ⟨?_,fun none => stays fun straying => none ⟨instr,next,straying⟩⟩
      intro ⟨other,there,straying⟩
      obtain rfl : instr = other := Option.some.inj (next.symm.trans there)
      exact strays straying
  | completed n dwNumRead =>
    refine ⟨False.elim,fun _ => ?_⟩
    rw [step]
    split <;> rfl
  | _ => exact ⟨False.elim,fun _ => rfl⟩

theorem strayed_iff (pool : ContextPool) (actions : List Action) : strayed pool (run step init actions).shared = 0 ↔
    Guarded step (fun s action => ¬ Strays pool s action) init actions := by
  have none : strayed pool init.shared = 0 := by
    cases pool <;> rfl
  rw [← none]
  refine (measure_iff step _ Kept (fun s => strayed pool s.shared) step_kept ?_ ?_ init actions init_kept).2
  · exact fun s action kept stays => (step_strayed pool s action kept).2 stays
  · intro s action kept strays
    rw [(step_strayed pool s action kept).1 (not_not.mp strays)]
    exact Nat.lt_succ_self _

theorem drain_length (fuel : Nat) (list : SList Nat) (free freed : List Nat) (holds : list.Holds free)
    (ended : drain fuel list = some freed) : freed.length = free.length % 2^16 := by
  induction fuel generalizing list free freed with
  | zero => cases ended
  | succ fuel ih =>
    rw [drain] at ended
    split at ended
    next empty =>
      rw [← Option.some.inj ended,← holds.counted,empty]
      rfl
    next some =>
      cases free with
      | nil => exact absurd holds.counted some
      | cons context rest =>
        obtain ⟨popped,pop,tail⟩ := pop_cons _ context rest holds
        rw [pop] at ended
        obtain ⟨others,later,rfl⟩ := Option.map_eq_some_iff.mp ended
        have before := ih popped rest others tail later
        rw [holds.counted,List.length_cons] at some
        simp only [List.length_cons]
        omega

theorem drain_all (list : SList Nat) (free : List Nat) (holds : list.Holds free) (short : free.length < 2^16) :
    drain (free.length + 1) list = some free := by
  induction free generalizing list with
  | nil =>
    have empty : list.depth = 0 := holds.counted
    rw [drain,if_pos empty]
  | cons context rest ih =>
    obtain ⟨popped,pop,tail⟩ := pop_cons _ context rest holds
    have some : list.depth ≠ 0 := by
      rw [holds.counted,Nat.mod_eq_of_lt short]
      exact Nat.succ_ne_zero _
    rw [drain,if_neg some,pop]
    dsimp only
    rw [List.length_cons,ih popped tail (Nat.lt_of_succ_lt short)]
    rfl

theorem destroy_iff (s : Shared) (place : Place) (free : List Nat) (holds : (s.contextPool place).Holds free) :
    (∃ fuel freed, destroy fuel place s = some freed ∧ (s.contextPool place).Holds freed) ↔
      free.length = s.contextCount place ∧ s.contextCount place < 2^16 := by
  constructor
  · intro ⟨fuel,freed,ended,all⟩
    rw [destroy] at ended
    split at ended
    · cases ended
    next counted =>
      have depth := holds.counted
      rw [not_not.mp counted] at depth
      have size := drain_length fuel _ free freed holds ended
      rw [holds_unique _ freed free all holds] at size
      omega
  · intro ⟨counted,short⟩
    rw [← counted] at short
    have depth : (s.contextPool place).depth = s.contextCount place := by
      rw [holds.counted,Nat.mod_eq_of_lt short,counted]
    refine ⟨free.length + 1,free,?_,holds⟩
    rw [destroy,if_neg (not_not.mpr depth)]
    exact drain_all _ free holds short

theorem quiet_balanced (s : State) (free : Place → List Nat) (sound : Sound free s.shared (s.pending bound))
    (quiet : Quiet s) (place : Place) :
    Balanced place ((free place).length + s.shared.lost.countP fun entry => entry.1 = place)
      (s.shared.contextCount place) s.shared.passed := by
  have balanced := sound.balanced place
  rw [idle_pending bound s quiet.1] at balanced
  change Balanced place ((entries free s.shared 0).countP fun entry => entry.1 = place)
    (s.shared.contextCount place + Multiset.count place 0) s.shared.passed at balanced
  rw [entries,quiet.2,add_zero,Multiset.countP_add,Multiset.countP_add,stored_at] at balanced
  exact balanced

theorem quiet_lists (s : State) (free : Place → List Nat) (sound : Sound free s.shared (s.pending bound))
    (quiet : Quiet s) (pool : ContextPool) :
    (∀ kind, (free (kind,pool)).length = s.shared.contextCount (kind,pool)) ↔ strayed pool s.shared = 0 := by
  have input := quiet_balanced s free sound quiet (.recv,pool)
  have output := quiet_balanced s free sound quiet (.send,pool)
  have none : s.shared.lost.countP (fun entry => entry.1 = (.recv,pool)) = 0 := by
    apply List.countP_eq_zero.mpr
    intro entry member same
    have kind := (sound.output entry member).1
    rw [of_decide_eq_true same] at kind
    cases kind
  have own : s.shared.lost.countP (fun entry => entry.1 = (.send,pool)) =
      s.shared.lost.countP (fun entry => entry.1.2 = pool) := by
    apply List.countP_congr
    intro entry member
    have kind := (sound.output entry member).1
    simp only [decide_eq_true_eq,Prod.ext_iff]
    exact and_iff_right kind
  have client : pool = .peerClient → s.shared.lost.countP (fun entry => entry.1.2 = pool) = 0 := by
    intro same
    apply List.countP_eq_zero.mpr
    intro entry member there
    exact (sound.output entry member).2 ((of_decide_eq_true there).trans same)
  rw [none] at input
  rw [own] at output
  unfold Balanced at input output
  have both : (∀ kind, (free (kind,pool)).length = s.shared.contextCount (kind,pool)) ↔
      (free (.recv,pool)).length = s.shared.contextCount (.recv,pool) ∧
        (free (.send,pool)).length = s.shared.contextCount (.send,pool) :=
    ⟨fun all => ⟨all .recv,all .send⟩,fun ⟨recv,send⟩ kind => by cases kind <;> assumption⟩
  rw [both,strayed]
  clear own both none
  generalize s.shared.lost.countP (fun entry => entry.1.2 = pool) = gone at output client ⊢
  cases pool with
  | server =>
    simp at input output ⊢
    omega
  | peerServer =>
    simp at input output ⊢
    omega
  | peerClient =>
    have none := client rfl
    simp [none] at input output ⊢
    omega

/-- Once nothing is under way any more, a pool can be destroyed exactly if none of its buffers was lost or passed to a
connection of another pool, and it has not counted more contexts than a depth shows. Every buffer that was sent to a
peer client was allocated for that by the pool of PeerServerSet. -/
theorem contexts_destroyed_iff (actions : List Action) (pool : ContextPool) (quiet : Quiet (run step init actions)) :
    (Destroyed pool (run step init actions).shared ↔
      Guarded step (fun s action => ¬ Strays pool s action) init actions ∧
        ∀ kind, (run step init actions).shared.contextCount (kind,pool) < 2^16) ∧
      (run step init actions).shared.passed ≤ (run step init actions).shared.contextCount (.send,.peerServer) := by
  obtain ⟨free,sound⟩ := run_kept actions
  constructor
  · rw [← strayed_iff,← quiet_lists _ free sound quiet pool,← forall_and]
    exact forall_congr' fun kind => destroy_iff _ (kind,pool) _ (sound.holds (kind,pool))
  · have output := quiet_balanced _ free sound quiet (.send,.peerServer)
    unfold Balanced at output
    simp at output
    omega

def sentClient : List Action :=
  .sendClient 0 4 :: List.replicate 4 (.thread 0 true) ++
    [.thread 0 false,.thread 0 true,.completed 0 12,.thread 0 true]

theorem destroyed_client : ¬ Destroyed .peerServer (run step init sentClient).shared ∧
    ¬ Destroyed .peerClient (run step init sentClient).shared := by
  have quiet : Quiet (run step init sentClient) := by decide
  constructor
  · intro destroyed
    have guarded := ((contexts_destroyed_iff sentClient .peerServer quiet).1.mp destroyed).1
    exact guarded.2.2.2.2.1 ⟨_,rfl,by decide⟩
  · intro destroyed
    have guarded := ((contexts_destroyed_iff sentClient .peerClient quiet).1.mp destroyed).1
    exact guarded.2.2.2.2.1 ⟨_,rfl,by decide⟩

end Fantuan.StarNet.ContextPools
