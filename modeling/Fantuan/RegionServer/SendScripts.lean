import Fantuan.RegionServer.PlayerSteps

/-! The sends of a handler in a row. As long as all of them succeed nobody is queued and the next one is
known; the first failure of one that is attempted for the player queues him.
-/
namespace Fantuan.RegionServer.SendScripts
open Lib.Table ServerBase.ServerCommon Tool.ObjectPool ServerLoop Player Commands PlayerSteps

/-- A send whose failure shuts the player down, one whose failure does not, and a shutdown without a send. -/
inductive Item where
  | attempt | ignored | stop
  deriving DecidableEq

abbrev Script := List Item

/-- A shutdown comes, when sent events have been logged before. -/
def fails (net : Nat → Bool) : Nat → Script → Bool
  | _, [] => false
  | sent, .attempt :: rest => !net sent || fails net (sent + 1) rest
  | sent, .ignored :: rest => fails net (sent + 1) rest
  | _, .stop :: _ => true

theorem fails_append (net : Nat → Bool) (sent : Nat) (first second : Script) (fine : fails net sent first = false) :
    fails net sent (first ++ second) = fails net (sent + first.length) second := by
  induction first generalizing sent with
  | nil => rfl
  | cons item rest ih =>
    rw [List.cons_append,List.length_cons,Nat.add_comm rest.length,← Nat.add_assoc]
    cases item with
    | attempt =>
      rw [fails,Bool.or_eq_false_iff] at fine
      rw [fails,fine.1,Bool.false_or]
      exact ih _ fine.2
    | ignored => exact ih _ fine
    | stop => cases fine

theorem fails_prefix (net : Nat → Bool) (sent : Nat) (first second : Script) (lost : fails net sent first = true) :
    fails net sent (first ++ second) = true := by
  induction first generalizing sent with
  | nil => cases lost
  | cons item rest ih =>
    cases item with
    | attempt =>
      rw [fails,Bool.or_eq_true] at lost
      rw [List.cons_append,fails,Bool.or_eq_true]
      exact lost.imp_right (ih _)
    | ignored => exact ih _ lost
    | stop => rfl

def Active (player : Object) (s : Region) : Prop :=
  (s.contexts player).finalizing = false ∧ (s.contexts player).state ≠ .none

instance (player : Object) (s : Region) : Decidable (Active player s) :=
  inferInstanceAs (Decidable (_ ∧ _))

def startMap (teleport : UInt16) : UInt16 := if teleport = 0 then 1 else teleport

theorem startMap_again (teleport : UInt16) : startMap (startMap teleport) = startMap teleport := by
  by_cases zero : teleport = 0
  · rw [zero]
    rfl
  · simp [startMap,zero]

structure Quiet (player : Object) (s t : Region) : Prop where
  queue : t.finalizingQueue = s.finalizingQueue
  avatarMap : t.playerContextByAvatarId = s.playerContextByAvatarId
  sessionIds : ∀ other, (t.contexts other).sessionId = (s.contexts other).sessionId
  avatarNames : ∀ other, (t.contexts other).avatarName = (s.contexts other).avatarName
  active : Active player s → Active player t
  start : (t.avatars player).map startMap = (s.avatars player).map startMap

theorem Quiet.refl (player : Object) (s : Region) : Quiet player s s :=
  ⟨rfl,rfl,fun _ => rfl,fun _ => rfl,id,rfl⟩

theorem Quiet.trans {player : Object} {s t u : Region} (left : Quiet player s t) (right : Quiet player t u) :
    Quiet player s u where
  queue := right.queue.trans left.queue
  avatarMap := right.avatarMap.trans left.avatarMap
  sessionIds := fun other => (right.sessionIds other).trans (left.sessionIds other)
  avatarNames := fun other => (right.avatarNames other).trans (left.avatarNames other)
  active := fun before => right.active (left.active before)
  start := right.start.trans left.start

theorem update_quiet (player : Object) (change : RegionPlayerContext → RegionPlayerContext) (s : Region)
    (sessionId : (change (s.contexts player)).sessionId = (s.contexts player).sessionId)
    (avatarName : (change (s.contexts player)).avatarName = (s.contexts player).avatarName)
    (finalizing : (change (s.contexts player)).finalizing = (s.contexts player).finalizing)
    (used : (s.contexts player).state ≠ .none → (change (s.contexts player)).state ≠ .none) :
    Quiet player s (s.update player change) := by
  have kept (other : Object) : ((s.update player change).contexts other).sessionId = (s.contexts other).sessionId ∧
      ((s.update player change).contexts other).avatarName = (s.contexts other).avatarName := by
    by_cases same : other = player
    · rw [same,update_same]
      exact ⟨sessionId,avatarName⟩
    · rw [update_other s player other change same]
      exact ⟨rfl,rfl⟩
  refine ⟨rfl,rfl,fun other => (kept other).1,fun other => (kept other).2,?_,rfl⟩
  intro active
  rw [Active,update_same,finalizing]
  exact ⟨active.1,used active.2⟩

theorem setState_quiet (player : Object) (next : PlayerState) (s : Region) (used : next ≠ .none) :
    Quiet player s (setState player next s) :=
  update_quiet player _ s rfl rfl rfl fun _ => used

theorem stateTransition_quiet (player : Object) (event : PlayerEvent) (s : Region)
    (plain : event ≠ .onRegionAllocReq) : Quiet player s (stateTransition event player s) := by
  rw [stateTransition]
  split
  next next reached => exact setState_quiet player next s (plain_transition _ next event plain reached).2
  · exact .refl player s

theorem stateTransition_log (player : Object) (event : PlayerEvent) (s : Region) :
    (stateTransition event player s).log = s.log := by
  rw [stateTransition]
  split <;> rfl

theorem does_queue (s t : Region) (does : Does s t) :
    ∃ more, t.finalizingQueue = s.finalizingQueue ++ more := by
  induction does with
  | refl => exact ⟨[],(List.append_nil _).symm⟩
  | tail _ step ih =>
    obtain ⟨more,queue⟩ := ih
    cases step with
    | queue player => exact ⟨more ++ [player],by rw [← List.append_assoc,← queue]; rfl⟩
    | _ => exact ⟨more,queue⟩

def Queues (s t : Region) : Prop := s.finalizingQueue.length < t.finalizingQueue.length

theorem does_grows (s t : Region) (does : Does s t) : s.finalizingQueue.length ≤ t.finalizingQueue.length := by
  obtain ⟨more,queue⟩ := does_queue s t does
  rw [queue,List.length_append]
  exact Nat.le_add_right _ _

theorem shutdownPlayer_queue (player : Object) (s : Region) (active : Active player s) :
    (shutdownPlayer player s).finalizingQueue = s.finalizingQueue ++ [player] := by
  have deletes : needDelete (s.contexts player).state = true := by
    have used := active.2
    revert used
    generalize (s.contexts player).state = state
    cases state <;> decide
  rw [shutdownPlayer,active.1,if_neg Bool.false_ne_true,if_pos deletes]
  rfl

theorem shutdownPlayer_queues (player : Object) (s : Region) (active : Active player s) :
    Queues s (shutdownPlayer player s) := by
  rw [Queues,shutdownPlayer_queue player s active,List.length_append]
  exact Nat.lt_succ_self _

section
variable (env : Env) (player : Object)

structure Follows (script : Script) (s t : Region) : Prop where
  lost : fails env.net s.log.length script = true → Queues s t
  quiet : fails env.net s.log.length script = false → Quiet player s t
  sent : fails env.net s.log.length script = false → t.log.length = s.log.length + script.length

theorem follows_nil (s t : Region) (quiet : Quiet player s t) (log : t.log = s.log) :
    Follows env player [] s t := by
  refine ⟨?_,fun _ => quiet,fun _ => congrArg List.length log⟩
  intro lost
  cases lost

theorem follows_append (first second : Script) (s t u : Region) (active : Active player s)
    (begins : Follows env player first s t) (does : Does t u)
    (continues : Quiet player s t → Active player t → Follows env player second t u) :
    Follows env player (first ++ second) s u := by
  cases start : fails env.net s.log.length first with
  | true =>
    have unsent := fails_prefix env.net _ first second start
    have queued : Queues s u := Nat.lt_of_lt_of_le (begins.lost start) (does_grows t u does)
    refine ⟨fun _ => queued,?_,?_⟩
    · intro fine
      rw [unsent] at fine
      cases fine
    · intro fine
      rw [unsent] at fine
      cases fine
  | false =>
    have quiet := begins.quiet start
    have sent := begins.sent start
    have rest := continues quiet (quiet.active active)
    have same := fails_append env.net _ first second start
    rw [← sent] at same
    refine ⟨?_,?_,?_⟩
    · intro lost
      rw [same] at lost
      have queued := rest.lost lost
      rw [Queues,quiet.queue] at queued
      exact queued
    · intro fine
      rw [same] at fine
      exact quiet.trans (rest.quiet fine)
    · intro fine
      rw [same] at fine
      rw [rest.sent fine,sent,List.length_append,Nat.add_assoc]

theorem log_quiet (s : Region) (log : List Event) (delay : Option Packet) :
    Quiet player s {s with log := log, delay := delay} :=
  ⟨rfl,rfl,fun _ => rfl,fun _ => rfl,id,rfl⟩

theorem send_follows (message : Message) (s : Region) :
    Follows env player [.ignored] s (send env message s) := by
  refine ⟨?_,fun _ => log_quiet player s _ _,fun _ => rfl⟩
  intro lost
  cases lost

theorem shutdown_follows (s : Region) (active : Active player s) :
    Follows env player [.stop] s (shutdownPlayer player s) := by
  refine ⟨fun _ => shutdownPlayer_queues player s active,?_,?_⟩
  · intro fine
    cases fine
  · intro fine
    cases fine

theorem guarded_follows (rest : Script) (s sent t : Region) (active : Active player s)
    (quiet : Quiet player s sent) (logged : sent.log.length = s.log.length + 1)
    (continues : sends env s = true → Quiet player s sent → Active player sent →
      Follows env player rest sent t)
    (ends : sends env s = false → t = shutdownPlayer player sent) :
    Follows env player (.attempt :: rest) s t := by
  have still := quiet.active active
  cases net : env.net s.log.length with
  | false =>
    have lost : fails env.net s.log.length (.attempt :: rest) = true := by
      rw [fails,net]
      rfl
    have queued := shutdownPlayer_queues player sent still
    rw [Queues,quiet.queue,← ends net] at queued
    refine ⟨fun _ => queued,?_,?_⟩
    · intro fine
      rw [lost] at fine
      cases fine
    · intro fine
      rw [lost] at fine
      cases fine
  | true =>
    have follows := continues net quiet still
    have same : fails env.net s.log.length (.attempt :: rest) = fails env.net sent.log.length rest := by
      rw [fails,net,logged]
      rfl
    refine ⟨?_,?_,?_⟩
    · intro lost
      rw [same] at lost
      have queued := follows.lost lost
      rw [Queues,quiet.queue] at queued
      exact queued
    · intro fine
      rw [same] at fine
      exact quiet.trans (follows.quiet fine)
    · intro fine
      rw [same] at fine
      rw [follows.sent fine,logged,List.length_cons]
      omega

theorem attempt_follows (rest : Script) (message : Message) (next : Region → Region) (s : Region)
    (active : Active player s)
    (continues : ∀ t, Quiet player s t → Active player t → Follows env player rest t (next t)) :
    Follows env player (.attempt :: rest) s (attempt env player message next s) := by
  refine guarded_follows env player rest s (send env message s) _ active (log_quiet player s _ _) rfl ?_ ?_
  · intro fine quiet still
    rw [attempt,if_pos fine]
    exact continues _ quiet still
  · intro lost
    rw [attempt,lost]
    rfl

theorem write_log (packet : Packet) (s : Region) :
    (write env packet s).log.length = s.log.length + 1 := by
  rw [write]
  split <;> rfl

theorem write_quiet (packet : Packet) (s : Region) : Quiet player s (write env packet s) := by
  rw [write]
  split
  · exact log_quiet player s _ _
  · exact log_quiet player s _ _

theorem attemptWrite_follows (rest : Script) (packet : Packet) (next : Region → Region) (s : Region)
    (active : Active player s)
    (continues : ∀ t, Quiet player s t → Active player t → Follows env player rest t (next t)) :
    Follows env player (.attempt :: rest) s (attemptWrite env player packet next s) := by
  refine guarded_follows env player rest s (write env packet s) _ active (write_quiet env player packet s)
    (write_log env packet s) ?_ ?_
  · intro fine quiet still
    rw [attemptWrite,if_pos fine]
    exact continues _ quiet still
  · intro lost
    rw [attemptWrite,lost]
    rfl

theorem attemptData_follows (rest : Script) (next : Region → Region) (s : Region) (active : Active player s)
    (continues : ∀ t, Quiet player s t → Active player t → Follows env player rest t (next t)) :
    Follows env player (.attempt :: rest) s (attemptData env player next s) :=
  attempt_follows env player rest _ next s active continues

theorem transition_follows (event : PlayerEvent) (s : Region) (plain : event ≠ .onRegionAllocReq) :
    Follows env player [] s (stateTransition event player s) :=
  follows_nil env player s _ (stateTransition_quiet player event s plain) (stateTransition_log player event s)

/-- Without a name that converts there is nothing to send. -/
def whenNamed (other : Object) (script : Script) (s : Region) : Script :=
  if (env.wchar2Char (s.contexts other).avatarName).isSome then script else []

theorem whenNamed_quiet (other : Object) (script : Script) (s t : Region) (quiet : Quiet player s t) :
    whenNamed env other script t = whenNamed env other script s := by
  rw [whenNamed,whenNamed,quiet.avatarNames]

theorem withName_follows (other : Object) (script : Script) (next : List UInt8 → Region → Region) (s : Region)
    (continues : ∀ name, Follows env player script s (next name s)) :
    Follows env player (whenNamed env other script s) s (withName env other next s) := by
  rw [whenNamed,withName]
  cases env.wchar2Char (s.contexts other).avatarName with
  | none => exact follows_nil env player s s (.refl player s) rfl
  | some name => exact continues name

theorem foldl_follows {Member : Type} (handle : Region → Member → Region) (script : Member → Script)
    (does : ∀ s member, Does s (handle s member)) (members : List Member) (s : Region)
    (continues : ∀ member t, Quiet player s t → Active player t → Follows env player (script member) t (handle t member))
    (t : Region) (quiet : Quiet player s t) (active : Active player t) :
    Follows env player (members.flatMap script) t (members.foldl handle t) := by
  induction members generalizing t with
  | nil => exact follows_nil env player t t (.refl player t) rfl
  | cons member members ih =>
    rw [List.flatMap_cons,List.foldl_cons]
    apply follows_append env player _ _ t (handle t member) _ active (continues member t quiet active)
    · exact foldl_does handle does members _
    · intro more still
      exact ih _ (quiet.trans more) still

def sessionIds (s : Region) : List UInt32 :=
  (values s.playerContextByAvatarId).map fun player => (s.contexts player).sessionId

/-- A gate that has one of the sessions gets one message. -/
def broadcastScript (s : Region) : Script :=
  (List.range serverCountMax).flatMap fun gate =>
    if (sessionIds s).any fun id => (serverId id).toNat = gate then [.ignored] else []

theorem sessionIds_quiet (s t : Region) (quiet : Quiet player s t) : sessionIds t = sessionIds s := by
  rw [sessionIds,sessionIds,quiet.avatarMap]
  apply List.map_congr_left
  intro other _
  exact quiet.sessionIds other

theorem broadcastScript_quiet (s t : Region) (quiet : Quiet player s t) :
    broadcastScript t = broadcastScript s := by
  rw [broadcastScript,broadcastScript,sessionIds_quiet player s t quiet]

theorem broadcastData_follows (s : Region) (active : Active player s) :
    Follows env player (broadcastScript s) s (broadcastData env s) := by
  have marked : Quiet player s {s with
      undefined := s.undefined || (sessionIds s).any fun id => serverCountMax ≤ (serverId id).toNat} :=
    ⟨rfl,rfl,fun _ => rfl,fun _ => rfl,id,rfl⟩
  have begins := follows_nil env player s _ marked rfl
  have does (t : Region) (gate : Nat) : Does t
      (let there := ((sessionIds s).filter fun id => (serverId id).toNat = gate).take broadcastSessionMax
        if there.isEmpty then t else send env (.broadcastData (UInt8.ofNat gate) there t.delay) t) := by
    dsimp only
    split
    · exact .refl
    · exact send_does env t _ rfl
  rw [← List.nil_append (broadcastScript s)]
  apply follows_append env player [] _ s _ _ active begins
  · exact foldl_does _ does _ _
  · intro quiet still
    refine foldl_follows env player _ (fun gate =>
      if (sessionIds s).any fun id => (serverId id).toNat = gate then [.ignored] else []) does _ s ?_ _ quiet still
    intro gate t _ _
    dsimp only
    have empty : (((sessionIds s).filter fun id => (serverId id).toNat = gate).take broadcastSessionMax).isEmpty =
        !(sessionIds s).any fun id => (serverId id).toNat = gate := by
      rw [Bool.eq_iff_iff]
      simp [broadcastSessionMax]
    rw [empty]
    cases (sessionIds s).any fun id => (serverId id).toNat = gate with
    | false => exact follows_nil env player t t (.refl player t) rfl
    | true => exact send_follows env player _ t

end

end Fantuan.RegionServer.SendScripts
