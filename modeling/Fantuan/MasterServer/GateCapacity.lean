import Mathlib.Data.Finset.Card
import Fantuan.Lib.Run
import Fantuan.MasterServer.CacheLogins
import Fantuan.MasterServer.Deletion
import Fantuan.MasterServer.Effects

/-! The players whom the master has given to a gate, against the sessions that the gate may have.
GateAllocReq counts a player in, a report of the gate replaces the count, and DeletePlayer leaves
the count as it is.
-/
namespace Fantuan.MasterServer.GateCapacity
open Lib.Table Lib.Run Lib.Drain ServerBase.ServerCommon Tool.ObjectPool PlayerFsm Context ServerLoop
open Player Commands Deletion PlayerSteps CacheLogins Effects

/-- The gate that is asked for a session for the player. -/
def asked (player : Object) : Event → Option UInt8
  | .sent (some other) (.gateAllocReq gate _ _) _ => if other = player then some gate else none
  | _ => none

/-- The gate that GateAllocReq chose for the player, until he is deleted. -/
def allocation (player : Object) (log : List Event) : Option UInt8 :=
  (lifetime player log).findSome? (asked player)

def applicant : Event → Option Object
  | .sent player (.gateAllocReq _ _ _) _ => player
  | _ => none

def allocated (serverId : UInt8) (s : Loop) : Finset Object :=
  (s.log.filterMap applicant).toFinset.filter fun player => allocation player s.log = some serverId

def gateAt (serverId : UInt8) (s : Loop) : Option GateServerContext :=
  if serverId.toNat < serverCountMax then s.gateServerContext serverId else none

/-- GateAllocReq may choose the gate, if it can have sessions at all. -/
def Eligible (gate : GateServerContext) : Prop :=
  0 < gate.sessionMax → gate.sessionCount < gate.sessionMax

instance : DecidablePred Eligible := fun gate =>
  inferInstanceAs (Decidable (0 < gate.sessionMax → gate.sessionCount < gate.sessionMax))

/-- No gate has more players than sessions, and a gate without players can get some. -/
def Bounded (s : Loop) : Prop := ∀ serverId gate, gateAt serverId s = some gate →
  (allocated serverId s).card ≤ gate.sessionMax.toNat ∧ (allocated serverId s = ∅ → Eligible gate)

/-- A report counts the players of its gate, and is below the limit where there are none. The last
player of a gate is deleted when its count is below the limit. -/
def Timely (s : Loop) : Action → Prop
  | .command (.onGateReport serverId sessionCount) => s.shutdownStatus = .notShutdown →
    ∀ gate ∈ gateAt serverId s, (allocated serverId s).card ≤ sessionCount.toNat ∧
      (allocated serverId s = ∅ → Eligible {gate with sessionCount := sessionCount})
  | .command _ => True
  | .pass => ∀ player ∈ s.finalizingQueue.getLast?, ∀ serverId ∈ allocation player s.log,
    ∀ gate ∈ gateAt serverId s, allocated serverId s = {player} → Eligible gate

instance (s : Loop) (action : Action) : Decidable (Timely s action) := by
  cases action with
  | command command =>
    cases command
    case onGateReport => exact inferInstanceAs (Decidable (_ → ∀ gate ∈ gateAt _ s, _))
    all_goals exact inferInstanceAs (Decidable True)
  | pass => exact inferInstanceAs (Decidable (∀ player ∈ s.finalizingQueue.getLast?, _))

theorem asked_applicant (player : Object) (event : Event) (gate : UInt8)
    (asks : asked player event = some gate) : applicant event = some player := by
  unfold asked at asks
  split at asks
  next other gate sessionId accountName success =>
    split at asks
    next same => exact congrArg some same
    · cases asks
  · cases asks

theorem mem_allocated (serverId : UInt8) (s : Loop) (player : Object) : player ∈ allocated serverId s ↔
    allocation player s.log = some serverId := by
  rw [allocated,Finset.mem_filter,and_iff_right_iff_imp]
  intro chosen
  obtain ⟨event,member,asks⟩ := List.exists_of_findSome?_eq_some chosen
  rw [List.mem_toFinset]
  exact List.mem_filterMap.mpr ⟨event,(List.takeWhile_sublist _).subset member,
    asked_applicant player event serverId asks⟩

theorem allocation_cons (player : Object) (event : Event) (log : List Event)
    (lives : event ≠ .deleted player) (unasked : asked player event = none) :
    allocation player (event :: log) = allocation player log := by
  rw [allocation,lifetime_cons player event log lives,List.findSome?_cons,unasked,allocation]

theorem allocation_deleted (player : Object) (log : List Event) :
    allocation player (.deleted player :: log) = none := by
  simp [allocation,lifetime]

theorem allocation_asked (player : Object) (gate : UInt8) (sessionId : UInt32) (accountName : WString)
    (success : Bool) (log : List Event) :
    allocation player (.sent (some player) (.gateAllocReq gate sessionId accountName) success :: log) =
      some gate := by
  rw [allocation,lifetime_cons player _ log (by simp),List.findSome?_cons]
  simp [asked]

def figures (gate : GateServerContext) : UInt8 × UInt16 × UInt16 :=
  (gate.serverId,gate.sessionMax,gate.sessionCount)

/-- The gates keep their figures, the players their gates, and no context is cleared. -/
structure Steady (s t : Loop) : Prop where
  gates : ∀ serverId, (t.gateServerContext serverId).map figures =
    (s.gateServerContext serverId).map figures
  choices : ∀ player, allocation player t.log = allocation player s.log
  idle : ∀ player, (t.contexts player).state = .none → (s.contexts player).state = .none

theorem steady_refl (s : Loop) : Steady s s := ⟨fun _ => rfl,fun _ => rfl,fun _ => id⟩

theorem steady_trans (s t u : Loop) (first : Steady s t) (second : Steady t u) : Steady s u :=
  ⟨fun serverId => (second.gates serverId).trans (first.gates serverId),
    fun player => (second.choices player).trans (first.choices player),
    fun player cleared => first.idle player (second.idle player cleared)⟩

/-- A gate has as many players as it counts at most, and a cleared context has no gate. -/
structure Within (s : Loop) : Prop where
  named : ∀ serverId gate, gateAt serverId s = some gate → gate.serverId = serverId
  counted : ∀ serverId gate, gateAt serverId s = some gate →
    (allocated serverId s).card ≤ gate.sessionCount.toNat
  bounded : Bounded s
  idle : ∀ player, (s.contexts player).state = .none → allocation player s.log = none

theorem figures_kept (s t : Loop) (gates : ∀ serverId, (t.gateServerContext serverId).map figures =
      (s.gateServerContext serverId).map figures) (serverId : UInt8) (gate : GateServerContext)
    (found : gateAt serverId t = some gate) :
    ∃ before, gateAt serverId s = some before ∧ before.serverId = gate.serverId ∧
      before.sessionMax = gate.sessionMax ∧ before.sessionCount = gate.sessionCount := by
  rw [gateAt] at found ⊢
  split at found
  next small =>
    rw [if_pos small]
    have same := gates serverId
    rw [found] at same
    obtain ⟨before,there,kept⟩ := Option.map_eq_some_iff.mp same.symm
    exact ⟨before,there,by simpa only [figures,Prod.mk.injEq] using kept⟩
  · cases found

theorem steady_within (s t : Loop) (steady : Steady s t) (within : Within s) : Within t := by
  have same (serverId : UInt8) : allocated serverId t = allocated serverId s := by
    ext player
    rw [mem_allocated,mem_allocated,steady.choices player]
  refine ⟨fun serverId gate found => ?_,fun serverId gate found => ?_,fun serverId gate found => ?_,
    fun player cleared => ?_⟩
  · obtain ⟨before,there,named,-,-⟩ := figures_kept s t steady.gates serverId gate found
    rw [← named]
    exact within.named serverId before there
  · obtain ⟨before,there,-,-,count⟩ := figures_kept s t steady.gates serverId gate found
    rw [same,← count]
    exact within.counted serverId before there
  · obtain ⟨before,there,-,max,count⟩ := figures_kept s t steady.gates serverId gate found
    obtain ⟨few,free⟩ := within.bounded serverId before there
    rw [same,Eligible,← max,← count]
    exact ⟨few,free⟩
  · rw [steady.choices player]
    exact within.idle player (steady.idle player cleared)

section
variable (env : Env) (player : Object) (s : Loop)

theorem figures_updateGate (gate : UInt8) (change : GateServerContext → GateServerContext)
    (kept : ∀ context, figures (change context) = figures context) (serverId : UInt8) :
    ((updateGate gate change s).gateServerContext serverId).map figures =
      (s.gateServerContext serverId).map figures := by
  change (Function.update s.gateServerContext gate ((s.gateServerContext gate).map change) serverId).map
    figures = _
  by_cases same : serverId = gate
  · rw [same,Function.update_self,Option.map_map,show figures ∘ change = figures from funext kept]
  · rw [Function.update_of_ne same]

theorem same_steady (t u : Loop) (contexts : u.contexts = t.contexts)
    (gates : u.gateServerContext = t.gateServerContext) (log : u.log = t.log) (steady : Steady s t) :
    Steady s u := by
  refine steady_trans s t u steady ⟨fun serverId => ?_,fun other => ?_,fun other => ?_⟩
  · rw [gates]
  · rw [log]
  · rw [contexts]
    exact id

theorem update_steady (t : Loop) (change : MasterPlayerContext → MasterPlayerContext)
    (stays : (change (t.contexts player)).state = .none → (t.contexts player).state = .none)
    (steady : Steady s t) : Steady s (t.update player change) := by
  refine steady_trans s t _ steady ⟨fun _ => rfl,fun _ => rfl,fun other => ?_⟩
  by_cases same : other = player
  · rw [same,update_same]
    exact stays
  · rw [update_other t player other change same]
    exact id

theorem event_steady (t u : Loop) (event : Event) (lives : ∀ other, event ≠ .deleted other)
    (unasked : ∀ other, asked other event = none) (contexts : u.contexts = t.contexts)
    (gates : u.gateServerContext = t.gateServerContext) (log : u.log = event :: t.log)
    (steady : Steady s t) : Steady s u := by
  refine steady_trans s t u steady ⟨fun serverId => ?_,fun other => ?_,fun other => ?_⟩
  · rw [gates]
  · rw [log]
    exact allocation_cons other event t.log (lives other) (unasked other)
  · rw [contexts]
    exact id

theorem send_steady (whom : Option Object) (t : Loop) (message : Message)
    (free : ∀ gate sessionId accountName, message ≠ .gateAllocReq gate sessionId accountName)
    (steady : Steady s t) : Steady s (send env whom message t) := by
  refine event_steady s t _ _ (by simp) (fun other => ?_) rfl rfl rfl steady
  unfold asked
  split
  next sent => exact absurd (Event.sent.inj sent).2.1 (free _ _ _)
  · rfl

theorem transition_started (state next : PlayerState) (event : PlayerEvent)
    (reached : transition state event = some next) : next ≠ .none := by
  have rows : ∀ row ∈ initStateMachine state, row.2 ≠ .none := by
    cases state <;> decide
  exact rows _ (transition_mem state next event reached)

theorem stateTransition_steady (t : Loop) (event : PlayerEvent) (steady : Steady s t) :
    Steady s (stateTransition event player t) := by
  cases reached : reaches event player t with
  | none =>
    rw [stateTransition_none player t event reached]
    exact steady
  | some next =>
    rw [stateTransition_reached player t event next reached]
    exact update_steady player s t _ (fun cleared => absurd cleared (transition_started _ next event reached))
      steady

theorem steady_steps : Steps env player (Steady s) where
  same t steady u contexts gates log := same_steady s t u contexts gates log steady
  sent t message quiet steady := by
    refine send_steady env s (some player) t message ?_ steady
    rintro gate sessionId accountName rfl
    cases quiet
  moved t event steady := stateTransition_steady player s t event steady
  changed t change spares steady := by
    refine update_steady player s t change ?_ steady
    rw [spares.state]
    exact id
  queued t steady := by
    have marked := update_steady player s t (fun context => {context with finalizing := true}) id steady
    exact event_steady s (t.update player fun context => {context with finalizing := true}) _
      (.queued player) (by simp) (fun _ => rfl) rfl rfl rfl marked

theorem steady_closed : Closed env player (Steady s) where
  toSteps := steady_steps env player s
  shut t steady := shutdownPlayer_holds env player _ (steady_steps env player s) t steady
    fun _ _ u _ before => send_steady env s (some player) u _ (by simp) before

theorem loginSession2GateSession_steady (t : Loop) (loginSessionId gateSessionId : UInt32)
    (steady : Steady s t) : Steady s (loginSession2GateSession player loginSessionId gateSessionId t) := by
  have renamed := update_steady player s t (fun context => {context with sessionId := gateSessionId}) id steady
  rw [loginSession2GateSession]
  dsimp only
  split
  · exact same_steady s t _ rfl rfl rfl steady
  · have moved : Steady s (updateGate (serverId gateSessionId)
        (fun gate => {gate with players := insert gateSessionId player gate.players})
        (t.update player fun context => {context with sessionId := gateSessionId})) :=
      steady_trans s _ _ renamed ⟨figures_updateGate _ _ _ fun _ => rfl,fun _ => rfl,fun _ => id⟩
    split
    · exact ⟨moved.gates,moved.choices,moved.idle⟩
    · exact ⟨moved.gates,moved.choices,moved.idle⟩

theorem gateAllocAck_steady (gate : UInt8) (gateSessionId : UInt32) :
    Steady s (gateAllocAck env player gate gateSessionId s) := by
  have closed := steady_closed env player s
  have start := steady_refl s
  rw [gateAllocAck]
  split
  · exact closed.shut _ (closed.moved s _ start)
  · refine expect_holds env player _ closed s _ _ _ start fun t steady => ?_
    have chosen := update_steady player s t (fun context => {context with gateServerId := gate}) id steady
    dsimp only
    split
    · exact closed.shut _ chosen
    · refine attemptWrite_holds env player _ closed _ _ _ chosen fun u steady => ?_
      have forwarded := send_steady env s (some player) u (toLogin player u) (by simp [toLogin]) steady
      refine attempt_holds env player _ closed u _ _ forwarded fun v steady => ?_
      refine expect_holds env player _ closed v _ _ _ steady fun w steady => ?_
      exact loginSession2GateSession_steady player s w _ _ steady

theorem handlePacket_steady (packet : Packet) (t : Loop) (steady : Steady s t) :
    Steady s (handlePacket env player packet t) :=
  handlePacket_holds env player _ (steady_closed env player s) t packet steady
    (fun _ _ u _ steady => update_steady player s u _ id steady)
    fun _ u steady _ => update_steady player s u _ id steady

end

section
variable (env : Env) (player : Object) (s : Loop)

theorem gateAllocReq_chooses (gate : UInt8) (counted : Loop)
    (chosen : ServerLoop.gateAllocReq s = (some gate,counted)) :
    ∃ serverId context, gateAt serverId s = some context ∧ context.sessionCount < context.sessionMax ∧
      gate = context.serverId ∧ counted = updateGate serverId
        (fun gate => {gate with sessionCount := gate.sessionCount + 1}) s := by
  rw [ServerLoop.gateAllocReq] at chosen
  split at chosen
  next serverId context free =>
    obtain ⟨i,inside,picked⟩ := List.exists_of_findSome?_eq_some free
    have small : i < serverCountMax := List.mem_range.mp inside
    obtain ⟨named,updated⟩ := Prod.mk.inj chosen
    split at picked
    next gate there =>
      split at picked
      next room =>
        obtain ⟨rfl,rfl⟩ := Prod.mk.inj (Option.some.inj picked)
        refine ⟨UInt8.ofNat i,gate,?_,room,(Option.some.inj named).symm,updated.symm⟩
        have index : (UInt8.ofNat i).toNat = i := by
          rw [UInt8.toNat_ofNat']
          exact Nat.mod_eq_of_lt (by unfold serverCountMax at small; omega)
        rw [gateAt,if_pos (by rw [index]; exact small),there]
      · cases picked
    · cases picked
  · cases chosen

theorem counted_within (t : Loop) (serverId : UInt8) (gate : GateServerContext) (sessionId : UInt32)
    (accountName : WString) (success : Bool) (within : Within s) (found : gateAt serverId s = some gate)
    (room : gate.sessionCount < gate.sessionMax) (unallocated : allocation player s.log = none)
    (gates : t.gateServerContext = (updateGate serverId
      (fun gate => {gate with sessionCount := gate.sessionCount + 1}) s).gateServerContext)
    (log : t.log = .sent (some player) (.gateAllocReq serverId sessionId accountName) success :: s.log)
    (started : (t.contexts player).state ≠ .none)
    (idle : ∀ other, other ≠ player → (t.contexts other).state = .none → (s.contexts other).state = .none) :
    Within t := by
  have others (other : Object) (different : other ≠ player) :
      allocation other t.log = allocation other s.log := by
    rw [log]
    refine allocation_cons other _ s.log (by simp) ?_
    simp [asked,different.symm]
  have own : allocation player t.log = some serverId := by
    rw [log]
    exact allocation_asked player serverId sessionId accountName success s.log
  have grown : allocated serverId t ⊆ insert player (allocated serverId s) := by
    intro other member
    rw [Finset.mem_insert]
    by_cases same : other = player
    · exact .inl same
    · rw [mem_allocated,others other same] at member
      exact .inr ((mem_allocated serverId s other).mpr member)
  have elsewhere (place : UInt8) (away : place ≠ serverId) : allocated place t = allocated place s := by
    ext other
    rw [mem_allocated,mem_allocated]
    by_cases same : other = player
    · rw [same,own,unallocated]
      simp [away.symm]
    · rw [others other same]
  have entries (place : UInt8) (context : GateServerContext) (there : gateAt place t = some context) :
      place = serverId ∧ context = {gate with sessionCount := gate.sessionCount + 1} ∨
        place ≠ serverId ∧ gateAt place s = some context := by
    rw [gateAt,gates] at there
    rw [gateAt] at found ⊢
    split at there
    next small =>
      change Function.update s.gateServerContext serverId _ place = _ at there
      rw [if_pos small]
      by_cases same : place = serverId
      · rw [← same,if_pos small] at found
        rw [same,Function.update_self,← same,found] at there
        exact .inl ⟨same,(Option.some.inj there).symm⟩
      · rw [Function.update_of_ne same] at there
        exact .inr ⟨same,there⟩
    · cases there
  have count : (gate.sessionCount + 1).toNat = gate.sessionCount.toNat + 1 := by
    have less := UInt16.lt_iff_toNat_lt.mp room
    have small := gate.sessionMax.toNat_lt
    rw [UInt16.toNat_add]
    exact Nat.mod_eq_of_lt (by change gate.sessionCount.toNat + 1 < _; omega)
  have few : (allocated serverId t).card ≤ gate.sessionCount.toNat + 1 :=
    (Finset.card_le_card grown).trans ((Finset.card_insert_le _ _).trans
      (Nat.succ_le_succ (within.counted serverId gate found)))
  have some : allocated serverId t ≠ ∅ :=
    Finset.ne_empty_of_mem ((mem_allocated serverId t player).mpr own)
  refine ⟨fun place context there => ?_,fun place context there => ?_,fun place context there => ?_,
    fun other cleared => ?_⟩
  · rcases entries place context there with ⟨rfl,rfl⟩ | ⟨-,before⟩
    · exact within.named place gate found
    · exact within.named place context before
  · rcases entries place context there with ⟨rfl,rfl⟩ | ⟨away,before⟩
    · rw [count]
      exact few
    · rw [elsewhere place away]
      exact within.counted place context before
  · rcases entries place context there with ⟨rfl,rfl⟩ | ⟨away,before⟩
    · have less := UInt16.lt_iff_toNat_lt.mp room
      exact ⟨few.trans less,fun empty => absurd empty some⟩
    · rw [elsewhere place away]
      exact within.bounded place context before
  · by_cases same : other = player
    · rw [same] at cleared
      exact absurd cleared started
    · rw [others other same]
      exact within.idle other (idle other same cleared)

theorem reached_fresh (state : PlayerState) (reached : transition state .onLoginReq = some .onLoginReq) :
    state = .none := by
  cases state with
  | none => rfl
  | _ => cases reached

theorem onLoginReq_within (sessionId : UInt32) (accountName : WString) (within : Within s) :
    Within (onLoginReq env player sessionId accountName s) := by
  have closed := steady_closed env player
  have moved := (closed s).moved s .onLoginReq (steady_refl s)
  rw [onLoginReq,expect]
  dsimp only
  split
  next reached =>
    have unallocated := within.idle player (reached_fresh _ reached)
    have joins : Steady s ((stateTransition .onLoginReq player s).update player fun context =>
        {context with sessionId := sessionId, accountName := accountName}) :=
      update_steady player s _ _ id moved
    have started : (((stateTransition .onLoginReq player s).update player fun context =>
        {context with sessionId := sessionId, accountName := accountName}).contexts player).state ≠ .none := by
      rw [update_same,stateTransition_reached player s _ _ reached,setState,update_same]
      simp
    generalize (stateTransition .onLoginReq player s).update player (fun context =>
      {context with sessionId := sessionId, accountName := accountName}) = joined at *
    have inside := steady_within s joined joins within
    split
    next full result =>
      have same : full = joined := by
        rw [ServerLoop.gateAllocReq] at result
        split at result
        · cases result
        · exact (Prod.mk.inj result).2.symm
      rw [same]
      exact inside
    next gate counted result =>
      obtain ⟨place,context,found,room,rfl,updated⟩ := gateAllocReq_chooses joined gate counted result
      rw [inside.named place context found]
      let chosen := counted.update player fun context => {context with gateServerId := place}
      let sent := send env (some player) (.gateAllocReq place sessionId accountName) chosen
      have asks : Within sent := by
        refine counted_within player joined sent place context sessionId accountName
          (env.net chosen.log.length) inside found room ?_ ?_ ?_ ?_ ?_
        · rw [joins.choices]
          exact unallocated
        · rw [← updated]
          rfl
        · change _ :: counted.log = _
          rw [updated]
          rfl
        · change (chosen.contexts player).state ≠ .none
          rw [update_same,updated]
          exact started
        · intro other different
          change (chosen.contexts other).state = .none → _
          rw [update_other _ player other _ different,updated]
          exact id
      split
      · have entered := expect_holds env player _ (closed sent) sent .gateAllocReq .gateAllocReq id
          (steady_refl sent) fun _ steady => steady
        exact steady_within sent _ entered asks
      · exact asks
  · exact steady_within s _ ((closed s).shut _ moved) within

theorem onCommandOnLoginReq_within (sessionId : UInt32) (accountName : WString) (within : Within s) :
    Within (onCommandOnLoginReq env sessionId accountName s) := by
  have told (message : Message)
      (free : ∀ gate sessionId accountName, message ≠ .gateAllocReq gate sessionId accountName) :
      Steady s (send env none message s) :=
    send_steady env s none s message free (steady_refl s)
  rw [onCommandOnLoginReq]
  split
  · exact steady_within s _ (told _ (by simp)) within
  · split
    next player _ =>
      exact steady_within s _ ((steady_closed env player s).shut _ (told _ (by simp))) within
    · split
      · exact steady_within s _ (told _ (by simp)) within
      next player pool _ =>
        apply onLoginReq_within
        refine steady_within s _ ?_ within
        exact event_steady s s _ (.allocated player) (by simp) (fun _ => rfl) rfl rfl rfl (steady_refl s)

theorem shutdowns_steady (players : List Object) (t : Loop) (steady : Steady s t) :
    Steady s (players.foldl (fun s player => shutdownPlayer env player s) t) := by
  induction players generalizing t with
  | nil => exact steady
  | cons player players ih => exact ih _ ((steady_closed env player s).shut t steady)

theorem forSession_steady (sessionId : UInt32) (handle : Object → Loop → Loop)
    (steady : ∀ player, Steady s (handle player s)) : Steady s (forSession sessionId handle s) := by
  rw [forSession]
  split
  next player _ => exact steady player
  · exact steady_refl s

theorem onCommandOnGateReport_within (serverId : UInt8) (sessionCount : UInt16) (within : Within s)
    (timely : ∀ gate ∈ gateAt serverId s, (allocated serverId s).card ≤ sessionCount.toNat ∧
      (allocated serverId s = ∅ → Eligible {gate with sessionCount := sessionCount})) :
    Within (onCommandOnGateReport serverId sessionCount s) := by
  rw [onCommandOnGateReport]
  split
  · exact steady_within s _ (same_steady s s _ rfl rfl rfl (steady_refl s)) within
  · have entries (place : UInt8) (context : GateServerContext) (there : gateAt place (updateGate serverId
          (fun gate => {gate with isConnected := true, sessionCount := sessionCount}) s) = some context) :
        ∃ before, gateAt place s = some before ∧ (place = serverId ∧
          context = {before with isConnected := true, sessionCount := sessionCount} ∨ context = before) := by
      rw [gateAt] at there ⊢
      split at there
      next small =>
        rw [if_pos small]
        change Function.update s.gateServerContext serverId _ place = _ at there
        by_cases same : place = serverId
        · rw [same,Function.update_self] at there
          obtain ⟨before,found,rfl⟩ := Option.map_eq_some_iff.mp there
          exact ⟨before,by rw [same,found],.inl ⟨same,rfl⟩⟩
        · rw [Function.update_of_ne same] at there
          exact ⟨context,there,.inr rfl⟩
      · cases there
    refine ⟨fun place context there => ?_,fun place context there => ?_,fun place context there => ?_,
      within.idle⟩
    · obtain ⟨before,found,⟨rfl,rfl⟩ | rfl⟩ := entries place context there
      · exact within.named place before found
      · exact within.named place context found
    · obtain ⟨before,found,⟨rfl,rfl⟩ | rfl⟩ := entries place context there
      · exact (timely before found).1
      · exact within.counted place context found
    · obtain ⟨before,found,⟨rfl,rfl⟩ | rfl⟩ := entries place context there
      · exact ⟨(within.bounded place before found).1,(timely before found).2⟩
      · exact within.bounded place context found

theorem onCommand_within (command : Command) (within : Within s) (timely : Timely s (.command command)) :
    Within (onCommand env command s) := by
  have closed (player : Object) := steady_closed env player s
  have start := steady_refl s
  rw [onCommand.eq_def]
  split
  · exact within
  next opened =>
    cases command with
    | shutdown =>
      have begun : Steady s {s with shutdownStatus := .startShutdown} := same_steady s s _ rfl rfl rfl start
      exact steady_within s _ (shutdowns_steady env s _ _ begun) within
    | onLoginReport => exact steady_within s _ (same_steady s s _ rfl rfl rfl start) within
    | onGateReport serverId sessionCount =>
      exact onCommandOnGateReport_within s serverId sessionCount within (timely (not_not.mp opened))
    | onLoginReq sessionId accountName => exact onCommandOnLoginReq_within env s sessionId accountName within
    | gateAllocAck gate loginSessionId accountName gateSessionId =>
      refine steady_within s _ ?_ within
      dsimp only [onCommandGateAllocAck]
      split
      next player _ =>
        split
        · exact gateAllocAck_steady env player s gate gateSessionId
        · exact start
      · exact start
    | onGateLoginReq sessionId =>
      exact steady_within s _ (forSession_steady s sessionId _ fun player =>
        onGateLoginReq_holds env player _ (closed player) s start) within
    | onRegionAllocAck sessionId region result =>
      exact steady_within s _ (forSession_steady s sessionId _ fun player =>
        onRegionAllocAck_holds env player _ (closed player) s region result start) within
    | onRegionLeaveReq sessionId =>
      exact steady_within s _ (forSession_steady s sessionId _ fun player =>
        onRegionLeaveReq_holds env player _ (closed player) s start) within
    | onRegionPlayerFailReq sessionId =>
      exact steady_within s _ (forSession_steady s sessionId _ fun player =>
        onRegionPlayerFailReq_holds env player _ (closed player) s start) within
    | onSessionDisconnect sessionId =>
      exact steady_within s _ (forSession_steady s sessionId _ fun player =>
        (closed player).shut s start) within
    | packetForward sessionId typeId data =>
      exact steady_within s _ (forSession_steady s sessionId _ fun player =>
        handlePacket_steady env player s _ _ (same_steady s s _ rfl rfl rfl start)) within
    | other => exact within

/-- The player has left his gate; the others, and the figures of the gates, are as before. -/
structure Removed (player : Object) (s t : Loop) : Prop where
  gates : ∀ serverId, (t.gateServerContext serverId).map figures =
    (s.gateServerContext serverId).map figures
  own : allocation player t.log = none
  others : ∀ other, other ≠ player → allocation other t.log = allocation other s.log
  idle : ∀ other, other ≠ player → (t.contexts other).state = .none → (s.contexts other).state = .none

theorem deletePlayer_gates (serverId : UInt8) :
    ((deletePlayer player s).gateServerContext serverId).map figures =
      (s.gateServerContext serverId).map figures := by
  have gates : (deletePlayer player s).gateServerContext =
      (unregioned player (unserved player s)).gateServerContext := by
    rw [unregioned,(unserved_core player s).contexts]
    rfl
  have left : (unregioned player (unserved player s)).gateServerContext =
      (unserved player s).gateServerContext := by
    rw [unregioned]
    split <;> rfl
  rw [gates,left,unserved]
  split
  · rfl
  · rfl
  · rw [deletePlayerFromGateServerContext]
    split
    · rfl
    · exact figures_updateGate s _ (fun gate => {gate with
        players := erase (s.contexts player).sessionId gate.players}) (fun _ => rfl) serverId

theorem deletePlayer_removed (t : Loop) (before : t = s ∨ Removed player s t) :
    Removed player s (deletePlayer player t) := by
  have deleted := deletePlayer_deleted player t
  have gates := deletePlayer_gates player t
  have forgotten (other : Object) (different : other ≠ player) :
      allocation other (deletePlayer player t).log = allocation other t.log := by
    rw [deleted.log]
    exact allocation_cons other _ t.log (by simpa using different.symm) rfl
  have kept (other : Object) (different : other ≠ player) :
      (deletePlayer player t).contexts other = t.contexts other := by
    rw [deleted.contexts,Function.update_of_ne different]
  refine ⟨fun serverId => ?_,?_,fun other different => ?_,fun other different => ?_⟩
  · rw [gates]
    rcases before with rfl | removed
    · rfl
    · exact removed.gates serverId
  · rw [deleted.log]
    exact allocation_deleted player t.log
  · rw [forgotten other different]
    rcases before with rfl | removed
    · rfl
    · exact removed.others other different
  · rw [kept other different]
    rcases before with rfl | removed
    · exact id
    · exact removed.idle other different

theorem deleteFinalizing_removed (last : Object) (back : s.finalizingQueue.getLast? = some last) :
    Removed last s (deleteFinalizing s) := by
  have some : s.finalizingQueue ≠ [] := by
    intro empty
    rw [empty] at back
    cases back
  have same : s.finalizingQueue.getLast some = last :=
    Option.some.inj ((List.getLast?_eq_some_getLast some).symm.trans back)
  have drained : Removed last s (drainBack deletePlayer s.finalizingQueue s) := by
    obtain ⟨n,length⟩ : ∃ n, s.finalizingQueue.length = n + 1 :=
      Nat.exists_eq_succ_of_ne_zero (List.length_pos_iff.mpr some).ne'
    rw [drainBack_last deletePlayer _ some,same,length]
    exact repeated_invariant (deletePlayer last) (Removed last s)
      (fun t removed => deletePlayer_removed last s t (.inr removed)) n _
      (deletePlayer_removed last s s (.inl rfl))
  exact ⟨drained.gates,drained.own,drained.others,drained.idle⟩

theorem removed_within (t : Loop) (removed : Removed player s t)
    (room : ∀ serverId ∈ allocation player s.log, ∀ gate ∈ gateAt serverId s,
      allocated serverId s = {player} → Eligible gate) (within : Within s) : Within t := by
  have left (serverId : UInt8) : allocated serverId t = (allocated serverId s).erase player := by
    ext other
    rw [Finset.mem_erase,mem_allocated,mem_allocated]
    by_cases same : other = player
    · rw [same,removed.own]
      simp
    · rw [removed.others other same]
      simp [same]
  have fewer (serverId : UInt8) : (allocated serverId t).card ≤ (allocated serverId s).card := by
    rw [left]
    exact Finset.card_le_card (Finset.erase_subset _ _)
  refine ⟨fun serverId gate found => ?_,fun serverId gate found => ?_,fun serverId gate found => ?_,
    fun other idle => ?_⟩
  · obtain ⟨before,there,named,-,-⟩ := figures_kept s t removed.gates serverId gate found
    rw [← named]
    exact within.named serverId before there
  · obtain ⟨before,there,-,-,count⟩ := figures_kept s t removed.gates serverId gate found
    rw [← count]
    exact (fewer serverId).trans (within.counted serverId before there)
  · obtain ⟨before,there,-,max,count⟩ := figures_kept s t removed.gates serverId gate found
    obtain ⟨few,free⟩ := within.bounded serverId before there
    rw [Eligible,← max,← count]
    refine ⟨(fewer serverId).trans few,fun empty => ?_⟩
    rw [left,Finset.erase_eq_empty_iff] at empty
    rcases empty with nobody | alone
    · exact free nobody
    · refine room serverId ?_ before there alone
      rw [Option.mem_def,← mem_allocated,alone]
      exact Finset.mem_singleton_self player
  · by_cases same : other = player
    · rw [same]
      exact removed.own
    · rw [removed.others other same]
      exact within.idle other (removed.idle other same idle)

theorem loopPass_within (within : Within s) (timely : Timely s .pass) : Within (loopPass s) := by
  have drained : Within (deleteFinalizing s) := by
    cases back : s.finalizingQueue.getLast? with
    | none =>
      have same : deleteFinalizing s = s := by
        rw [List.getLast?_eq_none_iff] at back
        rw [deleteFinalizing,back,drainBack,← back]
      rw [same]
      exact within
    | some last =>
      have removed := deleteFinalizing_removed s last back
      exact removed_within last s _ removed (timely last back) within
  rw [loopPass]
  split
  · exact steady_within (deleteFinalizing s) _ ⟨fun _ => rfl,fun _ => rfl,fun _ => id⟩ drained
  · exact drained

theorem step_within (action : Action) (within : Within s) (timely : Timely s action) :
    Within (step env s action) := by
  cases action with
  | command command => exact onCommand_within env s command within timely
  | pass => exact loopPass_within s within timely

end

/-- The gates that are there count no session yet. -/
def Fresh (s : Loop) : Prop := ∀ serverId gate, s.gateServerContext serverId = some gate →
  gate.serverId = serverId ∧ gate.sessionCount = 0

theorem addGate_fresh (s : Loop) (item : GateConfigItem) (fresh : Fresh s) : Fresh (s.addGate item) := by
  rw [Loop.addGate]
  split
  · exact fresh
  · intro serverId gate there
    change Function.update s.gateServerContext item.serverId _ serverId = some gate at there
    by_cases same : serverId = item.serverId
    · rw [same,Function.update_self] at there
      obtain rfl := Option.some.inj there
      exact ⟨same.symm,rfl⟩
    · rw [Function.update_of_ne same] at there
      exact fresh serverId gate there

theorem init_fresh (config : MasterServerConfig) : Fresh (.init config) := by
  have gates (items : List GateConfigItem) (s : Loop) (fresh : Fresh s) :
      Fresh (items.foldl Loop.addGate s) := by
    induction items generalizing s with
    | nil => exact fresh
    | cons item items ih => exact ih _ (addGate_fresh s item fresh)
  have channels (items : List ChannelConfigItem) (s : Loop) (fresh : Fresh s) :
      Fresh (items.foldl Loop.addChannel s) := by
    induction items generalizing s with
    | nil => exact fresh
    | cons item items ih =>
      apply ih
      rw [Loop.addChannel]
      split
      · exact fresh
      · exact fresh
  refine channels _ _ (gates config.gateConfigItems .new fun serverId gate there => ?_)
  cases there

theorem init_within (config : MasterServerConfig) : Within (.init config) := by
  have log : (Loop.init config).log = [] := (init_unused config).core.log
  have nobody (serverId : UInt8) : allocated serverId (.init config) = ∅ := by
    rw [allocated,log]
    rfl
  have fresh (serverId : UInt8) (gate : GateServerContext)
      (found : gateAt serverId (.init config) = some gate) : gate.serverId = serverId ∧ gate.sessionCount = 0 := by
    rw [gateAt] at found
    split at found
    · exact init_fresh config serverId gate found
    · cases found
  refine ⟨fun serverId gate found => (fresh serverId gate found).1,fun serverId gate found => ?_,
    fun serverId gate found => ⟨?_,fun _ => ?_⟩,fun player _ => ?_⟩
  · rw [nobody]
    exact Nat.zero_le _
  · rw [nobody]
    exact Nat.zero_le _
  · rw [Eligible,(fresh serverId gate found).2]
    exact id
  · rw [log]
    rfl

/-- In every run whose reports and deletions are in time, the gates stay within their limits. -/
theorem gates_bounded (env : Env) (actions : List Action)
    (timely : Guarded (step env) Timely (.init env.config) actions) :
    Bounded (run (step env) (.init env.config) actions) :=
  (run_invariant (step env) Timely Within (step_within env) _ actions timely
    (init_within env.config)).bounded

theorem gates_bounded_gate :
    Bounded (run (step (sampleEnv fun _ => true)) (.init (sampleEnv fun _ => true).config)
      (enterGate ++ [.command (.onGateReport 1 1),.command (.onSessionDisconnect gateSession),.pass])) :=
  gates_bounded (sampleEnv fun _ => true) _ (by decide +kernel)

def narrowEnv : Env := {sampleEnv (fun _ => true) with config := ⟨[⟨1,16777343,5000,1⟩],[]⟩}

/-- The gate reports that it has no session while one is being allocated. -/
def lateReport : List Action :=
  [.command (.onLoginReport 1),.command (.onLoginReq 10 [99]),.command (.onGateReport 1 0),
    .command (.onLoginReq 11 [100])]

/-- The only player of the gate leaves before the gate has an answer. -/
def refusedPlayer : List Action :=
  [.command (.onLoginReport 1),.command (.onLoginReq 10 [99]),.command (.gateAllocAck 0 10 [99] 0),.pass]

/-- Two players hold the one session of the gate, and a gate without players gets none. -/
theorem gates_bounded_narrow :
    ¬ Bounded (run (step narrowEnv) (.init narrowEnv.config) lateReport) ∧
      ¬ Bounded (run (step narrowEnv) (.init narrowEnv.config) refusedPlayer) := by
  constructor
  · intro bounded
    have full : (gateAt 1 (run (step narrowEnv) (.init narrowEnv.config) lateReport)).map figures =
        some (1,1,1) := by
      decide +kernel
    obtain ⟨gate,found,shown⟩ := Option.map_eq_some_iff.mp full
    have few := (bounded 1 gate found).1
    have two : (allocated 1 (run (step narrowEnv) (.init narrowEnv.config) lateReport)).card = 2 := by
      decide +kernel
    obtain ⟨-,max,-⟩ : gate.serverId = 1 ∧ gate.sessionMax = 1 ∧ gate.sessionCount = 1 := by
      simpa only [figures,Prod.mk.injEq] using shown
    rw [two,max] at few
    revert few
    decide
  · intro bounded
    have full : (gateAt 1 (run (step narrowEnv) (.init narrowEnv.config) refusedPlayer)).map figures =
        some (1,1,1) := by
      decide +kernel
    obtain ⟨gate,found,shown⟩ := Option.map_eq_some_iff.mp full
    have nobody : allocated 1 (run (step narrowEnv) (.init narrowEnv.config) refusedPlayer) = ∅ := by
      decide +kernel
    have free := (bounded 1 gate found).2 nobody
    obtain ⟨-,max,count⟩ : gate.serverId = 1 ∧ gate.sessionMax = 1 ∧ gate.sessionCount = 1 := by
      simpa only [figures,Prod.mk.injEq] using shown
    rw [Eligible,max,count] at free
    revert free
    decide

end Fantuan.MasterServer.GateCapacity
