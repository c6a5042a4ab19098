import Fantuan.GateServer.Commands
import Fantuan.RegionServer.Indexes
import Fantuan.ServerBase.SessionServerLoop

/-! The lookups by a session id that another program has sent: GetSession of the session servers, and
GetPlayerContextBySessionId of a region. Both let through the index that is one too high, and the second
does not compare the id.
-/
namespace Fantuan.SessionLookups
open ServerBase.ServerCommon Tool.ObjectPool

/-- What a lookup does: it reads outside the array, returns null, or returns an object. -/
inductive Lookup where
  | outside
  | null
  | found (object : Object)
  deriving DecidableEq

def getSession (sessionMax : Nat) (ids : Object → UInt32) (sessionId : UInt32) : Lookup :=
  let index := (sessionIndex sessionId).toNat
  if sessionMax < index then .null
  else if sessionMax ≤ index then .outside
  else if ids index ≠ sessionId then .null
  else .found index

def getPlayerContextBySessionId (sessionId : UInt32) (s : RegionServer.ServerLoop.Loop) : Lookup :=
  if serverCountMax ≤ (serverId sessionId).toNat ∨ s.gateSessionIndexMax < sessionIndex sessionId then .null
  else match s.gateServerContext (serverId sessionId) with
    | none => .null
    | some slots =>
      if s.gateSessionIndexMax ≤ sessionIndex sessionId then .outside
      else match slots (sessionIndex sessionId) with
        | none => .null
        | some player => .found player

/-- The lookup stays inside the array, and what it finds has the id. -/
structure Right (ids : Object → UInt32) (sessionId : UInt32) (lookup : Lookup) : Prop where
  inside : lookup ≠ .outside
  own : ∀ object, lookup = .found object → ids object = sessionId

def Lookup.object : Lookup → Option Object
  | .found object => some object
  | .outside | .null => none

section
variable (sessionId : UInt32)

theorem getSession_object (sessionMax : Nat) (ids : Object → UInt32) :
    (getSession sessionMax ids sessionId).object =
      if (sessionIndex sessionId).toNat < sessionMax ∧ ids (sessionIndex sessionId).toNat = sessionId then
        some (sessionIndex sessionId).toNat else none := by
  rw [getSession]
  split
  next above => rw [if_neg fun inside => Nat.lt_asymm above inside.1]; rfl
  · split
    next outside => rw [if_neg fun inside => Nat.not_le_of_lt inside.1 outside]; rfl
    next inside =>
      split
      next other => rw [if_neg fun own => other own.2]; rfl
      next own => rw [if_pos ⟨Nat.lt_of_not_le inside,not_not.mp own⟩]; rfl

theorem getSession_outside (sessionMax : Nat) (ids : Object → UInt32) :
    getSession sessionMax ids sessionId = .outside ↔ (sessionIndex sessionId).toNat = sessionMax := by
  rw [getSession]
  split
  · simp only [reduceCtorEq,false_iff]
    omega
  · split
    · simp only [true_iff]
      omega
    · split <;> simp only [reduceCtorEq,false_iff] <;> omega

theorem getSession_right (sessionMax : Nat) (ids : Object → UInt32) :
    Right ids sessionId (getSession sessionMax ids sessionId) ↔ (sessionIndex sessionId).toNat ≠ sessionMax := by
  constructor
  · exact fun right last => right.inside ((getSession_outside sessionId sessionMax ids).mpr last)
  · intro other
    refine ⟨fun outside => other ((getSession_outside sessionId sessionMax ids).mp outside),?_⟩
    intro object found
    have known := getSession_object sessionId sessionMax ids
    rw [found,eq_comm,Lookup.object,Option.ite_none_right_eq_some] at known
    obtain ⟨own,same⟩ := known
    rw [← Option.some.inj same]
    exact own.2

theorem forSession_server (config : ServerBase.Sessions.Config) (s : ServerBase.Sessions.Loop)
    (handle : Object → ServerBase.Sessions.Loop → ServerBase.Sessions.Loop) :
    let lookup := getSession config.sessionMax.toNat (fun session => (s.sessions session).sessionId) sessionId
    ServerBase.SessionServerLoop.getSession config sessionId s = lookup.object ∧
      (lookup = .outside → ServerBase.SessionServerLoop.forSession config sessionId handle s =
        {s with undefined := true}) := by
  intro lookup
  have same : ServerBase.SessionServerLoop.getSession config sessionId s = lookup.object := by
    rw [ServerBase.SessionServerLoop.getSession,getSession_object]
  refine ⟨same,fun outside => ?_⟩
  have last := (getSession_outside sessionId _ _).mp outside
  rw [ServerBase.SessionServerLoop.forSession,same,outside]
  change {s with undefined := s.undefined || decide (sessionIndex sessionId = config.sessionMax)} = _
  rw [decide_eq_true (UInt16.toNat_inj.mp last),Bool.or_true]

theorem forSession_gate (s : GateServer.Session.Gate)
    (handle : Object → GateServer.Session.Gate → GateServer.Session.Gate) :
    let lookup := getSession s.sessionPool.maxSize (fun session => (s.sessions session).sessionId) sessionId
    GateServer.Session.getSession sessionId s = lookup.object ∧
      (lookup = .outside → GateServer.Commands.forSession sessionId handle s = {s with undefined := true}) := by
  intro lookup
  have same : GateServer.Session.getSession sessionId s = lookup.object := by
    rw [GateServer.Session.getSession,getSession_object]
  refine ⟨same,fun outside => ?_⟩
  have last := (getSession_outside sessionId _ _).mp outside
  rw [GateServer.Commands.forSession,same,outside]
  change {s with undefined := s.undefined || decide ((sessionIndex sessionId).toNat = s.sessionPool.maxSize)} = _
  rw [decide_eq_true last,Bool.or_true]

section
variable (s : RegionServer.ServerLoop.Loop)

/-- The tests of GetPlayerContextBySessionId leave the id without a slot. -/
def Unslotted : Prop :=
  serverCountMax ≤ (serverId sessionId).toNat ∨ s.gateSessionIndexMax < sessionIndex sessionId ∨
    s.gateServerContext (serverId sessionId) = none

theorem unslotted_null (unslotted : Unslotted sessionId s) : getPlayerContextBySessionId sessionId s = .null := by
  rw [getPlayerContextBySessionId]
  split
  · rfl
  next passed =>
    obtain ⟨server,index⟩ := not_or.mp passed
    rw [(unslotted.resolve_left server).resolve_left index]

theorem slotted_outside (slotted : ¬ Unslotted sessionId s) (last : sessionIndex sessionId = s.gateSessionIndexMax) :
    getPlayerContextBySessionId sessionId s = .outside := by
  obtain ⟨server,slotted⟩ := not_or.mp slotted
  obtain ⟨index,slotted⟩ := not_or.mp slotted
  obtain ⟨slots,context⟩ := Option.ne_none_iff_exists'.mp slotted
  rw [getPlayerContextBySessionId,if_neg (not_or.mpr ⟨server,index⟩),context]
  exact if_pos (UInt16.le_of_eq last.symm)

theorem slotted_slot (slotted : ¬ Unslotted sessionId s) (other : sessionIndex sessionId ≠ s.gateSessionIndexMax) :
    getPlayerContextBySessionId sessionId s =
      (RegionServer.Commands.slotOf sessionId s).elim .null .found := by
  obtain ⟨server,slotted⟩ := not_or.mp slotted
  obtain ⟨index,slotted⟩ := not_or.mp slotted
  obtain ⟨slots,context⟩ := Option.ne_none_iff_exists'.mp slotted
  have inside : ¬ s.gateSessionIndexMax ≤ sessionIndex sessionId := fun above =>
    other (UInt16.le_antisymm (UInt16.not_lt.mp index) above)
  rw [getPlayerContextBySessionId,if_neg (not_or.mpr ⟨server,index⟩),RegionServer.Commands.slotOf,
    RegionServer.Commands.slotAt,context]
  dsimp only
  rw [if_neg inside]
  cases slots (sessionIndex sessionId) <;> rfl

end

theorem forSession_region (s : RegionServer.Player.Region)
    (handle : Object → RegionServer.Player.Region → RegionServer.Player.Region) :
    let lookup := getPlayerContextBySessionId sessionId s.toLoop
    (lookup ≠ .outside → RegionServer.Commands.forSession sessionId handle s =
      lookup.object.elim s fun player => handle player s) ∧
    (lookup = .outside → (RegionServer.Commands.forSession sessionId (fun _ s => s) s).undefined = true) := by
  intro lookup
  by_cases refused : serverCountMax ≤ (serverId sessionId).toNat ∨ s.gateSessionIndexMax < sessionIndex sessionId
  · have null : lookup = .null :=
      unslotted_null sessionId s.toLoop (refused.imp_right Or.inl)
    rw [null]
    exact ⟨fun _ => if_pos refused,fun outside => by cases outside⟩
  · cases context : s.gateServerContext (serverId sessionId) with
    | none =>
      have null : lookup = .null := unslotted_null sessionId s.toLoop (Or.inr (Or.inr context))
      have empty : RegionServer.Commands.slotOf sessionId s.toLoop = none := by
        rw [RegionServer.Commands.slotOf,RegionServer.Commands.slotAt,context]
      rw [null,RegionServer.Commands.forSession,if_neg refused,context,empty]
      refine ⟨fun _ => ?_,fun outside => by cases outside⟩
      change {s with undefined := s.undefined || false} = s
      rw [Bool.or_false]
    | some slots =>
      have slotted : ¬ Unslotted sessionId s.toLoop := by
        rw [Unslotted,context]
        simp only [reduceCtorEq,or_false]
        exact refused
      by_cases last : sessionIndex sessionId = s.gateSessionIndexMax
      · have outside : lookup = .outside := slotted_outside sessionId s.toLoop slotted last
        refine ⟨fun inside => absurd outside inside,fun _ => ?_⟩
        rw [RegionServer.Commands.forSession,if_neg refused,context]
        cases RegionServer.Commands.slotOf sessionId s.toLoop <;>
          exact Bool.or_eq_true_iff.mpr (Or.inr (decide_eq_true last))
      · have slot : lookup = (RegionServer.Commands.slotOf sessionId s.toLoop).elim .null .found :=
          slotted_slot sessionId s.toLoop slotted last
        have kept : {s with undefined := s.undefined || (true && decide (sessionIndex sessionId =
            s.gateSessionIndexMax))} = s := by
          rw [decide_eq_false last,Bool.and_false,Bool.or_false]
        rw [RegionServer.Commands.forSession,if_neg refused,context]
        change _ ∧ (_ → _)
        rw [slot]
        cases RegionServer.Commands.slotOf sessionId s.toLoop with
        | none => exact ⟨fun _ => kept,fun outside => by cases outside⟩
        | some player => exact ⟨fun _ => congrArg (handle player) kept,fun outside => by cases outside⟩

/-- The slot is not the one behind the last, and its player, if there is one, has the id. -/
structure Slotted (s : RegionServer.ServerLoop.Loop) : Prop where
  inside : sessionIndex sessionId ≠ s.gateSessionIndexMax
  own : ∀ player, RegionServer.Commands.slotOf sessionId s = some player →
    (s.contexts player).sessionId = sessionId

theorem getPlayerContextBySessionId_right (s : RegionServer.ServerLoop.Loop) :
    Right (fun player => (s.contexts player).sessionId) sessionId (getPlayerContextBySessionId sessionId s) ↔
      Unslotted sessionId s ∨ Slotted sessionId s := by
  by_cases unslotted : Unslotted sessionId s
  · rw [unslotted_null sessionId s unslotted,iff_true_intro (Or.inl unslotted),iff_true]
    exact ⟨by decide,fun _ found => by cases found⟩
  · rw [or_iff_right unslotted]
    by_cases last : sessionIndex sessionId = s.gateSessionIndexMax
    · rw [slotted_outside sessionId s unslotted last]
      exact ⟨fun right => absurd rfl right.inside,fun slotted => absurd last slotted.inside⟩
    · rw [slotted_slot sessionId s unslotted last]
      cases slot : RegionServer.Commands.slotOf sessionId s with
      | none =>
        refine iff_of_true ⟨by decide,fun _ found => by cases found⟩ ⟨last,fun player found => ?_⟩
        rw [slot] at found
        cases found
      | some player =>
        constructor
        · intro right
          refine ⟨last,fun other found => ?_⟩
          rw [slot] at found
          exact right.own other (congrArg Lookup.found (Option.some.inj found))
        · intro slotted
          refine ⟨Lookup.noConfusion,fun other found => ?_⟩
          obtain rfl := Lookup.found.inj found
          exact slotted.own _ slot

theorem eq_of_parts (other : UInt32) (server : serverId sessionId = serverId other)
    (index : sessionIndex sessionId = sessionIndex other) :
    sessionId = other ↔ sessionId.toNat % 256 = other.toNat % 256 := by
  rw [← UInt8.toNat_inj,serverId_toNat,serverId_toNat] at server
  rw [← UInt16.toNat_inj,sessionIndex_toNat,sessionIndex_toNat] at index
  rw [← UInt32.toNat_inj]
  omega

/-- Where the indexes of the region agree, the player in the slot can have another sequence only. -/
theorem slotted_sequence (s : RegionServer.Player.Region) (agree : RegionServer.Indexes.Agree s) :
    Slotted sessionId s.toLoop ↔ sessionIndex sessionId ≠ s.gateSessionIndexMax ∧
      ∀ player, RegionServer.Commands.slotOf sessionId s.toLoop = some player →
        (s.contexts player).sessionId.toNat % 256 = sessionId.toNat % 256 := by
  have parts (player : Object) (slot : RegionServer.Commands.slotOf sessionId s.toLoop = some player) :
      (s.contexts player).sessionId = sessionId ↔
        (s.contexts player).sessionId.toNat % 256 = sessionId.toNat % 256 := by
    obtain ⟨-,server,index⟩ := agree.slotted _ _ player slot
    exact eq_of_parts _ sessionId server index
  constructor
  · exact fun slotted => ⟨slotted.inside,fun player slot => (parts player slot).mp (slotted.own player slot)⟩
  · exact fun slotted => ⟨slotted.1,fun player slot => (parts player slot).mpr (slotted.2 player slot)⟩

/-- GetSession is right but for the index that is one too high; GetPlayerContextBySessionId is right if
and only if the id has no slot, or one before the last whose player has the id. -/
theorem lookups_right_iff :
    (∀ (config : ServerBase.Sessions.Config) (s : ServerBase.Sessions.Loop),
      Right (fun session => (s.sessions session).sessionId) sessionId
        (getSession config.sessionMax.toNat (fun session => (s.sessions session).sessionId) sessionId) ↔
          sessionIndex sessionId ≠ config.sessionMax) ∧
    (∀ s : GateServer.Session.Gate,
      Right (fun session => (s.sessions session).sessionId) sessionId
        (getSession s.sessionPool.maxSize (fun session => (s.sessions session).sessionId) sessionId) ↔
          (sessionIndex sessionId).toNat ≠ s.sessionPool.maxSize) ∧
    (∀ s : RegionServer.Player.Region,
      Right (fun player => (s.contexts player).sessionId) sessionId (getPlayerContextBySessionId sessionId s.toLoop) ↔
        Unslotted sessionId s.toLoop ∨ Slotted sessionId s.toLoop) := by
  refine ⟨fun config s => ?_,fun s => getSession_right sessionId _ _,fun s =>
    getPlayerContextBySessionId_right sessionId s.toLoop⟩
  rw [getSession_right,ne_eq,ne_eq,UInt16.toNat_inj]

end

/-- A login server for two sessions gets an id with index 2. A region has a player for the first session
of a gate and is asked for the next sequence of it. -/
theorem lookups_wrong :
    (let env := ServerBase.SessionServerLoop.sampleEnv .login
     let s := ServerBase.SessionServerLoop.init env.config
     ¬ Right (fun session => (s.sessions session).sessionId) 512
       (getSession env.config.sessionMax.toNat (fun session => (s.sessions session).sessionId) 512)) ∧
    (let env := RegionServer.Commands.sampleEnv
     let s := Lib.Run.run (RegionServer.Commands.step env) (RegionServer.Commands.init env.config)
       [.onRegionAllocReq RegionServer.Commands.firstSession 7 [97]]
     ¬ Right (fun player => (s.contexts player).sessionId) 16777217
       (getPlayerContextBySessionId 16777217 s.toLoop)) := by
  constructor
  · intro env s right
    have inside := right.inside
    revert inside
    decide +kernel
  · intro env s right
    have own := right.own 0 (by decide +kernel)
    revert own
    decide +kernel

end Fantuan.SessionLookups
