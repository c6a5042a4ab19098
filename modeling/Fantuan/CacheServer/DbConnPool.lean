import Fantuan.Lib.Run
import Fantuan.Lib.Table

/-! The pool of DB connections. Events go from a waiting list to a processing list or
behind another event of their id, and workers pop, fire and post-fire them. A step is
what one thread does without releasing a lock, or a begin or end of a firing.
-/
namespace Fantuan.CacheServer.DbConnPool
open Lib.Table Lib.Run

/-- Events are numbered in the order in which they are pushed. -/
structure DBEvent where
  eventId : UInt32
  sequenceId : UInt64
  sequence : Bool
  returnable : Bool
  fired : Bool
  lastEvent : Option Nat
  nextEvent : Option Nat

/-- Where a worker is; an idle or blocked one has its iLastEventSequenceId. -/
inductive Worker where
  | idle (lastSequenceId : UInt64)
  | blocked (lastSequenceId : UInt64)
  | popped (event : Nat)
  | firing (event : Nat)
  | fired (event : Nat)
  | posted (event : Nat)
  deriving DecidableEq

def Worker.inside : Worker → Option Nat
  | .popped event | .firing event | .fired event | .posted event => some event
  | .idle _ | .blocked _ => none

inductive Mark where
  | fired (event : Nat)
  | returned (event : Nat)
  | freed (event : Nat)
  deriving DecidableEq

/-- The newest mark is first in the log. -/
structure Pool where
  events : Nat → DBEvent
  pushed : Nat
  waitingList : List Nat
  processingList : List Nat
  sequenceMap : Map UInt64 Nat
  returnList : List Nat
  workers : List Worker
  log : List Mark

def new (connCount : Nat) : Pool where
  events := fun _ => ⟨0,0,false,false,false,none,none⟩
  pushed := 0
  waitingList := []
  processingList := []
  sequenceMap := ∅
  returnList := []
  workers := List.replicate connCount (.idle 0)
  log := []

/-- m_iEventId, as a key of the sequence map. -/
def Pool.key (s : Pool) (event : Nat) : UInt64 := (s.events event).eventId.toUInt64

def Pool.change (s : Pool) (event : Nat) (change : DBEvent → DBEvent) : Pool :=
  {s with events := Function.update s.events event (change (s.events event))}

def pushBack (sequenceId : UInt64) (eventId : UInt32) (returnable : Bool) (s : Pool) : Pool :=
  {s with
    events := Function.update s.events s.pushed ⟨eventId,sequenceId,true,returnable,false,none,none⟩
    pushed := s.pushed + 1
    waitingList := s.waitingList ++ [s.pushed]}

def pushSequenceEvent (sequenceId : UInt64) (eventId : UInt32) (returnable : Bool) (s : Pool) : Pool :=
  if sequenceId = 0 then s else pushBack sequenceId eventId returnable s

def popFromDBEventReturnList (s : Pool) : Pool := {s with returnList := s.returnList.tail}

/-- The end of a chain; a link leads to an event pushed later, so that pushed steps are
enough. -/
def linkEnd (s : Pool) : Nat → Nat → Nat
  | 0, event => event
  | fuel + 1, event =>
    match (s.events event).nextEvent with
    | some next => linkEnd s fuel next
    | none => event

def flushEvent (s : Pool) (event : Nat) : Pool :=
  if (s.events event).sequence then
    match find (s.key event) s.sequenceMap with
    | none =>
      {s.change event fun data => {data with lastEvent := none, nextEvent := none} with
        sequenceMap := insert (s.key event) event s.sequenceMap
        processingList := s.processingList ++ [event]}
    | some head =>
      let last := linkEnd s s.pushed head
      (s.change last fun data => {data with nextEvent := some event}).change event fun data =>
        {data with lastEvent := some last, nextEvent := none}
  else {s with processingList := s.processingList ++ [event]}

def flushEventWaitingList (s : Pool) : Pool :=
  {s.waitingList.foldl flushEvent s with waitingList := []}

def takeFront (worker : Nat) (lastSequenceId : UInt64) (s : Pool) : Pool :=
  match s.processingList with
  | [] => {s with workers := s.workers.set worker (.idle lastSequenceId)}
  | event :: rest =>
    {s with processingList := rest, workers := s.workers.set worker (.popped event)}

/-- The event of the last sequence, where the map has one under its id. -/
def continued (lastSequenceId : UInt64) (s : Pool) : Option Nat :=
  if lastSequenceId = 0 then none else find lastSequenceId s.sequenceMap

def popFromDBEventProcessingList (worker : Nat) (lastSequenceId : UInt64) (s : Pool) : Pool :=
  match continued lastSequenceId s with
  | some event => {s with workers := s.workers.set worker (.popped event)}
  | none =>
    if s.processingList.isEmpty then
      if s.waitingList.isEmpty then {s with workers := s.workers.set worker (.blocked lastSequenceId)}
      else takeFront worker lastSequenceId (flushEventWaitingList s)
    else takeFront worker lastSequenceId s

def fireEvent (worker event : Nat) (s : Pool) : Pool :=
  {s with workers := s.workers.set worker (.firing event), log := .fired event :: s.log}

def endFire (worker event : Nat) (s : Pool) : Pool :=
  {s.change event fun data => {data with fired := true} with
    workers := s.workers.set worker (.fired event)}

/-- PostFireEvent up to the release of the lock; an event that is not found in the map is
neither returned nor freed. -/
def postFireEvent (worker event : Nat) (s : Pool) : Pool :=
  if (s.events event).sequence then
    match find (s.key event) s.sequenceMap with
    | none => {s with workers := s.workers.set worker (.idle 0)}
    | some _ =>
      let linked := match (s.events event).nextEvent with
        | some next =>
          {s.change next fun data => {data with lastEvent := none} with
            sequenceMap := insert (s.key event) next s.sequenceMap}
        | none => {s with sequenceMap := erase (s.key event) s.sequenceMap}
      {linked.change event fun data => {data with lastEvent := none, nextEvent := none} with
        workers := s.workers.set worker (.posted event)}
  else {s with workers := s.workers.set worker (.idle 0)}

def handBack (worker event : Nat) (s : Pool) : Pool :=
  let idle := {s with workers := s.workers.set worker (.idle (s.events event).sequenceId)}
  if (s.events event).returnable then
    {idle with returnList := s.returnList ++ [event], log := .returned event :: s.log}
  else {idle with log := .freed event :: s.log}

def workerStep (worker : Nat) (s : Pool) : Pool :=
  match s.workers[worker]? with
  | some (.idle lastSequenceId) => popFromDBEventProcessingList worker lastSequenceId s
  | some (.blocked lastSequenceId) => takeFront worker lastSequenceId s
  | some (.popped event) => fireEvent worker event s
  | some (.firing event) => endFire worker event s
  | some (.fired event) => postFireEvent worker event s
  | some (.posted event) => handBack worker event s
  | none => s

inductive Action where
  | push (sequenceId : UInt64) (eventId : UInt32) (returnable : Bool)
  | takeReturned
  | work (worker : Nat)

def step (s : Pool) : Action → Pool
  | .push sequenceId eventId returnable => pushSequenceEvent sequenceId eventId returnable s
  | .takeReturned => popFromDBEventReturnList s
  | .work worker => workerStep worker s

end Fantuan.CacheServer.DbConnPool
