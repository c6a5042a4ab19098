import Fantuan.MasterServer.Handlers

/-! What the log tells about a context since it was last deleted: the sessions logged in
to the cache and out of it, and how often it was put in the finalizing queue.
-/
namespace Fantuan.MasterServer.CacheLogins
open Lib.Table Tool.ObjectPool PlayerFsm Context ServerLoop PlayerSteps

/-- The events since the context was last deleted. -/
def lifetime (player : Object) (log : List Event) : List Event :=
  log.takeWhile fun event => event ≠ .deleted player

def login (player : Object) : Event → Option UInt32
  | .sent (some other) (.cacheOnLoginReq sessionId _) true =>
    if other = player then some sessionId else none
  | _ => none

def logout (player : Object) : Event → Option UInt32
  | .sent (some other) (.cacheOnLogoutReq sessionId) _ =>
    if other = player then some sessionId else none
  | _ => none

def logins (player : Object) (log : List Event) : List UInt32 :=
  (lifetime player log).filterMap (login player)

def logouts (player : Object) (log : List Event) : List UInt32 :=
  (lifetime player log).filterMap (logout player)

def queueings (player : Object) (log : List Event) : Nat :=
  (lifetime player log).count (.queued player)

/-- What the log tells of a context: not finalizing, it was neither logged out nor
queued, and finalizing it was queued once. With a guard against shutdowns that interrupt
a wait, it also says who owes a logout. -/
structure Book (guarded : Prop) (player : Object) (context : MasterPlayerContext)
    (log : List Event) : Prop where
  active : context.finalizing = false → logouts player log = [] ∧ queueings player log = 0
  retired : context.finalizing = true →
    queueings player log = 1 ∧ (logouts player log).length ≤ 1
  owing : guarded → context.finalizing = false →
    notLoggedIn context.state = true ∧ logins player log = [] ∨
      loggedIn context.state = true ∧ logins player log = [context.sessionId]
  paid : guarded → context.finalizing = true → logins player log = [] ∨
    ∃ sessionId, logins player log = [sessionId] ∧ logouts player log = [sessionId]

section
variable (player : Object)

theorem lifetime_cons (event : Event) (log : List Event) (lives : event ≠ .deleted player) :
    lifetime player (event :: log) = event :: lifetime player log := by
  simp [lifetime,lives]

theorem logins_cons (event : Event) (log : List Event) (lives : event ≠ .deleted player) :
    logins player (event :: log) = (login player event).toList ++ logins player log := by
  rw [logins,lifetime_cons player event log lives,List.filterMap_cons]
  cases login player event <;> rfl

theorem logouts_cons (event : Event) (log : List Event) (lives : event ≠ .deleted player) :
    logouts player (event :: log) = (logout player event).toList ++ logouts player log := by
  rw [logouts,lifetime_cons player event log lives,List.filterMap_cons]
  cases logout player event <;> rfl

theorem queueings_cons (event : Event) (log : List Event) (lives : event ≠ .deleted player) :
    queueings player (event :: log) =
      queueings player log + if event = .queued player then 1 else 0 := by
  rw [queueings,lifetime_cons player event log lives,List.count_cons,queueings]
  simp

structure Unchanged (player : Object) (log later : List Event) : Prop where
  logins : logins player later = logins player log
  logouts : logouts player later = logouts player log
  queueings : queueings player later = queueings player log

theorem unchanged_cons (event : Event) (log : List Event) (lives : event ≠ .deleted player)
    (noLogin : login player event = none) (noLogout : logout player event = none)
    (noQueue : event ≠ .queued player) : Unchanged player log (event :: log) := by
  constructor
  · rw [logins_cons player event log lives,noLogin]
    rfl
  · rw [logouts_cons player event log lives,noLogout]
    rfl
  · rw [queueings_cons player event log lives,if_neg noQueue]
    rfl

theorem unchanged_quiet (player : Object) (other : Option Object) (message : Message)
    (success : Bool) (log : List Event) (silent : quiet message success = true) :
    Unchanged player log (.sent other message success :: log) := by
  apply unchanged_cons player _ log (by simp) _ _ (by simp)
  · unfold login
    split
    next sent => simp only [Event.sent.injEq] at sent; simp [sent,quiet] at silent
    next => rfl
  · unfold logout
    split
    next sent => simp only [Event.sent.injEq] at sent; simp [sent,quiet] at silent
    next => rfl

theorem unchanged_other (player other : Object) (message : Message) (success : Bool)
    (log : List Event) (different : player ≠ other) :
    Unchanged player log (.sent (some other) message success :: log) := by
  apply unchanged_cons player _ log (by simp) _ _ (by simp)
  · unfold login
    split
    next sent =>
      simp only [Event.sent.injEq,Option.some.injEq] at sent
      rw [if_neg (by simpa [← sent.1] using different.symm)]
    next => rfl
  · unfold logout
    split
    next sent =>
      simp only [Event.sent.injEq,Option.some.injEq] at sent
      rw [if_neg (by simpa [← sent.1] using different.symm)]
    next => rfl

theorem unchanged_trans (log later last : List Event) (first : Unchanged player log later)
    (second : Unchanged player later last) : Unchanged player log last :=
  ⟨second.logins.trans first.logins,second.logouts.trans first.logouts,
    second.queueings.trans first.queueings⟩

theorem unchanged_refl (log : List Event) : Unchanged player log log := ⟨rfl,rfl,rfl⟩

theorem unchanged_queued (player other : Object) (log : List Event) (different : player ≠ other) :
    Unchanged player log (.queued other :: log) :=
  unchanged_cons player _ log (by simp) rfl rfl (by simpa using different.symm)

theorem unchanged_deleted (player other : Object) (log : List Event) (different : player ≠ other) :
    Unchanged player log (.deleted other :: log) :=
  unchanged_cons player _ log (by simpa using different.symm) rfl rfl (by simp)

end

section
variable (env : Env) (guarded : Prop) (player : Object)

theorem book_log (context : MasterPlayerContext) (log later : List Event)
    (same : Unchanged player log later) (book : Book guarded player context log) :
    Book guarded player context later := by
  obtain ⟨active,retired,owing,paid⟩ := book
  constructor
  · rw [same.logouts,same.queueings]
    exact active
  · rw [same.logouts,same.queueings]
    exact retired
  · rw [same.logins]
    exact owing
  · rw [same.logins,same.logouts]
    exact paid

theorem book_context (old new : MasterPlayerContext) (log : List Event)
    (finalizing : new.finalizing = old.finalizing) (sessionId : new.sessionId = old.sessionId)
    (fresh : notLoggedIn old.state = true → notLoggedIn new.state = true)
    (logged : loggedIn old.state = true → loggedIn new.state = true)
    (book : Book guarded player old log) : Book guarded player new log := by
  obtain ⟨active,retired,owing,paid⟩ := book
  constructor
  · rw [finalizing]
    exact active
  · rw [finalizing]
    exact retired
  · intro guard still
    rw [finalizing] at still
    rw [sessionId]
    rcases owing guard still with ⟨state,none⟩ | ⟨state,one⟩
    · exact .inl ⟨fresh state,none⟩
    · exact .inr ⟨logged state,one⟩
  · rw [finalizing]
    exact paid

theorem book_change (old new : MasterPlayerContext) (log : List Event) (kept : Kept old new)
    (book : Book guarded player old log) : Book guarded player new log := by
  refine book_context guarded player old new log kept.finalizing kept.sessionId ?_ ?_ book
  · rw [kept.state]
    exact id
  · rw [kept.state]
    exact id

theorem book_state (context : MasterPlayerContext) (next : PlayerState) (log : List Event)
    (fresh : notLoggedIn context.state = true → notLoggedIn next = true)
    (logged : loggedIn context.state = true → loggedIn next = true)
    (book : Book guarded player context log) :
    Book guarded player {context with state := next} log :=
  book_context guarded player context _ log rfl rfl fresh logged book

theorem wait_transition (state next : PlayerState)
    (reached : transition state .regionLeaveAck = some next) :
    notLoggedIn state = false ∧ loggedIn next = true := by
  have rows : ∀ row ∈ initStateMachine state, row.1 = .regionLeaveAck →
      notLoggedIn state = false ∧ loggedIn row.2 = true := by
    cases state <;> decide
  exact rows _ (transition_mem state next .regionLeaveAck reached) rfl

theorem answer_transition (state next : PlayerState)
    (reached : transition state .onRegionLeaveReq = some next) :
    notLoggedIn state = false ∧ loggedIn next = true := by
  rcases Handlers.leave_transition state next reached with ⟨rfl,rfl⟩ | ⟨rfl,rfl⟩ <;> decide

theorem book_retire (context : MasterPlayerContext) (log : List Event) (leaves : Bool)
    (success : Bool) (active : context.finalizing = false)
    (due : guarded → loggedIn context.state = true → leaves = true)
    (book : Book guarded player context log) :
    Book guarded player {context with finalizing := true}
      (.queued player :: if leaves then
        .sent (some player) (.cacheOnLogoutReq context.sessionId) success :: log else log) := by
  obtain ⟨noLogouts,noQueueings⟩ := book.active active
  have queued (log : List Event) : queueings player (.queued player :: log) = queueings player log + 1 ∧
      logouts player (.queued player :: log) = logouts player log ∧
      logins player (.queued player :: log) = logins player log := by
    refine ⟨?_,?_,?_⟩
    · rw [queueings_cons player _ log (by simp),if_pos rfl]
    · rw [logouts_cons player _ log (by simp)]
      rfl
    · rw [logins_cons player _ log (by simp)]
      rfl
  let gone := Event.sent (some player) (.cacheOnLogoutReq context.sessionId) success
  have sent : queueings player (gone :: log) = 0 ∧ logouts player (gone :: log) = [context.sessionId] ∧
      logins player (gone :: log) = logins player log := by
    refine ⟨?_,?_,?_⟩
    · rw [queueings_cons player _ log (by simp [gone]),noQueueings]
      rfl
    · rw [logouts_cons player _ log (by simp [gone]),noLogouts]
      simp [gone,logout]
    · rw [logins_cons player _ log (by simp [gone])]
      rfl
  cases leaves with
  | true =>
    obtain ⟨queues,outs,ins⟩ := queued (gone :: log)
    rw [sent.1] at queues
    rw [sent.2.1] at outs
    rw [sent.2.2] at ins
    refine ⟨fun still => (by cases still),fun _ => ⟨queues,?_⟩,fun _ still => (by cases still),
      fun guard _ => ?_⟩
    · change (logouts player (.queued player :: gone :: log)).length ≤ 1
      rw [outs]
      rfl
    · rcases book.owing guard active with ⟨-,none⟩ | ⟨-,one⟩
      · exact .inl (ins.trans none)
      · exact .inr ⟨context.sessionId,ins.trans one,outs⟩
  | false =>
    obtain ⟨queues,outs,ins⟩ := queued log
    rw [noQueueings] at queues
    rw [noLogouts] at outs
    refine ⟨fun still => (by cases still),fun _ => ⟨queues,?_⟩,fun _ still => (by cases still),
      fun guard _ => ?_⟩
    · change (logouts player (.queued player :: log)).length ≤ 1
      rw [outs]
      exact Nat.zero_le 1
    · rcases book.owing guard active with ⟨-,none⟩ | ⟨logged,-⟩
      · exact .inl (ins.trans none)
      · cases due guard logged

theorem book_login (context : MasterPlayerContext) (log : List Event)
    (asked : context.state = .onGateLoginReq) (active : context.finalizing = false)
    (book : Book guarded player context log) :
    Book guarded player {context with state := .cacheLoginReq}
      (.sent (some player) (.cacheOnLoginReq context.sessionId context.accountName) true :: log) := by
  let asks := Event.sent (some player) (.cacheOnLoginReq context.sessionId context.accountName) true
  obtain ⟨noLogouts,noQueueings⟩ := book.active active
  have outs : logouts player (asks :: log) = [] := by
    rw [logouts_cons player _ log (by simp [asks]),noLogouts]
    rfl
  have queues : queueings player (asks :: log) = 0 := by
    rw [queueings_cons player _ log (by simp [asks]),noQueueings]
    rfl
  have ins : logins player (asks :: log) = context.sessionId :: logins player log := by
    rw [logins_cons player _ log (by simp [asks])]
    simp [asks,login]
  have same : ({context with state := .cacheLoginReq} : MasterPlayerContext).finalizing = false := active
  refine ⟨fun _ => ⟨outs,queues⟩,fun still => ?_,fun guard _ => .inr ⟨rfl,?_⟩,fun _ still => ?_⟩
  · rw [same] at still
    cases still
  · rcases book.owing guard active with ⟨-,none⟩ | ⟨logged,-⟩
    · exact ins.trans (by rw [none])
    · rw [asked] at logged
      cases logged
  · rw [same] at still
    cases still

theorem playerStep_other (s t : Loop) (step : PlayerStep env guarded player s t) (other : Object)
    (different : other ≠ player) : Unchanged other s.log t.log := by
  have same := unchanged_refl other s.log
  cases step with
  | say message => exact unchanged_other other player message _ s.log different
  | retire leaves =>
    cases leaves with
    | true =>
      have left := unchanged_other other player (.cacheOnLogoutReq (s.contexts player).sessionId)
        (env.net s.log.length) s.log different
      exact unchanged_trans other s.log _ _ left (unchanged_queued other player _ different)
    | false => exact unchanged_queued other player s.log different
  | login => exact unchanged_other other player _ _ s.log different
  | _ => exact same

theorem playerStep_own (s t : Loop) (step : PlayerStep env guarded player s t)
    (book : Book guarded player (s.contexts player) s.log) :
    Book guarded player (t.contexts player) t.log := by
  cases step with
  | note => exact book
  | count => exact book
  | change change kept =>
    rw [update_same]
    exact book_change guarded player _ _ s.log kept book
  | move event next plain reached =>
    have classes := plain_transition _ next event plain reached
    rw [setState,update_same]
    exact book_state guarded player _ next s.log classes.notLoggedIn classes.loggedIn book
  | say message silent =>
    exact book_log guarded player _ s.log _
      (unchanged_quiet player (some player) message _ s.log silent) book
  | drop => exact book
  | enter => exact book
  | wait next active reached =>
    have classes := wait_transition _ next reached
    rw [setState,update_same]
    exact book_state guarded player (s.contexts player) next s.log
      (fun fresh => by rw [classes.1] at fresh; cases fresh) (fun _ => classes.2) book
  | retire leaves active due =>
    have retired := book_retire guarded player _ s.log leaves (env.net s.log.length) active due book
    rw [addPlayerToFinalizingQueue,update_same]
    cases leaves <;> exact retired
  | login active asked success =>
    have logged := book_login guarded player _ s.log asked active book
    rw [setState,update_same]
    rw [← success] at logged
    exact logged
  | answer next reached =>
    have classes := answer_transition _ next reached
    change Book guarded player ((setState player next s).contexts player) s.log
    rw [setState,update_same]
    exact book_state guarded player (s.contexts player) next s.log
      (fun fresh => by rw [classes.1] at fresh; cases fresh) (fun _ => classes.2) book

theorem does_books (s t : Loop) (does : Does env guarded player s t)
    (books : ∀ other, Book guarded other (s.contexts other) s.log) (other : Object) :
    Book guarded other (t.contexts other) t.log := by
  induction does with
  | refl => exact books other
  | tail _ step ih =>
    by_cases same : other = player
    · subst other
      exact playerStep_own env guarded player _ _ step ih
    · rw [playerStep_contexts env guarded player _ _ step other same]
      exact book_log guarded other _ _ _ (playerStep_other env guarded player _ _ step other same) ih

theorem book_fresh (old new : MasterPlayerContext) (log : List Event)
    (finalizing : new.finalizing = old.finalizing) (unlogged : loggedIn old.state = false)
    (fresh : notLoggedIn new.state = true) (book : Book guarded player old log) :
    Book guarded player new log := by
  obtain ⟨active,retired,owing,paid⟩ := book
  constructor
  · rw [finalizing]
    exact active
  · rw [finalizing]
    exact retired
  · intro guard still
    rw [finalizing] at still
    rcases owing guard still with ⟨-,none⟩ | ⟨logged,-⟩
    · exact .inl ⟨fresh,none⟩
    · rw [unlogged] at logged
      cases logged
  · rw [finalizing]
    exact paid

theorem book_deleted (log : List Event) :
    Book guarded player .clear (.deleted player :: log) := by
  have ended : lifetime player (.deleted player :: log) = [] := by simp [lifetime]
  refine ⟨fun _ => ?_,fun still => (by cases still),fun _ _ => .inl ⟨rfl,?_⟩,
    fun _ still => (by cases still)⟩
  · rw [logouts,queueings,ended]
    exact ⟨rfl,rfl⟩
  · rw [logins,ended]
    rfl

end

/-- Nothing is owed: no login since the last deletion, or one and its logout. -/
def Settled (player : Object) (log : List Event) : Prop :=
  logins player log = [] ∨
    ∃ sessionId, logins player log = [sessionId] ∧ logouts player log = [sessionId]

/-- Every context that was deleted had been logged out as often as logged in: once or
not at all. -/
def LoggedOut (log : List Event) : Prop :=
  ∀ player past, .deleted player :: past <:+ log → Settled player past

structure Ledger (guarded : Prop) (s : Loop) : Prop where
  books : ∀ player, Book guarded player (s.contexts player) s.log
  queued : ∀ player ∈ s.finalizingQueue, (s.contexts player).finalizing = true
  history : guarded → LoggedOut s.log

section
variable (env : Env) (guarded : Prop) (player : Object)

theorem loggedOut_cons (event : Event) (log : List Event)
    (fair : ∀ player, event = .deleted player → Settled player log) (before : LoggedOut log) :
    LoggedOut (event :: log) := by
  intro player past suffix
  rcases List.suffix_cons_iff.mp suffix with whole | earlier
  · obtain ⟨rfl,rfl⟩ := List.cons.inj whole
    exact fair player rfl
  · exact before player past earlier

theorem playerStep_history (s t : Loop) (step : PlayerStep env guarded player s t)
    (before : LoggedOut s.log) : LoggedOut t.log := by
  cases step with
  | say message => exact loggedOut_cons _ s.log (by simp) before
  | retire leaves =>
    cases leaves with
    | true => exact loggedOut_cons _ _ (by simp) (loggedOut_cons _ s.log (by simp) before)
    | false => exact loggedOut_cons _ s.log (by simp) before
  | login => exact loggedOut_cons _ s.log (by simp) before
  | _ => exact before

theorem playerStep_queued (s t : Loop) (step : PlayerStep env guarded player s t)
    (queued : ∀ other ∈ s.finalizingQueue, (s.contexts other).finalizing = true) :
    ∀ other ∈ t.finalizingQueue, (t.contexts other).finalizing = true := by
  intro other member
  by_cases same : other = player
  · subst other
    cases step with
    | change change kept =>
      rw [update_same,kept.finalizing]
      exact queued player member
    | move =>
      rw [setState,update_same]
      exact queued player member
    | wait =>
      rw [setState,update_same]
      exact queued player member
    | retire => rw [addPlayerToFinalizingQueue,update_same]
    | login =>
      rw [setState,update_same]
      exact queued player member
    | answer next =>
      change ((setState player next s).contexts player).finalizing = true
      rw [setState,update_same]
      exact queued player member
    | _ => exact queued player member
  · rw [playerStep_contexts env guarded player s t step other same]
    cases step with
    | retire leaves =>
      have inside : other ∈ s.finalizingQueue := by
        cases leaves <;>
          exact (List.mem_append.mp member).resolve_right (by simpa using same)
      exact queued other inside
    | _ => exact queued other member

theorem does_ledger (s t : Loop) (does : Does env guarded player s t)
    (ledger : Ledger guarded s) : Ledger guarded t := by
  refine ⟨does_books env guarded player s t does ledger.books,?_,fun guard => ?_⟩
  · induction does with
    | refl => exact ledger.queued
    | tail _ step ih => exact playerStep_queued env guarded player _ _ step ih
  · induction does with
    | refl => exact ledger.history guard
    | tail _ step ih => exact playerStep_history env guarded player _ _ step ih

theorem ledger_same (s t : Loop) (contexts : t.contexts = s.contexts) (log : t.log = s.log)
    (queue : t.finalizingQueue = s.finalizingQueue) (ledger : Ledger guarded s) :
    Ledger guarded t := by
  obtain ⟨books,queued,history⟩ := ledger
  constructor
  · rw [contexts,log]
    exact books
  · rw [contexts,queue]
    exact queued
  · rw [log]
    exact history

theorem ledger_fresh (s t : Loop) (others : ∀ other, other ≠ player → t.contexts other = s.contexts other)
    (log : t.log = s.log) (queue : t.finalizingQueue = s.finalizingQueue)
    (finalizing : (t.contexts player).finalizing = (s.contexts player).finalizing)
    (unlogged : loggedIn (s.contexts player).state = false)
    (fresh : notLoggedIn (t.contexts player).state = true) (ledger : Ledger guarded s) :
    Ledger guarded t := by
  obtain ⟨books,queued,history⟩ := ledger
  constructor
  · intro other
    rw [log]
    by_cases same : other = player
    · subst other
      exact book_fresh guarded player _ _ s.log finalizing unlogged fresh (books player)
    · rw [others other same]
      exact books other
  · intro other member
    rw [queue] at member
    by_cases same : other = player
    · subst other
      rw [finalizing]
      exact queued player member
    · rw [others other same]
      exact queued other member
  · rw [log]
    exact history

end

end Fantuan.MasterServer.CacheLogins
