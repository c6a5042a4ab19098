import Fantuan.CacheServer.Commands
import Fantuan.CacheServer.Procedures
import Mathlib.Algebra.Group.Nat.Defs

/-! The creation of an avatar, from the request to the acknowledgement: the procedure, the event that reads
its result and the result's handler. The text that a name has in the database is its conversion.
-/
namespace Fantuan.CacheServer.AvatarCreates
open ServerBase.ServerCommon Tool.ObjectPool CacheDBEvent Player Procedures

abbrev Text := List UInt8

/-- arguments are the literals that MySQL reads in the statement, none where it is not converted or refused;
stores says that mysql_store_result succeeds on a result set. -/
structure Connection where
  arguments : WString → WString → Option (Text × Text)
  stores : Bool

section
variable {Key : Type} [DecidableEq Key] (key : Text → Key)

def createAvatar (accountName avatarName : Text) (db : Database Text) : Database Text × Result Text :=
  let selected := statement key db (.called (.createAvatar accountName avatarName))
  let checked := statement key selected.1 selected.2
  let inserted := statement key checked.1 checked.2
  (inserted.1,match inserted.2 with
    | .returned result => result
    | _ => .nothing)

/-- What Query and the reading of the rows leave of a result. -/
def answerOf (connection : Connection) : Result Text → Answer
  | .error => none
  | .nothing => some []
  | .lastInsertId avatarId => if connection.stores then some [⟨UInt64.ofNat avatarId,none⟩] else none
  | .avatars rows => if connection.stores then some (rows.map fun row => ⟨UInt64.ofNat row.avatarId,none⟩) else none

def query (connection : Connection) (accountName avatarName : WString) (db : Database Text) :
    Database Text × Answer :=
  match connection.arguments accountName avatarName with
  | some (account,avatar) =>
    let called := createAvatar key account avatar db
    (called.1,answerOf connection called.2)
  | none => (db,none)

/-- The event as OnAvatarCreateReq makes it, fired. -/
def fired (sessionId : UInt32) (accountName avatarName : WString) (answer : Answer) : PlayerDBEvent :=
  fireEvent answer ⟨sessionId,0,.avatarCreate accountName ⟨0,avatarName⟩⟩

/-- The database after a request, and the cache after the result of its event. -/
def create (connection : Connection) (env : Env) (player : Object) (accountName avatarName : WString)
    (db : Database Text) (s : Cache) : Database Text × Cache :=
  let asked := query key connection accountName avatarName db
  (asked.1,onPlayerEventResult env player
    (fired (s.contexts player).sessionId accountName avatarName asked.2) s)

end

/-- What is promised of a request: its acknowledgement, and what the row and the list have to do with it. -/
def Acknowledged (player : Object) (avatarName : WString) (db after : Database Text) (s t : Cache) : Prop :=
  ∃ ret sent success marks, t.log = marks ++ .sent (.client (.avatarCreateAck ret sent)) success :: s.log ∧
    (ret = 0 ↔ ∃ row, after.avatar = db.avatar ++ [row]) ∧
    (∀ row, after.avatar = db.avatar ++ [row] → sent = (UInt64.ofNat row.avatarId,row.avatarName) ∧
      avatars player t = avatars player s ++ [⟨UInt64.ofNat row.avatarId,avatarName⟩]) ∧
    (ret ≠ 0 → after = db ∧ avatars player t = avatars player s) ∧
    (avatarCountMax ≤ (s.contexts player).avatarCount.toNat → ret ≠ 0)

section
variable {Key : Type} [DecidableEq Key] (key : Text → Key)

theorem createAvatar_inserts (accountName avatarName : Text) (db : Database Text) (accountId : Nat)
    (selected : selectAccountId key accountName db = some (some accountId))
    (free : avatarsOf key avatarName db = []) :
    createAvatar key accountName avatarName db =
      (insertAvatar accountId avatarName db,.lastInsertId db.nextAvatarId) := by
  rw [createAvatar,statement,selected]
  dsimp only
  rw [statement,free]
  rfl

theorem createAvatar_refuses (accountName avatarName : Text) (db : Database Text)
    (refused : ∀ accountId, selectAccountId key accountName db = some (some accountId) →
      avatarsOf key avatarName db ≠ []) : (createAvatar key accountName avatarName db).1 = db := by
  rw [createAvatar,statement]
  cases selected : selectAccountId key accountName db with
  | none => rfl
  | some accountId =>
    dsimp only
    rw [statement]
    cases free : avatarsOf key avatarName db with
    | nil =>
      cases accountId with
      | none => rfl
      | some accountId => exact absurd free (refused accountId selected)
    | cons _ more => cases more <;> rfl

end

theorem fired_data (sessionId : UInt32) (accountName avatarName : WString) (answer : Answer) :
    fired sessionId accountName avatarName answer = ⟨sessionId,0,.avatarCreate accountName
      ((answer.getD []).foldl (fun avatar row => {avatar with avatarId := row.number}) ⟨0,avatarName⟩)⟩ := by
  cases answer <;> rfl

section
variable (env : Env) (player : Object) (s : Cache)

theorem sendClient_log (packet : Packet) : ∃ success marks,
    (sendClient env player packet id s).log = marks ++ .sent (.client packet) success :: s.log ∧
      avatars player (sendClient env player packet id s) = avatars player s := by
  rw [sendClient,attempt]
  dsimp only
  split
  · rw [attempt]
    dsimp only
    split
    · exact ⟨_,[_],rfl,rfl⟩
    · exact ⟨_,[_],rfl,rfl⟩
  · exact ⟨_,[],rfl,rfl⟩

theorem createResult_cases (avatar : Avatar) :
    let t := onPlayerEventAvatarCreateResult env player 0 avatar s
    ((env.wchar2Char avatar.avatarName = none ∨ avatarCountMax ≤ (s.contexts player).avatarCount.toNat) ∧
      t.log = s.log) ∨
    ∃ name success marks, env.wchar2Char avatar.avatarName = some name ∧
      (s.contexts player).avatarCount.toNat < avatarCountMax ∧
      t.log = marks ++ .sent (.client (.avatarCreateAck 0 (avatar.avatarId,name))) success :: s.log ∧
      avatars player t = avatars player s ++ [avatar] := by
  dsimp only
  rw [onPlayerEventAvatarCreateResult,if_neg (by decide)]
  cases converted : env.wchar2Char avatar.avatarName with
  | none => exact .inl ⟨.inl rfl,rfl⟩
  | some name =>
    dsimp only
    by_cases full : avatarCountMax ≤ (s.contexts player).avatarCount.toNat
    · rw [if_pos full]
      exact .inl ⟨.inr full,rfl⟩
    · rw [if_neg full]
      let counts := s.update player fun context => {context with avatarCount := context.avatarCount + 1}
      let added : Cache :=
        {counts with arrayAvatar := Function.update s.arrayAvatar player (avatars player s ++ [avatar])}
      obtain ⟨success,marks,log,list⟩ := sendClient_log env player added (.avatarCreateAck 0 (avatar.avatarId,name))
      refine .inr ⟨name,success,marks,rfl,Nat.lt_of_not_le full,log,?_⟩
      have counted : (added.contexts player).avatarCount.toNat = (s.contexts player).avatarCount.toNat + 1 := by
        change (counts.contexts player).avatarCount.toNat = _
        rw [update_same,UInt8.toNat_add]
        unfold avatarCountMax at full
        change (_ + 1) % 2^8 = _
        omega
      have entries : added.arrayAvatar player = avatars player s ++ [avatar] := Function.update_self ..
      have short : (avatars player s).length ≤ (s.contexts player).avatarCount.toNat := List.length_take_le ..
      rw [list,avatars,counted,entries]
      apply List.take_of_length_le
      rw [List.length_append,List.length_singleton]
      omega

end

/-- Where the procedure inserts, its result arrives, and the row can be added and acknowledged. -/
structure Creatable {Key : Type} [DecidableEq Key] (key : Text → Key) (connection : Connection) (env : Env)
    (player : Object) (accountName avatarName : WString) (db : Database Text) (s : Cache) : Prop where
  inserts : ∃ account name accountId, connection.arguments accountName avatarName = some (account,name) ∧
    env.wchar2Char avatarName = some name ∧
    selectAccountId key account db = some (some accountId) ∧ avatarsOf key name db = []
  stores : connection.stores = true
  room : (s.contexts player).avatarCount.toNat < avatarCountMax

section
variable {Key : Type} [DecidableEq Key] (key : Text → Key) (connection : Connection) (env : Env)
  (player : Object) (accountName avatarName : WString) (db : Database Text) (s : Cache)

private theorem inserted_row (after : Database Text) (row : Procedures.Avatar Text)
    (inserted : after.avatar = db.avatar ++ [row]) : after ≠ db := by
  intro same
  rw [same] at inserted
  have longer := congrArg List.length inserted
  rw [List.length_append,List.length_singleton] at longer
  omega

private theorem same_mark (left right log : List Mark) (first second : Mark)
    (same : left ++ first :: log = right ++ second :: log) : first = second := by
  have lengths := congrArg List.length same
  rw [List.length_append,List.length_append,List.length_cons,List.length_cons] at lengths
  exact (List.cons.inj (List.append_inj same (by omega)).2).1

theorem query_arguments (account name : Text)
    (read : connection.arguments accountName avatarName = some (account,name)) :
    query key connection accountName avatarName db =
      ((createAvatar key account name db).1,answerOf connection (createAvatar key account name db).2) := by
  rw [query,read]

/-- The procedure inserts a row for two names that are read as such, or none at all. -/
theorem query_inserts (row : Procedures.Avatar Text)
    (inserted : (query key connection accountName avatarName db).1.avatar = db.avatar ++ [row]) :
    ∃ account name accountId, connection.arguments accountName avatarName = some (account,name) ∧
      selectAccountId key account db = some (some accountId) ∧ avatarsOf key name db = [] ∧
      query key connection accountName avatarName db =
        (insertAvatar accountId name db,answerOf connection (.lastInsertId db.nextAvatarId)) := by
  cases read : connection.arguments accountName avatarName with
  | none =>
    rw [query,read] at inserted
    exact absurd rfl (inserted_row db db row inserted)
  | some arguments =>
    obtain ⟨account,name⟩ := arguments
    rw [query_arguments key connection accountName avatarName db account name read] at inserted
    by_cases accepted : ∃ accountId, selectAccountId key account db = some (some accountId) ∧
        avatarsOf key name db = []
    · obtain ⟨accountId,selected,free⟩ := accepted
      refine ⟨account,name,accountId,rfl,selected,free,?_⟩
      rw [query_arguments key connection accountName avatarName db account name read,
        createAvatar_inserts key account name db accountId selected free]
    · have refused := createAvatar_refuses key account name db
        fun accountId selected free => accepted ⟨accountId,selected,free⟩
      exact absurd refused (inserted_row db _ row inserted)

def carried (avatarName : WString) (answer : Answer) : Avatar :=
  (answer.getD []).foldl (fun avatar row => {avatar with avatarId := row.number}) ⟨0,avatarName⟩

theorem carried_name (answer : Answer) : (carried avatarName answer).avatarName = avatarName := by
  have each (rows : List Row) (avatar : Avatar) :
      (rows.foldl (fun avatar row => {avatar with avatarId := row.number}) avatar).avatarName =
        avatar.avatarName := by
    induction rows generalizing avatar with
    | nil => rfl
    | cons row rows ih => exact ih _
  exact each _ _

theorem create_result : (create key connection env player accountName avatarName db s).2 =
    onPlayerEventAvatarCreateResult env player 0
      (carried avatarName (query key connection accountName avatarName db).2) s := by
  rw [create,fired_data]
  rfl

/-- A request is acknowledged as promised exactly where its avatar is created and can be told. -/
theorem create_acknowledged (bigint : 0 < db.nextAvatarId ∧ db.nextAvatarId < 2^63) :
    Acknowledged player avatarName db (create key connection env player accountName avatarName db s).1 s
        (create key connection env player accountName avatarName db s).2 ↔
      Creatable key connection env player accountName avatarName db s := by
  have cases_ := createResult_cases env player s
    (carried avatarName (query key connection accountName avatarName db).2)
  rw [← create_result key connection env player accountName avatarName db s,carried_name] at cases_
  constructor
  · intro ⟨ret,sent,success,marks,log,inserted,rows,_,_⟩
    obtain ⟨_,same⟩ | ⟨name,success',marks',converted,room,log',_⟩ := cases_
    · rw [same] at log
      have lengths := congrArg List.length log
      rw [List.length_append,List.length_cons] at lengths
      omega
    · have mark := same_mark marks marks' s.log _ _ (log.symm.trans log')
      simp only [Mark.sent.injEq,Message.client.injEq,Packet.avatarCreateAck.injEq] at mark
      obtain ⟨⟨rfl,told⟩,_⟩ := mark
      obtain ⟨row,added⟩ := inserted.mp rfl
      obtain ⟨account,text,accountId,read,selected,free,asked⟩ :=
        query_inserts key connection accountName avatarName db row added
      have same : row = ⟨db.nextAvatarId,accountId,text,0⟩ := by
        change (query key connection accountName avatarName db).1.avatar = _ at added
        rw [asked] at added
        exact (List.cons.inj (List.append_cancel_left added)).1.symm
      obtain ⟨carries,_⟩ := rows row added
      rw [told,same,asked,Prod.mk.injEq] at carries
      obtain ⟨number,spelled⟩ := carries
      refine ⟨⟨account,text,accountId,read,?_,selected,free⟩,?_,room⟩
      · rw [converted,spelled]
      · by_contra lost
        rw [answerOf,if_neg lost] at number
        have zero := congrArg UInt64.toNat number
        change 0 = (UInt64.ofNat db.nextAvatarId).toNat at zero
        rw [UInt64.toNat_ofNat_of_lt' (by change _ < 2^64; omega)] at zero
        omega
  · intro ⟨⟨account,text,accountId,read,converted,selected,free⟩,stores,room⟩
    have asked : query key connection accountName avatarName db =
        (insertAvatar accountId text db,some [⟨UInt64.ofNat db.nextAvatarId,none⟩]) := by
      rw [query_arguments key connection accountName avatarName db account text read,
        createAvatar_inserts key account text db accountId selected free,answerOf,if_pos stores]
    obtain ⟨missing | full,_⟩ | ⟨name,success,marks,spelled,_,log,list⟩ := cases_
    · rw [converted] at missing
      cases missing
    · omega
    · obtain rfl : text = name := Option.some.inj (converted.symm.trans spelled)
      rw [asked] at log list
      have after : (create key connection env player accountName avatarName db s).1.avatar =
          db.avatar ++ [⟨db.nextAvatarId,accountId,text,0⟩] := by
        change (query key connection accountName avatarName db).1.avatar = _
        rw [asked]
        rfl
      refine ⟨0,_,success,marks,log,iff_of_true rfl ⟨_,after⟩,?_,fun failed => absurd rfl failed,?_⟩
      · intro row added
        rw [after] at added
        rw [← (List.cons.inj (List.append_cancel_left added)).1]
        exact ⟨rfl,list⟩
      · omega

end

/-- The names are read as they are written, and one account exists. -/
def plainConnection : Connection := ⟨fun _ _ => some ([97],[97]),true⟩

def oneAccount : Database Text := ⟨[⟨1,[97]⟩],[],2,2⟩

def oneAvatar : Database Text := insertAvatar 1 [97] oneAccount

def listed : Cache := Commands.init Commands.sampleEnv.config

theorem create_acknowledged_free :
    (create id plainConnection Commands.sampleEnv 0 [97] [97] oneAccount listed).1 = oneAvatar ∧
      Acknowledged 0 [97] oneAccount
        (create id plainConnection Commands.sampleEnv 0 [97] [97] oneAccount listed).1 listed
        (create id plainConnection Commands.sampleEnv 0 [97] [97] oneAccount listed).2 :=
  ⟨by decide,(create_acknowledged id plainConnection Commands.sampleEnv 0 [97] [97] oneAccount listed
    (by decide)).mpr ⟨⟨[97],[97],1,rfl,rfl,by decide,by decide⟩,rfl,by decide⟩⟩

/-- The name is taken: the acknowledgement reports success with the id 0, and the avatar is listed. -/
theorem create_taken :
    let created := create id plainConnection Commands.sampleEnv 0 [97] [97] oneAvatar listed
    created.1 = oneAvatar ∧ avatars 0 created.2 = [⟨0,[97]⟩] ∧
      ¬ Acknowledged 0 [97] oneAvatar created.1 listed created.2 := by
  intro created
  have same : created.1 = oneAvatar := by decide
  have log : created.2.log = [.sent (.packetForward 0 (some (.avatarCreateAck 0 (0,[97])))) true] ++
      .sent (.client (.avatarCreateAck 0 (0,[97]))) true :: listed.log := by decide
  refine ⟨same,by decide,?_⟩
  intro ⟨ret,sent,success,marks,told,inserted,_⟩
  have mark := same_mark marks _ listed.log _ _ (told.symm.trans log)
  simp only [Mark.sent.injEq,Message.client.injEq,Packet.avatarCreateAck.injEq] at mark
  obtain ⟨row,added⟩ := inserted.mp mark.1.1
  exact absurd same (inserted_row oneAvatar _ row added)

end Fantuan.CacheServer.AvatarCreates
