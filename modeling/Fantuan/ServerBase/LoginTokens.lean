import Mathlib.Data.List.Basic
import Fantuan.Tool.CStrings

/-! CheckLoginToken of the login session and of the gate session: two calls of strtok_s on the buffer of
the token, which are not told how many of its bytes have been declared. The parameter utf8 is the
conversion of the OS, which cannot fail for text that fits.
-/
namespace Fantuan.ServerBase.LoginTokens
open ServerCommon Tool.CStrings

def semicolon : UInt8 := 59

def passwordBytes := passwordMax + 1

inductive Exit where
  | returned (result : Int)
  | undefined -- the buffer of the token was left
  | aborted -- strcpy_s called the invalid parameter handler
  deriving DecidableEq

/-- How CheckLoginToken ends, how many bytes from the start of the buffer it has read, and
m_strAccountName, which counts only after a conversion that succeeds. -/
structure Checked where
  exit : Exit
  reads : Nat
  accountName : WString
  deriving DecidableEq

section
variable (utf8 : List UInt8 → WString)

def nameAccount (accountName : WString) (text : List UInt8) : Int × WString :=
  match char2WChar utf8 accountUnits text with
  | none => (-1,accountName)
  | some name => if name.length = 0 then (-1,name) else (0,lowerCase name)

/-- The second call of strtok_s, from where the first has left off. -/
def checkPassword (accountName : WString) (account : List UInt8) (offset : Nat) (bytes : List UInt8) :
    Checked :=
  match strtokS semicolon bytes with
  | none => ⟨.undefined,offset + bytes.length + 1,accountName⟩
  | some scan =>
    match scan.token with
    | none => ⟨.returned (-1),offset + scan.reads,accountName⟩
    | some password =>
      if passwordBytes < password.length then ⟨.returned (-1),offset + scan.reads,accountName⟩
      else
        match strcpyS passwordBytes passwordBytes password with
        | .overrun => ⟨.undefined,offset + scan.reads,accountName⟩
        | .aborted => ⟨.aborted,offset + scan.reads,accountName⟩
        | .copied _ =>
          let (result,name) := nameAccount utf8 accountName account
          ⟨.returned result,offset + scan.reads,name⟩

/-- iLen is not used. -/
def checkToken (accountName : WString) (_iLen : UInt16) (bytes : List UInt8) : Checked :=
  match strtokS semicolon bytes with
  | none => ⟨.undefined,bytes.length + 1,accountName⟩
  | some scan =>
    match scan.token with
    | none => ⟨.returned (-1),scan.reads,accountName⟩
    | some account =>
      if accountBytes < account.length then ⟨.returned (-1),scan.reads,accountName⟩
      else
        match strcpyS accountBytes accountBytes account with
        | .overrun => ⟨.undefined,scan.reads,accountName⟩
        | .aborted => ⟨.aborted,scan.reads,accountName⟩
        | .copied text => checkPassword utf8 accountName text (bytes.length - scan.next.length) scan.next

def LoginSession.checkLoginToken (accountName : WString) (iLen : UInt16) (bytes : List UInt8) : Checked :=
  checkToken utf8 accountName iLen bytes

def GateSession.checkLoginToken (finalizing : Bool) (accountName : WString) (iLen : UInt16)
    (bytes : List UInt8) : Checked :=
  if finalizing then ⟨.returned (-1),0,accountName⟩ else checkToken utf8 accountName iLen bytes

/-- The account is not empty, neither before nor after its conversion, and keeps to its limit after it. -/
def Named (account : List UInt8) : Prop :=
  account ≠ [] ∧ utf8 account ≠ [] ∧ (utf8 account).length ≤ accountNameMax

/-- The declared bytes are account;password up to their NUL, within the limits. -/
structure Token (declared account password : List UInt8) : Prop where
  form : cString declared = account ++ semicolon :: password
  parts : semicolon ∉ account ∧ semicolon ∉ password
  named : Named utf8 account
  account : account.length ≤ accountNameMax * 3
  password : password.length ≤ passwordMax

/-- What is asked of a call with so many declared bytes. -/
structure Parses (iLen : UInt16) (bytes : List UInt8) (checked : Checked) : Prop where
  inside : checked.reads ≤ iLen.toNat
  safe : ∃ result, checked.exit = .returned result
  accepts : checked.exit = .returned 0 ↔ ∃ account password, Token utf8 (bytes.take iLen.toNat) account password
  stored : ∀ account password, Token utf8 (bytes.take iLen.toNat) account password →
    checked.accountName = lowerCase (utf8 account)

/-- What the second call of strtok_s has to find in the declared bytes behind an account that fits. -/
def PasswordEnds (declared account next : List UInt8) : Prop :=
  ∃ scan, strtokS semicolon next = some scan ∧
    let password := scan.token.getD []
    password.length ≠ passwordBytes ∧
    (Named utf8 account → password.length < passwordBytes →
      (cString declared = account ++ semicolon :: password ↔ password ≠ []))

/-- Both calls of strtok_s end in the declared bytes, no part has just the length that passes the check and
aborts the copy, and of a good account with a good password there is nothing but account;password in the
declared bytes, with a password that is not empty. -/
def Ends (declared : List UInt8) : Prop :=
  ∃ scan, strtokS semicolon declared = some scan ∧ ∀ account, scan.token = some account →
    account.length ≠ accountBytes ∧
      (account.length < accountBytes → PasswordEnds utf8 declared account scan.next)

/-- The first part of what the declared bytes say is their account. -/
theorem token_account (declared account password : List UInt8) (scan : Scan)
    (found : strtokS semicolon declared = some scan) (token : Token utf8 declared account password) :
    scan.token = some account ∧
      ∀ second, strtokS semicolon scan.next = some second → password = second.token.getD [] := by
  obtain ⟨count,text,last,rest,split,free,ends,first,rfl⟩ := strtokS_spec semicolon declared scan found
  have form := token.form
  have leads : count = 0 := by
    cases count with
    | zero => rfl
    | succ count =>
      rw [split,List.replicate_succ,List.cons_append,cString,List.takeWhile_cons_of_pos (by decide)] at form
      cases same : account with
      | nil => exact absurd same token.named.1
      | cons byte bytes =>
        rw [same] at form
        have head : semicolon = byte := (List.cons.inj form).1
        exact absurd (by rw [same,head]; exact List.mem_cons_self) token.parts.1
  rw [leads,List.replicate_zero,List.nil_append] at split
  rw [split,cString_append text _ fun byte member => (free byte member).2] at form
  have separated : last = semicolon := by
    refine ends.resolve_right fun nul => ?_
    rw [nul,cString,List.takeWhile_cons_of_neg (by decide),List.append_nil] at form
    have member : semicolon ∈ text := by
      rw [form]
      exact List.mem_append_right _ List.mem_cons_self
    exact (free semicolon member).1 rfl
  rw [separated,cString,List.takeWhile_cons_of_pos (by decide)] at form
  obtain ⟨rfl,-,ending⟩ := (List.append_cons_inj_of_notMem token.parts.1 token.parts.2).mp form.symm
  change password = cString rest at ending
  have next : (Scan.ofEnd declared account last rest).next = rest := by
    rw [Scan.ofEnd,separated]
    rfl
  refine ⟨if_neg token.named.1,fun second again => ?_⟩
  rw [next] at again
  obtain ⟨count,text',last',rest',split',free',ends',first',rfl⟩ := strtokS_spec semicolon rest second again
  have leads : count = 0 := by
    cases count with
    | zero => rfl
    | succ count =>
      rw [split',List.replicate_succ,List.cons_append,cString,List.takeWhile_cons_of_pos (by decide)] at ending
      exact absurd (by rw [ending]; exact List.mem_cons_self) token.parts.2
  rw [leads,List.replicate_zero,List.nil_append] at split'
  rw [split',cString_append text' _ fun byte member => (free' byte member).2] at ending
  have nul : last' = 0 := by
    refine ends'.resolve_left fun separated => ?_
    rw [separated,cString,List.takeWhile_cons_of_pos (by decide)] at ending
    exact token.parts.2 (by rw [ending]; exact List.mem_append_right _ List.mem_cons_self)
  rw [nul,cString,List.takeWhile_cons_of_neg (by decide),List.append_nil] at ending
  rw [ending,Scan.ofEnd]
  dsimp only
  split
  next empty => exact empty
  · rfl

theorem nameAccount_named (accountName : WString) (account : List UInt8) (more : account ≠ []) :
    (Named utf8 account → nameAccount utf8 accountName account = (0,lowerCase (utf8 account))) ∧
      (¬ Named utf8 account → (nameAccount utf8 accountName account).1 = -1) := by
  rw [nameAccount,char2WChar]
  have units : accountUnits = accountNameMax + 1 := rfl
  constructor
  · rintro ⟨-,some,fits⟩
    rw [if_pos (by omega)]
    exact if_neg (mt List.length_eq_zero_iff.mp some)
  · intro unnamed
    by_cases fits : (utf8 account).length < accountUnits
    · rw [if_pos fits]
      dsimp only
      split
      · rfl
      next some => exact absurd ⟨more,mt List.length_eq_zero_iff.mpr some,by omega⟩ unnamed
    · rw [if_neg fits]

theorem token_parts (declared account : List UInt8) (scan second : Scan)
    (found : strtokS semicolon declared = some scan) (first : scan.token = some account)
    (again : strtokS semicolon scan.next = some second)
    (form : cString declared = account ++ semicolon :: second.token.getD []) (named : Named utf8 account)
    (accountFits : account.length ≤ accountNameMax * 3)
    (passwordFits : (second.token.getD []).length ≤ passwordMax) :
    Token utf8 declared account (second.token.getD []) := by
  refine ⟨form,⟨?_,?_⟩,named,accountFits,passwordFits⟩
  · intro member
    exact ((strtokS_token semicolon declared account scan found first).2 semicolon member).1 rfl
  · cases has : second.token with
    | none => simp
    | some password =>
      intro member
      exact ((strtokS_token semicolon scan.next password second again has).2 semicolon member).1 rfl

section
variable (accountName : WString) (iLen : UInt16) (bytes account : List UInt8) (scan : Scan)

theorem refused_parses (checked : Checked) (refused : checked.exit = .returned (-1))
    (inside : checked.reads ≤ iLen.toNat) : Parses utf8 iLen bytes checked ↔
      ∀ account password, ¬ Token utf8 (bytes.take iLen.toNat) account password := by
  constructor
  · intro parses account password token
    have accepted := parses.accepts.mpr ⟨account,password,token⟩
    rw [refused] at accepted
    cases accepted
  · intro none
    refine ⟨inside,⟨_,refused⟩,?_,fun account password token => absurd token (none account password)⟩
    rw [refused]
    constructor
    · intro accepted
      cases accepted
    · rintro ⟨account,password,token⟩
      exact absurd token (none account password)

theorem checkPassword_reads (offset : Nat) (found : strtokS semicolon bytes = some scan) :
    (checkPassword utf8 accountName account offset bytes).reads = offset + scan.reads := by
  rw [checkPassword,found]
  dsimp only
  split
  · rfl
  · split
    · rfl
    · split <;> rfl

theorem declared_whole : (bytes.take iLen.toNat).length = iLen.toNat ∨ bytes.drop iLen.toNat = [] := by
  rw [List.length_take,List.drop_eq_nil_iff]
  omega

/-- Where the declared bytes do not end a part, the call of strtok_s for it reads beyond them. -/
theorem unended_parses (part : List UInt8) (offset : Nat) (checked : Checked)
    (start : offset + part.length = (bytes.take iLen.toNat).length) (never : strtokS semicolon part = none)
    (undefined : strtokS semicolon (part ++ bytes.drop iLen.toNat) = none → checked.exit = .undefined)
    (reads : ∀ scan, strtokS semicolon (part ++ bytes.drop iLen.toNat) = some scan →
      offset + scan.reads ≤ checked.reads) : ¬ Parses utf8 iLen bytes checked := by
  intro parses
  cases further : strtokS semicolon (part ++ bytes.drop iLen.toNat) with
  | none =>
    obtain ⟨result,returned⟩ := parses.safe
    rw [undefined further] at returned
    cases returned
  | some scan =>
    have beyond := strtokS_short semicolon part (bytes.drop iLen.toNat) scan never further
    have inside := (reads scan further).trans parses.inside
    rcases declared_whole iLen bytes with whole | last
    · omega
    · rw [last,List.append_nil,never] at further
      cases further

theorem aborted_parses (checked : Checked) (aborted : checked.exit = .aborted) : ¬ Parses utf8 iLen bytes checked := by
  intro parses
  obtain ⟨result,returned⟩ := parses.safe
  rw [aborted] at returned
  cases returned

theorem checkPassword_copied (offset : Nat) (password : List UInt8) (found : strtokS semicolon bytes = some scan)
    (part : scan.token = some password) :
    checkPassword utf8 accountName account offset bytes =
      if passwordBytes < password.length then ⟨.returned (-1),offset + scan.reads,accountName⟩
      else if password.length < passwordBytes then
        ⟨.returned (nameAccount utf8 accountName account).1,offset + scan.reads,
          (nameAccount utf8 accountName account).2⟩
      else ⟨.aborted,offset + scan.reads,accountName⟩ := by
  have free := (strtokS_token semicolon bytes password scan found part).2
  rw [checkPassword,found]
  dsimp only
  rw [part]
  dsimp only
  rw [strcpyS_whole passwordBytes password fun byte member => (free byte member).2]
  split
  · rfl
  · by_cases short : password.length < passwordBytes
    · rw [if_pos short,if_pos short]
    · rw [if_neg short,if_neg short]

theorem named_parses (password : List UInt8) (reads : Nat) (some : account ≠ []) (inside : reads ≤ iLen.toNat)
    (only : ∀ name word, Token utf8 (bytes.take iLen.toNat) name word → name = account ∧ word = password)
    (cut : cString (bytes.take iLen.toNat) = account ++ semicolon :: password → Named utf8 account →
      Token utf8 (bytes.take iLen.toNat) account password) (given : password ≠ []) :
    Parses utf8 iLen bytes ⟨.returned (nameAccount utf8 accountName account).1,reads,
        (nameAccount utf8 accountName account).2⟩ ↔
      (Named utf8 account →
        (cString (bytes.take iLen.toNat) = account ++ semicolon :: password ↔ password ≠ [])) := by
  have names := nameAccount_named utf8 accountName account some
  by_cases named : Named utf8 account
  · rw [names.1 named]
    constructor
    · intro parses
      obtain ⟨name,word,token⟩ := parses.accepts.mp rfl
      obtain ⟨rfl,rfl⟩ := only name word token
      exact fun _ => ⟨fun _ => given,fun _ => token.form⟩
    · intro ends
      have token := cut ((ends named).mpr given) named
      refine ⟨inside,⟨0,rfl⟩,⟨fun _ => ⟨account,password,token⟩,fun _ => rfl⟩,?_⟩
      intro name word other
      rw [(only name word other).1]
  · have failed := names.2 named
    rw [refused_parses utf8 iLen bytes _ (by rw [failed]) inside]
    constructor
    · exact fun _ wrong => absurd wrong named
    · intro _ name word token
      obtain ⟨rfl,-⟩ := only name word token
      exact named token.named

theorem checkPassword_parses (found : strtokS semicolon (bytes.take iLen.toNat) = some scan)
    (first : scan.token = some account) (fits : account.length < accountBytes) :
    let declared := bytes.take iLen.toNat
    Parses utf8 iLen bytes (checkPassword utf8 accountName account (declared.length - scan.next.length)
      (scan.next ++ bytes.drop iLen.toNat)) ↔ PasswordEnds utf8 declared account scan.next := by
  intro declared
  obtain ⟨shorter,-,-,-⟩ := strtokS_reads semicolon declared scan found
  have within : declared.length ≤ iLen.toNat := List.length_take_le ..
  have limit : accountBytes = accountNameMax * 3 + 1 := rfl
  have limit' : passwordBytes = passwordMax + 1 := rfl
  obtain ⟨offset,start⟩ : ∃ offset, offset + scan.next.length = declared.length :=
    ⟨declared.length - scan.next.length,by omega⟩
  rw [show declared.length - scan.next.length = offset by omega]
  cases again : strtokS semicolon scan.next with
  | none =>
    refine iff_of_false (unended_parses utf8 iLen bytes scan.next offset _ start again ?_ ?_) ?_
    · intro further
      rw [checkPassword,further]
    · intro second further
      rw [checkPassword_reads utf8 accountName _ account second offset further]
    · rintro ⟨second,wrong,-⟩
      rw [again] at wrong
      cases wrong
  | some second =>
    have further := strtokS_append semicolon scan.next (bytes.drop iLen.toNat) second again
    have inside : offset + second.reads ≤ iLen.toNat := by
      obtain ⟨-,-,bound,-⟩ := strtokS_reads semicolon scan.next second again
      omega
    have ends : PasswordEnds utf8 declared account scan.next ↔
        (second.token.getD []).length ≠ passwordBytes ∧
          (Named utf8 account → (second.token.getD []).length < passwordBytes →
            (cString declared = account ++ semicolon :: second.token.getD [] ↔ second.token.getD [] ≠ [])) := by
      constructor
      · rintro ⟨other,same,ends⟩
        obtain rfl := Option.some.inj (again.symm.trans same)
        exact ends
      · exact fun ends => ⟨second,again,ends⟩
    have only (name password : List UInt8) (token : Token utf8 declared name password) :
        name = account ∧ password = second.token.getD [] := by
      obtain ⟨same,behind⟩ := token_account utf8 declared name password scan found token
      exact ⟨Option.some.inj (same.symm.trans first),behind second again⟩
    have cut := token_parts utf8 declared account scan second found first again
    rw [ends]
    cases part : second.token with
    | none =>
      have refused : checkPassword utf8 accountName account offset (scan.next ++ bytes.drop iLen.toNat) =
          ⟨.returned (-1),offset + second.reads,accountName⟩ := by
        rw [checkPassword,further]
        dsimp only
        rw [part]
      rw [refused,refused_parses utf8 iLen bytes _ rfl inside]
      rw [part] at only cut
      constructor
      · intro none
        refine ⟨by decide,fun named _ => ⟨fun form => ?_,fun wrong => absurd rfl wrong⟩⟩
        exact absurd (cut form named (by omega) (Nat.zero_le _)) (none account [])
      · rintro ⟨-,ends⟩ name password token
        obtain ⟨rfl,rfl⟩ := only name password token
        exact (ends token.named (by decide)).mp token.form rfl
    | some password =>
      rw [part] at only cut
      change (∀ name word, Token utf8 declared name word → name = account ∧ word = password) at only
      change (cString declared = account ++ semicolon :: password → _) at cut
      change Parses utf8 iLen bytes _ ↔ password.length ≠ passwordBytes ∧ (Named utf8 account →
        password.length < passwordBytes → (cString declared = account ++ semicolon :: password ↔ password ≠ []))
      have given := (strtokS_token semicolon scan.next password second again part).1
      rw [checkPassword_copied utf8 accountName _ account _ offset password further part]
      by_cases long : passwordBytes < password.length
      · rw [if_pos long,refused_parses utf8 iLen bytes _ rfl inside]
        refine iff_of_true ?_ ⟨by omega,fun _ short => by omega⟩
        intro name word token
        obtain ⟨rfl,rfl⟩ := only name word token
        have := token.password
        omega
      rw [if_neg long]
      by_cases short : password.length < passwordBytes
      · rw [if_pos short]
        refine (named_parses utf8 accountName iLen bytes account password _
          (strtokS_token semicolon declared account scan found first).1 inside only
          (fun form named => cut form named (by omega) (by change password.length ≤ _; omega)) given).trans ?_
        exact ⟨fun ends => ⟨by omega,fun named _ => ends named⟩,fun ends named => ends.2 named short⟩
      · rw [if_neg short]
        refine iff_of_false (aborted_parses utf8 iLen bytes _ rfl) ?_
        rintro ⟨other,-⟩
        omega

theorem checkToken_reads (found : strtokS semicolon bytes = some scan) :
    scan.reads ≤ (checkToken utf8 accountName iLen bytes).reads := by
  obtain ⟨-,-,-,ahead⟩ := strtokS_reads semicolon bytes scan found
  rw [checkToken,found]
  dsimp only
  split
  · exact le_rfl
  · split
    · exact le_rfl
    · split
      · exact le_rfl
      · exact le_rfl
      next text _ =>
        generalize bytes.length - scan.next.length = offset at ahead ⊢
        cases again : strtokS semicolon scan.next with
        | none =>
          have reads : (checkPassword utf8 accountName text offset scan.next).reads =
              offset + scan.next.length + 1 := by
            rw [checkPassword,again]
          omega
        | some second =>
          have reads := checkPassword_reads utf8 accountName scan.next text second offset again
          obtain ⟨-,some',-,-⟩ := strtokS_reads semicolon scan.next second again
          omega

theorem checkToken_copied (found : strtokS semicolon bytes = some scan) (part : scan.token = some account) :
    checkToken utf8 accountName iLen bytes =
      if accountBytes < account.length then ⟨.returned (-1),scan.reads,accountName⟩
      else if account.length < accountBytes then
        checkPassword utf8 accountName account (bytes.length - scan.next.length) scan.next
      else ⟨.aborted,scan.reads,accountName⟩ := by
  have free := (strtokS_token semicolon bytes account scan found part).2
  rw [checkToken,found]
  dsimp only
  rw [part]
  dsimp only
  rw [strcpyS_whole accountBytes account fun byte member => (free byte member).2]
  split
  · rfl
  · by_cases short : account.length < accountBytes
    · rw [if_pos short,if_pos short]
    · rw [if_neg short,if_neg short]

/-- The buffer is parsed as it should be exactly where the declared bytes end both parts. -/
theorem checkToken_parses : Parses utf8 iLen bytes (checkToken utf8 accountName iLen bytes) ↔
    Ends utf8 (bytes.take iLen.toNat) := by
  let declared := bytes.take iLen.toNat
  let back := bytes.drop iLen.toNat
  have whole : declared ++ back = bytes := List.take_append_drop ..
  have within : declared.length ≤ iLen.toNat := List.length_take_le ..
  change _ ↔ Ends utf8 declared
  cases found : strtokS semicolon declared with
  | none =>
    refine iff_of_false (unended_parses utf8 iLen bytes declared 0 _ (Nat.zero_add _) found ?_ ?_) ?_
    · intro further
      rw [whole] at further
      rw [checkToken,further]
    · intro scan further
      rw [whole] at further
      rw [Nat.zero_add]
      exact checkToken_reads utf8 accountName iLen bytes scan further
    · rintro ⟨scan,wrong,-⟩
      rw [found] at wrong
      cases wrong
  | some scan =>
    have further := strtokS_append semicolon declared back scan found
    rw [whole] at further
    obtain ⟨shorter,-,bound,-⟩ := strtokS_reads semicolon declared scan found
    have inside : scan.reads ≤ iLen.toNat := by omega
    have ends : Ends utf8 declared ↔ ∀ account, scan.token = some account → account.length ≠ accountBytes ∧
        (account.length < accountBytes → PasswordEnds utf8 declared account scan.next) := by
      constructor
      · rintro ⟨other,same,ends⟩
        obtain rfl := Option.some.inj (found.symm.trans same)
        exact ends
      · exact fun ends => ⟨scan,found,ends⟩
    rw [ends]
    cases part : scan.token with
    | none =>
      have result : checkToken utf8 accountName iLen bytes = ⟨.returned (-1),scan.reads,accountName⟩ := by
        rw [checkToken,further]
        dsimp only
        rw [part]
      rw [result,refused_parses utf8 iLen bytes _ rfl inside]
      refine iff_of_true ?_ fun account wrong => by cases wrong
      intro account password token
      have some' := (token_account utf8 declared account password scan found token).1
      rw [part] at some'
      cases some'
    | some account =>
      have offset : bytes.length - (scan.next ++ back).length = declared.length - scan.next.length := by
        rw [← whole,List.length_append,List.length_append]
        omega
      have each (ends : List UInt8 → Prop) : (∀ name, some account = some name → ends name) ↔ ends account := by
        simp
      rw [checkToken_copied utf8 accountName iLen bytes account _ further part,each]
      by_cases long : accountBytes < account.length
      · rw [if_pos long,refused_parses utf8 iLen bytes _ rfl inside]
        refine iff_of_true ?_ ⟨by omega,fun short => by omega⟩
        intro name password token
        have same := (token_account utf8 declared name password scan found token).1
        rw [part] at same
        obtain rfl := Option.some.inj same
        have limit : accountBytes = accountNameMax * 3 + 1 := rfl
        have := token.account
        omega
      rw [if_neg long]
      by_cases short : account.length < accountBytes
      · rw [if_pos short,offset]
        refine (checkPassword_parses utf8 accountName iLen bytes account scan found part short).trans ?_
        exact ⟨fun ends => ⟨by omega,fun _ => ends⟩,fun ends => ends.2 short⟩
      · rw [if_neg short]
        refine iff_of_false (aborted_parses utf8 iLen bytes _ rfl) ?_
        rintro ⟨other,-⟩
        omega

end

end

/-- Both functions parse a buffer as they should exactly where the declared bytes end both parts; the gate
session refuses every token once it is finalizing. -/
theorem checkLoginToken_parses_iff (utf8 : List UInt8 → WString) (finalizing : Bool) (accountName : WString)
    (iLen : UInt16) (bytes : List UInt8) :
    (Parses utf8 iLen bytes (LoginSession.checkLoginToken utf8 accountName iLen bytes) ↔
      Ends utf8 (bytes.take iLen.toNat)) ∧
    (Parses utf8 iLen bytes (GateSession.checkLoginToken utf8 finalizing accountName iLen bytes) ↔
      if finalizing then ∀ account password, ¬ Token utf8 (bytes.take iLen.toNat) account password
      else Ends utf8 (bytes.take iLen.toNat)) := by
  refine ⟨checkToken_parses utf8 accountName iLen bytes,?_⟩
  rw [GateSession.checkLoginToken]
  split
  · exact refused_parses utf8 iLen bytes _ rfl (Nat.zero_le _)
  · exact checkToken_parses utf8 accountName iLen bytes

/-- A password of 33 bytes passes its check and aborts its copy. -/
theorem checkLoginToken_parses_aborted :
    let ascii := fun text : List UInt8 => text.map UInt8.toUInt16
    let bytes := [97,59] ++ List.replicate 33 112 ++ List.replicate 477 0
    bytes.length = 512 ∧ (LoginSession.checkLoginToken ascii [] 36 bytes).exit = .aborted ∧
      ¬ Parses ascii 36 bytes (LoginSession.checkLoginToken ascii [] 36 bytes) ∧
      ¬ Parses ascii 36 bytes (GateSession.checkLoginToken ascii false [] 36 bytes) := by
  intro ascii bytes
  have login : (LoginSession.checkLoginToken ascii [] 36 bytes).exit = .aborted := by decide +kernel
  have gate : (GateSession.checkLoginToken ascii false [] 36 bytes).exit = .aborted := by decide +kernel
  exact ⟨by decide +kernel,login,aborted_parses ascii 36 bytes _ login,aborted_parses ascii 36 bytes _ gate⟩

end Fantuan.ServerBase.LoginTokens
