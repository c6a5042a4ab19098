import Mathlib.Data.List.TakeWhile
import Mathlib.Data.List.Basic

/-! The functions that the three parsers share: what they skip, signs, names, strings and
keywords. A buffer is what is left of the input before its terminating NUL. Beside them, how
a list of tokens is spelled.
-/
namespace Fantuan.Gen.Lexer

def isBlank (char : Char) : Bool := char == ' ' || char == '\n' || char == '\t'

-- comment: inside the inner loop, after the two slashes
def escape : Bool → List Char → List Char
  | _,[] => []
  | true,char :: buffer => if char = '\n' then escape false buffer else escape true buffer
  | false,char :: buffer =>
    if char = '/' ∧ buffer.head? = some '/' then escape true buffer
    else if isBlank char then escape false buffer
    else char :: buffer

def escapeSpace (buffer : List Char) : List Char := escape false buffer

def checkChar (char : Char) (buffer : List Char) : Option (List Char) :=
  match escapeSpace buffer with
  | first :: rest => if first = char then some rest else none
  | [] => none

def isNameChar (char : Char) : Bool := char.isDigit || char.isAlpha || char == '_'

def checkIdentifier (size : Nat) (buffer : List Char) : Option (List Char × List Char) :=
  let buffer := escapeSpace buffer
  let value := buffer.takeWhile isNameChar
  if value.head?.any Char.isDigit then none
  else if value.length = 0 ∨ value.length + 1 > size then none
  else some (value,buffer.drop value.length)

-- index is one more than the length of the content
def checkString (size : Nat) (buffer : List Char) : Option (List Char × List Char) :=
  match escapeSpace buffer with
  | '"' :: rest =>
    let content := rest.takeWhile (· != '"')
    match rest.drop content.length with
    | [] => none
    | _ :: after => if content.length + 2 > size then none else some (content,after)
  | _ => none

def strSize : Nat := 128

def checkKeyword (identifier : List Char) (buffer : List Char) : Option (List Char) :=
  match checkIdentifier strSize (escapeSpace buffer) with
  | some (str,rest) => if str = identifier then some rest else none
  | none => none

inductive Token where
  | sign (char : Char)
  | name (value : List Char)
  | text (content : List Char)
  deriving DecidableEq

def Token.chars : Token → List Char
  | .sign char => [char]
  | .name value => value
  | .text content => '"' :: (content ++ ['"'])

def signs : List Char := ['#','(',')','[',']','{','}',',',';']

def isName (value : List Char) : Bool :=
  !value.isEmpty && value.all isNameChar && !value.head?.any Char.isDigit

def Token.Valid : Token → Prop
  | .sign char => char ∈ signs
  | .name value => isName value = true
  | .text content => '"' ∉ content

instance : (token : Token) → Decidable token.Valid
  | .sign char => inferInstanceAs (Decidable (char ∈ signs))
  | .name value => inferInstanceAs (Decidable (isName value = true))
  | .text content => inferInstanceAs (Decidable ('"' ∉ content))

inductive Trivia : List Char → Prop where
  | none : Trivia []
  | blank (char : Char) (rest : List Char) (isBlank : isBlank char = true) (more : Trivia rest) :
    Trivia (char :: rest)
  | comment (body rest : List Char) (oneLine : '\n' ∉ body) (more : Trivia rest) :
    Trivia ('/' :: '/' :: (body ++ '\n' :: rest))

/-- A name ends where no character of a name follows. -/
def Token.Ends (rest : List Char) : Token → Prop
  | .name _ => ∀ char, rest.head? = some char → isNameChar char = false
  | _ => True

/-- An input that consists of these tokens. The last comment may end with the input. -/
inductive Spells : List Token → List Char → Prop where
  | done (trivia : List Char) (skipped : Trivia trivia) : Spells [] trivia
  | comment (trivia body : List Char) (skipped : Trivia trivia) (oneLine : '\n' ∉ body) :
    Spells [] (trivia ++ '/' :: '/' :: body)
  | token (trivia rest : List Char) (token : Token) (tokens : List Token)
    (skipped : Trivia trivia) (valid : token.Valid) (ends : token.Ends rest)
    (more : Spells tokens rest) : Spells (token :: tokens) (trivia ++ (token.chars ++ rest))

theorem escape_comment (body rest : List Char) (oneLine : '\n' ∉ body) :
    escape true (body ++ '\n' :: rest) = escapeSpace rest := by
  induction body with
  | nil => rfl
  | cons char body ih =>
    rw [List.mem_cons,not_or] at oneLine
    obtain ⟨different,oneLine⟩ := oneLine
    rw [List.cons_append,escape,if_neg (Ne.symm different)]
    exact ih oneLine

theorem escape_lastComment (body : List Char) (oneLine : '\n' ∉ body) :
    escape true body = [] := by
  induction body with
  | nil => rfl
  | cons char body ih =>
    rw [List.mem_cons,not_or] at oneLine
    obtain ⟨different,oneLine⟩ := oneLine
    rw [escape,if_neg (Ne.symm different)]
    exact ih oneLine

theorem escapeSpace_slashes (rest : List Char) :
    escapeSpace ('/' :: '/' :: rest) = escape true rest := by
  rw [escapeSpace,escape,if_pos ⟨rfl,rfl⟩,escape,if_neg (by decide)]

theorem blank_different (char : Char) (blank : isBlank char = true) : char ≠ '/' := by
  intro same
  subst same
  exact absurd blank (by decide)

theorem escapeSpace_trivia (trivia rest : List Char) (skipped : Trivia trivia) :
    escapeSpace (trivia ++ rest) = escapeSpace rest := by
  induction skipped with
  | none => rfl
  | blank char more blank _ ih =>
    rw [List.cons_append,escapeSpace,escape,
      if_neg (fun slash => blank_different char blank slash.1),if_pos blank]
    exact ih
  | comment body more oneLine _ ih =>
    have split : '/' :: '/' :: (body ++ '\n' :: more) ++ rest =
        '/' :: '/' :: (body ++ '\n' :: (more ++ rest)) := by simp
    rw [split,escapeSpace_slashes,escape_comment body _ oneLine]
    exact ih

theorem escapeSpace_stays (char : Char) (rest : List Char) (notSlash : char ≠ '/')
    (notBlank : isBlank char = false) : escapeSpace (char :: rest) = char :: rest := by
  rw [escapeSpace,escape,if_neg (fun slash => notSlash slash.1),if_neg (by simp [notBlank])]

theorem sign_other (char : Char) (listed : char ∈ signs) :
    char ≠ '/' ∧ char ≠ '"' ∧ isBlank char = false ∧ isNameChar char = false := by
  have every : signs.all (fun sign => decide
      (sign ≠ '/' ∧ sign ≠ '"' ∧ isBlank sign = false ∧ isNameChar sign = false)) = true := by decide
  exact of_decide_eq_true (List.all_eq_true.mp every char listed)

theorem escapeSpace_spelled (token : Token) (rest : List Char) (valid : token.Valid) :
    escapeSpace (token.chars ++ rest) = token.chars ++ rest := by
  cases token with
  | sign char =>
    obtain ⟨notSlash,_,notBlank,_⟩ := sign_other char valid
    exact escapeSpace_stays char rest notSlash notBlank
  | text content => exact escapeSpace_stays '"' _ (by decide) (by decide)
  | name value =>
    cases value with
    | nil => cases valid
    | cons char value =>
      have isChar : isNameChar char = true := by
        simp only [Token.Valid,isName,Bool.and_eq_true,List.all_cons] at valid
        exact valid.1.2.1
      apply escapeSpace_stays
      · intro same
        subst same
        exact absurd isChar (by decide)
      · cases blank : isBlank char with
        | false => rfl
        | true =>
          simp only [isBlank,Bool.or_eq_true,beq_iff_eq] at blank
          rcases blank with (rfl | rfl) | rfl <;> exact absurd isChar (by decide)

theorem escapeSpace_spells (tokens : List Token) (buffer : List Char)
    (spells : Spells tokens buffer) :
    (tokens = [] ∧ escapeSpace buffer = []) ∨
    ∃ token more rest, tokens = token :: more ∧ escapeSpace buffer = token.chars ++ rest ∧
      token.Valid ∧ token.Ends rest ∧ Spells more rest := by
  cases spells with
  | done trivia skipped =>
    left
    have all := escapeSpace_trivia buffer [] skipped
    rw [List.append_nil] at all
    exact ⟨rfl,all⟩
  | comment trivia body skipped oneLine =>
    left
    refine ⟨rfl,?_⟩
    rw [escapeSpace_trivia trivia _ skipped,escapeSpace_slashes,escape_lastComment body oneLine]
  | token trivia rest token tokens skipped valid ends more =>
    right
    refine ⟨token,tokens,rest,rfl,?_,valid,ends,more⟩
    rw [escapeSpace_trivia trivia _ skipped,escapeSpace_spelled token rest valid]

theorem spells_head (token : Token) (tokens : List Token) (buffer : List Char)
    (spells : Spells (token :: tokens) buffer) :
    ∃ rest, escapeSpace buffer = token.chars ++ rest ∧ token.Valid ∧ token.Ends rest ∧
      Spells tokens rest := by
  rcases escapeSpace_spells _ buffer spells with ⟨none,_⟩ | ⟨first,more,rest,same,here,valid,ends,later⟩
  · cases none
  · obtain ⟨rfl,rfl⟩ := List.cons.inj same
    exact ⟨rest,here,valid,ends,later⟩

theorem spells_nonempty (token : Token) (tokens : List Token) (buffer : List Char)
    (spells : Spells (token :: tokens) buffer) : tokens.length < buffer.length := by
  generalize all : token :: tokens = written at spells
  induction spells generalizing token tokens with
  | done => cases all
  | comment => cases all
  | token trivia rest first more _ valid _ spells ih =>
    obtain ⟨rfl,rfl⟩ := List.cons.inj all
    have one : 0 < token.chars.length := by
      cases token with
      | sign char => exact Nat.one_pos
      | text content => exact Nat.succ_pos _
      | name value =>
        cases value with
        | nil => cases valid
        | cons char value => exact Nat.succ_pos _
    simp only [List.length_append]
    cases tokens with
    | nil =>
      simp only [List.length_nil]
      omega
    | cons next tokens =>
      have later := ih next tokens rfl
      simp only [List.length_cons]
      omega

theorem spells_length (tokens : List Token) (buffer : List Char)
    (spells : Spells tokens buffer) : tokens.length ≤ buffer.length := by
  cases tokens with
  | nil => exact Nat.zero_le _
  | cons token tokens => exact spells_nonempty token tokens buffer spells

theorem checkChar_sign (char : Char) (tokens : List Token) (buffer : List Char)
    (spells : Spells (.sign char :: tokens) buffer) :
    ∃ rest, checkChar char buffer = some rest ∧ Spells tokens rest := by
  obtain ⟨rest,here,_,_,later⟩ := spells_head _ tokens buffer spells
  refine ⟨rest,?_,later⟩
  rw [checkChar,here]
  exact if_pos rfl

theorem checkChar_other (char : Char) (listed : char ∈ signs) (tokens : List Token)
    (buffer : List Char) (spells : Spells tokens buffer)
    (other : tokens.head? ≠ some (.sign char)) : checkChar char buffer = none := by
  rcases escapeSpace_spells tokens buffer spells with ⟨_,here⟩ |
      ⟨token,more,rest,rfl,here,valid,_,_⟩
  · rw [checkChar,here]
  · obtain ⟨_,notQuote,_,notName⟩ := sign_other char listed
    rw [checkChar,here]
    cases token with
    | sign first =>
      refine if_neg fun same => other ?_
      rw [List.head?_cons,same]
    | text content => exact if_neg fun same => notQuote same.symm
    | name value =>
      cases value with
      | nil => cases valid
      | cons first value =>
        refine if_neg fun same => ?_
        simp only [Token.Valid,isName,Bool.and_eq_true,List.all_cons] at valid
        rw [same,notName] at valid
        exact absurd valid.1.2.1 Bool.false_ne_true

theorem name_taken (value rest : List Char) (valid : (Token.name value).Valid)
    (ends : (Token.name value).Ends rest) :
    (value ++ rest).takeWhile isNameChar = value := by
  have all : ∀ char ∈ value, isNameChar char = true := by
    simp only [Token.Valid,isName,Bool.and_eq_true,List.all_eq_true] at valid
    exact valid.1.2
  rw [List.takeWhile_append_of_pos all]
  have stop : rest.takeWhile isNameChar = [] := by
    cases rest with
    | nil => rfl
    | cons char rest => exact List.takeWhile_cons_of_neg (by simp [ends char rfl])
  rw [stop,List.append_nil]

theorem checkIdentifier_name (size : Nat) (value : List Char) (tokens : List Token)
    (buffer : List Char) (spells : Spells (.name value :: tokens) buffer) :
    ∃ rest, Spells tokens rest ∧
      checkIdentifier size buffer = if value.length + 1 > size then none else some (value,rest) := by
  obtain ⟨rest,here,valid,ends,later⟩ := spells_head _ tokens buffer spells
  refine ⟨rest,later,?_⟩
  have parts := valid
  simp only [Token.Valid,isName,Bool.and_eq_true,Bool.not_eq_true',List.isEmpty_eq_false_iff] at parts
  obtain ⟨⟨some,_⟩,notDigit⟩ := parts
  rw [checkIdentifier,here]
  simp only [Token.chars,name_taken value rest valid ends,notDigit,List.length_eq_zero_iff,some,
    false_or,List.drop_left]
  rfl

theorem checkIdentifier_other (size : Nat) (tokens : List Token) (buffer : List Char)
    (spells : Spells tokens buffer) (other : ∀ value, tokens.head? ≠ some (.name value)) :
    checkIdentifier size buffer = none := by
  have stop : ∀ rest char, isNameChar char = false →
      (char :: rest).takeWhile isNameChar = [] := by
    intro rest char notName
    exact List.takeWhile_cons_of_neg (by simp [notName])
  rcases escapeSpace_spells tokens buffer spells with ⟨_,here⟩ |
      ⟨token,more,rest,rfl,here,valid,_,_⟩
  · rw [checkIdentifier,here]
    rfl
  · rw [checkIdentifier,here]
    cases token with
    | name value => exact absurd rfl (other value)
    | text content => simp [Token.chars,stop _ '"' (by decide)]
    | sign char =>
      obtain ⟨_,_,_,notName⟩ := sign_other char valid
      simp [Token.chars,stop _ char notName]

theorem text_taken (content rest : List Char) (valid : (Token.text content).Valid) :
    (content ++ '"' :: rest).takeWhile (· != '"') = content := by
  have all : ∀ char ∈ content, (char != '"') = true := by
    intro char member
    have different : char ≠ '"' := fun same => valid (same ▸ member)
    simpa using different
  rw [List.takeWhile_append_of_pos all,List.takeWhile_cons_of_neg (by simp),List.append_nil]

theorem checkString_text (size : Nat) (content : List Char) (tokens : List Token)
    (buffer : List Char) (spells : Spells (.text content :: tokens) buffer) :
    ∃ rest, Spells tokens rest ∧
      checkString size buffer = if content.length + 2 > size then none
        else some (content,rest) := by
  obtain ⟨rest,here,valid,_,later⟩ := spells_head _ tokens buffer spells
  refine ⟨rest,later,?_⟩
  have split : (Token.text content).chars ++ rest = '"' :: (content ++ '"' :: rest) := by
    simp [Token.chars]
  rw [checkString,here,split]
  simp only [text_taken content rest valid,List.drop_left]

theorem checkIdentifier_escaped (size : Nat) (tokens : List Token) (buffer : List Char)
    (spells : Spells tokens buffer) :
    checkIdentifier size (escapeSpace buffer) = checkIdentifier size buffer := by
  have again : escapeSpace (escapeSpace buffer) = escapeSpace buffer := by
    rcases escapeSpace_spells tokens buffer spells with ⟨_,here⟩ |
        ⟨token,_,rest,_,here,valid,_,_⟩
    · rw [here]
      rfl
    · rw [here]
      exact escapeSpace_spelled token rest valid
  rw [checkIdentifier,checkIdentifier,again]

theorem checkKeyword_name (identifier value : List Char) (short : identifier.length < strSize)
    (tokens : List Token) (buffer : List Char) (spells : Spells (.name value :: tokens) buffer) :
    ∃ rest, Spells tokens rest ∧
      checkKeyword identifier buffer = if value = identifier then some rest else none := by
  obtain ⟨rest,later,found⟩ := checkIdentifier_name strSize value tokens buffer spells
  refine ⟨rest,later,?_⟩
  rw [checkKeyword,checkIdentifier_escaped strSize _ buffer spells,found]
  by_cases same : value = identifier
  · subst same
    rw [if_neg (by omega),if_pos rfl]
    exact if_pos rfl
  · rw [if_neg same]
    by_cases long : value.length + 1 > strSize
    · rw [if_pos long]
    · rw [if_neg long]
      exact if_neg same

theorem checkKeyword_other (identifier : List Char) (tokens : List Token) (buffer : List Char)
    (spells : Spells tokens buffer) (other : ∀ value, tokens.head? ≠ some (.name value)) :
    checkKeyword identifier buffer = none := by
  rw [checkKeyword,checkIdentifier_escaped strSize tokens buffer spells,
    checkIdentifier_other strSize tokens buffer spells other]

end Fantuan.Gen.Lexer
