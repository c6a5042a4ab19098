import Mathlib.Data.List.TakeWhile

/-! The lexical rules of MySQL: string literals with doubled marks and backslashes, words, comments and
signs. Literals that follow each other are one literal.
-/
namespace Fantuan.Lib.Sql

abbrev Text := List UInt16

/-- The mark of a string literal, and what takes the unit behind it out of its role. -/
def quote : UInt16 := 39
def backslash : UInt16 := 92

/-- What a unit behind a backslash stands for. Before a wildcard the backslash stays. -/
def escape (unit : UInt16) : Text :=
  if unit = 48 then [0] -- \0
  else if unit = 98 then [8] -- \b
  else if unit = 110 then [10] -- \n
  else if unit = 114 then [13] -- \r
  else if unit = 116 then [9] -- \t
  else if unit = 90 then [26] -- \Z
  else if unit = 37 ∨ unit = 95 then [backslash,unit]
  else [unit]

def prepend (units : Text) (found : Option (Text × Text)) : Option (Text × Text) :=
  found.map fun found => (units ++ found.1,found.2)

/-- The value of what stands behind an opening mark, and what follows the closing one. -/
def literal (escapes : Bool) (mark : UInt16) : Text → Option (Text × Text)
  | [] => none
  | [unit] => if unit = mark then some ([],[]) else none
  | unit :: next :: rest =>
    if unit = mark then
      if next = mark then prepend [mark] (literal escapes mark rest) else some ([],next :: rest)
    else if escapes = true ∧ unit = backslash then prepend (escape next) (literal escapes mark rest)
    else prepend [unit] (literal escapes mark (next :: rest))

def isSpace (unit : UInt16) : Bool := 9 ≤ unit && unit ≤ 13 || unit = 32

/-- Digits, letters, underscore, dollar, and all that is not ASCII. -/
def isWord (unit : UInt16) : Bool :=
  48 ≤ unit && unit ≤ 57 || 65 ≤ unit && unit ≤ 90 || 97 ≤ unit && unit ≤ 122 || unit = 95 || unit = 36 ||
    128 ≤ unit

/-- What follows the end of a block comment. -/
def block : Text → Option Text
  | [] => none
  | [_] => none
  | unit :: next :: rest => if unit = 42 ∧ next = 47 then some rest else block (next :: rest)

/-- What follows a comment that stands here, where it has an end. What is executed is none. -/
def comment (text : Text) : Option (Option Text) :=
  let line := text.dropWhile fun unit => unit ≠ 10
  if text.head? = some 35 then some (some line)
  else if text.take 2 = [45,45] ∧ (text.drop 2).head?.all isSpace = true then some (some line)
  else if text.take 2 = [47,42] ∧ (text.drop 2).head? ≠ some 33 then some (block (text.drop 2))
  else none

inductive Token where
  | word (text : Text)
  | text (value : Text)
  | sign (unit : UInt16)
  deriving DecidableEq

def lex : Nat → Text → Option (List Token)
  | _, [] => some []
  | 0, _ :: _ => none
  | fuel + 1, unit :: rest =>
    if isSpace unit = true then lex fuel rest
    else match comment (unit :: rest) with
    | some ending => ending.bind (lex fuel)
    | none =>
      if unit = 39 ∨ unit = 34 then
        (literal true unit rest).bind fun found => (lex fuel found.2).map (Token.text found.1 :: ·)
      else if unit = 96 then
        (literal false unit rest).bind fun found => (lex fuel found.2).map (Token.word found.1 :: ·)
      else if isWord unit = true then
        (lex fuel (rest.dropWhile isWord)).map (Token.word (unit :: rest.takeWhile isWord) :: ·)
      else (lex fuel rest).map (Token.sign unit :: ·)

def attach : Token → List Token → List Token
  | .text first, .text second :: rest => .text (first ++ second) :: rest
  | token, rest => token :: rest

def joined (tokens : List Token) : List Token := tokens.foldr attach []

/-- The tokens of a text, where it has no open end. -/
def tokens (text : Text) : Option (List Token) := (lex text.length text).map joined

/-- A text that stands for itself between quotes: without one, and each backslash before a wildcard. -/
def plain : Text → Bool
  | [] => true
  | [unit] => unit ≠ quote && unit ≠ backslash
  | unit :: next :: rest =>
    if unit = backslash then (next = 37 || next = 95) && plain rest else unit ≠ quote && plain (next :: rest)

theorem prepend_some (units : Text) (found : Option (Text × Text)) (value rest : Text)
    (same : prepend units found = some (value,rest)) :
    ∃ inner, found = some (inner,rest) ∧ value = units ++ inner := by
  obtain ⟨⟨inner,left⟩,found,same⟩ := Option.map_eq_some_iff.mp same
  rw [Prod.mk.injEq] at same
  obtain ⟨rfl,rfl⟩ := same
  exact ⟨inner,found,rfl⟩

theorem escape_length (unit : UInt16) : (escape unit).length ≤ 2 ∧
    ((escape unit).length = 2 → (unit = 37 ∨ unit = 95) ∧ escape unit = [backslash,unit]) := by
  unfold escape
  split_ifs with h1 h2 h3 h4 h5 h6 wild
  all_goals first
    | exact ⟨by decide,by decide⟩
    | exact ⟨Nat.le_refl 2,fun _ => ⟨wild,rfl⟩⟩
    | exact ⟨Nat.le_succ 1,nofun⟩


/-- A literal is no longer than its source, which goes up to the closing mark. -/
theorem literal_within (escapes : Bool) (mark : UInt16) (text value rest : Text)
    (found : literal escapes mark text = some (value,rest)) :
    value.length + rest.length + 1 ≤ text.length ∧ ∃ body, text = body ++ mark :: rest := by
  induction text using literal.induct escapes mark generalizing value with
  | case1 => cases found
  | case2 =>
    rw [literal,if_pos rfl] at found
    cases found
    exact ⟨Nat.le_refl 1,[],rfl⟩
  | case3 unit other =>
    rw [literal,if_neg other] at found
    cases found
  | case4 after ih =>
    rw [literal,if_pos rfl,if_pos rfl] at found
    obtain ⟨inner,inside,rfl⟩ := prepend_some _ _ _ _ found
    obtain ⟨within,body,rfl⟩ := ih inner inside
    refine ⟨?_,mark :: mark :: body,rfl⟩
    simp only [List.length_cons,List.length_append,List.length_nil] at within ⊢
    omega
  | case5 next after other =>
    rw [literal,if_pos rfl,if_neg other] at found
    cases found
    exact ⟨by simp,[],rfl⟩
  | case6 unit next after other escaped ih =>
    rw [literal,if_neg other,if_pos escaped] at found
    obtain ⟨inner,inside,rfl⟩ := prepend_some _ _ _ _ found
    obtain ⟨within,body,rfl⟩ := ih inner inside
    have short := (escape_length next).1
    refine ⟨?_,unit :: next :: body,rfl⟩
    simp only [List.length_cons,List.length_append] at within ⊢
    omega
  | case7 unit next after other escaped ih =>
    rw [literal,if_neg other,if_neg escaped] at found
    obtain ⟨inner,inside,rfl⟩ := prepend_some _ _ _ _ found
    obtain ⟨within,body,same⟩ := ih inner inside
    refine ⟨?_,unit :: body,by rw [same]; rfl⟩
    simp only [List.length_cons,List.length_append,List.length_nil] at within ⊢
    omega

theorem literal_exact (text value rest : Text) (found : literal true quote text = some (value,rest))
    (whole : text.length ≤ value.length + rest.length + 1) :
    plain value = true ∧ text = value ++ quote :: rest := by
  induction text using literal.induct true quote generalizing value with
  | case1 => cases found
  | case2 =>
    rw [literal,if_pos rfl] at found
    cases found
    exact ⟨rfl,rfl⟩
  | case3 unit other =>
    rw [literal,if_neg other] at found
    cases found
  | case4 after ih =>
    rw [literal,if_pos rfl,if_pos rfl] at found
    obtain ⟨inner,inside,rfl⟩ := prepend_some _ _ _ _ found
    have within := (literal_within _ _ _ _ _ inside).1
    simp only [List.length_cons,List.length_append,List.length_nil] at whole
    omega
  | case5 next after other =>
    rw [literal,if_pos rfl,if_neg other] at found
    cases found
    exact ⟨rfl,rfl⟩
  | case6 unit next after other escaped ih =>
    rw [literal,if_neg other,if_pos escaped] at found
    obtain ⟨inner,inside,rfl⟩ := prepend_some _ _ _ _ found
    have within := (literal_within _ _ _ _ _ inside).1
    have short := (escape_length next).1
    simp only [List.length_cons,List.length_append] at whole
    obtain ⟨wild,same⟩ := (escape_length next).2 (by omega)
    obtain ⟨fine,rfl⟩ := ih inner inside (by omega)
    rw [same,escaped.2]
    refine ⟨?_,rfl⟩
    change ((decide (next = 37) || decide (next = 95)) && plain inner) = true
    rw [fine]
    rcases wild with rfl | rfl
    · rfl
    · rfl
  | case7 unit next after other escaped ih =>
    rw [literal,if_neg other,if_neg escaped] at found
    obtain ⟨inner,inside,rfl⟩ := prepend_some _ _ _ _ found
    simp only [List.length_cons,List.length_append,List.length_nil] at whole
    obtain ⟨fine,same⟩ := ih inner inside (by simp only [List.length_cons]; omega)
    rw [same]
    refine ⟨?_,rfl⟩
    have unescaped : unit ≠ backslash := fun same => escaped ⟨rfl,same⟩
    cases inner with
    | nil =>
      change (decide (unit ≠ quote) && decide (unit ≠ backslash)) = true
      rw [decide_eq_true other,decide_eq_true unescaped]
      rfl
    | cons first others =>
      change (if unit = backslash then _ else decide (unit ≠ quote) && plain (first :: others)) = true
      rw [if_neg unescaped,fine,decide_eq_true other]
      rfl

theorem literal_unit (unit : UInt16) (text : Text) (other : unit ≠ quote) (unescaped : unit ≠ backslash)
    (long : text ≠ []) : literal true quote (unit :: text) = prepend [unit] (literal true quote text) := by
  obtain ⟨next,text,rfl⟩ := List.exists_cons_of_ne_nil long
  rw [literal,if_neg other,if_neg fun escaped => unescaped escaped.2]

theorem literal_close (rest : Text) (ends : rest.head? ≠ some quote) :
    literal true quote (quote :: rest) = some ([],rest) := by
  cases rest with
  | nil => rfl
  | cons next rest =>
    have other : next ≠ quote := fun same => ends (congrArg some same)
    rw [literal,if_pos rfl,if_neg other]

theorem literal_plain (value rest : Text) (fine : plain value = true) (ends : rest.head? ≠ some quote) :
    literal true quote (value ++ quote :: rest) = some (value,rest) := by
  induction value using plain.induct with
  | case1 => exact literal_close rest ends
  | case2 unit =>
    rw [plain,Bool.and_eq_true,decide_eq_true_iff,decide_eq_true_iff] at fine
    change literal true quote (unit :: quote :: rest) = _
    rw [literal_unit unit _ fine.1 fine.2 (by simp),literal_close rest ends]
    rfl
  | case3 next more ih =>
    rw [plain,if_pos rfl,Bool.and_eq_true,Bool.or_eq_true,decide_eq_true_iff,decide_eq_true_iff] at fine
    have same : escape next = [backslash,next] := by
      rcases fine.1 with rfl | rfl
      · rfl
      · rfl
    change literal true quote (backslash :: next :: (more ++ quote :: rest)) = _
    rw [literal,if_neg (by decide),if_pos ⟨rfl,rfl⟩,ih fine.2,same]
    rfl
  | case4 unit next more unescaped ih =>
    rw [plain,if_neg unescaped,Bool.and_eq_true,decide_eq_true_iff] at fine
    change literal true quote (unit :: ((next :: more) ++ quote :: rest)) = _
    rw [literal_unit unit _ fine.1 unescaped (by simp),ih fine.2]
    rfl

theorem block_within (text after : Text) (found : block text = some after) : after.length ≤ text.length := by
  induction text using block.induct with
  | case1 => cases found
  | case2 => cases found
  | case3 unit next rest ends =>
    rw [block,if_pos ends] at found
    cases found
    simp only [List.length_cons]
    omega
  | case4 unit next rest more ih =>
    rw [block,if_neg more] at found
    exact (ih found).trans (Nat.le_succ _)

theorem comment_within (unit : UInt16) (rest after : Text)
    (found : comment (unit :: rest) = some (some after)) : after.length ≤ rest.length := by
  have line (other : unit ≠ 10) :
      ((unit :: rest).dropWhile fun unit => unit ≠ 10).length ≤ rest.length := by
    rw [List.dropWhile_cons_of_pos (by simpa using other)]
    exact List.length_dropWhile_le _ _
  unfold comment at found
  dsimp only at found
  split_ifs at found with hash dashes starts
  · cases found
    exact line (by rintro rfl; cases hash)
  · cases found
    refine line ?_
    rintro rfl
    cases rest <;> cases dashes.1
  · have within := block_within _ after (Option.some.inj found)
    rw [List.length_drop,List.length_cons] at within
    omega

/-- More fuel than units is never needed. -/
theorem lex_enough (fuel enough : Nat) (text : Text) (ts : List Token) (found : lex fuel text = some ts)
    (units : text.length ≤ enough) : lex enough text = some ts := by
  induction fuel generalizing enough text ts with
  | zero =>
    cases text with
    | nil => cases enough <;> exact found
    | cons unit rest => cases found
  | succ fuel ih =>
    cases text with
    | nil => cases enough <;> exact found
    | cons unit rest =>
      cases enough with
      | zero => cases units
      | succ enough =>
        have units := Nat.le_of_succ_le_succ units
        have keep (after : Text) (f : List Token → List Token) (within : after.length ≤ rest.length)
            (found : (lex fuel after).map f = some ts) : (lex enough after).map f = some ts := by
          obtain ⟨inner,inside,rfl⟩ := Option.map_eq_some_iff.mp found
          rw [ih enough after inner inside (by omega),Option.map_some]
        have quoted (escapes : Bool) (f : Text → List Token → List Token)
            (found : ((literal escapes unit rest).bind fun found => (lex fuel found.2).map (f found.1)) = some ts) :
            ((literal escapes unit rest).bind fun found => (lex enough found.2).map (f found.1)) = some ts := by
          obtain ⟨⟨value,after⟩,inside,found⟩ := Option.bind_eq_some_iff.mp found
          have within := (literal_within _ _ _ _ _ inside).1
          rw [inside,Option.bind_some]
          exact keep after (f value) (by omega) found
        rw [lex] at found ⊢
        by_cases space : isSpace unit = true
        · rw [if_pos space] at found ⊢
          exact ih enough rest ts found units
        rw [if_neg space] at found ⊢
        cases same : comment (unit :: rest) with
        | some ending =>
          rw [same] at found
          obtain ⟨after,rfl,found⟩ := Option.bind_eq_some_iff.mp found
          have within := comment_within unit rest after same
          exact ih enough after ts found (by omega)
        | none =>
          rw [same] at found
          dsimp only at found ⊢
          split_ifs at found ⊢ with text name word
          · exact quoted true (fun value => (Token.text value :: ·)) found
          · exact quoted false (fun value => (Token.word value :: ·)) found
          · exact keep _ _ (List.length_dropWhile_le _ _) found
          · exact keep _ _ (Nat.le_refl _) found

/-- The text has these tokens, before literals are joined. -/
def Lexes (text : Text) (ts : List Token) : Prop := ∃ fuel, lex fuel text = some ts

def Reads (text : Text) (ts : List Token) : Prop := ∃ found, Lexes text found ∧ joined found = ts

theorem tokens_eq_some_iff (text : Text) (ts : List Token) : tokens text = some ts ↔ Reads text ts := by
  rw [tokens,Option.map_eq_some_iff]
  constructor
  · rintro ⟨found,whole,same⟩
    exact ⟨found,⟨_,whole⟩,same⟩
  · rintro ⟨found,⟨fuel,whole⟩,same⟩
    exact ⟨found,lex_enough fuel text.length text found whole (Nat.le_refl _),same⟩

/-- A unit that is a token of its own wherever it stands. -/
def isSign (unit : UInt16) : Bool :=
  !isSpace unit && !isWord unit && unit ∉ ([34,35,39,45,47,96] : Text)

theorem isWord_isSpace (unit : UInt16) (word : isWord unit = true) : isSpace unit = false := by
  rw [← Bool.not_eq_true]
  intro space
  simp only [isWord,isSpace,Bool.or_eq_true,Bool.and_eq_true,decide_eq_true_iff,UInt16.le_iff_toNat_le,
    ← UInt16.toNat_inj,UInt16.reduceToNat] at word space
  omega

theorem comment_none (unit : UInt16) (rest : Text) (other : unit ∉ ([35,45,47] : Text)) :
    comment (unit :: rest) = none := by
  simp only [List.mem_cons,List.not_mem_nil,or_false,not_or] at other
  unfold comment
  dsimp only
  rw [if_neg (by simpa using other.1),if_neg,if_neg]
  · rintro ⟨starts,-⟩
    cases rest <;> simp_all
  · rintro ⟨starts,-⟩
    cases rest <;> simp_all

theorem lexes_cons (unit : UInt16) (rest : Text) (ts : List Token) :
    Lexes (unit :: rest) ts ↔ ∃ fuel, lex (fuel + 1) (unit :: rest) = some ts := by
  constructor
  · rintro ⟨fuel,found⟩
    cases fuel with
    | zero => cases found
    | succ fuel => exact ⟨fuel,found⟩
  · rintro ⟨fuel,found⟩
    exact ⟨fuel + 1,found⟩

theorem lexes_space (rest : Text) (ts : List Token) : Lexes (32 :: rest) ts ↔ Lexes rest ts := by
  rw [lexes_cons]
  rfl

theorem lexes_sign (unit : UInt16) (rest : Text) (ts : List Token) (sign : isSign unit = true) :
    Lexes (unit :: rest) ts ↔ ∃ later, Lexes rest later ∧ ts = Token.sign unit :: later := by
  simp only [isSign,Bool.and_eq_true,Bool.not_eq_true',decide_eq_true_iff,List.mem_cons,List.not_mem_nil,
    or_false,not_or] at sign
  obtain ⟨⟨space,word⟩,double,hash,single,dash,slash,back⟩ := sign
  have step (fuel : Nat) : lex (fuel + 1) (unit :: rest) = (lex fuel rest).map (Token.sign unit :: ·) := by
    rw [lex,if_neg (by rw [space]; nofun),comment_none unit rest (by simp [hash,dash,slash])]
    dsimp only
    rw [if_neg (not_or.mpr ⟨single,double⟩),if_neg back,if_neg (by rw [word]; nofun)]
  rw [lexes_cons]
  constructor
  · rintro ⟨fuel,found⟩
    rw [step] at found
    obtain ⟨later,inside,rfl⟩ := Option.map_eq_some_iff.mp found
    exact ⟨later,⟨fuel,inside⟩,rfl⟩
  · rintro ⟨later,⟨fuel,found⟩,rfl⟩
    exact ⟨fuel,by rw [step,found]; rfl⟩

theorem lexes_word (word : Text) (unit : UInt16) (rest : Text) (ts : List Token) (some : word ≠ [])
    (inside : ∀ unit ∈ word, isWord unit = true) (ends : isWord unit = false) :
    Lexes (word ++ unit :: rest) ts ↔ ∃ later, Lexes (unit :: rest) later ∧ ts = Token.word word :: later := by
  obtain ⟨first,word,rfl⟩ := List.exists_cons_of_ne_nil some
  have starts := inside first List.mem_cons_self
  have others : ∀ unit ∈ word, isWord unit = true := fun unit member =>
    inside unit (List.mem_cons_of_mem first member)
  have apart (other : UInt16) (sign : isWord other = false) : first ≠ other := by
    rintro rfl
    rw [starts] at sign
    cases sign
  have space := isWord_isSpace first starts
  have step (fuel : Nat) : lex (fuel + 1) (first :: word ++ unit :: rest) =
      (lex fuel (unit :: rest)).map (Token.word (first :: word) :: ·) := by
    change lex (fuel + 1) (first :: (word ++ unit :: rest)) = _
    rw [lex,if_neg (by rw [space]; nofun),
      comment_none first _ (by simp [apart 35 rfl,apart 45 rfl,apart 47 rfl])]
    dsimp only
    rw [if_neg (not_or.mpr ⟨apart 39 rfl,apart 34 rfl⟩),if_neg (apart 96 rfl),if_pos starts,
      List.dropWhile_append_of_pos others,List.takeWhile_append_of_pos others,
      List.dropWhile_cons_of_neg (by rw [ends]; nofun),List.takeWhile_cons_of_neg (by rw [ends]; nofun),
      List.append_nil]
  change Lexes (first :: (word ++ unit :: rest)) ts ↔ _
  rw [lexes_cons]
  constructor
  · rintro ⟨fuel,found⟩
    rw [← List.cons_append,step] at found
    obtain ⟨later,inside,rfl⟩ := Option.map_eq_some_iff.mp found
    exact ⟨later,⟨fuel,inside⟩,rfl⟩
  · rintro ⟨later,⟨fuel,found⟩,rfl⟩
    exact ⟨fuel,by rw [← List.cons_append,step,found]; rfl⟩

theorem lexes_text (rest : Text) (ts : List Token) : Lexes (quote :: rest) ts ↔
    ∃ value after later, literal true quote rest = some (value,after) ∧ Lexes after later ∧
      ts = Token.text value :: later := by
  have step (fuel : Nat) : lex (fuel + 1) (quote :: rest) =
      (literal true quote rest).bind fun found => (lex fuel found.2).map (Token.text found.1 :: ·) := by
    rw [lex,if_neg (by decide),comment_none quote rest (by decide)]
    rfl
  rw [lexes_cons]
  constructor
  · rintro ⟨fuel,found⟩
    rw [step] at found
    obtain ⟨⟨value,after⟩,inside,found⟩ := Option.bind_eq_some_iff.mp found
    obtain ⟨later,behind,rfl⟩ := Option.map_eq_some_iff.mp found
    exact ⟨value,after,later,inside,⟨fuel,behind⟩,rfl⟩
  · rintro ⟨value,after,later,inside,⟨fuel,found⟩,rfl⟩
    exact ⟨fuel,by rw [step,inside,Option.bind_some,found]; rfl⟩

theorem reads_nil : Reads [] [] := ⟨[],⟨0,rfl⟩,rfl⟩

theorem reads_space (rest : Text) (ts : List Token) : Reads (32 :: rest) ts ↔ Reads rest ts :=
  exists_congr fun found => and_congr_left fun _ => lexes_space rest found

theorem reads_sign (unit : UInt16) (rest : Text) (ts : List Token) (sign : isSign unit = true) :
    Reads (unit :: rest) (.sign unit :: ts) ↔ Reads rest ts := by
  constructor
  · rintro ⟨found,whole,same⟩
    obtain ⟨later,behind,rfl⟩ := (lexes_sign unit rest found sign).mp whole
    exact ⟨later,behind,(List.cons.inj same).2⟩
  · rintro ⟨later,behind,rfl⟩
    exact ⟨.sign unit :: later,(lexes_sign unit rest _ sign).mpr ⟨later,behind,rfl⟩,rfl⟩

theorem reads_word (word : Text) (unit : UInt16) (rest : Text) (ts : List Token) (some : word ≠ [])
    (inside : ∀ unit ∈ word, isWord unit = true) (ends : isWord unit = false) :
    Reads (word ++ unit :: rest) (.word word :: ts) ↔ Reads (unit :: rest) ts := by
  constructor
  · rintro ⟨found,whole,same⟩
    obtain ⟨later,behind,rfl⟩ := (lexes_word word unit rest found some inside ends).mp whole
    exact ⟨later,behind,(List.cons.inj same).2⟩
  · rintro ⟨later,behind,rfl⟩
    exact ⟨.word word :: later,(lexes_word word unit rest _ some inside ends).mpr ⟨later,behind,rfl⟩,rfl⟩

/-- How many units a token needs at least. -/
def Token.size : Token → Nat
  | .word units => units.length
  | .text value => value.length + 2
  | .sign _ => 1

def total : List Token → Nat
  | [] => 0
  | token :: ts => token.size + total ts

@[simp] theorem total_cons (token : Token) (ts : List Token) : total (token :: ts) = token.size + total ts := rfl

theorem attach_size (token : Token) (ts : List Token) : total (attach token ts) ≤ token.size + total ts := by
  cases token with
  | word text => exact Nat.le_refl _
  | sign unit => exact Nat.le_refl _
  | text first =>
    cases ts with
    | nil => exact Nat.le_refl _
    | cons token rest =>
      cases token with
      | word text => exact Nat.le_refl _
      | sign unit => exact Nat.le_refl _
      | text second =>
        simp only [attach,total_cons,Token.size,List.length_append]
        omega

theorem joined_size (ts : List Token) : total (joined ts) ≤ total ts := by
  induction ts with
  | nil => exact Nat.le_refl _
  | cons token ts ih =>
    have size := attach_size token (joined ts)
    change total (attach token (joined ts)) ≤ token.size + total ts
    omega

theorem lexes_size (text : Text) (ts : List Token) (found : Lexes text ts) : total ts ≤ text.length := by
  obtain ⟨fuel,found⟩ := found
  induction fuel generalizing text ts with
  | zero =>
    cases text with
    | nil => cases found; exact Nat.le_refl _
    | cons unit rest => cases found
  | succ fuel ih =>
    cases text with
    | nil => cases found; exact Nat.le_refl _
    | cons unit rest =>
      have keep (after : Text) (token : Token) (within : token.size + after.length ≤ rest.length + 1)
          (found : (lex fuel after).map (token :: ·) = some ts) : total ts ≤ rest.length + 1 := by
        obtain ⟨later,inside,rfl⟩ := Option.map_eq_some_iff.mp found
        have size := ih after later inside
        rw [total_cons]
        omega
      have quoted (escapes : Bool) (token : Text → Token) (size : ∀ value, (token value).size ≤ value.length + 2)
          (found : ((literal escapes unit rest).bind fun found =>
            (lex fuel found.2).map (token found.1 :: ·)) = some ts) : total ts ≤ rest.length + 1 := by
        obtain ⟨⟨value,after⟩,inside,found⟩ := Option.bind_eq_some_iff.mp found
        have within := (literal_within _ _ _ _ _ inside).1
        have size := size value
        exact keep after (token value) (by omega) found
      rw [lex] at found
      rw [List.length_cons]
      by_cases space : isSpace unit = true
      · rw [if_pos space] at found
        exact (ih rest ts found).trans (Nat.le_succ _)
      rw [if_neg space] at found
      cases same : comment (unit :: rest) with
      | some ending =>
        rw [same] at found
        obtain ⟨after,rfl,found⟩ := Option.bind_eq_some_iff.mp found
        have within := comment_within unit rest after same
        exact (ih after ts found).trans (by omega)
      | none =>
        rw [same] at found
        dsimp only at found
        split_ifs at found with text name word
        · exact quoted true Token.text (fun _ => Nat.le_refl _) found
        · exact quoted false Token.word (fun _ => Nat.le_add_right _ 2) found
        · refine keep _ _ ?_ found
          have split := congrArg List.length (List.takeWhile_append_dropWhile (p := isWord) (l := rest))
          rw [List.length_append] at split
          simp only [Token.size,List.length_cons]
          omega
        · exact keep _ _ (by simp only [Token.size]; omega) found

theorem attach_text (first value : Text) (ts last : List Token)
    (same : attach (.text first) ts = .text value :: last) :
    (first = value ∧ ts = last) ∨ ∃ second, value = first ++ second ∧ ts = .text second :: last := by
  cases ts with
  | nil =>
    cases same
    exact .inl ⟨rfl,rfl⟩
  | cons token rest =>
    cases token with
    | word text =>
      cases same
      exact .inl ⟨rfl,rfl⟩
    | sign unit =>
      cases same
      exact .inl ⟨rfl,rfl⟩
    | text second =>
      cases same
      exact .inr ⟨second,rfl,rfl⟩

/-- An argument between marks is read as itself exactly when it is plain, given that what is to follow
takes all of the rest but at most one unit. -/
theorem reads_argument (value tail : Text) (unit : UInt16) (more : List Token)
    (room : tail.length ≤ total (.sign unit :: more) + 1) (ends : tail.head? ≠ some quote) :
    Reads (quote :: (value ++ quote :: tail)) (.text value :: .sign unit :: more) ↔
      plain value = true ∧ Reads tail (.sign unit :: more) := by
  constructor
  · rintro ⟨ts,found,same⟩
    obtain ⟨first,after,later,inside,behind,rfl⟩ := (lexes_text _ _).mp found
    have size := (joined_size later).trans (lexes_size after later behind)
    obtain ⟨within,body,split⟩ := literal_within _ _ _ _ _ inside
    have lengths := congrArg List.length split
    rw [List.length_append,List.length_append,List.length_cons,List.length_cons] at lengths
    rw [List.length_append,List.length_cons] at within
    rcases attach_text first value (joined later) _ same with ⟨rfl,rest⟩ | ⟨second,rfl,rest⟩
    · rw [rest] at size
      by_cases whole : after.length = tail.length
      · obtain ⟨fine,same⟩ := literal_exact _ _ _ inside (by rw [List.length_append,List.length_cons]; omega)
        obtain ⟨-,same⟩ := List.append_inj same rfl
        cases same
        exact ⟨fine,later,behind,rest⟩
      -- One unit less would leave the mark as the first unit of the tail.
      · exfalso
        obtain ⟨next,tail,rfl⟩ := List.exists_cons_of_length_pos (l := tail) (by omega)
        rw [List.length_cons] at room lengths within whole
        have shorter : after.length = tail.length := by omega
        have split : (first ++ [quote]) ++ next :: tail = body ++ quote :: after := by
          rw [List.append_assoc]
          exact split
        have same := (List.append_inj' split (by simp [shorter])).2
        rw [List.cons.injEq] at same
        exact ends (congrArg some same.1)
    · exfalso
      rw [rest] at size
      simp only [total_cons,Token.size,List.length_append] at size room within
      omega
  · rintro ⟨fine,later,found,same⟩
    refine ⟨.text value :: later,(lexes_text _ _).mpr ⟨value,tail,later,literal_plain value tail fine ends,found,rfl⟩,?_⟩
    change attach _ (joined later) = _
    rw [same]
    rfl

end Fantuan.Lib.Sql
