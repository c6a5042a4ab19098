import Fantuan.Gen.FtParser

/-! Declaration trees and what the parsers write of them, as far as the three have it in
common. On a spelling of a tree a parser does what storing the tree does, in the same order:
it gives up at the first name that is too long to read, with what is stored before that.
-/
namespace Fantuan.Gen.Trees
open Lexer Lib.Reading FtParser

inductive Item (Declaration : Type) where
  | includeFile (name : List Char)
  | declaration (declaration : Declaration)
  deriving DecidableEq

def paramTokens (param : Param) : List Token :=
  .name param.paramType :: .name param.paramName ::
    if param.paramSize = [] then [] else [.sign '[',.name param.paramSize,.sign ']']

def includeTokens (name : List Char) : List Token :=
  [.sign '#',.name "include".toList,.text name]

def itemTokens {Declaration : Type} (tokens : Declaration → List Token) :
    Item Declaration → List Token
  | .includeFile name => includeTokens name
  | .declaration declaration => tokens declaration

def readable (name : List Char) : Option Unit :=
  if name.length + 1 > strSize then none else some ()

def storeParamSize (name : List Char) : Check Node Unit :=
  if name = [] then write clearParamSize
  else do
    orNull (readable name)
    write (strcpyParamSize name)
    write zeroParamSize

def storeAll {σ α : Type} (store : α → Check σ Unit) : List α → Check σ Unit
  | [] => pure ()
  | first :: rest => do
    store first
    storeAll store rest

-- the closing quote counts
def storeInclude {σ : Type} (view : σ → Includes) (update : Includes → σ → σ)
    (name : List Char) : Check σ Unit := do
  orNull (if name.length + 2 > strSize then none else some ())
  within (fun state => some (view state)) update (write (strcpyInclude name))

def storeItem {σ Declaration : Type} (view : σ → Includes) (update : Includes → σ → σ)
    (store : Declaration → Check σ Unit) : Item Declaration → Check σ Unit
  | .includeFile name => storeInclude view update name
  | .declaration declaration => store declaration

/-- What a parser returns after these are stored, or as many of them as could be read. -/
def stored {σ : Type} : Result σ Unit → Returned σ
  | .undefined => .undefined
  | .null file => .returned true file
  | .value _ file => .returned true file

section Checks
variable {σ τ α : Type}

theorem pure_orNull (result : α) : (orNull (some result) : Check σ α) = pure result := rfl

theorem orNull_name (name rest : List Char) (next : List Char × List Char → Check σ α) :
    (orNull (if name.length + 1 > strSize then none else some (name,rest)) >>= next) =
      (orNull (readable name) >>= fun _ => next (name,rest)) := by
  rw [readable]
  by_cases long : name.length + 1 > strSize
  · rw [if_pos long,if_pos long]
    rfl
  · rw [if_neg long,if_neg long]
    rfl

theorem value_last (check : Check σ α) (last : α → Check σ Unit) (state next : σ)
    (ran : (check >>= last).run state = .value () next) :
    ∃ result middle, check.run state = .value result middle ∧
      (last result).run middle = .value () next := by
  rw [run_bind] at ran
  cases first : check.run state with
  | undefined => rw [first] at ran; cases ran
  | null state => rw [first] at ran; cases ran
  | value result middle =>
    rw [first] at ran
    exact ⟨result,middle,rfl,ran⟩

theorem within_congr (view : σ → Option τ) (update : τ → σ → σ) (first second : Check τ α)
    (state : σ) (same : ∀ part, view state = some part → first.run part = second.run part) :
    (within view update first).run state = (within view update second).run state := by
  rw [run_within,run_within]
  cases found : view state with
  | none => rfl
  | some part => rw [Option.elim_some,Option.elim_some,same part found]

theorem within_then (view : σ → Option τ) (update : τ → σ → σ) (check : Check τ (List Char))
    (store : Check τ Unit) (last : List Char) (count : σ → σ) (state : σ)
    (same : ∀ part, view state = some part →
      check.run part = (store >>= fun _ => pure last).run part) :
    (do
      let buffer ← within view update check
      alter count
      pure buffer).run state =
    (do
      within view update store
      alter count
      pure last).run state := by
  rw [run_bind,run_bind,within_congr view update _ _ state same,within_bind_pure,run_bind]
  cases (within view update store).run state <;> rfl

theorem within_value (view : σ → Option τ) (update : τ → σ → σ) (check : Check τ Unit)
    (state next : σ) (ran : (within view update check).run state = .value () next) :
    ∃ before after, view state = some before ∧ check.run before = .value () after ∧
      next = update after state := by
  rw [run_within] at ran
  cases current : view state with
  | none =>
    rw [current] at ran
    cases ran
  | some part =>
    rw [current,Option.elim_some] at ran
    cases inner : check.run part with
    | undefined => rw [inner] at ran; cases ran
    | null part => rw [inner] at ran; cases ran
    | value _ after =>
      rw [inner] at ran
      exact ⟨part,after,rfl,inner,(Result.value.inj ran).2.symm⟩

theorem counted_next (view : σ → Option τ) (update : τ → σ → σ) (check : Check τ Unit)
    (count : σ → σ) (first : Option Unit) (state next : σ)
    (ran : (do
      orNull first
      within view update check
      alter count).run state = .value () next) : ∃ part, next = count (update part state) := by
  cases first with
  | none => cases ran
  | some _ =>
    rw [pure_orNull,pure_bind] at ran
    obtain ⟨_,middle,before,last⟩ := value_last _ _ state next ran
    rw [run_alter] at last
    obtain rfl := (Result.value.inj last).2
    obtain ⟨_,part,_,_,rfl⟩ := within_value view update check state middle before
    exact ⟨part,rfl⟩

end Checks

theorem paramSize_checked (size : List Char) (more : List Token) (buffer : List Char)
    (spells : Spells ((if size = [] then [] else [.sign '[',.name size,.sign ']']) ++ more) buffer)
    (apart : more.head? ≠ some (.sign '[')) :
    ∃ rest, Spells more rest ∧
      checkParamSize zeros buffer = (storeParamSize size >>= fun _ => pure rest) := by
  by_cases single : size = []
  · rw [if_pos single] at spells
    refine ⟨buffer,spells,?_⟩
    rw [checkParamSize,checkChar_other '[' (by decide) more buffer spells apart,storeParamSize,
      if_pos single]
  · rw [if_neg single] at spells
    obtain ⟨one,opened,later⟩ := checkChar_sign '[' _ buffer spells
    obtain ⟨two,later,sized⟩ := checkIdentifier_name strSize size _ one later
    obtain ⟨three,closed,later⟩ := checkChar_sign ']' _ two later
    refine ⟨three,later,?_⟩
    rw [checkParamSize,opened,storeParamSize,if_neg single]
    simp only [sized,orNull_name,closed,pure_orNull,store,bind_assoc,pure_bind,zeros]

/-- A loop that reads what it can and then wants a brace: where it breaks off in the middle of
something, there is no brace. -/
theorem repeatCheck_next {σ : Type} (check : List Char → Check σ (List Char)) (fuel : Nat)
    (buffer : List Char) (state : σ) :
    (repeatCheck check (fuel + 1) buffer).run state = match (check buffer).run state with
      | .undefined => .undefined
      | .null state => .value buffer state
      | .value next state => (repeatCheck check fuel next).run state := rfl

theorem repeat_checked {σ α : Type} (check : List Char → Check σ (List Char))
    (store : α → Check σ Unit) (tokens : α → List Token) (fresh : σ → Prop)
    (checked : ∀ item more buffer, Spells (tokens item ++ more) buffer →
      ∃ rest, Spells more rest ∧ ∀ state, fresh state →
        (check buffer).run state = (store item >>= fun _ => pure rest).run state)
    (kept : ∀ item state next, fresh state → (store item).run state = .value () next → fresh next)
    (named : ∀ item, ∃ name rest, tokens item = .name name :: rest)
    (stops : ∀ more buffer, Spells (.sign '}' :: more) buffer → check buffer = orNull none)
    (items : List α) (more : List Token) (fuel : Nat) (enough : items.length < fuel)
    (buffer : List Char) (spells : Spells (items.flatMap tokens ++ .sign '}' :: more) buffer) :
    ∃ rest, Spells more rest ∧ ∀ state, fresh state →
      (do
        let buffer ← repeatCheck check fuel buffer
        orNull (checkChar '}' buffer)).run state =
      (storeAll store items >>= fun _ => pure rest).run state := by
  induction items generalizing fuel buffer with
  | nil =>
    obtain ⟨fuel,rfl⟩ := Nat.exists_eq_succ_of_ne_zero (Nat.ne_of_gt enough)
    obtain ⟨rest,closed,later⟩ := checkChar_sign '}' more buffer spells
    refine ⟨rest,later,fun state _ => ?_⟩
    have breaks : (repeatCheck check (fuel + 1) buffer).run state = .value buffer state := by
      rw [repeatCheck,stops more buffer spells]
      rfl
    rw [run_bind,breaks,value_andThen,closed]
    rfl
  | cons item items ih =>
    obtain ⟨fuel,rfl⟩ := Nat.exists_eq_succ_of_ne_zero (Nat.ne_of_gt (Nat.zero_lt_of_lt enough))
    rw [List.flatMap_cons,List.append_assoc] at spells
    have noBrace : checkChar '}' buffer = none := by
      refine checkChar_other '}' (by decide) _ buffer spells ?_
      obtain ⟨name,front,begins⟩ := named item
      simp [begins]
    obtain ⟨middle,later,first⟩ := checked item _ buffer spells
    obtain ⟨rest,ends,following⟩ := ih fuel (Nat.lt_of_succ_lt_succ enough) middle later
    refine ⟨rest,ends,fun state begun => ?_⟩
    rw [run_bind,repeatCheck_next,first state begun]
    simp only [run_bind,storeAll,bind_assoc]
    cases ran : (store item).run state with
    | undefined => rfl
    | null state => simp [noBrace]
    | value _ next =>
      have continued := following next (kept item state next begun ran)
      simpa only [value_andThen,run_bind,run_pure] using continued

theorem flatMap_length {α : Type} (tokens : α → List Token) (some : ∀ item, tokens item ≠ [])
    (items : List α) : items.length ≤ (items.flatMap tokens).length := by
  induction items with
  | nil => exact Nat.zero_le _
  | cons item items ih =>
    have one := List.length_pos_iff.mpr (some item)
    rw [List.flatMap_cons,List.length_append,List.length_cons]
    omega

section Files
variable {σ Declaration : Type} (view : σ → Includes) (update : Includes → σ → σ)

theorem include_checked (name : List Char) (more : List Token) (buffer : List Char)
    (spells : Spells (includeTokens name ++ more) buffer) :
    ∃ rest, Spells more rest ∧
      checkIncludeIn view update buffer =
        (storeInclude view update name >>= fun _ => pure rest) := by
  obtain ⟨one,sign,later⟩ := checkChar_sign '#' _ buffer spells
  obtain ⟨two,later,keyword⟩ := checkKeyword_name "include".toList _ (by decide) _ one later
  rw [if_pos rfl] at keyword
  obtain ⟨three,later,content⟩ := checkString_text strSize name _ two later
  refine ⟨three,later,?_⟩
  rw [checkIncludeIn,readInclude,sign,Option.bind_eq_bind,Option.bind_some,keyword,
    Option.bind_some,content,storeInclude]
  by_cases long : name.length + 2 > strSize
  · rw [if_pos long,if_pos long]
    rfl
  · rw [if_neg long,if_neg long]
    rfl

theorem include_other (tokens : List Token) (buffer : List Char) (spells : Spells tokens buffer)
    (other : tokens.head? ≠ some (.sign '#')) :
    checkIncludeIn view update buffer = orNull none := by
  rw [checkIncludeIn,readInclude,checkChar_other '#' (by decide) tokens buffer spells other]
  rfl

theorem storeInclude_next (name : List Char) (state next : σ)
    (ran : (storeInclude view update name).run state = .value () next) :
    ∃ includes, next = update includes state := by
  rw [storeInclude] at ran
  split at ran
  · cases ran
  · rw [pure_orNull,pure_bind] at ran
    obtain ⟨_,after,_,_,rfl⟩ := within_value _ _ _ state next ran
    exact ⟨after,rfl⟩

/-- The top loop on the spelling of a list of items. -/
theorem items_checked (check : List Char → Check σ (List Char))
    (store : Declaration → Check σ Unit) (tokens : Declaration → List Token) (fresh : σ → Prop)
    (checked : ∀ declaration more buffer, Spells (tokens declaration ++ more) buffer →
      ∃ rest, Spells more rest ∧ ∀ state, fresh state →
        (check buffer).run state = (store declaration >>= fun _ => pure rest).run state)
    (kept : ∀ declaration state next, fresh state →
      (store declaration).run state = .value () next → fresh next)
    (keptInclude : ∀ includes state, fresh state → fresh (update includes state))
    (named : ∀ declaration, ∃ name rest, tokens declaration = .name name :: rest)
    (stops : ∀ tokens buffer, Spells tokens buffer → (∀ value, tokens.head? ≠ some (.name value)) →
      check buffer = orNull none)
    (items : List (Item Declaration)) (fuel : Nat) (enough : items.length < fuel)
    (buffer : List Char) (spells : Spells (items.flatMap (itemTokens tokens)) buffer) (state : σ)
    (begun : fresh state) :
    parserLoop (checkIncludeIn view update) check fuel buffer state =
      stored ((storeAll (storeItem view update store) items).run state) := by
  induction items generalizing fuel buffer state with
  | nil =>
    obtain ⟨fuel,rfl⟩ := Nat.exists_eq_succ_of_ne_zero (Nat.ne_of_gt enough)
    rw [parserLoop,include_other view update [] buffer spells (by simp),
      stops [] buffer spells (by simp)]
    rfl
  | cons item items ih =>
    obtain ⟨fuel,rfl⟩ := Nat.exists_eq_succ_of_ne_zero (Nat.ne_of_gt (Nat.zero_lt_of_lt enough))
    have less := Nat.lt_of_succ_lt_succ enough
    rw [List.flatMap_cons] at spells
    rw [storeAll,run_bind,parserLoop]
    cases item with
    | includeFile name =>
      obtain ⟨rest,later,found⟩ := include_checked view update name _ buffer spells
      rw [found,run_bind]
      change _ = stored (((storeInclude view update name).run state).andThen _)
      cases ran : (storeInclude view update name).run state with
      | undefined => rfl
      | null next =>
        simp only [null_andThen]
        rw [stops _ buffer spells (by simp [itemTokens,includeTokens])]
        rfl
      | value _ next =>
        obtain ⟨includes,rfl⟩ := storeInclude_next view update name state next ran
        simp only [value_andThen,run_pure]
        exact ih fuel less rest later _ (keptInclude includes state begun)
    | declaration declaration =>
      obtain ⟨name,front,begins⟩ := named declaration
      rw [include_other view update _ buffer spells (by simp [itemTokens,begins])]
      obtain ⟨rest,later,found⟩ := checked declaration _ buffer spells
      simp only [run_orNull_none,found state begun,run_bind]
      change _ = stored (((store declaration).run state).andThen _)
      cases ran : (store declaration).run state with
      | undefined => rfl
      | null next => rfl
      | value _ next =>
        simp only [value_andThen,run_pure]
        exact ih fuel less rest later next (kept declaration state next begun ran)

end Files

/-- Nothing changes if the space in front is skipped. -/
theorem spells_escaped (tokens : List Token) (buffer : List Char)
    (spells : Spells tokens buffer) : Spells tokens (escapeSpace buffer) := by
  rcases escapeSpace_spells tokens buffer spells with ⟨rfl,here⟩ |
      ⟨token,more,rest,rfl,here,valid,ends,later⟩
  · rw [here]
    exact .done [] .none
  · rw [here]
    exact .token [] rest token more .none valid ends later

end Fantuan.Gen.Trees
