import Fantuan.Gen.Trees

/-! FTGen's parser again, with no result where a write leaves the field that it is for. Only the zeros behind
the names of a parameter make a difference.
-/
namespace Fantuan.Gen.FieldWrites
open Lexer Lib.Reading FtParser
open Trees (repeatCheck_next)

def zeroInside (field : Param → List Char) (zero : Node → Option Node) (node : Node) : Option Node :=
  if (field (node.paramSet node.paramCount)).length + 1 < nameSize then zero node else none

def insideZeros : Zeros where
  paramType := zeroInside Param.paramType zeroParamType
  paramName := zeroInside Param.paramName zeroParamName
  paramSize := zeroInside Param.paramSize zeroParamSize

def parserFt (buf : List Char) : Returned FtFile := parser checkInclude (checkFilter insideZeros) buf .zero

/-- Where the first has a result the second has the same. -/
def Agrees {σ α : Type} (strict check : Check σ α) : Prop :=
  ∀ state, strict.run state ≠ .undefined → check.run state = strict.run state

section
variable {σ τ α β : Type}

theorem agrees_refl (check : Check σ α) : Agrees check check := fun _ _ => rfl

theorem agrees_bind (strict check : Check σ α) (next other : α → Check σ β) (first : Agrees strict check)
    (second : ∀ result, Agrees (next result) (other result)) : Agrees (strict >>= next) (check >>= other) := by
  intro state defined
  rw [run_bind] at defined
  have started : strict.run state ≠ .undefined := by
    intro undefined
    rw [undefined] at defined
    exact defined rfl
  rw [run_bind,run_bind,first state started]
  cases ran : strict.run state with
  | undefined => rfl
  | null state => rfl
  | value result middle =>
    rw [ran] at defined
    exact second result middle defined

theorem agrees_next (check : Check σ α) (next other : α → Check σ β)
    (second : ∀ result, Agrees (next result) (other result)) : Agrees (check >>= next) (check >>= other) :=
  agrees_bind check check next other (agrees_refl check) second

theorem agrees_within (view : σ → Option τ) (update : τ → σ → σ) (strict check : Check τ α)
    (same : Agrees strict check) : Agrees (within view update strict) (within view update check) := by
  intro state defined
  rw [run_within] at defined
  rw [run_within,run_within]
  cases found : view state with
  | none => rfl
  | some part =>
    rw [found,Option.elim_some] at defined
    have inner : strict.run part ≠ .undefined := by
      intro undefined
      rw [undefined] at defined
      exact defined rfl
    rw [Option.elim_some,Option.elim_some,same part inner]

theorem agrees_repeat (strict check : List Char → Check σ (List Char))
    (same : ∀ buffer, Agrees (strict buffer) (check buffer)) (fuel : Nat) (buffer : List Char) :
    Agrees (repeatCheck strict fuel buffer) (repeatCheck check fuel buffer) := by
  induction fuel generalizing buffer with
  | zero => exact fun _ _ => rfl
  | succ fuel ih =>
    intro state defined
    rw [repeatCheck_next] at defined
    rw [repeatCheck_next,repeatCheck_next]
    have started : (strict buffer).run state ≠ .undefined := by
      intro undefined
      rw [undefined] at defined
      exact defined rfl
    rw [same buffer state started]
    cases ran : (strict buffer).run state with
    | undefined => rfl
    | null next => rfl
    | value next middle =>
      rw [ran] at defined
      exact ih next middle defined

end

theorem zeroInside_agrees (field : Param → List Char) (zero : Node → Option Node) :
    Agrees (write (zeroInside field zero)) (write zero) := by
  intro node defined
  rw [run_write,zeroInside] at defined
  rw [run_write,run_write,zeroInside]
  split_ifs at defined ⊢ with inside
  · rfl
  · exact absurd rfl defined

theorem store_agrees (copy : Node → Option Node) (field : Param → List Char) (zero : Node → Option Node) :
    Agrees (store copy (zeroInside field zero)) (store copy zero) :=
  agrees_next _ _ _ fun _ => zeroInside_agrees field zero

theorem checkParamSize_agrees (buffer : List Char) :
    Agrees (checkParamSize insideZeros buffer) (checkParamSize zeros buffer) := by
  rw [checkParamSize,checkParamSize]
  cases checkChar '[' buffer with
  | none => exact agrees_refl _
  | some temp =>
    refine agrees_next _ _ _ ?_
    rintro ⟨name,temp⟩
    exact agrees_next _ _ _ fun temp => agrees_bind _ _ _ _ (store_agrees _ _ _) fun _ => agrees_refl _

theorem checkParamList_agrees (buffer : List Char) :
    Agrees (checkParamList insideZeros buffer) (checkParamList zeros buffer) := by
  rw [checkParamList,checkParamList]
  refine agrees_next _ _ _ ?_
  rintro ⟨type,buffer⟩
  refine agrees_bind _ _ _ _ (store_agrees _ _ _) fun _ => agrees_next _ _ _ ?_
  rintro ⟨name,buffer⟩
  refine agrees_bind _ _ _ _ (store_agrees _ _ _) fun _ => ?_
  exact agrees_bind _ _ _ _ (checkParamSize_agrees _) fun _ => agrees_refl _

theorem paramLoop_agrees (fuel : Nat) (buffer : List Char) :
    Agrees (paramLoop insideZeros fuel buffer) (paramLoop zeros fuel buffer) := by
  induction fuel generalizing buffer with
  | zero => exact agrees_refl _
  | succ fuel ih =>
    rw [paramLoop,paramLoop]
    cases checkChar ')' buffer with
    | some _ => exact agrees_refl _
    | none =>
      refine agrees_next _ _ _ fun count => agrees_next _ _ _ fun buffer => ?_
      exact agrees_bind _ _ _ _ (checkParamList_agrees buffer) ih

theorem checkFunction_agrees (buffer : List Char) :
    Agrees (checkFunction insideZeros buffer) (checkFunction zeros buffer) := by
  rw [checkFunction,checkFunction]
  refine agrees_next _ _ _ ?_
  rintro ⟨name,buffer⟩
  refine agrees_bind _ _ _ _ (agrees_within _ _ _ _ ?_) fun _ => agrees_refl _
  refine agrees_next _ _ _ fun _ => agrees_next _ _ _ fun buffer => ?_
  exact agrees_bind _ _ _ _ (paramLoop_agrees _ buffer) fun _ => agrees_refl _

theorem checkFilter_agrees (buffer : List Char) :
    Agrees (checkFilter insideZeros buffer) (checkFilter zeros buffer) := by
  rw [checkFilter,checkFilter]
  refine agrees_next _ _ _ fun buffer => agrees_next _ _ _ fun buffer => agrees_next _ _ _ ?_
  rintro ⟨name,buffer⟩
  refine agrees_bind _ _ _ _ (agrees_within _ _ _ _ ?_) fun _ => agrees_refl _
  refine agrees_next _ _ _ fun _ => agrees_next _ _ _ fun buffer => agrees_next _ _ _ ?_
  rintro ⟨name,buffer⟩
  refine agrees_next _ _ _ fun _ => agrees_next _ _ _ fun buffer => agrees_next _ _ _ fun buffer => ?_
  exact agrees_bind _ _ _ _ (agrees_repeat _ _ checkFunction_agrees _ buffer) fun _ => agrees_refl _

theorem parserLoop_agrees (fuel : Nat) (buffer : List Char) (file : FtFile)
    (defined : parserLoop checkInclude (checkFilter insideZeros) fuel buffer file ≠ .undefined) :
    parserLoop checkInclude (checkFilter zeros) fuel buffer file =
      parserLoop checkInclude (checkFilter insideZeros) fuel buffer file := by
  induction fuel generalizing buffer file with
  | zero => rw [parserLoop,parserLoop]
  | succ fuel ih =>
    rw [parserLoop] at defined
    rw [parserLoop,parserLoop]
    cases included : (checkInclude buffer).run file with
    | undefined => rfl
    | value next file =>
      rw [included] at defined
      exact ih next file defined
    | null file =>
      rw [included] at defined
      dsimp only at defined ⊢
      have started : (checkFilter insideZeros buffer).run file ≠ .undefined := by
        intro undefined
        rw [undefined] at defined
        exact defined rfl
      rw [checkFilter_agrees buffer file started]
      cases ran : (checkFilter insideZeros buffer).run file with
      | undefined => rfl
      | null file => rfl
      | value next file =>
        rw [ran] at defined
        exact ih next file defined

/-- As long as no write leaves its field, this is what ParserFt does. -/
theorem parserFt_agrees (buf : List Char) (defined : parserFt buf ≠ .undefined) :
    FtParser.parserFt buf = parserFt buf := parserLoop_agrees _ _ _ defined

end Fantuan.Gen.FieldWrites
