import Fantuan.Gen.FtTrees
import Fantuan.Gen.FtdTrees

/-! Which inputs the parsers accept. Their loops break off at whatever they cannot read, and
what they return does not tell that from the end of the input.
-/
namespace Fantuan.Gen.Accepting
open Lexer Lib.Reading FtParser FtdParser Trees

/-- The whole input is a sequence of includes and declarations. -/
def Consists {Declaration : Type} (tokens : Declaration → List Token) (buf : List Char) : Prop :=
  ∃ items : List (Item Declaration), Spells (items.flatMap (itemTokens tokens)) (terminated buf)

/-- The parser returns whether the input is one of these. -/
def Decides {σ : Type} (accepted : Prop) (outcome : Returned σ) : Prop :=
  (accepted → ∃ file, outcome = .returned true file) ∧
    (¬ accepted → ∃ file, outcome = .returned false file)

/-- Such a sequence, and what is read of it fits into the tables. -/
def ConsistsStored {σ Declaration : Type} (tokens : Declaration → List Token)
    (store : List (Item Declaration) → Check σ Unit) (zero : σ) (buf : List Char) : Prop :=
  ∃ items : List (Item Declaration),
    Spells (items.flatMap (itemTokens tokens)) (terminated buf) ∧
      (store items).run zero ≠ .undefined

theorem parserLoop_true {σ : Type} (checkInclude check : List Char → Check σ (List Char))
    (fuel : Nat) (buffer : List Char) (state file : σ) (result : Bool)
    (ended : parserLoop checkInclude check fuel buffer state = .returned result file) :
    result = true := by
  induction fuel generalizing buffer state with
  | zero => cases ended
  | succ fuel ih =>
    rw [parserLoop] at ended
    split at ended
    · cases ended
    · exact ih _ _ ended
    · split at ended
      · cases ended
      · exact ih _ _ ended
      · cases ended
        rfl

/-- A parser that returns true wherever it returns decides its grammar only where the answer
is true. -/
theorem decides_stored {σ Declaration : Type} (tokens : Declaration → List Token)
    (store : List (Item Declaration) → Check σ Unit) (zero : σ) (buf : List Char)
    (outcome : Returned σ) (positive : ∀ result file, outcome = .returned result file →
      result = true)
    (spelled : ∀ items : List (Item Declaration),
      Spells (items.flatMap (itemTokens tokens)) (terminated buf) →
        outcome = stored ((store items).run zero)) :
    Decides (Consists tokens buf) outcome ↔ ConsistsStored tokens store zero buf := by
  constructor
  · rintro ⟨accepts,rejects⟩
    have consists : Consists tokens buf := by
      by_contra other
      obtain ⟨file,returned⟩ := rejects other
      exact Bool.false_ne_true (positive false file returned)
    obtain ⟨items,spells⟩ := consists
    refine ⟨items,spells,fun undefined => ?_⟩
    obtain ⟨file,returned⟩ := accepts ⟨items,spells⟩
    rw [spelled items spells,undefined] at returned
    cases returned
  · rintro ⟨items,spells,fits⟩
    refine ⟨fun _ => ?_,fun other => absurd ⟨items,spells⟩ other⟩
    rw [spelled items spells]
    cases ran : (store items).run zero with
    | undefined => exact absurd ran fits
    | null file => exact ⟨file,rfl⟩
    | value _ file => exact ⟨file,rfl⟩

/-- ParserFt, ParserPr and ParserFtd. -/
theorem parsers_decide (buf : List Char) :
    (Decides (Consists FtTrees.declarationTokens buf) (parserFt buf) ↔
      ConsistsStored FtTrees.declarationTokens FtTrees.storeItems .zero buf) ∧
    (Decides (Consists FtTrees.declarationTokens buf) (parserPr buf) ↔
      ConsistsStored FtTrees.declarationTokens FtTrees.storeItems .zero buf) ∧
    (Decides (Consists FtdTrees.structTokens buf) (parserFtd buf) ↔
      ConsistsStored FtdTrees.structTokens FtdTrees.storeItems .zero buf) :=
  ⟨decides_stored _ _ _ buf _ (fun result file => parserLoop_true _ _ _ _ _ file result)
      fun items => FtTrees.parserFt_stored items buf,
    decides_stored _ _ _ buf _ (fun result file => parserLoop_true _ _ _ _ _ file result)
      fun items => FtTrees.parserFt_stored items buf,
    decides_stored _ _ _ buf _ (fun result file => parserLoop_true _ _ _ _ _ file result)
      fun items => FtdTrees.parserFtd_stored items buf⟩

/-- A declaration that ends after its first word. -/
theorem brokenOff_accepted :
    (∃ file, parserFt "filter".toList = .returned true file) ∧
      ¬ Decides (Consists FtTrees.declarationTokens "filter".toList)
          (parserFt "filter".toList) := by
  have accepted : ∃ file, parserFt "filter".toList = .returned true file := ⟨_,rfl⟩
  refine ⟨accepted,fun decides => ?_⟩
  obtain ⟨file,returned⟩ := accepted
  have other : ¬ Consists FtTrees.declarationTokens "filter".toList := by
    rintro ⟨items,spells⟩
    have here : escapeSpace (terminated "filter".toList) = "filter".toList := by decide
    cases items with
    | nil =>
      rcases escapeSpace_spells _ _ spells with ⟨_,empty⟩ | ⟨_,_,_,none,_⟩
      · rw [here] at empty
        exact absurd empty (by decide)
      · cases none
    | cons item items =>
      cases item with
      | includeFile name =>
        obtain ⟨rest,front,_⟩ := spells_head _ _ _ spells
        rw [here] at front
        exact absurd (List.cons.inj front).1 (by decide)
      | declaration declaration =>
        obtain ⟨rest,front,_,_,later⟩ := spells_head _ _ _ spells
        rw [here] at front
        obtain rfl : rest = [] := by
          have lengths := congrArg List.length front
          rw [List.length_append] at lengths
          exact List.length_eq_zero_iff.mp (Nat.add_left_cancel (Eq.symm lengths))
        have long := spells_length _ _ later
        exact absurd long (by simp)
  obtain ⟨rejected,same⟩ := decides.2 other
  rw [returned] at same
  cases same

end Fantuan.Gen.Accepting
