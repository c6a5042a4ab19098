import Mathlib.Algebra.Group.Nat.Defs
import Mathlib.Data.List.Basic
import Mathlib.Logic.Function.Basic

/-! A singly linked list whose links are kept in its entries, with its head and a depth of 16 bits.
Pushing writes the link of the entry, whether or not the entry is on the list already.
-/
namespace Fantuan.Lib.Links

variable {Entry : Type} [DecidableEq Entry]

structure SList (Entry : Type) where
  head : Option Entry
  next : Entry → Option Entry
  depth : Nat

def SList.empty : SList Entry := ⟨none,fun _ => none,0⟩

def SList.push (entry : Entry) (list : SList Entry) : SList Entry :=
  ⟨some entry,Function.update list.next entry list.head,(list.depth + 1) % 2^16⟩

def SList.pop (list : SList Entry) : Option Entry × SList Entry :=
  match list.head with
  | none => (none,list)
  | some entry => (some entry,⟨list.next entry,list.next,(list.depth + (2^16 - 1)) % 2^16⟩)

/-- The entries met by following the links from a first one to the end. -/
def Chain (next : Entry → Option Entry) (start : Option Entry) : List Entry → Prop
  | [] => start = none
  | first :: rest => start = some first ∧ Chain next (next first) rest

structure SList.Holds (list : SList Entry) (entries : List Entry) : Prop where
  chain : Chain list.next list.head entries
  counted : list.depth = entries.length % 2^16

omit [DecidableEq Entry] in
theorem empty_holds : (SList.empty : SList Entry).Holds [] := ⟨rfl,rfl⟩

omit [DecidableEq Entry] in
theorem chain_unique (next : Entry → Option Entry) (start : Option Entry) (left right : List Entry)
    (first : Chain next start left) (second : Chain next start right) : left = right := by
  induction left generalizing start right with
  | nil =>
    cases right with
    | nil => rfl
    | cons other others => exact absurd (first.symm.trans second.1) (Option.some_ne_none other).symm
  | cons entry rest ih =>
    cases right with
    | nil => exact absurd (second.symm.trans first.1) (Option.some_ne_none entry).symm
    | cons other others =>
      obtain rfl : entry = other := Option.some.inj (first.1.symm.trans second.1)
      rw [ih _ others first.2 second.2]

omit [DecidableEq Entry] in
theorem holds_unique (list : SList Entry) (left right : List Entry) (first : list.Holds left)
    (second : list.Holds right) : left = right :=
  chain_unique _ _ left right first.chain second.chain

theorem chain_update (next : Entry → Option Entry) (start : Option Entry) (entries : List Entry)
    (entry : Entry) (link : Option Entry) (absent : entry ∉ entries) (chain : Chain next start entries) :
    Chain (Function.update next entry link) start entries := by
  induction entries generalizing start with
  | nil => exact chain
  | cons first rest ih =>
    obtain ⟨other,outside⟩ := not_or.mp (mt List.mem_cons.mpr absent)
    refine ⟨chain.1,?_⟩
    rw [Function.update_of_ne (Ne.symm other)]
    exact ih _ outside chain.2

theorem push_holds (entry : Entry) (list : SList Entry) (entries : List Entry)
    (absent : entry ∉ entries) (holds : list.Holds entries) :
    (list.push entry).Holds (entry :: entries) := by
  refine ⟨⟨rfl,?_⟩,?_⟩
  · have link : (list.push entry).next entry = list.head := Function.update_self ..
    rw [link]
    exact chain_update _ _ entries entry _ absent holds.chain
  · rw [SList.push,holds.counted,List.length_cons,Nat.mod_add_mod]

omit [DecidableEq Entry] in
theorem pop_nil (list : SList Entry) (holds : list.Holds []) : list.pop = (none,list) := by
  have none : list.head = none := holds.chain
  rw [SList.pop,none]

omit [DecidableEq Entry] in
theorem pop_cons (list : SList Entry) (entry : Entry) (rest : List Entry)
    (holds : list.Holds (entry :: rest)) :
    ∃ popped, list.pop = (some entry,popped) ∧ popped.Holds rest := by
  obtain ⟨first,tail⟩ := holds.chain
  refine ⟨_,by rw [SList.pop,first],tail,?_⟩
  change (list.depth + (2^16 - 1)) % 2^16 = _
  rw [holds.counted,List.length_cons]
  omega

omit [DecidableEq Entry] in
/-- An entry that links to itself leads to no end. -/
theorem chain_loop (next : Entry → Option Entry) (entry : Entry) (loop : next entry = some entry)
    (entries : List Entry) : ¬ Chain next (some entry) entries := by
  induction entries with
  | nil => exact Option.some_ne_none entry
  | cons first rest ih =>
    intro ⟨same,tail⟩
    obtain rfl : entry = first := Option.some.inj same
    rw [loop] at tail
    exact ih tail

theorem push_twice (entry : Entry) (list : SList Entry) (entries : List Entry) :
    ¬ ((list.push entry).push entry).Holds entries :=
  fun holds => chain_loop _ entry (Function.update_self ..) entries holds.chain

end Fantuan.Lib.Links
