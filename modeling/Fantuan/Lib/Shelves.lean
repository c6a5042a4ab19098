import Mathlib.Data.List.Nodup
import Mathlib.Data.List.Basic
import Mathlib.Logic.Function.Basic

/-! Nodes that have a class for ever and are held or free. The free ones of a class lie on its shelf,
from which a taker is served before a new node is made. A node is its number.
-/
namespace Fantuan.Lib.Shelves

variable {Class : Type} [DecidableEq Class]

structure Stock (Class : Type) where
  classes : List Class
  free : Class → List Nat
  held : List Nat

def Stock.take (kind : Class) (s : Stock Class) : Nat × Stock Class :=
  match s.free kind with
  | [] => (s.classes.length,⟨s.classes ++ [kind],s.free,s.classes.length :: s.held⟩)
  | node :: rest => (node,⟨s.classes,Function.update s.free kind rest,node :: s.held⟩)

def Stock.give (kind : Class) (node : Nat) (s : Stock Class) : Stock Class :=
  ⟨s.classes,Function.update s.free kind (node :: s.free kind),s.held.erase node⟩

structure Stock.Sound (s : Stock Class) : Prop where
  held : s.held.Nodup
  free : ∀ kind, (s.free kind).Nodup
  own : ∀ kind, ∀ node ∈ s.free kind, s.classes[node]? = some kind ∧ node ∉ s.held
  known : ∀ node ∈ s.held, node < s.classes.length

omit [DecidableEq Class] in
theorem empty_sound : (⟨[],fun _ => [],[]⟩ : Stock Class).Sound :=
  ⟨.nil,fun _ => .nil,fun _ _ member => absurd member List.not_mem_nil,
    fun _ member => absurd member List.not_mem_nil⟩

/-- A taker gets a node of its class that nobody holds; the class of no node changes. -/
theorem take_class (kind : Class) (s : Stock Class) (sound : s.Sound) :
    (s.take kind).1 ∉ s.held ∧ (s.take kind).2.classes[(s.take kind).1]? = some kind ∧
      s.classes <+: (s.take kind).2.classes ∧ (s.take kind).2.held = (s.take kind).1 :: s.held := by
  rw [Stock.take]
  cases shelf : s.free kind with
  | nil =>
    refine ⟨?_,List.getElem?_concat_length,List.prefix_append _ _,rfl⟩
    intro member
    exact absurd (sound.known _ member) (Nat.lt_irrefl _)
  | cons node rest =>
    have own := sound.own kind node (by rw [shelf]; exact List.mem_cons_self)
    exact ⟨own.2,own.1,List.prefix_rfl,rfl⟩

theorem take_sound (kind : Class) (s : Stock Class) (sound : s.Sound) : (s.take kind).2.Sound := by
  have fresh := (take_class kind s sound).1
  rw [Stock.take] at fresh ⊢
  cases shelf : s.free kind with
  | nil =>
    rw [shelf] at fresh
    refine ⟨List.nodup_cons.mpr ⟨fresh,sound.held⟩,sound.free,?_,?_⟩
    · intro other node member
      obtain ⟨own,absent⟩ := sound.own other node member
      have below : node < s.classes.length := (List.getElem?_eq_some_iff.mp own).1
      refine ⟨(List.getElem?_append_left below).trans own,?_⟩
      intro taken
      obtain same | before := List.mem_cons.mp taken
      · exact Nat.ne_of_lt below same
      · exact absent before
    · intro node member
      rw [List.length_append,List.length_singleton]
      obtain rfl | before := List.mem_cons.mp member
      · exact Nat.lt_succ_self _
      · exact Nat.lt_succ_of_lt (sound.known node before)
  | cons first rest =>
    rw [shelf] at fresh
    have split := sound.free kind
    rw [shelf,List.nodup_cons] at split
    have here := sound.own kind first (by rw [shelf]; exact List.mem_cons_self)
    refine ⟨List.nodup_cons.mpr ⟨fresh,sound.held⟩,?_,?_,?_⟩
    · intro other
      change (Function.update s.free kind rest other).Nodup
      by_cases same : other = kind
      · rw [same,Function.update_self]
        exact split.2
      · rw [Function.update_of_ne same]
        exact sound.free other
    · intro other node member
      change node ∈ Function.update s.free kind rest other at member
      have apart : node ≠ first ∧ node ∈ s.free other := by
        by_cases same : other = kind
        · rw [same,Function.update_self] at member
          rw [same,shelf]
          exact ⟨fun again => split.1 (again ▸ member),List.mem_cons_of_mem _ member⟩
        · rw [Function.update_of_ne same] at member
          refine ⟨?_,member⟩
          intro again
          have there := (sound.own other node member).1
          rw [again,here.1] at there
          exact same (Option.some.inj there).symm
      obtain ⟨own,absent⟩ := sound.own other node apart.2
      refine ⟨own,?_⟩
      intro taken
      obtain again | before := List.mem_cons.mp taken
      · exact apart.1 again
      · exact absent before
    · intro node member
      obtain rfl | before := List.mem_cons.mp member
      · exact (List.getElem?_eq_some_iff.mp here.1).1
      · exact sound.known node before

theorem give_sound (kind : Class) (node : Nat) (s : Stock Class) (sound : s.Sound)
    (holds : node ∈ s.held) (own : s.classes[node]? = some kind) : (s.give kind node).Sound := by
  have absent (other : Class) : node ∉ s.free other := fun member => (sound.own other node member).2 holds
  have shelf (other : Class) : (s.give kind node).free other =
      if other = kind then node :: s.free other else s.free other := by
    change Function.update s.free kind _ other = _
    by_cases same : other = kind
    · rw [same,Function.update_self,if_pos rfl]
    · rw [Function.update_of_ne same,if_neg same]
  refine ⟨sound.held.erase node,?_,?_,?_⟩
  · intro other
    rw [shelf]
    split
    · exact List.nodup_cons.mpr ⟨absent other,sound.free other⟩
    · exact sound.free other
  · intro other free member
    change s.classes[free]? = some other ∧ free ∉ s.held.erase node
    rw [sound.held.mem_erase_iff]
    have before (listed : free ∈ s.free other) : s.classes[free]? = some other ∧ ¬ (free ≠ node ∧ free ∈ s.held) :=
      have old := sound.own other free listed
      ⟨old.1,fun both => old.2 both.2⟩
    rw [shelf] at member
    split at member
    · rename_i same
      obtain rfl | listed := List.mem_cons.mp member
      · rw [same]
        exact ⟨own,fun both => both.1 rfl⟩
      · exact before listed
    · exact before member
  · intro other member
    exact sound.known other (List.mem_of_mem_erase member)

end Fantuan.Lib.Shelves
