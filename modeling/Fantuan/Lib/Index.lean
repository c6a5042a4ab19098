import Fantuan.Lib.Table

/-! Tables as indexes of a set of objects: the table holds exactly the objects that
belong to it, each under its own key.
-/
namespace Fantuan.Lib.Index
open Table

variable {Key Object : Type} [DecidableEq Key]

/-- Every object that belongs is found under its key, and nothing else is found. -/
def Indexes (table : Map Key Object) (belongs : Object → Prop) (key : Object → Key) : Prop :=
  ∀ k object, find k table = some object ↔ belongs object ∧ key object = k

/-- What is found belongs, and is found under its key. -/
def Lists (table : Map Key Object) (belongs : Object → Prop) (key : Object → Key) : Prop :=
  ∀ k object, find k table = some object → belongs object ∧ key object = k

variable {table : Map Key Object} {belongs belongs' : Object → Prop} {key key' : Object → Key}

theorem indexes_empty (none : ∀ object, ¬ belongs object) :
    Indexes (∅ : Map Key Object) belongs key := by
  intro k object
  simp [none object]

theorem indexes_found (indexes : Indexes table belongs key) (object : Object)
    (member : belongs object) : find (key object) table = some object :=
  (indexes (key object) object).mpr ⟨member,rfl⟩

theorem indexes_unique (indexes : Indexes table belongs key) (first second : Object)
    (firstMember : belongs first) (secondMember : belongs second) (same : key first = key second) :
    first = second := by
  have one := indexes_found indexes first firstMember
  have two := indexes_found indexes second secondMember
  rw [same,two] at one
  exact (Option.some.inj one).symm

theorem indexes_congr (indexes : Indexes table belongs key)
    (same : ∀ object, belongs' object ↔ belongs object)
    (keys : ∀ object, belongs object → key' object = key object) : Indexes table belongs' key' := by
  intro k object
  rw [indexes k object,same object]
  constructor
  · rintro ⟨member,rfl⟩
    exact ⟨member,keys object member⟩
  · rintro ⟨member,rfl⟩
    exact ⟨member,(keys object member).symm⟩

theorem indexes_insert (indexes : Indexes table belongs key) (k : Key) (added : Object)
    (fresh : find k table = none) (absent : ¬ belongs added)
    (more : ∀ object, belongs' object ↔ belongs object ∨ object = added) (own : key' added = k)
    (others : ∀ object, object ≠ added → key' object = key object) :
    Indexes (insert k added table) belongs' key' := by
  intro other object
  rw [find_insert k other added table fresh,more object]
  by_cases same : object = added
  · subst object
    by_cases here : other = k
    · simp [here,own]
    · have elsewhere : find other table ≠ some added := fun found =>
        absent ((indexes other added).mp found).1
      simp [here,own,elsewhere,Ne.symm here]
  · rw [others object same]
    by_cases here : other = k
    · have unfound : ¬ (belongs object ∧ key object = k) := by
        rw [← indexes k object,fresh]
        simp
      simp only [here,same,or_false]
      simpa [Ne.symm same] using fun member found => unfound ⟨member,found⟩
    · simp [here,same,indexes other object]

theorem indexes_erase (indexes : Indexes table belongs key) (gone : Object) (member : belongs gone)
    (fewer : ∀ object, belongs' object ↔ belongs object ∧ object ≠ gone)
    (others : ∀ object, object ≠ gone → key' object = key object) :
    Indexes (erase (key gone) table) belongs' key' := by
  intro other object
  rw [find_erase,fewer object]
  by_cases same : object = gone
  · subst object
    have found := indexes other gone
    by_cases here : other = key gone
    · simp [here]
    · simp [here,found,member,Ne.symm here]
  · rw [others object same]
    by_cases here : other = key gone
    · subst other
      simp only [if_true,reduceCtorEq,false_iff,not_and]
      rintro ⟨belonging,-⟩ keys
      exact same (indexes_unique indexes object gone belonging member keys)
    · simp [here,same,indexes other object]

end Fantuan.Lib.Index
