import Mathlib.Data.List.AList

/-! Tables: finite maps whose insertion keeps an entry that is already there, as
std::map and hash_map do. The order of the entries carries no meaning.
-/
namespace Fantuan.Lib.Table

abbrev Map (Key Value : Type) := AList fun _ : Key => Value

variable {Key Value : Type} [DecidableEq Key]

def find (key : Key) (table : Map Key Value) : Option Value := table.lookup key

def insert (key : Key) (value : Value) (table : Map Key Value) : Map Key Value :=
  if (find key table).isSome then table else AList.insert key value table

def erase (key : Key) (table : Map Key Value) : Map Key Value := AList.erase key table

def values (table : Map Key Value) : List Value := table.entries.map fun entry => entry.2

@[simp] theorem find_empty (key : Key) : find key (∅ : Map Key Value) = none :=
  AList.lookup_empty key

theorem find_insert_same (key : Key) (value : Value) (table : Map Key Value)
    (fresh : find key table = none) : find key (insert key value table) = some value := by
  rw [insert,fresh]
  exact AList.lookup_insert table

theorem find_insert_other (key other : Key) (value : Value) (table : Map Key Value)
    (different : other ≠ key) : find other (insert key value table) = find other table := by
  rw [insert]
  split
  · rfl
  · exact AList.lookup_insert_ne different

theorem find_insert (key other : Key) (value : Value) (table : Map Key Value)
    (fresh : find key table = none) :
    find other (insert key value table) = if other = key then some value else find other table := by
  by_cases same : other = key
  · rw [if_pos same,same,find_insert_same key value table fresh]
  · rw [if_neg same,find_insert_other key other value table same]

theorem find_insert_elim (key other : Key) (value found : Value) (table : Map Key Value)
    (present : find other (insert key value table) = some found) :
    find other table = some found ∨ other = key ∧ found = value ∧ find key table = none := by
  by_cases same : other = key
  · subst other
    cases old : find key table with
    | none =>
      rw [find_insert_same key value table old] at present
      exact .inr ⟨rfl,(Option.some.inj present).symm,rfl⟩
    | some other =>
      rw [insert,old,Option.isSome_some,if_pos rfl,old] at present
      exact .inl present
  · rw [find_insert_other key other value table same] at present
    exact .inl present

theorem find_insert_kept (key other : Key) (value found : Value) (table : Map Key Value)
    (present : find other table = some found) : find other (insert key value table) = some found := by
  by_cases same : other = key
  · rw [insert,← same,present,Option.isSome_some,if_pos rfl]
    exact present
  · rw [find_insert_other key other value table same]
    exact present

theorem find_erase (key other : Key) (table : Map Key Value) :
    find other (erase key table) = if other = key then none else find other table := by
  by_cases same : other = key
  · rw [if_pos same,same]
    exact AList.lookup_erase key table
  · rw [if_neg same]
    exact AList.lookup_erase_ne same

theorem find_erase_elim (key other : Key) (found : Value) (table : Map Key Value)
    (present : find other (erase key table) = some found) :
    other ≠ key ∧ find other table = some found := by
  rw [find_erase] at present
  split at present
  · simp at present
  next different => exact ⟨different,present⟩

theorem erase_unlisted (key : Key) (value : Value) (table : Map Key Value) :
    (∀ other, find other (erase key table) ≠ some value) ↔
      ∀ other, find other table = some value → other = key := by
  constructor
  · intro unlisted other found
    by_contra different
    apply unlisted other
    rw [find_erase,if_neg different]
    exact found
  · intro only other found
    obtain ⟨different,found⟩ := find_erase_elim key other value table found
    exact different (only other found)

theorem erase_if_unlisted (erases : Prop) [Decidable erases] (key : Key) (value : Value)
    (table : Map Key Value) :
    (∀ other, find other (if erases then erase key table else table) ≠ some value) ↔
      ∀ other, find other table = some value → erases ∧ other = key := by
  by_cases applies : erases
  · rw [if_pos applies,erase_unlisted]
    simp [applies]
  · rw [if_neg applies]
    simp [applies]

theorem mem_values (table : Map Key Value) (value : Value) :
    value ∈ values table ↔ ∃ key, find key table = some value := by
  simp only [values,List.mem_map,find]
  constructor
  · rintro ⟨⟨key,value⟩,member,rfl⟩
    exact ⟨key,AList.mem_lookup_iff.mpr member⟩
  · rintro ⟨key,found⟩
    exact ⟨⟨key,value⟩,AList.mem_lookup_iff.mp found,rfl⟩

theorem empty_of_find (table : Map Key Value) (unfound : ∀ key, find key table = none) :
    table = ∅ := by
  apply AList.ext
  apply List.eq_nil_iff_forall_not_mem.mpr
  rintro ⟨key,value⟩ member
  have found : find key table = some value := AList.mem_lookup_iff.mpr member
  rw [unfound key] at found
  cases found

theorem find_listed {Entry : Type} (name : Entry → Key) (entries : List Entry)
    (distinct : (entries.map name).Nodup) (entry : Entry) (listed : entry ∈ entries) :
    entries.find? (fun other => decide (name other = name entry)) = some entry := by
  induction entries with
  | nil => cases listed
  | cons first rest ih =>
    rw [List.map_cons,List.nodup_cons] at distinct
    rcases List.mem_cons.mp listed with rfl | later
    · exact List.find?_cons_of_pos (by simp)
    · have different : name first ≠ name entry := by
        intro same
        apply distinct.1
        rw [same]
        exact List.mem_map_of_mem later
      rw [List.find?_cons_of_neg (by simpa using different)]
      exact ih distinct.2 later

end Fantuan.Lib.Table
