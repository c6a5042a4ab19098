import Mathlib.Algebra.BigOperators.Group.Finset.Piecewise
import Mathlib.Data.Fintype.Basic
import Mathlib.Data.Multiset.Count
import Mathlib.Algebra.Order.Group.Multiset

/-! Entries that lie on the lists of finitely many places, as one account of what lies where.
-/
namespace Fantuan.Lib.Ledger

variable {Place Entry : Type} [Fintype Place]

def stored (lists : Place → List Entry) : Multiset (Place × Entry) :=
  ∑ place, Multiset.ofList ((lists place).map fun entry => (place,entry))

theorem stored_empty : stored (fun _ : Place => ([] : List Entry)) = 0 :=
  Finset.sum_eq_zero fun _ _ => rfl

theorem mem_stored (lists : Place → List Entry) (place : Place) (entry : Entry) :
    (place,entry) ∈ stored lists ↔ entry ∈ lists place := by
  simp [stored,Multiset.mem_sum]

variable [DecidableEq Place]

theorem stored_update (lists : Place → List Entry) (place : Place) (list : List Entry) :
    stored (Function.update lists place list) =
      Multiset.ofList (list.map fun entry => (place,entry)) +
        ∑ other ∈ Finset.univ.erase place, Multiset.ofList ((lists other).map fun entry => (other,entry)) := by
  rw [stored,← Finset.add_sum_erase _ _ (Finset.mem_univ place),Function.update_self]
  congr 1
  apply Finset.sum_congr rfl
  intro other apart
  rw [Function.update_of_ne (Finset.ne_of_mem_erase apart)]

theorem stored_push (lists : Place → List Entry) (place : Place) (entry : Entry) :
    stored (Function.update lists place (entry :: lists place)) = (place,entry) ::ₘ stored lists := by
  have before := stored_update lists place (lists place)
  rw [Function.update_eq_self] at before
  rw [stored_update,before,List.map_cons,← Multiset.cons_coe,Multiset.cons_add]

theorem stored_pop (lists : Place → List Entry) (place : Place) (entry : Entry) (rest : List Entry)
    (first : lists place = entry :: rest) :
    stored lists = (place,entry) ::ₘ stored (Function.update lists place rest) := by
  have before := stored_update lists place (lists place)
  rw [Function.update_eq_self] at before
  rw [stored_update,before,first,List.map_cons,← Multiset.cons_coe,Multiset.cons_add]

theorem stored_at (lists : Place → List Entry) (place : Place) :
    (stored lists).countP (fun entry => entry.1 = place) = (lists place).length := by
  have own (other : Place) : (Multiset.ofList ((lists other).map fun entry => (other,entry))).countP
      (fun entry => entry.1 = place) = if other = place then (lists place).length else 0 := by
    rw [Multiset.coe_countP,List.countP_map]
    split
    next same =>
      rw [← same]
      exact List.countP_eq_length.mpr fun _ _ => by simp
    next apart => exact List.countP_eq_zero.mpr fun _ _ => by simp [apart]
  calc (stored lists).countP (fun entry => entry.1 = place) =
        ∑ other, (Multiset.ofList ((lists other).map fun entry => (other,entry))).countP
          (fun entry => entry.1 = place) :=
        map_sum (Multiset.countPAddMonoidHom fun entry : Place × Entry => entry.1 = place) _ _
    _ = ∑ other, if other = place then (lists place).length else 0 := Finset.sum_congr rfl fun other _ => own other
    _ = (lists place).length := by rw [Finset.sum_ite_eq',if_pos (Finset.mem_univ place)]

end Fantuan.Lib.Ledger
