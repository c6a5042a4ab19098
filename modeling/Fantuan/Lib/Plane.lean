import Mathlib.Order.MinMax

/-! Rectangles along the axes of a plane whose coordinates are linearly ordered. -/
namespace Fantuan.Lib.Plane

structure Rectangle (α : Type) where
  minX : α
  maxX : α
  minY : α
  maxY : α
  deriving DecidableEq

variable {α : Type} [LinearOrder α]

/-- The border belongs to it. -/
def Rectangle.Contains (area : Rectangle α) (x y : α) : Prop :=
  area.minX ≤ x ∧ x ≤ area.maxX ∧ area.minY ≤ y ∧ y ≤ area.maxY

/-- The border does not belong to it. -/
def Rectangle.Interior (area : Rectangle α) (x y : α) : Prop :=
  area.minX < x ∧ x < area.maxX ∧ area.minY < y ∧ y < area.maxY

/-- The interiors have no point in common. -/
def Apart (first second : Rectangle α) : Prop := ∀ x y, first.Interior x y → ¬ second.Interior x y

def Meets (first second : Rectangle α) : Prop :=
  max first.minX second.minX ≤ min first.maxX second.maxX ∧
    max first.minY second.minY ≤ min first.maxY second.maxY

instance (area : Rectangle α) (x y : α) : Decidable (area.Contains x y) :=
  inferInstanceAs (Decidable (area.minX ≤ x ∧ x ≤ area.maxX ∧ area.minY ≤ y ∧ y ≤ area.maxY))

/-- The sides are compared one axis after the other, and that decides whether there is a common point. -/
theorem meets_iff (first second : Rectangle α) :
    Meets first second ↔ ∃ x y, first.Contains x y ∧ second.Contains x y := by
  constructor
  · rintro ⟨wide,high⟩
    rw [le_min_iff,max_le_iff,max_le_iff] at wide high
    obtain ⟨⟨firstX,left⟩,right,secondX⟩ := wide
    obtain ⟨⟨firstY,top⟩,bottom,secondY⟩ := high
    exact ⟨max first.minX second.minX,max first.minY second.minY,
      ⟨le_max_left _ _,max_le firstX left,le_max_left _ _,max_le firstY top⟩,
      ⟨le_max_right _ _,max_le right secondX,le_max_right _ _,max_le bottom secondY⟩⟩
  · rintro ⟨x,y,⟨left,right,top,bottom⟩,otherLeft,otherRight,otherTop,otherBottom⟩
    exact ⟨(max_le left otherLeft).trans (le_min right otherRight),
      (max_le top otherTop).trans (le_min bottom otherBottom)⟩

theorem apart_comm (first second : Rectangle α) (apart : Apart first second) : Apart second first :=
  fun x y inside other => apart x y other inside

theorem apart_beside (first second : Rectangle α) (beside : first.maxX ≤ second.minX) :
    Apart first second :=
  fun _ _ ⟨_,right,_⟩ ⟨left,_⟩ => absurd (right.trans_le beside) (lt_asymm left)

end Fantuan.Lib.Plane
