import Mathlib.Data.List.Basic

/-! The state machines of the servers. The rows of a state are its AddTransition calls in
source order; a second row for an event would change nothing.
-/
namespace Fantuan.Tool.StateMachine

variable {State Event : Type} [DecidableEq Event]

def outputState (rows : State → List (Event × State)) (state : State) (event : Event) : Option State :=
  ((rows state).find? fun row => row.1 = event).map Prod.snd

theorem outputState_mem (rows : State → List (Event × State)) (state next : State) (event : Event)
    (reached : outputState rows state event = some next) : (event,next) ∈ rows state := by
  obtain ⟨row,found,rfl⟩ := Option.map_eq_some_iff.mp reached
  have same : row.1 = event := by simpa using List.find?_some found
  rw [← same]
  exact List.mem_of_find?_eq_some found

end Fantuan.Tool.StateMachine
