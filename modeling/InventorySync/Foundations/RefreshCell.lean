import InventorySync.Foundations.TransitionSystem

/-!
# A cell that is refreshed when it is empty

A cell holds a value until the value expires, and is refreshed only while it holds none. So between
two refreshes the value of the first has expired, whatever the order of events.

* `countP_refresh_le`: there is at most one refresh more than there are expiries.
-/

namespace RefreshCell

variable {τ : Type*}

/-- What can happen to the cell. -/
inductive Move (τ : Type*)
  | refresh (value : τ)
  | expire

/-- A refresh. -/
def Move.isRefresh : Move τ → Bool
  | .refresh _ => true
  | .expire => false

/-- An expiry. -/
def Move.isExpire : Move τ → Bool
  | .refresh _ => false
  | .expire => true

/-- An empty cell can be refreshed, and the value of a full one can expire. -/
def step : Option τ → Move τ → Option (Option τ)
  | none, .refresh value => some (some value)
  | some _, .expire => some none
  | none, .expire => none
  | some _, .refresh _ => none

/-- Refreshes and expiries alternate. -/
theorem countP_refresh_add {cell cell' : Option τ} {moves : List (Move τ)}
    (h : TransitionSystem.exec step cell moves = some cell') :
    moves.countP Move.isRefresh + cell.toList.length =
      moves.countP Move.isExpire + cell'.toList.length := by
  refine TransitionSystem.exec_history (P := fun moves cell' =>
    moves.countP Move.isRefresh + cell.toList.length =
      moves.countP Move.isExpire + cell'.toList.length) rfl ?_ h
  intro moves cell₁ move cell₂ _ hcount hstep
  rw [List.countP_append, List.countP_append]
  cases move with
  | refresh value =>
    cases cell₁ with
    | none =>
      -- the cell fills, and one more refresh is counted
      obtain rfl := Option.some.inj hstep
      simp [Move.isRefresh, Move.isExpire] at hcount ⊢
      omega
    | some old => cases hstep
  | expire =>
    cases cell₁ with
    | none => cases hstep
    | some old =>
      obtain rfl := Option.some.inj hstep
      simp [Move.isRefresh, Move.isExpire] at hcount ⊢
      omega

/-- There is at most one refresh more than there are expiries. -/
theorem countP_refresh_le {cell cell' : Option τ} {moves : List (Move τ)}
    (h : TransitionSystem.exec step cell moves = some cell') :
    moves.countP Move.isRefresh ≤ 1 + moves.countP Move.isExpire := by
  have hcount := countP_refresh_add h
  have hcell : cell'.toList.length ≤ 1 := by cases cell' <;> simp
  omega

end RefreshCell
