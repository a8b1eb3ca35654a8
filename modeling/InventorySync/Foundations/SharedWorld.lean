import Mathlib.Logic.Function.Basic
import Mathlib.Logic.Relation
import InventorySync.Foundations.TransitionSystem

/-!
# Components that share a world

Components, each with a state of its own, act on one world in any order, and so does an environment.
`parts r` is a step of component `r`: from its state and the world it leads to both again.

A property of one component and the world holds throughout every run as soon as the component's own
steps keep it and whatever the others may do to the world does (`forall_of_exec`). What they may do
is a relation between worlds: the components rely on it, and each of them guarantees it.
-/

namespace SharedWorld

variable {θ S ω L M : Type*}

/-- The states of the components, and the world. -/
structure State (θ S ω : Type*) where
  part : θ → S
  world : ω

/-- What happens next: a component takes a step, or the environment does. -/
inductive Label (θ L M : Type*)
  | part (r : θ) (l : L)
  | environment (m : M)

section Step

variable [DecidableEq θ] (parts : θ → S → ω → L → Option (S × ω))
  (environment : ω → M → Option ω)

/-- One step. -/
def step (s : State θ S ω) : Label θ L M → Option (State θ S ω)
  | .part r l => (parts r (s.part r) s.world l).map fun next =>
      ⟨Function.update s.part r next.1, next.2⟩
  | .environment m => (environment s.world m).map fun world => { s with world }

/-- A property of each component and the world, and the relation between worlds that every step
guarantees and that the property relies on. -/
structure Guarantees (I : θ → S → ω → Prop) (R : ω → ω → Prop) : Prop where
  part : ∀ r s w l s' w', I r s w → parts r s w l = some (s', w') → I r s' w' ∧ R w w'
  environment : ∀ w m w', environment w m = some w' → R w w'
  stable : ∀ r s w w', I r s w → R w w' → I r s w'

variable {parts environment} {I : θ → S → ω → Prop} {R : ω → ω → Prop} {s s' : State θ S ω}

/-- One step keeps the property of every component. -/
theorem Guarantees.forall_of_step (h : Guarantees parts environment I R)
    (hs : ∀ r, I r (s.part r) s.world) {lab : Label θ L M}
    (hstep : step parts environment s lab = some s') (r : θ) : I r (s'.part r) s'.world := by
  cases lab with
  | part q l =>
    obtain ⟨⟨part, world⟩, hpart, rfl⟩ := Option.map_eq_some_iff.1 hstep
    obtain ⟨hkept, hworld⟩ := h.part q _ _ l part world (hs q) hpart
    -- the component that moved, and one that did not
    by_cases hr : r = q
    · subst hr
      simpa using hkept
    · simpa [Function.update_of_ne hr] using h.stable r _ _ world (hs r) hworld
  | environment m =>
    obtain ⟨world, hworld, rfl⟩ := Option.map_eq_some_iff.1 hstep
    exact h.stable r _ _ world (hs r) (h.environment _ m world hworld)

/-- So does every run. -/
theorem Guarantees.forall_of_exec (h : Guarantees parts environment I R)
    (hs : ∀ r, I r (s.part r) s.world) {schedule : List (Label θ L M)}
    (hrun : TransitionSystem.exec (step parts environment) s schedule = some s') (r : θ) :
    I r (s'.part r) s'.world := by
  have hall : ∀ r, I r (s'.part r) s'.world := TransitionSystem.exec_invariant'
    (P := fun t : State θ S ω => ∀ r, I r (t.part r) t.world)
    (fun _ _ _ ht hstep => h.forall_of_step ht hstep) hs hrun
  exact hall r

/-- And every run guarantees what each step does. -/
theorem Guarantees.rel_of_exec (h : Guarantees parts environment I R)
    (hs : ∀ r, I r (s.part r) s.world) {schedule : List (Label θ L M)}
    (hrun : TransitionSystem.exec (step parts environment) s schedule = some s') :
    Relation.ReflTransGen R s.world s'.world := by
  have hboth : (∀ r, I r (s'.part r) s'.world) ∧ Relation.ReflTransGen R s.world s'.world := by
    refine TransitionSystem.exec_invariant' (P := fun t : State θ S ω =>
      (∀ r, I r (t.part r) t.world) ∧ Relation.ReflTransGen R s.world t.world) ?_ ⟨hs, .refl⟩ hrun
    rintro t lab t' ⟨ht, hworld⟩ hstep
    refine ⟨h.forall_of_step ht hstep, hworld.tail ?_⟩
    cases lab with
    | part q l =>
      obtain ⟨⟨part, world⟩, hpart, rfl⟩ := Option.map_eq_some_iff.1 hstep
      exact (h.part q _ _ l part world (ht q) hpart).2
    | environment m =>
      obtain ⟨world, hnext, rfl⟩ := Option.map_eq_some_iff.1 hstep
      exact h.environment _ m world hnext
  exact hboth.2

end Step

end SharedWorld
