import Mathlib.Data.List.Induction
import Mathlib.Data.Nat.Init
import Mathlib.Tactic.Common

/-!
# Runs of partial labelled steps

A system is given by `step : S → L → Option S`, where `step s l = none` says that the label `l` is
not enabled in `s`. A label is one choice of a scheduler, so a list of labels is a schedule, and
`exec step s ls` is the state that the schedule `ls` leads to.

The module proves the rules by which facts about one step become facts about a whole run:

* `exec_invariant`: what every step preserves holds in every state reached;
* `exec_history`: so does what every step preserves of a state and the schedule that led there;
* `exec_project`: a run whose steps are steps of another system, or none, is a run of that system;
* `map_exec`: what no step looks at can be left out of a run;
* `exec_length_add_le`: a measure that every step decreases bounds the length of every schedule;
* `exists_exec_stuck`: under such a measure every state reaches one with no enabled label.
-/

namespace TransitionSystem

variable {S L : Type*}

/-- The state reached from `s` by taking the labels of a schedule in order, `none` if one of them
is not enabled when its turn comes. -/
def exec (step : S → L → Option S) : S → List L → Option S
  | s, [] => some s
  | s, l :: ls => (step s l).bind fun s' => exec step s' ls

/-- No label is enabled in `s`. -/
def Stuck (step : S → L → Option S) (s : S) : Prop :=
  ∀ l, step s l = none

variable {step : S → L → Option S}

@[simp]
theorem exec_nil (s : S) : exec step s [] = some s := rfl

theorem exec_cons (s : S) (l : L) (ls : List L) :
    exec step s (l :: ls) = (step s l).bind fun s' => exec step s' ls := rfl

/-- A nonempty schedule is its first step followed by the rest. -/
theorem exec_cons_eq_some {s s' : S} {l : L} {ls : List L} :
    exec step s (l :: ls) = some s' ↔ ∃ t, step s l = some t ∧ exec step t ls = some s' := by
  rw [exec_cons, Option.bind_eq_some_iff]

/-- A schedule in two parts is run part by part. -/
theorem exec_append {s : S} (ls ms : List L) :
    exec step s (ls ++ ms) = (exec step s ls).bind fun t => exec step t ms := by
  induction ls generalizing s with
  | nil => rfl
  | cons l ls ih =>
    rw [List.cons_append, exec_cons, exec_cons, Option.bind_assoc]
    exact Option.bind_congr fun t _ => ih

/-- A schedule of a system that takes some of the steps of another is a schedule of the other. -/
theorem exec_mono {step' : S → L → Option S}
    (hstep : ∀ s l s', step' s l = some s' → step s l = some s') {s s' : S} {ls : List L}
    (h : exec step' s ls = some s') : exec step s ls = some s' := by
  induction ls generalizing s with
  | nil => exact h
  | cons l ls ih =>
    obtain ⟨t, ht, hrest⟩ := exec_cons_eq_some.1 h
    exact exec_cons_eq_some.2 ⟨t, hstep s l t ht, ih hrest⟩

/-- Invariant rule: what every step with an allowed label preserves holds after every schedule of
allowed labels. -/
theorem exec_invariant {P : S → Prop} {Q : L → Prop}
    (hstep : ∀ s l s', Q l → P s → step s l = some s' → P s') {s s' : S} {ls : List L}
    (hQ : ∀ l ∈ ls, Q l) (hs : P s) (h : exec step s ls = some s') : P s' := by
  induction ls generalizing s with
  | nil =>
    rw [exec_nil, Option.some.injEq] at h
    exact h ▸ hs
  | cons l ls ih =>
    obtain ⟨t, ht, hrest⟩ := exec_cons_eq_some.1 h
    have hP : P t := hstep s l t (hQ l List.mem_cons_self) hs ht
    exact ih (fun m hm => hQ m (List.mem_cons_of_mem l hm)) hP hrest

/-- `exec_invariant` with no restriction on the labels. -/
theorem exec_invariant' {P : S → Prop} (hstep : ∀ s l s', P s → step s l = some s' → P s')
    {s s' : S} {ls : List L} (hs : P s) (h : exec step s ls = some s') : P s' :=
  exec_invariant (Q := fun _ => True) (fun s l s' _ => hstep s l s') (fun _ _ => trivial) hs h

/-- A nonempty schedule is all but its last step followed by that step. -/
theorem exec_concat_eq_some {s s' : S} {l : L} {ls : List L} :
    exec step s (ls ++ [l]) = some s' ↔ ∃ t, exec step s ls = some t ∧ step t l = some s' := by
  rw [exec_append, Option.bind_eq_some_iff]
  simp only [exec_cons_eq_some, exec_nil, Option.some_inj, exists_eq_right]

/-- History rule: what every step preserves of a state and the schedule that led there holds after
every schedule. -/
theorem exec_history {P : List L → S → Prop} {s₀ : S} (hstart : P [] s₀)
    (hstep : ∀ ls s l s', exec step s₀ ls = some s → P ls s → step s l = some s' →
      P (ls ++ [l]) s') {ls : List L} {s : S} (h : exec step s₀ ls = some s) : P ls s := by
  induction ls using List.reverseRecOn generalizing s with
  | nil =>
    rw [exec_nil, Option.some.injEq] at h
    exact h ▸ hstart
  | append_singleton ls l ih =>
    obtain ⟨t, hrun, ht⟩ := exec_concat_eq_some.1 h
    exact hstep ls t l s hrun (ih hrun) ht

/-- Refinement rule: if every step of a run is, through `f`, the step `g` makes of its label, or
changes nothing where `g` makes none, then the run is a run of the system with these steps. -/
theorem exec_project {A M : Type*} {astep : A → M → Option A} {f : S → A} {g : L → Option M}
    {s₀ : S} (hstep : ∀ ls s l s', exec step s₀ ls = some s → step s l = some s' →
      exec astep (f s) (g l).toList = some (f s')) {ls : List L} {s : S}
    (h : exec step s₀ ls = some s) : exec astep (f s₀) (ls.filterMap g) = some (f s) := by
  refine exec_history (P := fun ls s => exec astep (f s₀) (ls.filterMap g) = some (f s)) rfl ?_ h
  intro ls s l s' hrun hproject ht
  have hsplit : (ls ++ [l]).filterMap g = ls.filterMap g ++ (g l).toList := by
    rw [List.filterMap_append]
    cases hl : g l <;> simp [hl]
  rw [hsplit, exec_append, hproject]
  exact hstep ls s l s' hrun ht

/-- Erasure rule: if `f` leaves out only what no step looks at, the runs of the system are the runs
of what `f` leaves. -/
theorem map_exec {A : Type*} {astep : A → L → Option A} {f : S → A}
    (hstep : ∀ s l, (step s l).map f = astep (f s) l) (s : S) (ls : List L) :
    (exec step s ls).map f = exec astep (f s) ls := by
  induction ls generalizing s with
  | nil => rfl
  | cons l ls ih =>
    rw [exec_cons, exec_cons, ← hstep, Option.bind_map, Option.map_bind]
    exact congrArg _ (funext fun t => ih t)

/-- Measure rule: if every step decreases `μ`, a schedule is no longer than the measure it uses
up. -/
theorem exec_length_add_le {μ : S → ℕ} (hμ : ∀ s l s', step s l = some s' → μ s' < μ s)
    {s s' : S} {ls : List L} (h : exec step s ls = some s') : ls.length + μ s' ≤ μ s := by
  induction ls generalizing s with
  | nil =>
    rw [exec_nil, Option.some.injEq] at h
    simp [h]
  | cons l ls ih =>
    obtain ⟨t, ht, hrest⟩ := exec_cons_eq_some.1 h
    have hlt := hμ s l t ht
    have hle := ih hrest
    rw [List.length_cons]
    omega

/-- Under a measure that every step decreases, some schedule leads to a stuck state. -/
theorem exists_exec_stuck {μ : S → ℕ} (hμ : ∀ s l s', step s l = some s' → μ s' < μ s) (s : S) :
    ∃ ls s', exec step s ls = some s' ∧ Stuck step s' := by
  induction hn : μ s using Nat.strong_induction_on generalizing s with
  | _ n ih =>
    by_cases hs : Stuck step s
    · exact ⟨[], s, rfl, hs⟩
    · -- take any enabled label and go on from there, where the measure is smaller
      rw [Stuck, not_forall] at hs
      obtain ⟨l, hl⟩ := hs
      obtain ⟨t, ht⟩ := Option.ne_none_iff_exists'.1 hl
      obtain ⟨ls, s', hrun, hstuck⟩ := ih (μ t) (hn ▸ hμ s l t ht) t rfl
      exact ⟨l :: ls, s', exec_cons_eq_some.2 ⟨t, ht, hrun⟩, hstuck⟩

end TransitionSystem
