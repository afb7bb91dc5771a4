import Mathlib.Algebra.Order.Ring.Nat
import Mathlib.Data.Set.Basic

/-!
# Labelled state machines

A machine is an initial state and a partial, executable step function: `step s a = none`
says that label `a` is not enabled in `s`. Runs are lists of labels, so a concrete run is
evaluated by `runFrom`, and safety is stated over the inductive `ReachableIf`, whose runs
meet a condition on every step taken (the state before the step and its label).

## Main results

- `ReachableIf.invariant` : a property of the initial state that every admitted step
  keeps holds in every state reached.
- `ReachableIf.mono` : a weaker step condition reaches more states.
- `reachableIf_of_runFrom` : a computed run whose steps all meet the condition reaches
  its final state; `ReachableIf.run` is the case of labels that meet it in every state,
  and `reachableIf_of_runChecked` evaluates a decidable condition along the run.
-/

namespace NfsRs.Lib

/-- A deterministic labelled machine; all nondeterminism is in the label. -/
structure Machine (σ α : Type*) where
  init : σ
  step : σ → α → Option σ

namespace Machine

variable {σ α : Type*} (m : Machine σ α)

/-- The state after a list of labels, `none` when one of them is not enabled. -/
def runFrom (s : σ) : List α → Option σ
  | [] => some s
  | a :: rest => (m.step s a).bind fun s' => runFrom s' rest

/-- The states reached by runs every step of which meets `ok`. -/
inductive ReachableIf (ok : σ → α → Prop) : σ → Prop
  | init : ReachableIf ok m.init
  | step {s s' : σ} {a : α} :
      ReachableIf ok s → ok s a → m.step s a = some s' → ReachableIf ok s'

/-- The states reached by any run. -/
def Reachable : σ → Prop := m.ReachableIf fun _ _ => True

/-- The state after a list of labels, `none` when one of them is not enabled or misses the
condition. -/
def runChecked (ok : σ → α → Prop) [∀ s a, Decidable (ok s a)] (s : σ) : List α → Option σ
  | [] => some s
  | a :: rest => if ok s a then (m.step s a).bind fun s' => runChecked ok s' rest else none

/-- Every step of the run of `as` from `s` meets `ok`. -/
def StepsMeet (ok : σ → α → Prop) (s : σ) : List α → Prop
  | [] => True
  | a :: rest => ok s a ∧ ∀ s', m.step s a = some s' → StepsMeet ok s' rest

variable {m} {ok ok' : σ → α → Prop} {s : σ}

/-- **Invariant rule.** The step case may use that the state before it is reachable, so
invariants already proved are at hand. -/
theorem ReachableIf.invariant {I : σ → Prop} (h : m.ReachableIf ok s) (hInit : I m.init)
    (hStep : ∀ s s' a, m.ReachableIf ok s → ok s a → m.step s a = some s' → I s → I s') :
    I s := by
  induction h with
  | init => exact hInit
  | step hReach hok hstep ih => exact hStep _ _ _ hReach hok hstep ih

theorem ReachableIf.mono (h : m.ReachableIf ok s) (hle : ∀ s a, ok s a → ok' s a) :
    m.ReachableIf ok' s := by
  induction h with
  | init => exact .init
  | step _ hok hstep ih => exact .step ih (hle _ _ hok) hstep

/-- A computed run continues a reachable state to a reachable state. -/
theorem reachableIf_of_runFrom {s' : σ} :
    ∀ (as : List α) {s : σ}, m.ReachableIf ok s → m.StepsMeet ok s as →
      m.runFrom s as = some s' → m.ReachableIf ok s'
  | [], s, hs, _, hrun => by
    cases hrun
    exact hs
  | a :: rest, s, hs, hok, hrun => by
    obtain ⟨s₁, hstep, hrest⟩ := Option.bind_eq_some_iff.mp hrun
    exact reachableIf_of_runFrom rest (.step hs hok.1 hstep) (hok.2 s₁ hstep) hrest

/-- A computed and checked run continues a reachable state to a reachable state. -/
theorem reachableIf_of_runChecked [∀ s a, Decidable (ok s a)] {s' : σ} :
    ∀ (as : List α) {s : σ}, m.ReachableIf ok s → m.runChecked ok s as = some s' →
      m.ReachableIf ok s'
  | [], s, hs, hrun => by
    cases hrun
    exact hs
  | a :: rest, s, hs, hrun => by
    simp only [runChecked] at hrun
    split at hrun
    next hok =>
      obtain ⟨s₁, hstep, hrest⟩ := Option.bind_eq_some_iff.mp hrun
      exact reachableIf_of_runChecked rest (.step hs hok hstep) hrest
    next => cases hrun

/-- A computed run of labels that meet the condition in every state goes on as reachable. -/
theorem ReachableIf.run {s' : σ} :
    ∀ (as : List α) {s : σ}, m.ReachableIf ok s → (∀ a ∈ as, ∀ s, ok s a) →
      m.runFrom s as = some s' → m.ReachableIf ok s'
  | [], s, hs, _, hrun => by
    cases hrun
    exact hs
  | a :: rest, s, hs, hok, hrun => by
    obtain ⟨s₁, hstep, hrest⟩ := Option.bind_eq_some_iff.mp hrun
    have hReach : m.ReachableIf ok s₁ := .step hs (hok a List.mem_cons_self s) hstep
    exact ReachableIf.run rest hReach (fun b hb => hok b (List.mem_cons_of_mem a hb)) hrest

/-- A run in two parts. -/
theorem runFrom_append {s : σ} (as bs : List α) :
    m.runFrom s (as ++ bs) = (m.runFrom s as).bind fun s' => m.runFrom s' bs := by
  induction as generalizing s with
  | nil => rfl
  | cons a as ih =>
    rw [List.cons_append, runFrom, runFrom, Option.bind_assoc]
    congr 1
    funext s'
    exact ih

/-- Any computed run from the initial state reaches its final state. -/
theorem reachable_of_runFrom (as : List α) {s' : σ} (hrun : m.runFrom m.init as = some s') :
    m.Reachable s' :=
  ReachableIf.run as .init (fun _ _ _ => trivial) hrun

/-- A test of the final state of a computed run. -/
theorem exists_reachable_of_run (as : List α) {test : σ → Bool}
    (h : (m.runFrom m.init as).any test = true) : ∃ s, m.Reachable s ∧ test s = true := by
  obtain ⟨s, hRun, hTest⟩ := (Option.any_eq_true _ _).mp h
  exact ⟨s, reachable_of_runFrom as hRun, hTest⟩

end Machine

end NfsRs.Lib
