import Mathlib

/-!
# Runs of a transition function

A system is a step function `step : σ → α → σ` on states and actions. A run is
the list of its actions. `Along step P s as` says that every action of the run
`as` meets `P` in the state it finds.

* `Along.inv`: an invariant that every step meeting `P` keeps holds at the end
  of every run along `P`.
* `run_sim`: what the steps of two systems keep holds after the same actions.
* `along_of_inv`: a property of steps that follows from an invariant and from
  `P` holds of every step of a run along `P`.
* `run_iff_along`, `forall_prefix_iff_along`: a property of states that exactly
  the steps meeting `P` keep.
-/

namespace Corstone.Lib

variable {σ α : Type*}

/-- The state after the actions `as`, in this order. -/
def run (step : σ → α → σ) (s : σ) (as : List α) : σ := as.foldl step s

/-- Every action of the run `as` from `s` meets `P` in the state it finds. -/
def Along (step : σ → α → σ) (P : σ → α → Prop) : σ → List α → Prop
  | _, [] => True
  | s, a :: as => P s a ∧ Along step P (step s a) as

section Run

variable (step : σ → α → σ)

@[simp] theorem run_nil (s : σ) : run step s [] = s := rfl

@[simp] theorem run_cons (s : σ) (a : α) (as : List α) :
    run step s (a :: as) = run step (step s a) as := rfl

theorem run_append (s : σ) (as bs : List α) :
    run step s (as ++ bs) = run step (run step s as) bs := List.foldl_append

end Run

variable {step : σ → α → σ} {P Q : σ → α → Prop}

@[simp] theorem along_nil (s : σ) : Along step P s [] := trivial

@[simp] theorem along_cons (s : σ) (a : α) (as : List α) :
    Along step P s (a :: as) ↔ P s a ∧ Along step P (step s a) as := Iff.rfl

instance decidableAlong [∀ s a, Decidable (P s a)] (s : σ) :
    (as : List α) → Decidable (Along step P s as)
  | [] => isTrue trivial
  | a :: as =>
    have : Decidable (Along step P (step s a) as) := decidableAlong (step s a) as
    inferInstanceAs (Decidable (P s a ∧ Along step P (step s a) as))

theorem along_append (s : σ) (as bs : List α) :
    Along step P s (as ++ bs) ↔ Along step P s as ∧ Along step P (run step s as) bs := by
  induction as generalizing s with
  | nil => simp
  | cons a as ih => simp [ih, and_assoc]

/-- A property of the actions alone. -/
theorem along_of_forall {p : α → Prop} {as : List α} (h : ∀ a ∈ as, p a) (s : σ) :
    Along step (fun _ a => p a) s as := by
  induction as generalizing s with
  | nil => trivial
  | cons a as ih => exact ⟨h a (by simp), ih (fun b hb => h b (List.mem_cons_of_mem a hb)) _⟩

/-- Two properties at once. -/
theorem along_and (s : σ) (as : List α) :
    Along step (fun s a => P s a ∧ Q s a) s as ↔ Along step P s as ∧ Along step Q s as := by
  induction as generalizing s with
  | nil => simp
  | cons a as ih =>
    simp only [along_cons, ih]
    exact and_and_and_comm

/-- The invariant rule. -/
theorem Along.inv {I : σ → Prop} (hstep : ∀ s a, I s → P s a → I (step s a)) {s : σ}
    {as : List α} (hs : I s) (h : Along step P s as) : I (run step s as) := by
  induction as generalizing s with
  | nil => exact hs
  | cons a as ih => exact ih (hstep s a hs h.1) h.2

/-- The invariant rule for an invariant that every step keeps. -/
theorem run_inv {I : σ → Prop} (hstep : ∀ s a, I s → I (step s a)) {s : σ} (hs : I s)
    (as : List α) : I (run step s as) := by
  induction as generalizing s with
  | nil => exact hs
  | cons a as ih => exact ih (hstep s a hs)

/-- The simulation rule. -/
theorem run_sim {τ : Type*} {step' : τ → α → τ} {R : σ → τ → Prop}
    (hstep : ∀ s t a, R s t → R (step s a) (step' t a)) {s : σ} {t : τ} (hst : R s t)
    (as : List α) : R (run step s as) (run step' t as) := by
  induction as generalizing s t with
  | nil => exact hst
  | cons a as ih => exact ih (hstep s t a hst)

/-- A property of single steps that an invariant and `P` give holds all along
    a run along `P`. -/
theorem along_of_inv {I : σ → Prop} (hstep : ∀ s a, I s → P s a → I (step s a))
    (hQ : ∀ s a, I s → P s a → Q s a) {s : σ} {as : List α} (hs : I s)
    (h : Along step P s as) : Along step Q s as := by
  induction as generalizing s with
  | nil => trivial
  | cons a as ih => exact ⟨hQ s a hs h.1, ih (hstep s a hs h.1) h.2⟩

/-- Two step properties that agree on the states of an invariant, which the
    steps that meet them keep, agree along every run. -/
theorem along_congr {I : σ → Prop} (hstep : ∀ s a, I s → Q s a → I (step s a))
    (hPQ : ∀ s a, I s → (P s a ↔ Q s a)) {s : σ} (hs : I s) (as : List α) :
    Along step P s as ↔ Along step Q s as := by
  induction as generalizing s with
  | nil => simp
  | cons a as ih =>
    rw [along_cons, along_cons, hPQ s a hs]
    exact and_congr_right fun ha => ih (hstep s a hs ha)

/-- A property of states that a step keeps exactly when it meets `P`, in the
    states of an invariant, holds at the end of a run iff it holds at its start
    and the run is one along `P`. -/
theorem run_iff_along_of_inv {I J : σ → Prop} (hinv : ∀ s a, I s → I (step s a))
    (hstep : ∀ s a, I s → (J (step s a) ↔ J s ∧ P s a)) {s : σ} (hs : I s) (as : List α) :
    J (run step s as) ↔ J s ∧ Along step P s as := by
  induction as generalizing s with
  | nil => simp
  | cons a as ih => rw [run_cons, ih (hinv s a hs), hstep s a hs, along_cons, and_assoc]

/-- The same without an invariant. -/
theorem run_iff_along {J : σ → Prop} (hstep : ∀ s a, J (step s a) ↔ J s ∧ P s a) (s : σ)
    (as : List α) : J (run step s as) ↔ J s ∧ Along step P s as :=
  run_iff_along_of_inv (I := fun _ => True) (fun _ _ _ => trivial) (fun s a _ => hstep s a)
    trivial as

/-- A property of states that a step from a state with it keeps exactly when it
    meets `P`, in the states of an invariant, holds in all states of a run iff
    the run is one along `P`. -/
theorem forall_prefix_iff_along_of_inv {I J : σ → Prop} (hinv : ∀ s a, I s → I (step s a))
    (hstep : ∀ s a, I s → J s → (J (step s a) ↔ P s a)) {s : σ} (hI : I s) (hJ : J s)
    (as : List α) : (∀ pre, pre <+: as → J (run step s pre)) ↔ Along step P s as := by
  induction as generalizing s with
  | nil => simpa using hJ
  | cons a as ih =>
    rw [along_cons]
    constructor
    · intro h
      have hnext : J (step s a) := h [a] (by simp)
      refine ⟨(hstep s a hI hJ).mp hnext, (ih (hinv s a hI) hnext).mp fun pre hpre => ?_⟩
      exact h (a :: pre) (List.cons_prefix_cons.mpr ⟨rfl, hpre⟩)
    · rintro ⟨ha, has⟩ pre hpre
      cases pre with
      | nil => exact hJ
      | cons b pre =>
        obtain ⟨rfl, hrest⟩ := List.cons_prefix_cons.mp hpre
        exact (ih (hinv s b hI) ((hstep s b hI hJ).mpr ha)).mpr has pre hrest

/-- The same without an invariant. -/
theorem forall_prefix_iff_along {J : σ → Prop} (hstep : ∀ s a, J s → (J (step s a) ↔ P s a))
    {s : σ} (hs : J s) (as : List α) :
    (∀ pre, pre <+: as → J (run step s pre)) ↔ Along step P s as :=
  forall_prefix_iff_along_of_inv (I := fun _ => True) (fun _ _ _ => trivial)
    (fun s a _ => hstep s a) trivial hs as

end Corstone.Lib
