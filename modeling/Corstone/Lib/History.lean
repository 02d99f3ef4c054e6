import Mathlib

/-!
# Histories

A history is the list of the events so far, newest first. `since p l` are the
events after the latest one that meets `p`. `Always P l` says that every event
of `l` is as `P` wants it, given the events before it.
-/

namespace Corstone.Lib

variable {α : Type*}

/-- The events of `l` after the latest one that meets `p`. -/
def since (p : α → Bool) (l : List α) : List α := l.takeWhile fun c => !p c

section Since

variable (p : α → Bool)

@[simp] theorem since_nil : since p ([] : List α) = [] := rfl

theorem since_cons (c : α) (l : List α) :
    since p (c :: l) = if p c then [] else c :: since p l := by
  unfold since
  rw [List.takeWhile_cons]
  cases p c <;> rfl

@[simp] theorem since_cons_of_pos {c : α} (l : List α) (h : p c = true) :
    since p (c :: l) = [] := by simp [since_cons, h]

@[simp] theorem since_cons_of_neg {c : α} (l : List α) (h : p c = false) :
    since p (c :: l) = c :: since p l := by simp [since_cons, h]

end Since

/-- Every event of the history meets `P` with respect to the events before it. -/
def Always (P : List α → α → Prop) : List α → Prop
  | [] => True
  | c :: l => P l c ∧ Always P l

variable {P Q : List α → α → Prop}

@[simp] theorem always_nil : Always P [] := trivial

@[simp] theorem always_cons (c : α) (l : List α) : Always P (c :: l) ↔ P l c ∧ Always P l :=
  Iff.rfl

instance decidableAlways [∀ l c, Decidable (P l c)] : (l : List α) → Decidable (Always P l)
  | [] => isTrue trivial
  | c :: l =>
    have : Decidable (Always P l) := decidableAlways l
    inferInstanceAs (Decidable (P l c ∧ Always P l))

/-- What holds of a history holds of its earlier parts. -/
theorem always_of_suffix {l l' : List α} (h : l <:+ l') (hl' : Always P l') : Always P l := by
  obtain ⟨later, rfl⟩ := h
  induction later with
  | nil => exact hl'
  | cons c later ih => exact ih hl'.2

/-! ## Extensions by events of one kind -/

/-- The history `l'` is `l` with more events, all of which meet `p`. -/
def Extends (p : α → Bool) (l l' : List α) : Prop :=
  ∃ calls, (∀ c ∈ calls, p c = true) ∧ l' = calls ++ l

namespace Extends

variable {p q : α → Bool} {l l' l'' : List α}

theorem refl (p : α → Bool) (l : List α) : Extends p l l := ⟨[], by simp, rfl⟩

theorem cons {c : α} (hc : p c = true) (h : Extends p l l') : Extends p l (c :: l') := by
  obtain ⟨calls, hcalls, rfl⟩ := h
  refine ⟨c :: calls, ?_, rfl⟩
  intro d hd
  rcases List.mem_cons.mp hd with rfl | hd
  · exact hc
  · exact hcalls d hd

theorem trans (h : Extends p l l') (h' : Extends p l' l'') : Extends p l l'' := by
  obtain ⟨calls, hcalls, rfl⟩ := h
  obtain ⟨calls', hcalls', rfl⟩ := h'
  refine ⟨calls' ++ calls, ?_, by simp⟩
  intro d hd
  rcases List.mem_append.mp hd with hd | hd
  · exact hcalls' d hd
  · exact hcalls d hd

theorem mono (hpq : ∀ c, p c = true → q c = true) (h : Extends p l l') : Extends q l l' := by
  obtain ⟨calls, hcalls, heq⟩ := h
  exact ⟨calls, fun c hc => hpq c (hcalls c hc), heq⟩

/-- Two kinds that the same extension has. -/
theorem and (h : Extends p l l') (h' : Extends q l l') : Extends (fun c => p c && q c) l l' := by
  obtain ⟨calls, hcalls, rfl⟩ := h
  obtain ⟨calls', hcalls', heq⟩ := h'
  obtain rfl := List.append_cancel_right heq
  refine ⟨calls, fun c hc => ?_, rfl⟩
  simp [hcalls c hc, hcalls' c hc]

/-- An extension by given events is one by events of the kind iff they are. -/
theorem append_iff (calls : List α) : Extends p l (calls ++ l) ↔ ∀ c ∈ calls, p c = true := by
  constructor
  · rintro ⟨calls', hcalls, heq⟩
    obtain rfl := List.append_cancel_right heq
    exact hcalls
  · exact fun hcalls => ⟨calls, hcalls, rfl⟩

/-- What every single event of the kind keeps, the extension keeps. -/
theorem induct {I : List α → Prop} (hI : ∀ c l, p c = true → I l → I (c :: l))
    (h : Extends p l l') (hl : I l) : I l' := by
  obtain ⟨calls, hcalls, rfl⟩ := h
  induction calls with
  | nil => exact hl
  | cons c calls ih =>
    refine hI c _ (hcalls c (by simp)) (ih fun d hd => hcalls d ?_)
    exact List.mem_cons_of_mem c hd

/-- Events that `P` asks nothing of keep `Always P`. -/
theorem always (hP : ∀ l c, p c = true → P l c) (h : Extends p l l') (hl : Always P l) :
    Always P l' :=
  h.induct (fun c l hc hl => ⟨hP l c hc, hl⟩) hl

/-- A function of the history that every event of the kind leaves alone. -/
theorem eq {β : Type*} {f : List α → β} (hf : ∀ c l, p c = true → f (c :: l) = f l)
    (h : Extends p l l') : f l' = f l :=
  h.induct (I := fun l' => f l' = f l) (fun c _ hc hl => (hf c _ hc).trans hl) rfl

end Extends

end Corstone.Lib
