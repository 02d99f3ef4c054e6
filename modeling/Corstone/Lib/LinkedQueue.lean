import Mathlib

/-!
# Intrusive linked queues

A queue of nodes `ν` that carry their own link. `next` has a link for every
node, also for those that are not in the queue, and `none` is the null pointer.

* `LinkedQueue.Holds.nodup`: a null-terminated queue is acyclic.
* `LinkedQueue.holds_enqueue`: a node that is not in the queue goes to its end.
* `LinkedQueue.not_holds_enqueue`: a node that is in the queue is linked to
  itself, and the queue is no longer null-terminated.
* `LinkedQueue.holds_dequeue`: the first node leaves.
-/

namespace Corstone.Lib

variable {ν : Type*}

/-- The links lead from `h` through the nodes of the list to `t`. -/
def Path (next : ν → Option ν) : Option ν → List ν → Option ν → Prop
  | h, [], t => h = t
  | h, v :: l, t => h = some v ∧ Path next (next v) l t

namespace Path

variable {next next' : ν → Option ν} {h m t : Option ν} {v : ν} {l l' : List ν}

@[simp] theorem nil_iff : Path next h [] t ↔ h = t := Iff.rfl

@[simp] theorem cons_iff : Path next h (v :: l) t ↔ h = some v ∧ Path next (next v) l t := Iff.rfl

theorem append_iff : Path next h (l ++ l') t ↔ ∃ m, Path next h l m ∧ Path next m l' t := by
  induction l generalizing h with
  | nil => simp
  | cons v l ih => simp [ih, and_assoc]

/-- A path depends only on the links of its nodes. -/
theorem congr (hpath : Path next h l t) (heq : ∀ w ∈ l, next' w = next w) :
    Path next' h l t := by
  induction l generalizing h with
  | nil => exact hpath
  | cons v l ih =>
    obtain ⟨hv, hrest⟩ := hpath
    refine ⟨hv, ?_⟩
    rw [heq v (by simp)]
    exact ih hrest fun w hw => heq w (List.mem_cons_of_mem v hw)

/-- The link of a node that is not on the path may change. -/
theorem update [DecidableEq ν] {x : Option ν} (hpath : Path next h l t) (hv : v ∉ l) :
    Path (Function.update next v x) h l t := by
  apply hpath.congr
  intro w hw
  apply Function.update_of_ne
  rintro rfl
  exact hv hw

/-- Two null-terminated paths from the same link are the same. -/
theorem unique (hl : Path next h l none) (hl' : Path next h l' none) : l = l' := by
  induction l generalizing h l' with
  | nil =>
    obtain rfl : h = none := hl
    cases l' with
    | nil => rfl
    | cons w l' => exact absurd hl'.1 (by simp)
  | cons v l ih =>
    obtain ⟨rfl, hrest⟩ := hl
    cases l' with
    | nil => exact absurd hl' (by simp)
    | cons w l' =>
      obtain ⟨hvw, hrest'⟩ := hl'
      obtain rfl : v = w := Option.some_injective _ hvw
      rw [ih hrest hrest']

/-- A null-terminated path is acyclic. -/
theorem nodup (hl : Path next h l none) : l.Nodup := by
  induction l generalizing h with
  | nil => exact List.nodup_nil
  | cons v l ih =>
    refine List.nodup_cons.2 ⟨fun hmem => ?_, ih hl.2⟩
    -- a second `v` would start the same path again
    obtain ⟨before, after, rfl⟩ := List.append_of_mem hmem
    obtain ⟨m, _, hafter⟩ := append_iff.1 hl.2
    obtain ⟨rfl, hrest⟩ := hafter
    have hsame := congrArg List.length (unique hl.2 hrest)
    simp at hsame
    omega

/-- A node that is linked to itself starts no null-terminated path. -/
theorem not_of_loop (hloop : next v = some v) : ¬ Path next (some v) l none := by
  induction l with
  | nil => simp
  | cons w l ih =>
    rintro ⟨hvw, hrest⟩
    obtain rfl : v = w := Option.some_injective _ hvw
    exact ih (hloop ▸ hrest)

/-- Nor does one that leads to it. -/
theorem not_of_path_loop (hpath : Path next h l (some v)) (hloop : next v = some v) :
    ¬ Path next h l' none := by
  induction l generalizing h l' with
  | nil =>
    obtain rfl : h = some v := hpath
    exact not_of_loop hloop
  | cons w l ih =>
    obtain ⟨rfl, hrest⟩ := hpath
    cases l' with
    | nil => simp
    | cons u l' =>
      rintro ⟨hwu, hrest'⟩
      obtain rfl : w = u := Option.some_injective _ hwu
      exact ih hrest hrest'

end Path

/-- The queue. -/
structure LinkedQueue (ν : Type*) where
  head : Option ν
  next : ν → Option ν

namespace LinkedQueue

/-- The queue is null-terminated and has the nodes of the list, in this order. -/
def Holds (q : LinkedQueue ν) (l : List ν) : Prop := Path q.next q.head l none

/-- The last node of the links from `v`, in at most `fuel` nodes. -/
def last (next : ν → Option ν) : ℕ → ν → Option ν
  | 0, _ => none
  | fuel + 1, v =>
    match next v with
    | none => some v
    | some w => last next fuel w

/-- Adds a node at the end; `none` when the search for the end does not
    finish. -/
def enqueue [DecidableEq ν] (fuel : ℕ) (q : LinkedQueue ν) (v : ν) : Option (LinkedQueue ν) :=
  let next := Function.update q.next v none
  match q.head with
  | none => some ⟨some v, next⟩
  | some h => (last next fuel h).map fun w => ⟨some h, Function.update next w (some v)⟩

/-- Takes the first node. -/
def dequeue (q : LinkedQueue ν) : Option (ν × LinkedQueue ν) :=
  q.head.map fun v => (v, ⟨q.next v, q.next⟩)

variable {q : LinkedQueue ν} {next : ν → Option ν} {fuel : ℕ} {v w : ν} {l : List ν}

theorem Holds.nodup (hq : q.Holds l) : l.Nodup := Path.nodup hq

theorem Holds.unique {l' : List ν} (hq : q.Holds l) (hq' : q.Holds l') : l = l' :=
  Path.unique hq hq'

theorem dequeue_nil (hq : q.Holds []) : q.dequeue = none := by
  have hhead : q.head = none := hq
  unfold dequeue
  rw [hhead, Option.map_none]

theorem holds_dequeue (hq : q.Holds (v :: l)) :
    ∃ q', q.dequeue = some (v, q') ∧ q'.Holds l := by
  obtain ⟨hhead, hrest⟩ := hq
  refine ⟨⟨q.next v, q.next⟩, ?_, hrest⟩
  unfold dequeue
  rw [hhead, Option.map_some]

/-- The end of a path to a node without a successor. -/
theorem last_eq (hpath : Path next (some v) l (some w)) (hw : next w = none)
    (hfuel : l.length < fuel) : last next fuel v = some w := by
  induction l generalizing v fuel with
  | nil =>
    obtain rfl : v = w := Option.some_injective _ hpath
    obtain ⟨fuel, rfl⟩ := Nat.exists_eq_add_of_lt hfuel
    simp [last, hw]
  | cons u l ih =>
    obtain ⟨hu, hrest⟩ := hpath
    obtain rfl : v = u := Option.some_injective _ hu
    rw [List.length_cons] at hfuel
    obtain ⟨fuel, rfl⟩ : ∃ n, fuel = n + 1 := ⟨fuel - 1, by omega⟩
    cases hv : next v with
    | none =>
      rw [hv] at hrest
      cases l with
      | nil => exact absurd hrest (by simp)
      | cons x l => exact absurd hrest.1 (by simp)
    | some x =>
      rw [hv] at hrest
      simp only [last, hv]
      exact ih hrest (by omega)

variable [DecidableEq ν]

theorem enqueue_empty (hhead : q.head = none) :
    q.enqueue fuel v = some ⟨some v, Function.update q.next v none⟩ := by
  unfold enqueue
  rw [hhead]

theorem enqueue_of_last {h : ν} (hhead : q.head = some h)
    (hlast : last (Function.update q.next v none) fuel h = some w) :
    q.enqueue fuel v =
      some ⟨some h, Function.update (Function.update q.next v none) w (some v)⟩ := by
  unfold enqueue
  rw [hhead]
  show Option.map _ _ = _
  rw [hlast, Option.map_some]

/-- **A new node** goes to the end. -/
theorem holds_enqueue (hq : q.Holds l) (hv : v ∉ l) (hfuel : l.length ≤ fuel) :
    ∃ q', q.enqueue fuel v = some q' ∧ q'.Holds (l ++ [v]) := by
  have hold : Path (Function.update q.next v none) q.head l none := hq.update hv
  obtain rfl | ⟨before, w, rfl⟩ := l.eq_nil_or_concat'
  · exact ⟨_, enqueue_empty hq, rfl, by simp⟩
  -- `w` is the last node of the queue
  · obtain ⟨m, hbefore, rfl, hw⟩ := Path.append_iff.1 hold
    have hwbefore : w ∉ before := fun hmem =>
      (List.nodup_append.1 hq.nodup).2.2 w hmem w (by simp) rfl
    have hvw : v ≠ w := by
      rintro rfl
      exact hv (by simp)
    obtain ⟨h, hhead⟩ : ∃ h, q.head = some h := by
      cases before with
      | nil => exact ⟨w, hbefore⟩
      | cons u before => exact ⟨u, hbefore.1⟩
    rw [hhead] at hbefore
    have hlast : last (Function.update q.next v none) fuel h = some w := by
      apply last_eq hbefore hw
      rw [List.length_append, List.length_singleton] at hfuel
      omega
    refine ⟨_, enqueue_of_last hhead hlast, ?_⟩
    show Path _ (some h) ((before ++ [w]) ++ [v]) none
    rw [List.append_assoc, Path.append_iff]
    refine ⟨some w, hbefore.update hwbefore, rfl, ?_, ?_⟩
    · exact Function.update_self _ _ _
    · show Function.update (Function.update q.next v none) w (some v) v = none
      rw [Function.update_of_ne hvw, Function.update_self]

/-- **A queued node** that is added again ends up linked to itself. -/
theorem not_holds_enqueue (hq : q.Holds l) (hv : v ∈ l) (hfuel : l.length ≤ fuel) :
    ∃ q', q.enqueue fuel v = some q' ∧ ∀ l', ¬ q'.Holds l' := by
  obtain ⟨before, after, rfl⟩ := List.append_of_mem hv
  have hvbefore : v ∉ before := fun hmem =>
    (List.nodup_append.1 hq.nodup).2.2 v hmem v (by simp) rfl
  obtain ⟨m, hbefore, rfl, _⟩ := Path.append_iff.1 hq
  -- the queue is cut behind `v`, which is then its last node
  have hcut : Path (Function.update q.next v none) q.head before (some v) :=
    hbefore.update hvbefore
  obtain ⟨h, hhead⟩ : ∃ h, q.head = some h := by
    cases before with
    | nil => exact ⟨v, hbefore⟩
    | cons u before => exact ⟨u, hbefore.1⟩
  rw [hhead] at hcut
  have hlast : last (Function.update q.next v none) fuel h = some v := by
    apply last_eq hcut (Function.update_self _ _ _)
    rw [List.length_append, List.length_cons] at hfuel
    omega
  refine ⟨_, enqueue_of_last hhead hlast, fun l' => ?_⟩
  exact Path.not_of_path_loop (hcut.update hvbefore) (Function.update_self _ _ _)

end LinkedQueue

end Corstone.Lib
