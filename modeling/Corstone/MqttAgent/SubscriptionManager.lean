import Corstone.Lib.CString

/-!
# The subscription manager

Models of `addSubscription`, `removeSubscription` and `handleIncomingPublishes`
(`subscription_manager.c`). An element of `xGlobalSubscriptionList` holds a
pointer to its filter, not the filter: `Addr` are the addresses of the program,
and a `Memory` says which bytes are at them now. A slot that is free is `none`,
the zeroed element.

* `addSubscription_cases`: what `addSubscription` does to the list.
* `occupied_removeSubscription_sublist`: what `removeSubscription` leaves was there.
-/

namespace Corstone.MqttAgent

open Corstone.Lib

/-- `SUBSCRIPTION_MANAGER_MAX_SUBSCRIPTIONS`. -/
def maxSubscriptions : ℕ := 10

/-- The bytes from an address on. -/
abbrev Memory (Addr : Type) := Addr → Bytes

/-- An occupied `SubscriptionElement_t`; a filter of length 0 is a free slot. -/
structure SubscriptionElement (Addr Callback : Type) where
  /-- The callback and its context. -/
  pxIncomingPublishCallback : Callback
  usFilterStringLength : UInt16
  pcSubscriptionFilterString : Addr
  occupied : usFilterStringLength ≠ 0
  deriving DecidableEq

/-- `xGlobalSubscriptionList`. -/
abbrev SubscriptionList (Addr Callback : Type) := List (Option (SubscriptionElement Addr Callback))

variable {Addr Callback : Type}

/-- The filter of an element, as it stands in memory. -/
def SubscriptionElement.filter (mem : Memory Addr) (e : SubscriptionElement Addr Callback) :
    Bytes :=
  (mem e.pcSubscriptionFilterString).take e.usFilterStringLength.toNat

/-- The list at start. -/
def emptySubscriptionList : SubscriptionList Addr Callback :=
  List.replicate maxSubscriptions none

/-- The elements of the occupied slots. -/
def occupied (list : SubscriptionList Addr Callback) : List (SubscriptionElement Addr Callback) :=
  list.filterMap id

@[simp] theorem occupied_empty :
    occupied (emptySubscriptionList : SubscriptionList Addr Callback) = [] := rfl

theorem mem_occupied {list : SubscriptionList Addr Callback}
    {e : SubscriptionElement Addr Callback} : e ∈ occupied list ↔ some e ∈ list := by
  simp [occupied]

/-- A free slot that is taken. -/
theorem occupied_set_perm {list : SubscriptionList Addr Callback}
    {e : SubscriptionElement Addr Callback} {index : ℕ} (h : list[index]? = some none) :
    (occupied (list.set index (some e))).Perm (e :: occupied list) := by
  induction list generalizing index with
  | nil => simp at h
  | cons slot slots ih =>
    cases index with
    | zero =>
      obtain rfl : slot = none := by simpa using h
      exact List.Perm.refl _
    | succ index =>
      have hfree : slots[index]? = some none := by simpa using h
      have hslots := ih hfree
      cases slot with
      | none => exact hslots
      | some e' => exact (hslots.cons e').trans (List.Perm.swap e e' _)

/-! ## The functions -/

section Functions

variable [DecidableEq Callback] (mem : Memory Addr)

/-- The new element `e` would be the same subscription as `e'`. -/
def SubscriptionElement.duplicates (e e' : SubscriptionElement Addr Callback) : Bool :=
  e'.usFilterStringLength == e.usFilterStringLength &&
    strncmp (mem e.pcSubscriptionFilterString) (mem e'.pcSubscriptionFilterString)
      e.usFilterStringLength.toNat == 0 &&
    decide (e'.pxIncomingPublishCallback = e.pxIncomingPublishCallback)

/-- What the loop of `addSubscription` finds: the subscription exists, or the
    first free slot. -/
inductive Scan
  | alreadyExists
  | available (index : Option ℕ)
  deriving DecidableEq, Repr

/-- The loop of `addSubscription`, which starts at the end of the array and
    breaks when it finds the subscription. -/
def scan (e : SubscriptionElement Addr Callback) : SubscriptionList Addr Callback → Scan
  | [] => .available none
  | slot :: slots =>
    match scan e slots with
    | .alreadyExists => .alreadyExists
    | .available index =>
      match slot with
      | none => .available (some 0)
      | some e' =>
        if e.duplicates mem e' then .alreadyExists else .available (index.map (· + 1))

/-- `addSubscription` (lines 64–120). -/
def addSubscription (list : SubscriptionList Addr Callback) (pcTopicFilterString : Addr)
    (usTopicFilterLength : UInt16) (pxIncomingPublishCallback : Callback) :
    SubscriptionList Addr Callback × Bool :=
  if h : usTopicFilterLength ≠ 0 then
    let e := ⟨pxIncomingPublishCallback, usTopicFilterLength, pcTopicFilterString, h⟩
    match scan mem e list with
    | .alreadyExists => (list, true)
    | .available (some index) => (list.set index (some e), true)
    | .available none => (list, false)
  else (list, false)

/-- The slot holds a filter that is equal to the argument of
    `removeSubscription`. -/
def holdsFilter (pcTopicFilterString : Addr) (usTopicFilterLength : UInt16) :
    Option (SubscriptionElement Addr Callback) → Bool
  | none => false
  | some e =>
    e.usFilterStringLength == usTopicFilterLength &&
      strncmp (mem e.pcSubscriptionFilterString) (mem pcTopicFilterString)
        usTopicFilterLength.toNat == 0

/-- `removeSubscription` (lines 124–154). -/
def removeSubscription (list : SubscriptionList Addr Callback) (pcTopicFilterString : Addr)
    (usTopicFilterLength : UInt16) : SubscriptionList Addr Callback × Bool :=
  if usTopicFilterLength ≠ 0 then
    (list.map fun slot =>
        if holdsFilter mem pcTopicFilterString usTopicFilterLength slot then none else slot,
      list.any (holdsFilter mem pcTopicFilterString usTopicFilterLength))
  else (list, false)

/-- `handleIncomingPublishes` (lines 159–192): the callbacks that are called, in
    their order, for a `MQTT_MatchTopic` of name and filter. -/
def handleIncomingPublishes (matchTopic : Bytes → Bytes → Bool)
    (list : SubscriptionList Addr Callback) (topicName : Bytes) : List Callback :=
  ((occupied list).filter fun e => matchTopic topicName (e.filter mem)).map
    SubscriptionElement.pxIncomingPublishCallback

end Functions

/-! ## What they do to the list -/

section Spec

variable [DecidableEq Callback] {mem : Memory Addr} {e : SubscriptionElement Addr Callback}
  {list : SubscriptionList Addr Callback}

theorem scan_alreadyExists (h : scan mem e list = .alreadyExists) :
    ∃ e' ∈ occupied list, e.duplicates mem e' = true := by
  induction list with
  | nil => simp [scan] at h
  | cons slot slots ih =>
    unfold scan at h
    cases hscan : scan mem e slots with
    | alreadyExists =>
      obtain ⟨e', he', hdup⟩ := ih hscan
      exact ⟨e', mem_occupied.mpr (List.mem_cons_of_mem _ (mem_occupied.mp he')), hdup⟩
    | available index =>
      cases slot with
      | none => simp [hscan] at h
      | some e' =>
        by_cases hdup : e.duplicates mem e' = true
        · exact ⟨e', mem_occupied.mpr (by simp), hdup⟩
        · simp [hscan, hdup] at h

theorem scan_available {index : Option ℕ} (h : scan mem e list = .available index) :
    (∀ e' ∈ occupied list, e.duplicates mem e' = false) ∧
      (∀ i ∈ index, list[i]? = some none) ∧ (index = none → none ∉ list) := by
  induction list generalizing index with
  | nil =>
    obtain rfl : none = index := by simpa [scan] using h
    simp [occupied]
  | cons slot slots ih =>
    unfold scan at h
    cases hscan : scan mem e slots with
    | alreadyExists => simp [hscan] at h
    | available rest =>
      obtain ⟨hdups, hfree, hfull⟩ := ih hscan
      cases slot with
      | none =>
        obtain rfl : some 0 = index := by simpa [hscan] using h
        exact ⟨hdups, by simp, by simp⟩
      | some e' =>
        by_cases hdup : e.duplicates mem e' = true
        · simp [hscan, hdup] at h
        · obtain rfl : rest.map (· + 1) = index := by simpa [hscan, hdup] using h
          refine ⟨?_, ?_, ?_⟩
          · intro e'' he''
            rcases List.mem_cons.mp (mem_occupied.mp he'') with heq | hmem
            · obtain rfl := Option.some.inj heq
              simpa using hdup
            · exact hdups e'' (mem_occupied.mpr hmem)
          · intro i hi
            obtain ⟨j, hj, rfl⟩ := Option.map_eq_some_iff.mp hi
            simpa using hfree j hj
          · intro hnone
            simpa using hfull (by simpa using hnone)

/-- What `addSubscription` does: it refuses an empty filter, finds the
    subscription, takes a free slot, or finds none. -/
inductive AddCases (mem : Memory Addr) (list : SubscriptionList Addr Callback)
    (pcTopicFilterString : Addr) (usTopicFilterLength : UInt16)
    (pxIncomingPublishCallback : Callback) : SubscriptionList Addr Callback × Bool → Prop
  | refused (h : usTopicFilterLength = 0) :
    AddCases mem list pcTopicFilterString usTopicFilterLength pxIncomingPublishCallback
      (list, false)
  | alreadyExists (h : usTopicFilterLength ≠ 0)
      (hdup : ∃ e' ∈ occupied list, SubscriptionElement.duplicates mem
        ⟨pxIncomingPublishCallback, usTopicFilterLength, pcTopicFilterString, h⟩ e' = true) :
    AddCases mem list pcTopicFilterString usTopicFilterLength pxIncomingPublishCallback
      (list, true)
  | added (h : usTopicFilterLength ≠ 0) (index : ℕ) (hfree : list[index]? = some none)
      (hnew : ∀ e' ∈ occupied list, SubscriptionElement.duplicates mem
        ⟨pxIncomingPublishCallback, usTopicFilterLength, pcTopicFilterString, h⟩ e' = false) :
    AddCases mem list pcTopicFilterString usTopicFilterLength pxIncomingPublishCallback
      (list.set index
        (some ⟨pxIncomingPublishCallback, usTopicFilterLength, pcTopicFilterString, h⟩), true)
  | full (h : usTopicFilterLength ≠ 0) (hfull : none ∉ list)
      (hnew : ∀ e' ∈ occupied list, SubscriptionElement.duplicates mem
        ⟨pxIncomingPublishCallback, usTopicFilterLength, pcTopicFilterString, h⟩ e' = false) :
    AddCases mem list pcTopicFilterString usTopicFilterLength pxIncomingPublishCallback
      (list, false)

theorem addSubscription_cases (mem : Memory Addr) (list : SubscriptionList Addr Callback)
    (pcTopicFilterString : Addr) (usTopicFilterLength : UInt16)
    (pxIncomingPublishCallback : Callback) :
    AddCases mem list pcTopicFilterString usTopicFilterLength pxIncomingPublishCallback
      (addSubscription mem list pcTopicFilterString usTopicFilterLength
        pxIncomingPublishCallback) := by
  unfold addSubscription
  split_ifs with h
  · dsimp only
    cases hscan : scan mem
        ⟨pxIncomingPublishCallback, usTopicFilterLength, pcTopicFilterString, h⟩ list with
    | alreadyExists => exact .alreadyExists h (scan_alreadyExists hscan)
    | available index =>
      obtain ⟨hnew, hfree, hfull⟩ := scan_available hscan
      cases index with
      | none => exact .full h (hfull rfl) hnew
      | some i => exact .added h i (hfree i rfl) hnew
  · exact .refused (not_not.mp h)

/-- An `addSubscription` that fails leaves the list as it is. -/
theorem addSubscription_of_failed {pcTopicFilterString : Addr} {usTopicFilterLength : UInt16}
    {callback : Callback}
    (h : (addSubscription mem list pcTopicFilterString usTopicFilterLength callback).2 = false) :
    (addSubscription mem list pcTopicFilterString usTopicFilterLength callback).1 = list := by
  have hcases := addSubscription_cases mem list pcTopicFilterString usTopicFilterLength callback
  generalize addSubscription mem list pcTopicFilterString usTopicFilterLength callback = p
    at hcases h ⊢
  cases hcases with
  | refused => rfl
  | alreadyExists => rfl
  | full => rfl
  | added => exact absurd h (by simp)

/-- `addSubscription` adds entries of its callback only. -/
theorem mem_occupied_addSubscription {pcTopicFilterString : Addr} {usTopicFilterLength : UInt16}
    {callback : Callback}
    (h : e ∈ occupied
      (addSubscription mem list pcTopicFilterString usTopicFilterLength callback).1) :
    e ∈ occupied list ∨ e.pxIncomingPublishCallback = callback := by
  have hcases := addSubscription_cases mem list pcTopicFilterString usTopicFilterLength callback
  generalize addSubscription mem list pcTopicFilterString usTopicFilterLength callback = p
    at hcases h
  cases hcases with
  | refused => exact Or.inl h
  | alreadyExists => exact Or.inl h
  | full => exact Or.inl h
  | added hne index hfree hnew =>
    rcases List.mem_cons.mp ((occupied_set_perm hfree).mem_iff.mp h) with rfl | h
    · exact Or.inr rfl
    · exact Or.inl h

omit [DecidableEq Callback] in
/-- `removeSubscription` empties the slots that hold the filter. -/
theorem removeSubscription_eq (mem : Memory Addr) (list : SubscriptionList Addr Callback)
    (pcTopicFilterString : Addr) (usTopicFilterLength : UInt16) :
    removeSubscription mem list pcTopicFilterString usTopicFilterLength =
      (list.map fun slot =>
          if holdsFilter mem pcTopicFilterString usTopicFilterLength slot then none else slot,
        list.any (holdsFilter mem pcTopicFilterString usTopicFilterLength)) := by
  unfold removeSubscription
  split_ifs with hlength
  · rfl
  · -- a slot with a filter of length 0 is free
    have hholds : ∀ slot : Option (SubscriptionElement Addr Callback),
        holdsFilter mem pcTopicFilterString usTopicFilterLength slot = false := by
      rintro (_ | e)
      · rfl
      · simp [holdsFilter, not_not.mp hlength, e.occupied]
    simp [hholds]

omit [DecidableEq Callback] in
/-- `removeSubscription` only takes elements away. -/
theorem occupied_removeSubscription_sublist (pcTopicFilterString : Addr)
    (usTopicFilterLength : UInt16) :
    (occupied (removeSubscription mem list pcTopicFilterString usTopicFilterLength).1).Sublist
      (occupied list) := by
  rw [removeSubscription_eq]
  induction list with
  | nil => exact List.Sublist.refl _
  | cons slot slots ih =>
    rw [List.map_cons]
    cases slot with
    | none => simpa [occupied] using ih
    | some e =>
      split_ifs
      · exact ih.cons e
      · exact ih.cons_cons e

/-- A message is handed to a callback at most as often as it is registered. -/
theorem count_handleIncomingPublishes_le (matchTopic : Bytes → Bytes → Bool) (topicName : Bytes)
    (callback : Callback) :
    (handleIncomingPublishes mem matchTopic list topicName).count callback ≤
      (occupied list).countP fun e => decide (e.pxIncomingPublishCallback = callback) := by
  unfold handleIncomingPublishes
  rw [List.count_eq_countP, List.countP_map]
  refine le_trans (List.filter_sublist.countP_le) (le_of_eq ?_)
  refine List.countP_congr fun e _ => ?_
  simp

end Spec

end Corstone.MqttAgent
