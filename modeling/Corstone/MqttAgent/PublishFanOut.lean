import Corstone.MqttAgent.SubscriptionManager

/-!
# The fan-out of a publish

Model of the loop of `handleIncomingPublishes` (`subscription_manager.c`, lines
159–193) with the flag `isMatched`, which is declared before the loop. A
`MQTT_MatchTopic` that fails does not write it, and the loop does not look at
its status.

* `handleIncomingPublishes_eq`: when no call fails, the callbacks are those of
  `Corstone.MqttAgent.handleIncomingPublishes`.
* `fannedOut_iff`: the publish reaches exactly the slots whose filters match iff
  no call that fails comes right after one that matches.
* `not_fannedOut_errorAfterMatch`: two slots.
-/

namespace Corstone.MqttAgent.PublishFanOut

open Corstone.Lib

variable {Addr Callback Publish : Type}

/-! ## The loop -/

/-- A call of a slot's callback with its context. -/
structure Invocation (Callback Publish : Type) where
  lIndex : ℕ
  pxIncomingPublishCallback : Callback
  pxPublishInfo : Publish
  deriving DecidableEq

/-- The locals of `handleIncomingPublishes`, and the calls that it has made. -/
structure Locals (Callback Publish : Type) where
  isMatched : Bool
  publishHandled : Bool
  calls : List (Invocation Callback Publish)

/-- What `MQTT_MatchTopic` writes to its output for each slot; `none` is an error,
    which leaves the output as it is. -/
abbrev MatchResults := ℕ → Option Bool

section Functions

variable (results : MatchResults) (pxPublishInfo : Publish)

/-- The body of the loop for an occupied slot (lines 176–188). -/
def loopBody (s : Locals Callback Publish) (lIndex : ℕ) (e : SubscriptionElement Addr Callback) :
    Locals Callback Publish :=
  let isMatched := (results lIndex).getD s.isMatched
  if isMatched = true then
    { isMatched := isMatched
      publishHandled := true
      calls := s.calls ++ [⟨lIndex, e.pxIncomingPublishCallback, pxPublishInfo⟩] }
  else { s with isMatched := isMatched }

/-- The loop over the slots from `lIndex` on. -/
def loop : ℕ → SubscriptionList Addr Callback → Locals Callback Publish → Locals Callback Publish
  | _, [], s => s
  | lIndex, none :: slots, s => loop (lIndex + 1) slots s
  | lIndex, some e :: slots, s =>
    loop (lIndex + 1) slots (loopBody results pxPublishInfo s lIndex e)

/-- `handleIncomingPublishes` (lines 159–193): the calls and the return value. -/
def handleIncomingPublishes (list : SubscriptionList Addr Callback) :
    Option Publish → List (Invocation Callback Publish) × Bool
  | none => ([], false)
  | some pxPublishInfo =>
    let s := loop results pxPublishInfo 0 list ⟨false, false, []⟩
    (s.calls, s.publishHandled)

end Functions

/-! ## The purpose -/

/-- The call that a slot is to get: its own, if it is occupied and its filter
    matches. -/
def dueCall (results : MatchResults) (pxPublishInfo : Publish)
    (slot : Option (SubscriptionElement Addr Callback) × ℕ) :
    Option (Invocation Callback Publish) :=
  if results slot.2 = some true then
    slot.1.map fun e => ⟨slot.2, e.pxIncomingPublishCallback, pxPublishInfo⟩
  else none

/-- The calls that are due, in the order of the slots. -/
def dueCalls (results : MatchResults) (pxPublishInfo : Publish) (lIndex : ℕ)
    (list : SubscriptionList Addr Callback) : List (Invocation Callback Publish) :=
  (list.zipIdx lIndex).filterMap (dueCall results pxPublishInfo)

/-- Exactly the calls that are due are made, each once and in the order of the
    slots, and the return value says whether there was one. -/
def FannedOut (results : MatchResults) (list : SubscriptionList Addr Callback)
    (pxPublishInfo : Publish) (out : List (Invocation Callback Publish) × Bool) : Prop :=
  out.1 = dueCalls results pxPublishInfo 0 list ∧ (out.2 = true ↔ out.1 ≠ [])

/-- The results for the occupied slots, in their order. -/
def occupiedResults (results : MatchResults) (lIndex : ℕ)
    (list : SubscriptionList Addr Callback) : List (Option Bool) :=
  (list.zipIdx lIndex).filterMap fun slot => slot.1.map fun _ => results slot.2

/-- A call that fails does not come right after one that matches. -/
def NoLeak (before after : Option Bool) : Prop := before = some true → after ≠ none

/-! ## Lemmas on the loop -/

section Loop

variable {results : MatchResults} {pxPublishInfo : Publish} {lIndex : ℕ}
  {e : SubscriptionElement Addr Callback} {slots list : SubscriptionList Addr Callback}
  {s : Locals Callback Publish}

theorem dueCalls_free : dueCalls results pxPublishInfo lIndex (none :: slots) =
    dueCalls results pxPublishInfo (lIndex + 1) slots := by
  unfold dueCalls
  rw [List.zipIdx_cons, List.filterMap_cons_none]
  unfold dueCall
  split_ifs
  · rfl
  · rfl

theorem dueCalls_matched (h : results lIndex = some true) :
    dueCalls results pxPublishInfo lIndex (some e :: slots) =
      ⟨lIndex, e.pxIncomingPublishCallback, pxPublishInfo⟩ ::
        dueCalls results pxPublishInfo (lIndex + 1) slots := by
  unfold dueCalls
  rw [List.zipIdx_cons, List.filterMap_cons_some]
  unfold dueCall
  rw [if_pos h, Option.map_some]

theorem dueCalls_not_matched (h : results lIndex ≠ some true) :
    dueCalls results pxPublishInfo lIndex (some e :: slots) =
      dueCalls results pxPublishInfo (lIndex + 1) slots := by
  unfold dueCalls
  rw [List.zipIdx_cons, List.filterMap_cons_none]
  unfold dueCall
  rw [if_neg h]

/-- What is due is due to a slot from `lIndex` on. -/
theorem le_of_mem_dueCalls {c : Invocation Callback Publish}
    (h : c ∈ dueCalls results pxPublishInfo lIndex list) : lIndex ≤ c.lIndex := by
  obtain ⟨⟨slot, i⟩, hslot, hcall⟩ := List.mem_filterMap.mp h
  have hi : lIndex ≤ i := (List.mem_zipIdx hslot).1
  unfold dueCall at hcall
  split_ifs at hcall
  obtain ⟨e, -, rfl⟩ := Option.map_eq_some_iff.mp hcall
  exact hi

theorem loopBody_matched (h : (results lIndex).getD s.isMatched = true) :
    loopBody results pxPublishInfo s lIndex e =
      ⟨true, true, s.calls ++ [⟨lIndex, e.pxIncomingPublishCallback, pxPublishInfo⟩]⟩ := by
  unfold loopBody
  dsimp only
  rw [h, if_pos rfl]

theorem loopBody_not_matched (h : (results lIndex).getD s.isMatched = false) :
    loopBody results pxPublishInfo s lIndex e = { s with isMatched := false } := by
  unfold loopBody
  dsimp only
  rw [h, if_neg Bool.false_ne_true]

variable (results pxPublishInfo) in
/-- The loop takes no call back. -/
theorem calls_prefix_loop (lIndex : ℕ) (list : SubscriptionList Addr Callback)
    (s : Locals Callback Publish) :
    s.calls <+: (loop results pxPublishInfo lIndex list s).calls := by
  induction list generalizing lIndex s with
  | nil => exact List.prefix_refl _
  | cons slot slots ih =>
    cases slot with
    | none => exact ih (lIndex + 1) s
    | some e =>
      refine List.IsPrefix.trans ?_ (ih (lIndex + 1) (loopBody results pxPublishInfo s lIndex e))
      cases h : (results lIndex).getD s.isMatched with
      | true =>
        rw [loopBody_matched h]
        exact List.prefix_append _ _
      | false =>
        rw [loopBody_not_matched h]

variable (results pxPublishInfo) in
/-- The return value says whether a callback has been called. -/
theorem publishHandled_loop (lIndex : ℕ) (list : SubscriptionList Addr Callback)
    (hs : s.publishHandled = true ↔ s.calls ≠ []) :
    (loop results pxPublishInfo lIndex list s).publishHandled = true ↔
      (loop results pxPublishInfo lIndex list s).calls ≠ [] := by
  induction list generalizing lIndex s with
  | nil => exact hs
  | cons slot slots ih =>
    cases slot with
    | none => exact ih (lIndex + 1) hs
    | some e =>
      apply ih (lIndex + 1)
      cases h : (results lIndex).getD s.isMatched with
      | true =>
        rw [loopBody_matched h]
        simp
      | false =>
        rw [loopBody_not_matched h]
        exact hs

/-- After a result that is not a match, nothing can leak. -/
theorem isChain_cons_of_not_matched {r : Option Bool} (h : r ≠ some true)
    (rs : List (Option Bool)) : List.IsChain NoLeak (r :: rs) ↔ List.IsChain NoLeak rs := by
  cases rs with
  | nil => simp
  | cons r' rs =>
    rw [List.isChain_cons_cons]
    exact and_iff_right fun hr => absurd hr h

variable (results pxPublishInfo) in
/-- **The loop** from a slot on: the calls that it adds are those that are due
    iff no failure comes right after a match, and the first one not while the
    flag is set. -/
theorem calls_loop_iff (lIndex : ℕ) (list : SubscriptionList Addr Callback)
    (s : Locals Callback Publish) :
    (loop results pxPublishInfo lIndex list s).calls =
        s.calls ++ dueCalls results pxPublishInfo lIndex list ↔
      List.IsChain NoLeak (some s.isMatched :: occupiedResults results lIndex list) := by
  induction list generalizing lIndex s with
  | nil => simp [loop, dueCalls, occupiedResults]
  | cons slot slots ih =>
    cases slot with
    | none =>
      rw [dueCalls_free]
      exact ih (lIndex + 1) s
    | some e =>
      have hresults : occupiedResults results lIndex (some e :: slots) =
          results lIndex :: occupiedResults results (lIndex + 1) slots := rfl
      have hih := ih (lIndex + 1) (loopBody results pxPublishInfo s lIndex e)
      rw [hresults, List.isChain_cons_cons]
      show (loop results pxPublishInfo (lIndex + 1) slots
        (loopBody results pxPublishInfo s lIndex e)).calls = _ ↔ _
      cases hresult : results lIndex with
      | some matched =>
        have hgetD : (results lIndex).getD s.isMatched = matched := by rw [hresult]; rfl
        have hleak : NoLeak (some s.isMatched) (some matched) := fun _ => nofun
        rw [and_iff_right hleak]
        cases matched with
        | true =>
          rw [loopBody_matched hgetD] at hih ⊢
          rw [dueCalls_matched hresult, ← hih, List.append_assoc]
          rfl
        | false =>
          rw [loopBody_not_matched hgetD] at hih ⊢
          rw [dueCalls_not_matched (by rw [hresult]; decide), ← hih]
      | none =>
        have hgetD : (results lIndex).getD s.isMatched = s.isMatched := by rw [hresult]; rfl
        rw [dueCalls_not_matched (by rw [hresult]; decide)]
        cases hmatched : s.isMatched with
        | true =>
          -- the flag of an earlier slot calls this one, which is due nothing
          rw [loopBody_matched (hgetD.trans hmatched)]
          refine iff_of_false (fun hcalls => ?_) fun h => h.1 rfl rfl
          have hprefix := calls_prefix_loop results pxPublishInfo (lIndex + 1) slots
            ⟨true, true, s.calls ++ [⟨lIndex, e.pxIncomingPublishCallback, pxPublishInfo⟩]⟩
          rw [hcalls, List.prefix_append_right_inj] at hprefix
          have hdue := hprefix.subset (List.mem_singleton_self _)
          have hle : lIndex + 1 ≤ lIndex := le_of_mem_dueCalls hdue
          omega
        | false =>
          rw [loopBody_not_matched (hgetD.trans hmatched)] at hih ⊢
          rw [hih, isChain_cons_of_not_matched (by simp),
            isChain_cons_of_not_matched (r := none) (by decide)]
          exact (and_iff_right fun h => absurd h (by decide)).symm

end Loop

/-! ## The fan-out -/

/-- The calls that are due when every call of `MQTT_MatchTopic` succeeds. -/
theorem map_dueCalls [DecidableEq Callback] {mem : Memory Addr}
    {matchTopic : Bytes → Bytes → Bool} {topicName : Bytes} {results : MatchResults}
    (pxPublishInfo : Publish) (lIndex : ℕ) (list : SubscriptionList Addr Callback)
    (h : ∀ i e, list[i]? = some (some e) →
      results (lIndex + i) = some (matchTopic topicName (e.filter mem))) :
    (dueCalls results pxPublishInfo lIndex list).map Invocation.pxIncomingPublishCallback =
      MqttAgent.handleIncomingPublishes mem matchTopic list topicName := by
  induction list generalizing lIndex with
  | nil => rfl
  | cons slot slots ih =>
    have hslots := ih (lIndex + 1) fun i e hi => by
      rw [Nat.add_assoc, Nat.add_comm 1 i]
      exact h (i + 1) e hi
    cases slot with
    | none =>
      rw [dueCalls_free, hslots]
      rfl
    | some e =>
      have hresult : results lIndex = some (matchTopic topicName (e.filter mem)) := h 0 e rfl
      have hoccupied : occupied (some e :: slots) = e :: occupied slots := rfl
      unfold MqttAgent.handleIncomingPublishes at hslots ⊢
      rw [hoccupied, List.filter_cons]
      cases hmatch : matchTopic topicName (e.filter mem) with
      | true =>
        rw [dueCalls_matched (hresult.trans (congrArg some hmatch)), if_pos rfl, List.map_cons,
          List.map_cons, hslots]
      | false =>
        rw [hmatch] at hresult
        rw [dueCalls_not_matched (by rw [hresult]; decide), if_neg Bool.false_ne_true, hslots]

theorem occupiedResults_ne_none {results : MatchResults} {list : SubscriptionList Addr Callback}
    (h : ∀ i e, list[i]? = some (some e) → results i ≠ none) :
    none ∉ occupiedResults results 0 list := by
  intro hnone
  obtain ⟨⟨slot, i⟩, hslot, hresult⟩ := List.mem_filterMap.mp hnone
  obtain ⟨e, rfl, he⟩ := Option.map_eq_some_iff.mp hresult
  exact h i e (List.mem_zipIdx_iff_getElem?.mp hslot) he

/-- **The fan-out** of a publish is right iff no call of `MQTT_MatchTopic` that
    fails comes right after one that matches. -/
theorem fannedOut_iff (results : MatchResults) (list : SubscriptionList Addr Callback)
    (pxPublishInfo : Publish) :
    FannedOut results list pxPublishInfo
        (handleIncomingPublishes results list (some pxPublishInfo)) ↔
      List.IsChain NoLeak (occupiedResults results 0 list) := by
  have hhandled := publishHandled_loop results pxPublishInfo (s := ⟨false, false, []⟩) 0 list
    (by simp)
  have hcalls := calls_loop_iff results pxPublishInfo 0 list ⟨false, false, []⟩
  rw [isChain_cons_of_not_matched (by simp), List.nil_append] at hcalls
  exact (and_iff_left hhandled).trans hcalls

/-- When no call fails, the callbacks are those of the filters that match. -/
theorem handleIncomingPublishes_eq [DecidableEq Callback] {mem : Memory Addr}
    {matchTopic : Bytes → Bytes → Bool} {topicName : Bytes} {results : MatchResults}
    {list : SubscriptionList Addr Callback} (pxPublishInfo : Publish)
    (h : ∀ i e, list[i]? = some (some e) →
      results i = some (matchTopic topicName (e.filter mem))) :
    (handleIncomingPublishes results list (some pxPublishInfo)).1.map
        Invocation.pxIncomingPublishCallback =
      MqttAgent.handleIncomingPublishes mem matchTopic list topicName := by
  have hnone : none ∉ occupiedResults results 0 list := by
    apply occupiedResults_ne_none
    intro i e hi
    rw [h i e hi]
    exact Option.some_ne_none _
  have hchain : List.IsChain NoLeak (occupiedResults results 0 list) := by
    refine List.Pairwise.isChain (List.pairwise_of_forall_mem_list fun r _ r' hr' => ?_)
    rintro - rfl
    exact hnone hr'
  rw [((fannedOut_iff results list pxPublishInfo).mpr hchain).1]
  exact map_dueCalls pxPublishInfo 0 list fun i e hi => by rw [Nat.zero_add]; exact h i e hi

/-- Two subscriptions. -/
def twoSlots : SubscriptionList ℕ Unit := [some ⟨(), 1, 0, by decide⟩, some ⟨(), 1, 1, by decide⟩]

/-- The filter of the first slot matches, and the call for the second one fails. -/
def errorAfterMatch : MatchResults := fun lIndex => if lIndex = 0 then some true else none

/-- The second callback is called as well. -/
theorem not_fannedOut_errorAfterMatch :
    ¬ FannedOut errorAfterMatch twoSlots ()
      (handleIncomingPublishes errorAfterMatch twoSlots (some ())) := by
  rintro ⟨hcalls, -⟩
  exact absurd hcalls (by decide)

end Corstone.MqttAgent.PublishFanOut
