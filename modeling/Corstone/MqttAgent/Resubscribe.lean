import Corstone.MqttAgent.AgentTask
import Corstone.MqttAgent.SubscriptionSet

/-!
# The resubscribe command and its completion

Models of `prvHandleResubscribe` with its static arrays, and of
`prvReSubscriptionCommandCallback` (`mqtt_agent_task.c`, lines 486–546 and
401–431). A command that fails or is cancelled completes with a status, and with
SUBACK codes only if there was a SUBACK. The list and the memory at the
completion are not those at the submission.

* `filters_prvHandleResubscribe`: the occupied slots are compacted into the
  array, whatever an earlier command has left in it.
* `prvHandleResubscribe_eq`: what the task's model submits.
* `completed_iff`: when a completion is handled as it should; `refused_of_taken`: filters
  without NUL are taken for no others.
* `resubscribe_iff`: command and completion.
* `not_resubscribe_cancelled`: a command that is cancelled.
-/

namespace Corstone.MqttAgent.Resubscribe

open Corstone.Lib

variable {Addr Callback : Type}

/-! ## The functions -/

/-- `MQTTAgentSubscribeArgs_t`. -/
structure SubscribeArgs (Addr : Type) where
  pSubscribeInfo : List (MQTTSubscribeInfo Addr)
  numSubscriptions : ℕ

/-- The filters of a command. -/
def SubscribeArgs.filters (args : SubscribeArgs Addr) : List (MQTTSubscribeInfo Addr) :=
  args.pSubscribeInfo.take args.numSubscriptions

/-- The loop of `prvHandleResubscribe` (lines 499–519) on `xSubInfo` and
    `usNumSubscriptions`. -/
def collect : SubscriptionList Addr Callback → List (MQTTSubscribeInfo Addr) × ℕ →
    List (MQTTSubscribeInfo Addr) × ℕ
  | [], s => s
  | none :: slots, s => collect slots s
  | some e :: slots, (xSubInfo, usNumSubscriptions) =>
    collect slots (xSubInfo.set usNumSubscriptions e.subscribeInfo, usNumSubscriptions + 1)

/-- The array, the commands that are submitted, and the result. -/
structure Resubscription (Addr : Type) where
  xSubInfo : List (MQTTSubscribeInfo Addr)
  submitted : List (SubscribeArgs Addr)
  result : Bool

/-- `prvHandleResubscribe`; `xSubInfo` is what an earlier call has left there, and
    `subscribe` the result of `MQTTAgent_Subscribe`. -/
def prvHandleResubscribe (xSubInfo : List (MQTTSubscribeInfo Addr))
    (list : SubscriptionList Addr Callback) (subscribe : Bool) : Resubscription Addr :=
  let (xSubInfo, usNumSubscriptions) := collect list (xSubInfo, 0)
  if usNumSubscriptions > 0 then ⟨xSubInfo, [⟨xSubInfo, usNumSubscriptions⟩], subscribe⟩
  else ⟨xSubInfo, [], true⟩

/-- `MQTTSubAckFailure`. -/
def mqttSubAckFailure : UInt8 := 0x80

/-- `MQTTAgentReturnInfo_t`. -/
structure ReturnInfo where
  /-- `returnCode` is `MQTTSuccess`. -/
  success : Bool
  /-- The codes, or `NULL`. -/
  pSubackCodes : Option (List UInt8)

/-- The codes that there are. -/
def ReturnInfo.codes (r : ReturnInfo) : List UInt8 := r.pSubackCodes.getD []

section Functions

variable (mem : Memory Addr)

/-- `removeSubscription` for an element of the array. -/
def remove (list : SubscriptionList Addr Callback) (info : MQTTSubscribeInfo Addr) :
    SubscriptionList Addr Callback :=
  (removeSubscription mem list info.pTopicFilter info.topicFilterLength).1

/-- The body of the loop of `prvReSubscriptionCommandCallback` (lines 413–425).
    Behind the codes it reads what is in memory there, `stray`. -/
def checkSuback (stray : ℕ → UInt8) (args : SubscribeArgs Addr) (r : ReturnInfo)
    (list : SubscriptionList Addr Callback) (xIndex : ℕ) : SubscriptionList Addr Callback :=
  if (r.codes[xIndex]?).getD (stray xIndex) = mqttSubAckFailure then
    match args.pSubscribeInfo[xIndex]? with
    | some info => remove mem list info
    | none => list
  else list

/-- `prvReSubscriptionCommandCallback`: the list, and the places of the codes that
    it has read. -/
def prvReSubscriptionCommandCallback (stray : ℕ → UInt8) (args : SubscribeArgs Addr)
    (r : ReturnInfo) (list : SubscriptionList Addr Callback) :
    SubscriptionList Addr Callback × List ℕ :=
  if r.success = true then (list, [])
  else
    ((List.range args.numSubscriptions).foldl (checkSuback mem stray args r) list,
      List.range args.numSubscriptions)

end Functions

/-! ## The purpose -/

/-- One command is submitted, and holds the filters of the occupied slots in their
    order. -/
def Submits (list : SubscriptionList Addr Callback) (submitted : List (SubscribeArgs Addr)) :
    Prop :=
  submitted.map SubscribeArgs.filters = [(occupied list).map SubscriptionElement.subscribeInfo]

/-- A filter of the command whose code is `MQTTSubAckFailure`. -/
def RefusedFilter (filters : List (MQTTSubscribeInfo Addr)) (r : ReturnInfo)
    (info : MQTTSubscribeInfo Addr) : Prop :=
  ∃ i : ℕ, filters[i]? = some info ∧ r.codes[i]? = some mqttSubAckFailure

/-- The element has a refused filter. -/
def Refused (mem : Memory Addr) (filters : List (MQTTSubscribeInfo Addr)) (r : ReturnInfo)
    (e : SubscriptionElement Addr Callback) : Prop :=
  ∃ info, RefusedFilter filters r info ∧ e.usFilterStringLength = info.topicFilterLength ∧
    e.filter mem = (mem info.pTopicFilter).take info.topicFilterLength.toNat

/-- Only codes that exist are read, the elements with refused filters are removed,
    and all others stay in place. -/
structure Completed (mem : Memory Addr) (filters : List (MQTTSubscribeInfo Addr)) (r : ReturnInfo)
    (list : SubscriptionList Addr Callback)
    (out : SubscriptionList Addr Callback × List ℕ) : Prop where
  reads : ∀ i ∈ out.2, i < r.codes.length
  removed : ∀ (index : ℕ) e, list[index]? = some (some e) → Refused mem filters r e →
    out.1[index]? = some none
  stays : ∀ (index : ℕ) slot, list[index]? = some slot → (∀ e ∈ slot, ¬ Refused mem filters r e) →
    out.1[index]? = some slot

/-- The element has a filter that `strncmp` takes for a refused one. -/
def TakenForRefused (mem : Memory Addr) (filters : List (MQTTSubscribeInfo Addr)) (r : ReturnInfo)
    (e : SubscriptionElement Addr Callback) : Prop :=
  ∃ info, RefusedFilter filters r info ∧
    holdsFilter mem info.pTopicFilter info.topicFilterLength (some e) = true

/-- A command that succeeds has no refused filter in the list. One that does not has
    a code for every filter, and no element is taken for one with a refused
    filter. -/
def CompletionCondition (mem : Memory Addr) (filters : List (MQTTSubscribeInfo Addr))
    (r : ReturnInfo) (list : SubscriptionList Addr Callback) : Prop :=
  if r.success = true then ∀ e ∈ occupied list, ¬ Refused mem filters r e
  else filters.length ≤ r.codes.length ∧
    ∀ e ∈ occupied list, TakenForRefused mem filters r e → Refused mem filters r e

/-! ## The command -/

section Command

/-- **The loop** fills the array from `n` on with the occupied slots. -/
theorem collect_spec (list : SubscriptionList Addr Callback)
    (xSubInfo : List (MQTTSubscribeInfo Addr)) (n : ℕ)
    (hroom : n + list.length ≤ xSubInfo.length) :
    (collect list (xSubInfo, n)).2 = n + (occupied list).length ∧
      (collect list (xSubInfo, n)).1.take (n + (occupied list).length) =
        xSubInfo.take n ++ (occupied list).map SubscriptionElement.subscribeInfo := by
  induction list generalizing xSubInfo n with
  | nil => simp [collect, occupied]
  | cons slot slots ih =>
    rw [List.length_cons] at hroom
    cases slot with
    | none => exact ih xSubInfo n (by omega)
    | some e =>
      have hoccupied : occupied (some e :: slots) = e :: occupied slots := rfl
      obtain ⟨hnum, harray⟩ := ih (xSubInfo.set n e.subscribeInfo) (n + 1)
        (by rw [List.length_set]; omega)
      have hlength : n + (occupied (some e :: slots)).length =
          n + 1 + (occupied slots).length := by
        rw [hoccupied, List.length_cons]
        omega
      rw [hlength]
      refine ⟨hnum, harray.trans ?_⟩
      have htake : (xSubInfo.set n e.subscribeInfo).take (n + 1) =
          xSubInfo.take n ++ [e.subscribeInfo] := by
        rw [List.take_add_one, List.take_set_of_le (le_refl n), List.getElem?_set_self (by omega)]
        rfl
      rw [htake, hoccupied, List.map_cons, List.append_assoc]
      rfl

variable {xSubInfo : List (MQTTSubscribeInfo Addr)} {list : SubscriptionList Addr Callback}

theorem filters_prvHandleResubscribe (hroom : list.length ≤ xSubInfo.length) (subscribe : Bool) :
    (prvHandleResubscribe xSubInfo list subscribe).submitted.map SubscribeArgs.filters =
      if occupied list = [] then []
      else [(occupied list).map SubscriptionElement.subscribeInfo] := by
  obtain ⟨hnum, harray⟩ := collect_spec list xSubInfo 0 (by omega)
  rw [Nat.zero_add] at hnum harray
  unfold prvHandleResubscribe
  dsimp only
  rw [hnum]
  by_cases hempty : occupied list = []
  · rw [hempty, if_neg (by simp), if_pos rfl]
    rfl
  · rw [if_pos (List.length_pos_iff.mpr hempty), if_neg hempty]
    show [List.take _ _] = _
    rw [harray]
    rfl

/-- A command is submitted as it should iff a slot is occupied. -/
theorem submits_iff (hroom : list.length ≤ xSubInfo.length) (subscribe : Bool) :
    Submits list (prvHandleResubscribe xSubInfo list subscribe).submitted ↔
      occupied list ≠ [] := by
  unfold Submits
  rw [filters_prvHandleResubscribe hroom]
  by_cases hempty : occupied list = []
  · rw [if_pos hempty]
    exact iff_of_false nofun (not_not.mpr hempty)
  · rw [if_neg hempty]
    exact iff_of_true rfl hempty

/-- What the model of the task submits. -/
theorem prvHandleResubscribe_eq (r : ConnectResults) (σ : AgentTask Addr Callback)
    (hroom : σ.xGlobalSubscriptionList.length ≤ xSubInfo.length) :
    (MqttAgent.prvHandleResubscribe r σ).1.log =
      ((prvHandleResubscribe xSubInfo σ.xGlobalSubscriptionList r.subscribe).submitted.map
        SubscribeArgs.filters).map (.mqttAgentSubscribe · r.subscribe) ++ σ.log := by
  rw [filters_prvHandleResubscribe hroom]
  unfold MqttAgent.prvHandleResubscribe AgentTask.filters
  by_cases hempty : occupied σ.xGlobalSubscriptionList = []
  · rw [hempty]
    rfl
  · rw [if_neg hempty, if_pos (by simpa [List.length_pos_iff] using hempty)]
    rfl

end Command

/-! ## The completion -/

section Completion

variable {mem : Memory Addr} {args : SubscribeArgs Addr} {r : ReturnInfo} {stray : ℕ → UInt8}
  {list : SubscriptionList Addr Callback} {e : SubscriptionElement Addr Callback}
  {filters : List (MQTTSubscribeInfo Addr)}

/-- Slots are emptied one condition after the other. -/
theorem foldl_emptied (p : ℕ → Option (SubscriptionElement Addr Callback) → Bool)
    (hnone : ∀ i, p i none = false) (is : List ℕ) (list : SubscriptionList Addr Callback) :
    is.foldl (fun list i => list.map fun slot => if p i slot then none else slot) list =
      list.map fun slot => if is.any fun i => p i slot then none else slot := by
  induction is generalizing list with
  | nil => simp
  | cons i is ih =>
    have hempty : (is.any fun i => p i none) = false := by simp [hnone]
    rw [List.foldl_cons, ih, List.map_map]
    refine List.map_congr_left fun slot _ => ?_
    rw [Function.comp_apply, List.any_cons]
    cases hi : p i slot with
    | true => rw [if_pos rfl, hempty, Bool.true_or, if_pos rfl, if_neg Bool.false_ne_true]
    | false => rw [if_neg Bool.false_ne_true, Bool.false_or]

/-- The slot is emptied for the code at `xIndex`. -/
def hit (mem : Memory Addr) (stray : ℕ → UInt8) (args : SubscribeArgs Addr) (r : ReturnInfo)
    (xIndex : ℕ) (slot : Option (SubscriptionElement Addr Callback)) : Bool :=
  (r.codes[xIndex]?).getD (stray xIndex) = mqttSubAckFailure &&
    (args.pSubscribeInfo[xIndex]?).any fun info =>
      holdsFilter mem info.pTopicFilter info.topicFilterLength slot

theorem checkSuback_eq (list : SubscriptionList Addr Callback) (xIndex : ℕ) :
    checkSuback mem stray args r list xIndex =
      list.map fun slot => if hit mem stray args r xIndex slot then none else slot := by
  unfold checkSuback
  split_ifs with hcode
  · cases hinfo : args.pSubscribeInfo[xIndex]? with
    | none => simp [hit, hinfo]
    | some info =>
      show (removeSubscription _ _ _ _).1 = _
      rw [removeSubscription_eq]
      simp [hit, hcode, hinfo]
  · simp [hit, hcode]

/-- With a code for every filter, the slots that are emptied are those whose filter
    is taken for a refused one. -/
theorem any_hit_iff (hcodes : args.numSubscriptions ≤ r.codes.length) :
    ((List.range args.numSubscriptions).any fun i => hit mem stray args r i (some e)) = true ↔
      TakenForRefused mem args.filters r e := by
  simp only [List.any_eq_true, List.mem_range, hit, Bool.and_eq_true, decide_eq_true_eq,
    Option.any_eq_true]
  constructor
  · rintro ⟨i, hi, hcode, info, hinfo, hholds⟩
    have hlt : i < r.codes.length := by omega
    rw [List.getElem?_eq_getElem hlt, Option.getD_some] at hcode
    refine ⟨info, ⟨i, ?_, ?_⟩, hholds⟩
    · rw [SubscribeArgs.filters, List.getElem?_take_of_lt hi, hinfo]
    · rw [List.getElem?_eq_getElem hlt, hcode]
  · rintro ⟨info, ⟨i, hinfo, hcode⟩, hholds⟩
    rw [SubscribeArgs.filters, List.getElem?_take] at hinfo
    split_ifs at hinfo with hi
    refine ⟨i, hi, ?_, info, hinfo, hholds⟩
    rw [hcode, Option.getD_some]

/-- A filter is taken for itself. -/
theorem Refused.taken (h : Refused mem filters r e) : TakenForRefused mem filters r e := by
  obtain ⟨info, hrefused, hlength, hfilter⟩ := h
  refine ⟨info, hrefused, ?_⟩
  unfold SubscriptionElement.filter at hfilter
  rw [hlength] at hfilter
  simp only [holdsFilter, hlength, beq_self_eq_true, Bool.true_and, beq_iff_eq]
  rw [strncmp_take, hfilter]
  exact strncmp_self _ _

/-- A completion with `MQTTSuccess`. -/
theorem completed_success_iff (hsuccess : r.success = true) :
    Completed mem args.filters r list (prvReSubscriptionCommandCallback mem stray args r list) ↔
      ∀ e ∈ occupied list, ¬ Refused mem args.filters r e := by
  unfold prvReSubscriptionCommandCallback
  rw [if_pos hsuccess]
  constructor
  · intro h e he hrefused
    obtain ⟨index, hindex⟩ := List.getElem?_of_mem (mem_occupied.mp he)
    exact nomatch hindex.symm.trans (h.removed index e hindex hrefused)
  · intro h
    refine ⟨nofun, fun index e hindex hrefused => ?_, fun _ _ hindex _ => hindex⟩
    exact absurd hrefused (h e (mem_occupied.mpr (List.mem_of_getElem? hindex)))

/-- A completion with another status. -/
theorem completed_failure_iff (hfailure : r.success = false) :
    Completed mem args.filters r list (prvReSubscriptionCommandCallback mem stray args r list) ↔
      args.numSubscriptions ≤ r.codes.length ∧
        ∀ e ∈ occupied list, TakenForRefused mem args.filters r e →
          Refused mem args.filters r e := by
  have hreads : (∀ i ∈ List.range args.numSubscriptions, i < r.codes.length) ↔
      args.numSubscriptions ≤ r.codes.length := by
    constructor
    · intro h
      by_contra hlt
      have := h r.codes.length (List.mem_range.mpr (by omega))
      omega
    · intro h i hi
      have := List.mem_range.mp hi
      omega
  have hfold : (List.range args.numSubscriptions).foldl (checkSuback mem stray args r) list =
      list.map fun slot => if (List.range args.numSubscriptions).any fun i =>
        hit mem stray args r i slot then none else slot := by
    rw [← foldl_emptied _ fun i => by cases h : args.pSubscribeInfo[i]? <;>
      simp [hit, h, holdsFilter]]
    congr 1
    funext list i
    exact checkSuback_eq list i
  unfold prvReSubscriptionCommandCallback
  rw [if_neg (by rw [hfailure]; decide), hfold]
  constructor
  · intro h
    have hcodes := hreads.mp h.reads
    refine ⟨hcodes, fun e he htaken => ?_⟩
    by_contra hnot
    obtain ⟨index, hindex⟩ := List.getElem?_of_mem (mem_occupied.mp he)
    have hstays := h.stays index (some e) hindex (by rintro _ ⟨⟩; exact hnot)
    rw [List.getElem?_map, hindex, Option.map_some, if_pos ((any_hit_iff hcodes).mpr htaken)]
      at hstays
    exact Option.some_ne_none e (Option.some.inj hstays).symm
  · rintro ⟨hcodes, hrefused⟩
    refine ⟨hreads.mpr hcodes, fun index e hindex h => ?_, fun index slot hindex hnot => ?_⟩
    · rw [List.getElem?_map, hindex, Option.map_some, if_pos ((any_hit_iff hcodes).mpr h.taken)]
    · rw [List.getElem?_map, hindex, Option.map_some]
      cases slot with
      | none => rw [ite_self]
      | some e =>
        rw [if_neg]
        intro hhit
        have he := mem_occupied.mpr (List.mem_of_getElem? hindex)
        exact hnot e rfl (hrefused e he ((any_hit_iff hcodes).mp hhit))

/-- **A completion** is handled as it should iff it meets the condition. -/
theorem completed_iff (hargs : args.filters.length = args.numSubscriptions) :
    Completed mem args.filters r list (prvReSubscriptionCommandCallback mem stray args r list) ↔
      CompletionCondition mem args.filters r list := by
  unfold CompletionCondition
  cases hsuccess : r.success with
  | true => exact completed_success_iff hsuccess
  | false =>
    rw [if_neg Bool.false_ne_true, hargs]
    exact completed_failure_iff hsuccess

/-- Filters without NUL are taken for no others. -/
theorem refused_of_taken
    (hfilters : ∀ info ∈ filters,
      SubscriptionSet.NulFree mem info.pTopicFilter info.topicFilterLength)
    (he : SubscriptionSet.NulFree mem e.pcSubscriptionFilterString e.usFilterStringLength)
    (h : TakenForRefused mem filters r e) : Refused mem filters r e := by
  obtain ⟨info, hrefused, hholds⟩ := h
  obtain ⟨i, hinfo, -⟩ := id hrefused
  have hnul := hfilters info (List.mem_of_getElem? hinfo)
  have hfilter := (SubscriptionSet.holdsFilter_iff hnul he).mp hholds
  exact ⟨info, hrefused, SubscriptionSet.length_eq_of_filter_eq hnul he hfilter, hfilter⟩

end Completion

/-! ## Command and completion -/

/-- **The resubscription** submits one command with the filters of the occupied slots
    and handles its completion as it should iff a slot is occupied and the
    completion meets the condition. -/
theorem resubscribe_iff {xSubInfo : List (MQTTSubscribeInfo Addr)}
    {list : SubscriptionList Addr Callback} (hroom : list.length ≤ xSubInfo.length)
    (subscribe : Bool) (mem : Memory Addr) (stray : ℕ → UInt8) (r : ReturnInfo)
    (list' : SubscriptionList Addr Callback) :
    (Submits list (prvHandleResubscribe xSubInfo list subscribe).submitted ∧
      ∀ args ∈ (prvHandleResubscribe xSubInfo list subscribe).submitted,
        Completed mem args.filters r list'
          (prvReSubscriptionCommandCallback mem stray args r list')) ↔
    occupied list ≠ [] ∧
      CompletionCondition mem ((occupied list).map SubscriptionElement.subscribeInfo) r list' := by
  obtain ⟨hnum, harray⟩ := collect_spec list xSubInfo 0 (by omega)
  rw [Nat.zero_add] at hnum harray
  rw [submits_iff hroom]
  refine and_congr_right fun hne => ?_
  have hargs : (⟨(collect list (xSubInfo, 0)).1, (collect list (xSubInfo, 0)).2⟩ :
      SubscribeArgs Addr).filters = (occupied list).map SubscriptionElement.subscribeInfo := by
    rw [SubscribeArgs.filters, hnum]
    exact harray
  have hsubmitted : (prvHandleResubscribe xSubInfo list subscribe).submitted =
      [⟨(collect list (xSubInfo, 0)).1, (collect list (xSubInfo, 0)).2⟩] := by
    have hpos : (collect list (xSubInfo, 0)).2 > 0 := by
      rw [hnum]
      exact List.length_pos_iff.mpr hne
    unfold prvHandleResubscribe
    dsimp only
    rw [if_pos hpos]
  rw [hsubmitted, List.forall_mem_singleton, completed_iff, hargs]
  rw [hargs, List.length_map, hnum]

theorem one_ne_zero_uint16 : (1 : UInt16) ≠ 0 := by decide

/-- A list with one subscription. -/
def oneSubscription : SubscriptionList ℕ Unit :=
  some ⟨(), 1, 0, one_ne_zero_uint16⟩ :: List.replicate 9 none

/-- The array before the first command. -/
def zeroed : List (MQTTSubscribeInfo ℕ) := List.replicate maxSubscriptions ⟨0, 0⟩

/-- The broker refuses the filter, and its code says so. -/
theorem resubscribe_iff_refused :
    Submits oneSubscription (prvHandleResubscribe zeroed oneSubscription true).submitted ∧
      ∀ args ∈ (prvHandleResubscribe zeroed oneSubscription true).submitted,
        Completed (fun _ => [97]) args.filters ⟨false, some [0x80]⟩ oneSubscription
          (prvReSubscriptionCommandCallback (fun _ => [97]) (fun _ => 0) args
            ⟨false, some [0x80]⟩ oneSubscription) := by
  refine (resubscribe_iff (by decide) true (fun _ => [97]) (fun _ => 0) ⟨false, some [0x80]⟩
    oneSubscription).mpr ⟨by decide, by decide, ?_⟩
  intro e he _
  obtain rfl : e = ⟨(), 1, 0, one_ne_zero_uint16⟩ := by simpa [oneSubscription, occupied] using he
  exact ⟨⟨0, 1⟩, ⟨0, rfl, rfl⟩, rfl, rfl⟩

/-- The command is cancelled, and the code that is read does not exist. -/
theorem not_resubscribe_cancelled :
    ¬ (Submits oneSubscription (prvHandleResubscribe zeroed oneSubscription true).submitted ∧
      ∀ args ∈ (prvHandleResubscribe zeroed oneSubscription true).submitted,
        Completed (fun _ => [97]) args.filters ⟨false, none⟩ oneSubscription
          (prvReSubscriptionCommandCallback (fun _ => [97]) (fun _ => 0) args ⟨false, none⟩
            oneSubscription)) := by
  rintro ⟨-, h⟩
  have hread := (h _ (List.mem_singleton_self _)).reads 0 (by decide)
  exact absurd hread (by decide)

end Corstone.MqttAgent.Resubscribe
