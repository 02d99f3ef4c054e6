import Corstone.Lib.BoundedSet
import Corstone.Lib.Run
import Corstone.MqttAgent.SubscriptionManager

/-!
# The subscription list as a bounded set

The subscription list in a run of `addSubscription` and `removeSubscription`, in
a memory that others change. The filters have no NUL, and their bytes stay as
they are while they are registered. The list then stands for the set of its
(filter, callback, context) triples.

* `duplicates_iff`, `holdsFilter_iff`: what the comparisons of filters find.
* `correct_of_inv`: one call.
* `refines_boundedSet`: every call of a run does to the set what the call of a
  bounded set does, and touches no other slot than it should.
-/

namespace Corstone.MqttAgent.SubscriptionSet

open Corstone.Lib

variable {Addr Callback : Type}

/-! ## Filters without NUL -/

/-- The `len` bytes at `a` are no NUL. -/
structure NulFree (mem : Memory Addr) (a : Addr) (len : UInt16) : Prop where
  length : ((mem a).take len.toNat).length = len.toNat
  nul : 0 ∉ (mem a).take len.toNat

/-- The triple of an element; `Callback` is the callback with its context. -/
def subscription (mem : Memory Addr) (e : SubscriptionElement Addr Callback) : Bytes × Callback :=
  (e.filter mem, e.pxIncomingPublishCallback)

section Comparisons

variable {mem : Memory Addr} {a : Addr} {len : UInt16} {e e' : SubscriptionElement Addr Callback}

theorem length_eq_of_filter_eq (ha : NulFree mem a len)
    (he : NulFree mem e.pcSubscriptionFilterString e.usFilterStringLength)
    (h : e.filter mem = (mem a).take len.toNat) : e.usFilterStringLength = len := by
  have hlength := congrArg List.length h
  have hl : (e.filter mem).length = e.usFilterStringLength.toNat := he.length
  rw [hl, ha.length] at hlength
  exact UInt16.toNat_inj.mp hlength

/-- The comparison in `removeSubscription`. -/
theorem holdsFilter_iff (ha : NulFree mem a len)
    (he : NulFree mem e.pcSubscriptionFilterString e.usFilterStringLength) :
    holdsFilter mem a len (some e) = true ↔ e.filter mem = (mem a).take len.toNat := by
  have hcompare := strncmp_eq_zero_iff_take (a := mem e.pcSubscriptionFilterString) ha.nul ha.length
  simp only [holdsFilter, Bool.and_eq_true, beq_iff_eq, hcompare]
  constructor
  · rintro ⟨hlength, hbytes⟩
    rw [← hbytes, ← hlength]
    rfl
  · intro h
    have hlength := length_eq_of_filter_eq ha he h
    refine ⟨hlength, ?_⟩
    rw [← h, ← hlength]
    rfl

/-- The comparison in `addSubscription`. -/
theorem duplicates_iff [DecidableEq Callback]
    (he : NulFree mem e.pcSubscriptionFilterString e.usFilterStringLength)
    (he' : NulFree mem e'.pcSubscriptionFilterString e'.usFilterStringLength) :
    e.duplicates mem e' = true ↔ subscription mem e' = subscription mem e := by
  simp only [SubscriptionElement.duplicates, subscription, Bool.and_eq_true, beq_iff_eq,
    decide_eq_true_eq, Prod.mk.injEq, and_congr_left_iff]
  intro _
  constructor
  · rintro ⟨hlength, hzero⟩
    rw [← hlength, strncmp_eq_zero_iff_take he'.nul he'.length] at hzero
    unfold SubscriptionElement.filter
    rw [hzero.symm, hlength]
  · intro h
    have hlength := length_eq_of_filter_eq he he' h
    refine ⟨hlength, ?_⟩
    rw [← hlength, strncmp_eq_zero_iff_take he'.nul he'.length, hlength]
    exact h.symm.trans (by rw [SubscriptionElement.filter, hlength])

end Comparisons

/-! ## The system -/

variable [DecidableEq Callback]

theorem length_addSubscription (mem : Memory Addr) (list : SubscriptionList Addr Callback)
    (a : Addr) (len : UInt16) (callback : Callback) :
    (addSubscription mem list a len callback).1.length = list.length := by
  have hcases := addSubscription_cases mem list a len callback
  generalize addSubscription mem list a len callback = p at hcases
  cases hcases with
  | refused => rfl
  | alreadyExists => rfl
  | added => exact List.length_set
  | full => rfl

omit [DecidableEq Callback] in
theorem length_removeSubscription (mem : Memory Addr) (list : SubscriptionList Addr Callback)
    (a : Addr) (len : UInt16) : (removeSubscription mem list a len).1.length = list.length := by
  unfold removeSubscription
  split_ifs
  · exact List.length_map _
  · rfl

/-- `xGlobalSubscriptionList` and the memory. -/
structure Registry (Addr Callback : Type) where
  mem : Memory Addr
  xGlobalSubscriptionList : SubscriptionList Addr Callback
  length : xGlobalSubscriptionList.length = maxSubscriptions

inductive Action (Addr Callback : Type)
  /-- Others write to the memory. -/
  | memory (mem : Memory Addr)
  /-- A call of `addSubscription`; `none` is `NULL`. -/
  | addSubscription (pcTopicFilterString : Option Addr) (usTopicFilterLength : UInt16)
      (pxIncomingPublishCallback : Option Callback)
  /-- A call of `removeSubscription`. -/
  | removeSubscription (pcTopicFilterString : Option Addr) (usTopicFilterLength : UInt16)

namespace Registry

variable (s : Registry Addr Callback)

/-- The list at start. -/
def new (mem : Memory Addr) : Registry Addr Callback :=
  ⟨mem, emptySubscriptionList, List.length_replicate⟩

/-- A call and its return value; the memory is no call. -/
def call : Action Addr Callback → SubscriptionList Addr Callback × Bool
  | .addSubscription (some a) len (some callback) =>
    MqttAgent.addSubscription s.mem s.xGlobalSubscriptionList a len callback
  | .removeSubscription (some a) len =>
    MqttAgent.removeSubscription s.mem s.xGlobalSubscriptionList a len
  | _ => (s.xGlobalSubscriptionList, false)

theorem length_call (a : Action Addr Callback) :
    (s.call a).1.length = maxSubscriptions := by
  unfold call
  split
  · exact (length_addSubscription _ _ _ _ _).trans s.length
  · exact (length_removeSubscription _ _ _ _).trans s.length
  · exact s.length

def step (a : Action Addr Callback) : Registry Addr Callback where
  mem := match a with
    | .memory mem => mem
    | _ => s.mem
  xGlobalSubscriptionList := (s.call a).1
  length := s.length_call a

/-- The triples in the list. -/
def subscriptions : List (Bytes × Callback) :=
  (occupied s.xGlobalSubscriptionList).map (subscription s.mem)

omit [DecidableEq Callback] in
theorem length_subscriptions_le : s.subscriptions.length ≤ maxSubscriptions := by
  rw [subscriptions, List.length_map, ← s.length]
  exact List.length_filterMap_le _ _

/-- The set that the list stands for. -/
def set : BoundedSet (Bytes × Callback) maxSubscriptions :=
  .ofList s.subscriptions s.length_subscriptions_le

end Registry

/-- The filters have no NUL, and those that are registered stay as they are. -/
def Allowed (s : Registry Addr Callback) : Action Addr Callback → Prop
  | .memory mem => ∀ e ∈ occupied s.xGlobalSubscriptionList, e.filter mem = e.filter s.mem
  | .addSubscription (some a) len _ => NulFree s.mem a len
  | .removeSubscription (some a) len => NulFree s.mem a len
  | _ => True

/-! ## The purpose -/

/-- What a call is to do to the set, and to return. -/
def due (s : Registry Addr Callback) :
    Action Addr Callback → BoundedSet (Bytes × Callback) maxSubscriptions × Bool
  | .addSubscription (some a) len (some callback) =>
    if len ≠ 0 then s.set.insert ((s.mem a).take len.toNat, callback) else (s.set, false)
  | .removeSubscription (some a) len =>
    s.set.removeIf fun t => t.1 = (s.mem a).take len.toNat
  | _ => (s.set, false)

/-- At most one slot changes, and it was free. -/
def ChangesOneFree (list list' : SubscriptionList Addr Callback) : Prop :=
  list' = list ∨ ∃ index e, list[index]? = some none ∧ list' = list.set index (some e)

/-- What the call does to the slots. -/
def Slots (s : Registry Addr Callback) (a : Action Addr Callback) : Prop :=
  match a with
  | .memory _ => True
  | .addSubscription (some a) len (some callback) =>
    ChangesOneFree s.xGlobalSubscriptionList (s.call (.addSubscription a len callback)).1 ∧
      (len ≠ 0 → ((s.call (.addSubscription a len callback)).2 = true ↔
        ((s.mem a).take len.toNat, callback) ∈
          (s.step (.addSubscription a len callback)).subscriptions))
  | .addSubscription _ _ _ => True
  | .removeSubscription (some a) len =>
    (∀ (index : ℕ) slot, s.xGlobalSubscriptionList[index]? = some slot →
      (s.call (.removeSubscription a len)).1[index]? =
        some (slot.filter fun e => e.filter s.mem ≠ (s.mem a).take len.toNat)) ∧
    ((s.call (.removeSubscription a len)).2 = true ↔
      ∃ e ∈ occupied s.xGlobalSubscriptionList, e.filter s.mem = (s.mem a).take len.toNat)
  | .removeSubscription none _ => True

/-- The action does what it should to the set and to the slots, and a call that
    returns `false` leaves the list as it was. -/
structure Correct (s : Registry Addr Callback) (a : Action Addr Callback) : Prop where
  refines : ((s.step a).set, (s.call a).2) = due s a
  slots : Slots s a
  unchanged : (s.call a).2 = false → (s.call a).1 = s.xGlobalSubscriptionList
  /-- The list does not hold a triple twice. -/
  nodup : (s.step a).subscriptions.Nodup

/-! ## The calls -/

/-- The list holds no triple twice, and its filters have no NUL. -/
structure Inv (s : Registry Addr Callback) : Prop where
  nodup : s.subscriptions.Nodup
  nulFree : ∀ e ∈ occupied s.xGlobalSubscriptionList,
    NulFree s.mem e.pcSubscriptionFilterString e.usFilterStringLength

section Calls

variable {s : Registry Addr Callback}

omit [DecidableEq Callback] in
theorem occupied_of_full {list : SubscriptionList Addr Callback} (hfull : none ∉ list) :
    (occupied list).length = list.length := by
  induction list with
  | nil => rfl
  | cons slot slots ih =>
    have hslots := ih fun h => hfull (List.mem_cons_of_mem slot h)
    cases slot with
    | none => exact absurd (List.mem_cons_self) hfull
    | some e =>
      show (occupied slots).length + 1 = slots.length + 1
      omega

theorem set_step_eq {a : Action Addr Callback}
    (hsubscriptions : (s.step a).subscriptions = s.subscriptions) : (s.step a).set = s.set :=
  BoundedSet.ofList_eq_of_perm (List.Perm.of_eq hsubscriptions)

/-- Nothing is called, or `NULL` is passed. -/
theorem correct_of_quiet (h : Inv s) {a : Action Addr Callback}
    (hsubscriptions : (s.step a).subscriptions = s.subscriptions) (hdue : due s a = (s.set, false))
    (hslots : Slots s a) (hcall : s.call a = (s.xGlobalSubscriptionList, false)) : Correct s a where
  refines := by
    rw [hdue, hcall]
    exact congrArg (·, false) (set_step_eq hsubscriptions)
  slots := hslots
  unchanged _ := by rw [hcall]
  nodup := by
    rw [hsubscriptions]
    exact h.nodup

omit [DecidableEq Callback] in
/-- A write to the memory that leaves the registered filters. -/
theorem subscriptions_memory {mem : Memory Addr}
    (hmem : ∀ e ∈ occupied s.xGlobalSubscriptionList, e.filter mem = e.filter s.mem) :
    (occupied s.xGlobalSubscriptionList).map (subscription mem) = s.subscriptions := by
  refine List.map_congr_left fun e he => ?_
  unfold subscription
  rw [hmem e he]

theorem subscriptions_step_of_call {a : Action Addr Callback}
    {p : SubscriptionList Addr Callback × Bool} (hmem : (s.step a).mem = s.mem)
    (hcall : s.call a = p) :
    (s.step a).subscriptions = (occupied p.1).map (subscription s.mem) := by
  unfold Registry.subscriptions
  rw [hmem]
  show (occupied (s.call a).1).map _ = _
  rw [hcall]

/-- The triple is in the list iff an element duplicates the new one. -/
theorem mem_subscriptions_iff (h : Inv s) {a : Addr} {len : UInt16} {callback : Callback}
    (hlen : len ≠ 0) (ha : NulFree s.mem a len) :
    ((s.mem a).take len.toNat, callback) ∈ s.subscriptions ↔
      ∃ e' ∈ occupied s.xGlobalSubscriptionList,
        SubscriptionElement.duplicates s.mem ⟨callback, len, a, hlen⟩ e' = true := by
  refine List.mem_map.trans (exists_congr fun e' => and_congr_right fun he' => ?_)
  exact (duplicates_iff (e := ⟨callback, len, a, hlen⟩) ha (h.nulFree e' he')).symm

theorem not_mem_subscriptions (h : Inv s) {a : Addr} {len : UInt16} {callback : Callback}
    (hlen : len ≠ 0) (ha : NulFree s.mem a len)
    (hnew : ∀ e' ∈ occupied s.xGlobalSubscriptionList,
      SubscriptionElement.duplicates s.mem ⟨callback, len, a, hlen⟩ e' = false) :
    ((s.mem a).take len.toNat, callback) ∉ s.subscriptions := by
  intro hmem
  obtain ⟨e', he', hdup⟩ := (mem_subscriptions_iff h hlen ha).mp hmem
  exact Bool.false_ne_true ((hnew e' he').symm.trans hdup)

/-- A call of `addSubscription` whose arguments are not `NULL`. -/
theorem correct_addSubscription (h : Inv s) {a : Addr} {len : UInt16} (callback : Callback)
    (ha : NulFree s.mem a len) : Correct s (.addSubscription (some a) len (some callback)) := by
  have hcases := addSubscription_cases s.mem s.xGlobalSubscriptionList a len callback
  generalize hcall : addSubscription s.mem s.xGlobalSubscriptionList a len callback = p at hcases
  have hsubscriptions := subscriptions_step_of_call
    (a := .addSubscription (some a) len (some callback)) (p := p) rfl hcall
  replace hcall : s.call (.addSubscription (some a) len (some callback)) = p := hcall
  cases hcases with
  | refused hlen =>
    refine correct_of_quiet h hsubscriptions ?_ ⟨?_, fun hne => absurd hlen hne⟩ hcall
    · exact if_neg (not_not.mpr hlen)
    · rw [hcall]
      exact Or.inl rfl
  | alreadyExists hlen hdup =>
    have hmem := (mem_subscriptions_iff h hlen ha).mpr hdup
    refine ⟨?_, ⟨?_, fun _ => ?_⟩, ?_, ?_⟩
    · show (BoundedSet.ofList _ _, _) = if len ≠ 0 then _ else _
      rw [if_pos hlen, hcall]
      refine Eq.trans ?_ (BoundedSet.insert_of_mem hmem).symm
      exact congrArg (·, true) (set_step_eq hsubscriptions)
    · rw [hcall]
      exact Or.inl rfl
    · rw [hcall, hsubscriptions]
      exact iff_of_true rfl hmem
    · rw [hcall]
      exact nofun
    · rw [hsubscriptions]
      exact h.nodup
  | added hlen index hfree hnew =>
    have hnot := not_mem_subscriptions h hlen ha hnew
    have hperm := (occupied_set_perm (e := ⟨callback, len, a, hlen⟩) hfree).map
      (subscription s.mem)
    rw [← hsubscriptions] at hperm
    have hlt : s.subscriptions.length < maxSubscriptions := by
      have hlength := hperm.length_eq
      have hle := (s.step (.addSubscription (some a) len (some callback))).length_subscriptions_le
      rw [List.map_cons, List.length_cons] at hlength
      show (List.map _ _).length < _
      omega
    refine ⟨?_, ⟨?_, fun _ => ?_⟩, ?_, ?_⟩
    · show (BoundedSet.ofList _ _, _) = if len ≠ 0 then _ else _
      rw [if_pos hlen, hcall]
      exact (BoundedSet.insert_of_lt hnot hlt hperm).symm
    · rw [hcall]
      exact Or.inr ⟨index, _, hfree, rfl⟩
    · rw [hcall]
      exact iff_of_true rfl (hperm.mem_iff.mpr List.mem_cons_self)
    · rw [hcall]
      exact nofun
    · exact hperm.nodup_iff.mpr (List.nodup_cons.mpr ⟨hnot, h.nodup⟩)
  | full hlen hfull hnew =>
    have hnot := not_mem_subscriptions h hlen ha hnew
    have hlength : s.subscriptions.length = maxSubscriptions := by
      rw [Registry.subscriptions, List.length_map, occupied_of_full hfull, s.length]
    refine ⟨?_, ⟨?_, fun _ => ?_⟩, ?_, ?_⟩
    · show (BoundedSet.ofList _ _, _) = if len ≠ 0 then _ else _
      rw [if_pos hlen, hcall]
      refine Eq.trans ?_ (BoundedSet.insert_of_full hnot h.nodup hlength).symm
      exact congrArg (·, false) (set_step_eq hsubscriptions)
    · rw [hcall]
      exact Or.inl rfl
    · rw [hcall, hsubscriptions]
      exact iff_of_false Bool.false_ne_true hnot
    · rw [hcall]
      exact fun _ => rfl
    · rw [hsubscriptions]
      exact h.nodup

omit [DecidableEq Callback] in
/-- The elements that are left when slots are emptied. -/
theorem occupied_emptied (p : Option (SubscriptionElement Addr Callback) → Bool)
    (list : SubscriptionList Addr Callback) :
    occupied (list.map fun slot => if p slot then none else slot) =
      (occupied list).filter fun e => !p (some e) := by
  induction list with
  | nil => rfl
  | cons slot slots ih =>
    cases slot with
    | none =>
      have hslot : (if p none then none else none : Option (SubscriptionElement Addr Callback)) =
          none := ite_self _
      rw [List.map_cons, hslot]
      exact ih
    | some e =>
      have hoccupied : occupied (some e :: slots) = e :: occupied slots := rfl
      rw [List.map_cons, hoccupied, List.filter_cons]
      by_cases hp : p (some e) = true
      · rw [if_pos hp, hp, if_neg (by decide)]
        exact ih
      · rw [if_neg hp, Bool.eq_false_of_not_eq_true hp, if_pos (by decide), ← ih]
        rfl

/-- A call of `removeSubscription` whose argument is not `NULL`. -/
theorem correct_removeSubscription (h : Inv s) {a : Addr} {len : UInt16}
    (ha : NulFree s.mem a len) : Correct s (.removeSubscription (some a) len) := by
  have hcall : s.call (.removeSubscription (some a) len) = _ :=
    removeSubscription_eq s.mem s.xGlobalSubscriptionList a len
  have hholds : ∀ e ∈ occupied s.xGlobalSubscriptionList, holdsFilter s.mem a len (some e) =
      decide (e.filter s.mem = (s.mem a).take len.toNat) := fun e he => by
    rw [Bool.eq_iff_iff, decide_eq_true_iff]
    exact holdsFilter_iff ha (h.nulFree e he)
  have hslot : ∀ slot ∈ s.xGlobalSubscriptionList,
      (if holdsFilter s.mem a len slot then none else slot) =
        slot.filter fun e => e.filter s.mem ≠ (s.mem a).take len.toNat := by
    rintro (_ | e) hmem
    · rfl
    · rw [hholds e (mem_occupied.mpr hmem)]
      by_cases heq : e.filter s.mem = (s.mem a).take len.toNat
      · simp [Option.filter, heq]
      · simp [Option.filter, heq]
  have hany : s.xGlobalSubscriptionList.any (holdsFilter s.mem a len) = true ↔
      ∃ e ∈ occupied s.xGlobalSubscriptionList, e.filter s.mem = (s.mem a).take len.toNat := by
    rw [List.any_eq_true]
    constructor
    · rintro ⟨_ | e, hmem, hslot⟩
      · exact absurd hslot Bool.false_ne_true
      · have he := mem_occupied.mpr hmem
        exact ⟨e, he, (holdsFilter_iff ha (h.nulFree e he)).mp hslot⟩
    · rintro ⟨e, he, heq⟩
      exact ⟨some e, mem_occupied.mp he, (holdsFilter_iff ha (h.nulFree e he)).mpr heq⟩
  have hsubscriptions : (s.step (.removeSubscription (some a) len)).subscriptions =
      s.subscriptions.filter fun t => !decide (t.1 = (s.mem a).take len.toNat) := by
    rw [subscriptions_step_of_call rfl hcall, occupied_emptied, Registry.subscriptions,
      List.filter_map]
    congr 1
    refine List.filter_congr fun e he => ?_
    rw [hholds e he]
    rfl
  refine ⟨?_, ⟨?_, ?_⟩, ?_, ?_⟩
  · show (BoundedSet.ofList _ _, _) = BoundedSet.removeIf _ _
    refine Eq.trans (congrArg (Prod.mk _) ?_) (BoundedSet.removeIf_ofList _ hsubscriptions).symm
    rw [hcall, Bool.eq_iff_iff, hany, List.any_eq_true]
    show _ ↔ ∃ t ∈ (occupied _).map _, _
    simp [subscription]
  · intro index slot hindex
    rw [hcall]
    show (List.map _ _)[index]? = _
    rw [List.getElem?_map, hindex, Option.map_some]
    exact congrArg some (hslot slot (List.mem_of_getElem? hindex))
  · rw [hcall]
    exact hany
  · rw [hcall]
    intro hfalse
    refine (List.map_congr_left fun slot hmem => ?_).trans (List.map_id _)
    rw [if_neg]
    · rfl
    · intro hslot
      exact Bool.false_ne_true (hfalse.symm.trans (List.any_eq_true.mpr ⟨slot, hmem, hslot⟩))
  · rw [hsubscriptions]
    exact h.nodup.filter _

/-! ## The runs -/

/-- **One call** does to the set and to the slots what it should. -/
theorem correct_of_inv (h : Inv s) (a : Action Addr Callback) (ha : Allowed s a) :
    Correct s a := by
  cases a with
  | memory mem => exact correct_of_quiet h (subscriptions_memory ha) rfl trivial rfl
  | addSubscription pcTopicFilterString len pxIncomingPublishCallback =>
    cases pcTopicFilterString with
    | none => exact correct_of_quiet h rfl rfl trivial rfl
    | some a =>
      cases pxIncomingPublishCallback with
      | none => exact correct_of_quiet h rfl rfl trivial rfl
      | some callback => exact correct_addSubscription h callback ha
  | removeSubscription pcTopicFilterString len =>
    cases pcTopicFilterString with
    | none => exact correct_of_quiet h rfl rfl trivial rfl
    | some a => exact correct_removeSubscription h ha

omit [DecidableEq Callback] in
theorem nulFree_memory (h : ∀ e ∈ occupied s.xGlobalSubscriptionList,
      NulFree s.mem e.pcSubscriptionFilterString e.usFilterStringLength) {mem : Memory Addr}
    (hmem : ∀ e ∈ occupied s.xGlobalSubscriptionList, e.filter mem = e.filter s.mem) :
    ∀ e ∈ occupied s.xGlobalSubscriptionList,
      NulFree mem e.pcSubscriptionFilterString e.usFilterStringLength := by
  intro e he
  have hfilter : (mem e.pcSubscriptionFilterString).take e.usFilterStringLength.toNat =
      (s.mem e.pcSubscriptionFilterString).take e.usFilterStringLength.toNat := hmem e he
  obtain ⟨hlength, hnul⟩ := h e he
  exact ⟨by rw [hfilter]; exact hlength, by rw [hfilter]; exact hnul⟩

theorem nulFree_addSubscription (h : Inv s) {a : Addr} {len : UInt16} (callback : Callback)
    (ha : NulFree s.mem a len) :
    ∀ e ∈ occupied (addSubscription s.mem s.xGlobalSubscriptionList a len callback).1,
      NulFree s.mem e.pcSubscriptionFilterString e.usFilterStringLength := by
  have hcases := addSubscription_cases s.mem s.xGlobalSubscriptionList a len callback
  generalize addSubscription s.mem s.xGlobalSubscriptionList a len callback = p at hcases
  cases hcases with
  | refused => exact h.nulFree
  | alreadyExists => exact h.nulFree
  | full => exact h.nulFree
  | added hlen index hfree hnew =>
    intro e he
    obtain rfl | hold := List.mem_cons.mp ((occupied_set_perm hfree).mem_iff.mp he)
    · exact ha
    · exact h.nulFree e hold

theorem Inv.step (h : Inv s) (a : Action Addr Callback) (ha : Allowed s a) : Inv (s.step a) where
  nodup := (correct_of_inv h a ha).nodup
  nulFree := by
    cases a with
    | memory mem => exact nulFree_memory h.nulFree ha
    | addSubscription pcTopicFilterString len pxIncomingPublishCallback =>
      cases pcTopicFilterString with
      | none => exact h.nulFree
      | some a =>
        cases pxIncomingPublishCallback with
        | none => exact h.nulFree
        | some callback => exact nulFree_addSubscription h callback ha
    | removeSubscription pcTopicFilterString len =>
      cases pcTopicFilterString with
      | none => exact h.nulFree
      | some a =>
        intro e he
        exact h.nulFree e ((occupied_removeSubscription_sublist a len).subset he)

end Calls

omit [DecidableEq Callback] in
theorem inv_new (mem : Memory Addr) : Inv (.new mem : Registry Addr Callback) :=
  ⟨List.nodup_nil, nofun⟩

/-- **The subscription list** refines a bounded set: in every run on filters
    without NUL, whose bytes stay as they are while they are registered, every call
    does to the set and to the slots what it should. -/
theorem refines_boundedSet (mem : Memory Addr) (as : List (Action Addr Callback))
    (h : Along Registry.step Allowed (.new mem) as) :
    Along Registry.step Correct (.new mem) as :=
  along_of_inv (fun _ a hs => hs.step a) (fun _ a hs => correct_of_inv hs a) (inv_new mem) h

/-- Two filters of which one is a prefix of the other, and a removal. -/
def prefixFilters : List (Action ℕ Unit) :=
  [.addSubscription (some 0) 1 (some ()), .addSubscription (some 0) 2 (some ()),
    .removeSubscription (some 0) 1]

theorem refines_boundedSet_prefixFilters :
    Along Registry.step Correct (.new fun _ => [97, 98]) prefixFilters :=
  refines_boundedSet _ _ ⟨⟨rfl, by decide⟩, ⟨rfl, by decide⟩, ⟨rfl, by decide⟩, trivial⟩

end Corstone.MqttAgent.SubscriptionSet
