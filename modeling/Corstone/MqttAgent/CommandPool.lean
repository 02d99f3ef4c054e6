import Corstone.Lib.BoundedQueue
import Corstone.Lib.Run

/-!
# The command pool

Models of `Agent_InitializePool`, `Agent_GetCommand` and `Agent_ReleaseCommand`
(`freertos_command_pool.c`) over `Agent_MessageSend` and `Agent_MessageReceive`
(`freertos_agent_message.c`). A pointer is an address, `NULL` is 0, and the pool
is an array of structures somewhere else. A function ends with a value or with
the assertion that fails.

* `populate_eq`: the loop of the initialisation fills the queue.
* `correct_of_inv`: one call.
* `pool_conserved`: from the first initialisation on every structure is in the
  free queue once or held by one caller, and no assertion fails.
* `not_conserved_uninitialised`: before it.
-/

namespace Corstone.MqttAgent.CommandPool

open Corstone.Lib

/-! ## The functions -/

/-- `commandStructurePool` in memory. -/
structure Layout where
  /-- The address of the array. -/
  commandStructurePool : ℕ
  /-- `sizeof( MQTTAgentCommand_t )`. -/
  size : ℕ
  /-- `MQTT_COMMAND_CONTEXTS_POOL_SIZE`. -/
  poolSize : ℕ
  not_null : 0 < commandStructurePool
  size_pos : 0 < size

namespace Layout

variable (P : Layout)

/-- `&commandStructurePool[ i ]`. -/
def command (i : ℕ) : ℕ := P.commandStructurePool + i * P.size

/-- The structures of the pool. -/
def commands : List ℕ := (List.range P.poolSize).map P.command

/-- The range check of `Agent_ReleaseCommand` (lines 147–148). -/
def InPool (pCommand : ℕ) : Prop :=
  P.commandStructurePool ≤ pCommand ∧ pCommand < P.command P.poolSize

instance (pCommand : ℕ) : Decidable (P.InPool pCommand) := inferInstanceAs (Decidable (_ ∧ _))

end Layout

/-- The assertions of the pool that can fail. -/
inductive Assertion
  /-- `configASSERT( commandAdded )`. -/
  | commandAdded
  /-- `configASSERT( initStatus == QUEUE_INITIALIZED )`. -/
  | initStatus
  /-- `configASSERT( structReturned )`. -/
  | structReturned
  deriving DecidableEq

/-- The statics. -/
structure Pool (P : Layout) where
  /-- `commandStructMessageCtx.queue`. -/
  queue : Option (BoundedQueue ℕ P.poolSize)
  /-- `initStatus` is `QUEUE_INITIALIZED`. -/
  initStatus : Bool

section Functions

variable {P : Layout}

/-- `Agent_MessageSend` with a block time of 0. -/
def agentMessageSend (s : Pool P) (pCommand : ℕ) : Pool P × Bool :=
  match s.queue with
  | none => (s, false)
  | some q => if q.Full then (s, false) else ({ s with queue := some (q.push pCommand) }, true)

/-- `Agent_MessageReceive` when it returns: a command, or the block time is over. -/
def agentMessageReceive (s : Pool P) : Pool P × Option ℕ :=
  match s.queue with
  | none => (s, none)
  | some q => ({ s with queue := some q.rest }, q.items.head?)

/-- The loop of `Agent_InitializePool` (lines 104–111). -/
def populate : List ℕ → Pool P → Except Assertion (Pool P)
  | [], s => .ok s
  | pCommand :: rest, s =>
    match agentMessageSend s pCommand with
    | (s, true) => populate rest s
    | (_, false) => .error .commandAdded

/-- `Agent_InitializePool` (lines 86–115). -/
def agentInitializePool (s : Pool P) : Except Assertion (Pool P) :=
  if s.initStatus = false then
    match populate P.commands { s with queue := some .empty } with
    | .ok s => .ok { s with initStatus := true }
    | .error assertion => .error assertion
  else .ok s

/-- `Agent_GetCommand` (lines 119–136). -/
def agentGetCommand (s : Pool P) : Except Assertion (Pool P × ℕ) :=
  if s.initStatus = false then .error .initStatus
  else
    let (s, structToUse) := agentMessageReceive s
    .ok (s, structToUse.getD 0)

/-- `Agent_ReleaseCommand` (lines 140–160). -/
def agentReleaseCommand (s : Pool P) (pCommandToRelease : ℕ) : Except Assertion (Pool P × Bool) :=
  if s.initStatus = false then .error .initStatus
  else if P.InPool pCommandToRelease then
    match agentMessageSend s pCommandToRelease with
    | (s, true) => .ok (s, true)
    | (_, false) => .error .structReturned
  else .ok (s, false)

end Functions

/-! ## The callers -/

variable {P : Layout} {Caller : Type}

/-- The pool and its callers. After an assertion that fails nothing happens any
    more. -/
structure System (P : Layout) (Caller : Type) where
  pool : Pool P
  /-- Who holds which command. -/
  held : List (Caller × ℕ)
  asserted : Option Assertion

inductive Action (Caller : Type)
  | initializePool
  | getCommand (caller : Caller)
  | releaseCommand (caller : Caller) (pCommandToRelease : ℕ)

/-- Before the first call. -/
def System.init : System P Caller := ⟨⟨none, false⟩, [], none⟩

/-- One call. -/
def step [DecidableEq Caller] (s : System P Caller) (a : Action Caller) : System P Caller :=
  if s.asserted = none then
    match a with
    | .initializePool =>
      match agentInitializePool s.pool with
      | .ok pool => { s with pool := pool }
      | .error assertion => { s with asserted := some assertion }
    | .getCommand caller =>
      match agentGetCommand s.pool with
      | .ok (pool, pCommand) =>
        if pCommand = 0 then { s with pool := pool }
        else { s with pool := pool, held := (caller, pCommand) :: s.held }
      | .error assertion => { s with asserted := some assertion }
    | .releaseCommand caller pCommandToRelease =>
      match agentReleaseCommand s.pool pCommandToRelease with
      | .ok (pool, true) =>
        { s with pool := pool, held := s.held.erase (caller, pCommandToRelease) }
      | .ok (pool, false) => { s with pool := pool }
      | .error assertion => { s with asserted := some assertion }
  else s

/-- The pool has been initialised before commands are taken and released, and a
    caller releases only what it holds, or pointers outside the pool. -/
def Allowed (s : System P Caller) : Action Caller → Prop
  | .initializePool => True
  | .getCommand _ => s.pool.initStatus = true
  | .releaseCommand caller pCommandToRelease =>
    s.pool.initStatus = true ∧
      ((caller, pCommandToRelease) ∈ s.held ∨ ¬ P.InPool pCommandToRelease)

/-! ## The purpose -/

namespace System

variable (s : System P Caller)

/-- The free queue. -/
def free : List ℕ := (s.pool.queue.map BoundedQueue.items).getD []

/-- Who holds the command. -/
def holders (pCommand : ℕ) : List Caller :=
  (s.held.filter fun h => h.2 = pCommand).map Prod.fst

/-- Every structure is in the free queue exactly once, or held by exactly one
    caller. -/
def Conserved : Prop :=
  ∀ pCommand ∈ P.commands, s.free.count pCommand = 1 ∧ s.holders pCommand = [] ∨
    s.free.count pCommand = 0 ∧ ∃ caller, s.holders pCommand = [caller]

end System

/-- No assertion fails. `Agent_GetCommand` returns `NULL` only when all structures are
    held, the release of a structure succeeds, and that of a foreign pointer
    returns `false` and changes nothing. -/
def Correct [DecidableEq Caller] (s : System P Caller) (a : Action Caller) : Prop :=
  (step s a).asserted = none ∧
    match a with
    | .initializePool => True
    | .getCommand _ =>
      ∃ pool pCommand, agentGetCommand s.pool = .ok (pool, pCommand) ∧
        (pCommand = 0 → ∀ p ∈ P.commands, ∃ caller, s.holders p = [caller])
    | .releaseCommand caller pCommandToRelease =>
      ∃ pool, agentReleaseCommand s.pool pCommandToRelease =
          .ok (pool, decide (P.InPool pCommandToRelease)) ∧
        (¬ P.InPool pCommandToRelease → step s (.releaseCommand caller pCommandToRelease) = s)

/-! ## The pool in memory -/

namespace Layout

variable (P)

theorem commands_nodup : P.commands.Nodup := by
  refine List.Nodup.map (fun i j hij => ?_) List.nodup_range
  have hmul : i * P.size = j * P.size := Nat.add_left_cancel hij
  exact Nat.eq_of_mul_eq_mul_right P.size_pos hmul

theorem length_commands : P.commands.length = P.poolSize := by
  rw [commands, List.length_map, List.length_range]

variable {P}

theorem inPool_of_mem {pCommand : ℕ} (h : pCommand ∈ P.commands) : P.InPool pCommand := by
  obtain ⟨i, hi, rfl⟩ := List.mem_map.mp h
  have hlt : i * P.size < P.poolSize * P.size :=
    Nat.mul_lt_mul_of_pos_right (List.mem_range.mp hi) P.size_pos
  unfold InPool command
  omega

theorem ne_zero_of_mem {pCommand : ℕ} (h : pCommand ∈ P.commands) : pCommand ≠ 0 := by
  have hpool := (inPool_of_mem h).1
  have hnull := P.not_null
  omega

end Layout

/-! ## The queue -/

section Queue

variable {s : Pool P} {q : BoundedQueue ℕ P.poolSize}

theorem agentMessageSend_of_not_full (hq : s.queue = some q) (hfull : ¬ q.Full) (pCommand : ℕ) :
    agentMessageSend s pCommand = ({ s with queue := some (q.push pCommand) }, true) := by
  unfold agentMessageSend
  rw [hq]
  exact if_neg hfull

/-- **The loop** of the initialisation: as long as there is room, all commands are
    added in their order. -/
theorem populate_eq (l : List ℕ) (hq : s.queue = some q)
    (hroom : q.items.length + l.length ≤ P.poolSize) :
    ∃ q', populate l s = .ok { s with queue := some q' } ∧ q'.items = q.items ++ l := by
  induction l generalizing s q with
  | nil =>
    refine ⟨q, ?_, (List.append_nil _).symm⟩
    rw [← hq]
    rfl
  | cons pCommand rest ih =>
    rw [List.length_cons] at hroom
    have hfull : ¬ q.Full := by
      unfold BoundedQueue.Full
      omega
    have hpush := BoundedQueue.items_push_of_not_full hfull pCommand
    obtain ⟨q', hpopulate, hitems⟩ := ih (s := { s with queue := some (q.push pCommand) }) rfl (by
      rw [hpush, List.length_append, List.length_singleton]
      omega)
    refine ⟨q', ?_, ?_⟩
    · unfold populate
      rw [agentMessageSend_of_not_full hq hfull]
      exact hpopulate
    · rw [hitems, hpush, List.append_assoc]
      rfl

/-- The first initialisation. -/
theorem agentInitializePool_first (hinit : s.initStatus = false) :
    ∃ q, agentInitializePool s = .ok ⟨some q, true⟩ ∧ q.items = P.commands := by
  obtain ⟨q, hpopulate, hitems⟩ := populate_eq (s := { s with queue := some .empty })
    (q := .empty) P.commands rfl (by
      rw [BoundedQueue.items_empty, List.length_nil, Nat.zero_add, P.length_commands])
  refine ⟨q, ?_, hitems⟩
  unfold agentInitializePool
  rw [if_pos hinit, hpopulate]

/-- What `Agent_GetCommand` takes. -/
theorem agentGetCommand_eq (hinit : s.initStatus = true) (hq : s.queue = some q) :
    agentGetCommand s = .ok ({ s with queue := some q.rest }, q.items.head?.getD 0) := by
  unfold agentGetCommand agentMessageReceive
  rw [hinit, hq]
  rfl

/-- What `Agent_ReleaseCommand` puts back. -/
theorem agentReleaseCommand_pool (hinit : s.initStatus = true) (hq : s.queue = some q)
    (hfull : ¬ q.Full) {pCommand : ℕ} (hpool : P.InPool pCommand) :
    agentReleaseCommand s pCommand = .ok ({ s with queue := some (q.push pCommand) }, true) := by
  unfold agentReleaseCommand
  rw [if_neg (by rw [hinit]; decide), if_pos hpool, agentMessageSend_of_not_full hq hfull]

theorem agentReleaseCommand_foreign (hinit : s.initStatus = true) {pCommand : ℕ}
    (hpool : ¬ P.InPool pCommand) : agentReleaseCommand s pCommand = .ok (s, false) := by
  unfold agentReleaseCommand
  rw [hinit, if_neg (by decide), if_neg hpool]

end Queue

/-! ## The invariant -/

/-- No assertion has failed, nothing is held before the initialisation, and from it on
    the structures are those in the queue and those that are held. -/
structure Inv (s : System P Caller) : Prop where
  asserted : s.asserted = none
  uninitialised : s.pool.initStatus = false → s.held = []
  partition : s.pool.initStatus = true → ∃ q, s.pool.queue = some q ∧
    (q.items ++ s.held.map Prod.snd).Perm P.commands

section Invariant

variable {s : System P Caller}

theorem inv_init : Inv (.init : System P Caller) := ⟨rfl, fun _ => rfl, nofun⟩

theorem length_holders (s : System P Caller) (pCommand : ℕ) :
    (s.holders pCommand).length = (s.held.map Prod.snd).count pCommand := by
  rw [System.holders, List.length_map, List.count_eq_countP, List.countP_map,
    List.countP_eq_length_filter]
  rfl

/-- What the invariant says of one structure. -/
theorem Inv.count_add (h : Inv s) (hinit : s.pool.initStatus = true) {pCommand : ℕ}
    (hmem : pCommand ∈ P.commands) :
    s.free.count pCommand + (s.holders pCommand).length = 1 := by
  obtain ⟨q, hq, hperm⟩ := h.partition hinit
  have hcount := hperm.count_eq pCommand
  rw [List.count_append, List.count_eq_one_of_mem P.commands_nodup hmem] at hcount
  rw [length_holders, System.free, hq]
  exact hcount

/-- **The partition** gives the property of each structure. -/
theorem Inv.conserved (h : Inv s) (hinit : s.pool.initStatus = true) : s.Conserved := by
  intro pCommand hmem
  have hcount := h.count_add hinit hmem
  cases hholders : s.holders pCommand with
  | nil =>
    rw [hholders, List.length_nil] at hcount
    exact Or.inl ⟨hcount, rfl⟩
  | cons caller callers =>
    rw [hholders, List.length_cons] at hcount
    obtain rfl : callers = [] := List.length_eq_zero_iff.mp (by omega)
    exact Or.inr ⟨by omega, caller, rfl⟩

/-- The commands that are taken out or put back change places only. -/
theorem Inv.of_perm {s' : System P Caller} (h : Inv s) (hinit : s.pool.initStatus = true)
    (hasserted : s'.asserted = none) (hinit' : s'.pool.initStatus = true)
    (hperm : ∀ q, s.pool.queue = some q → ∃ q', s'.pool.queue = some q' ∧
      (q'.items ++ s'.held.map Prod.snd).Perm (q.items ++ s.held.map Prod.snd)) : Inv s' := by
  obtain ⟨q, hq, hpart⟩ := h.partition hinit
  obtain ⟨q', hq', hperm⟩ := hperm q hq
  refine ⟨hasserted, fun hfalse => ?_, fun _ => ⟨q', hq', hperm.trans hpart⟩⟩
  rw [hinit'] at hfalse
  exact nomatch hfalse

/-- A held command leaves room in the queue. -/
theorem Inv.not_full (h : Inv s) (hinit : s.pool.initStatus = true) {held : Caller × ℕ}
    (hheld : held ∈ s.held) :
    ∃ q, s.pool.queue = some q ∧ ¬ q.Full := by
  obtain ⟨q, hq, hpart⟩ := h.partition hinit
  refine ⟨q, hq, ?_⟩
  have hlength := hpart.length_eq
  rw [List.length_append, List.length_map, P.length_commands] at hlength
  have hpos := List.length_pos_of_mem hheld
  unfold BoundedQueue.Full
  omega

/-- What is held is a structure of the pool. -/
theorem Inv.inPool (h : Inv s) (hinit : s.pool.initStatus = true) {caller : Caller} {pCommand : ℕ}
    (hheld : (caller, pCommand) ∈ s.held) : P.InPool pCommand := by
  obtain ⟨q, -, hpart⟩ := h.partition hinit
  refine Layout.inPool_of_mem (hpart.mem_iff.mp (List.mem_append_right _ ?_))
  exact List.mem_map.mpr ⟨_, hheld, rfl⟩

end Invariant

/-! ## One call -/

section Call

variable [DecidableEq Caller] {s : System P Caller}

/-- The initialisation. -/
theorem inv_initializePool (h : Inv s) : Inv (step s .initializePool) := by
  unfold step
  rw [if_pos h.asserted]
  by_cases hinit : s.pool.initStatus = false
  · obtain ⟨q, hpool, hitems⟩ := agentInitializePool_first hinit
    dsimp only
    rw [hpool]
    refine ⟨h.asserted, nofun, fun _ => ⟨q, rfl, ?_⟩⟩
    rw [h.uninitialised hinit, hitems, List.map_nil, List.append_nil]
  · dsimp only
    rw [agentInitializePool, if_neg hinit]
    exact h

/-- A command is taken from the front of the queue. -/
theorem inv_getCommand (h : Inv s) (hinit : s.pool.initStatus = true) (caller : Caller) :
    Inv (step s (.getCommand caller)) := by
  obtain ⟨q, hq, hpart⟩ := h.partition hinit
  unfold step
  rw [if_pos h.asserted]
  dsimp only
  rw [agentGetCommand_eq hinit hq]
  dsimp only
  split_ifs with hnull
  · refine h.of_perm hinit h.asserted hinit fun q' hq' => ?_
    obtain rfl := Option.some.inj (hq.symm.trans hq')
    refine ⟨q.rest, rfl, ?_⟩
    cases hitems : q.items with
    | nil => rw [BoundedQueue.items_rest, hitems, List.tail_nil]
    | cons pCommand rest =>
      rw [hitems] at hnull hpart
      exact absurd hnull (Layout.ne_zero_of_mem (hpart.mem_iff.mp (by simp)))
  · refine h.of_perm hinit h.asserted hinit fun q' hq' => ?_
    obtain rfl := Option.some.inj (hq.symm.trans hq')
    refine ⟨q.rest, rfl, ?_⟩
    cases hitems : q.items with
    | nil =>
      rw [hitems] at hnull
      exact absurd rfl hnull
    | cons pCommand rest =>
      rw [BoundedQueue.items_rest, hitems]
      exact List.perm_middle

/-- A held command goes to the back of the queue. -/
theorem inv_releaseCommand (h : Inv s) {caller : Caller} {pCommand : ℕ}
    (hallowed : Allowed s (.releaseCommand caller pCommand)) :
    Inv (step s (.releaseCommand caller pCommand)) := by
  obtain ⟨hinit, hheld | hforeign⟩ := hallowed
  · obtain ⟨q, hq, hfull⟩ := h.not_full hinit hheld
    unfold step
    rw [if_pos h.asserted]
    dsimp only
    rw [agentReleaseCommand_pool hinit hq hfull (h.inPool hinit hheld)]
    refine h.of_perm hinit h.asserted hinit fun q' hq' => ?_
    obtain rfl := Option.some.inj (hq.symm.trans hq')
    refine ⟨q.push pCommand, rfl, ?_⟩
    have hback : (s.held.map Prod.snd).Perm
        (pCommand :: (s.held.erase (caller, pCommand)).map Prod.snd) :=
      (List.perm_cons_erase hheld).map Prod.snd
    rw [BoundedQueue.items_push_of_not_full hfull, List.append_assoc]
    exact hback.symm.append_left q.items
  · unfold step
    rw [if_pos h.asserted]
    dsimp only
    rw [agentReleaseCommand_foreign hinit hforeign]
    exact h

/-- **The step lemma**. -/
theorem Inv.step (h : Inv s) {a : Action Caller} (hallowed : Allowed s a) :
    Inv (CommandPool.step s a) := by
  cases a with
  | initializePool => exact inv_initializePool h
  | getCommand caller => exact inv_getCommand h hallowed caller
  | releaseCommand caller pCommand => exact inv_releaseCommand h hallowed

/-- **One call** does what it should. -/
theorem correct_of_inv (h : Inv s) {a : Action Caller} (hallowed : Allowed s a) :
    Correct s a := by
  refine ⟨(h.step hallowed).asserted, ?_⟩
  cases a with
  | initializePool => trivial
  | getCommand caller =>
    have hinit : s.pool.initStatus = true := hallowed
    obtain ⟨q, hq, hpart⟩ := h.partition hinit
    refine ⟨_, _, agentGetCommand_eq hinit hq, fun hnull p hp => ?_⟩
    obtain ⟨hfree, -⟩ | ⟨-, hholder⟩ := h.conserved hinit p hp
    · have hmem : p ∈ q.items := by
        rw [System.free, hq] at hfree
        exact List.count_pos_iff.mp (by rw [show q.items.count p = 1 from hfree]; decide)
      cases hitems : q.items with
      | nil => simp [hitems] at hmem
      | cons pCommand rest =>
        rw [hitems] at hnull hpart
        exact absurd hnull (Layout.ne_zero_of_mem (hpart.mem_iff.mp (by simp)))
    · exact hholder
  | releaseCommand caller pCommand =>
    obtain ⟨hinit, hheld | hforeign⟩ := id hallowed
    · obtain ⟨q, hq, hfull⟩ := h.not_full hinit hheld
      have hpool := h.inPool hinit hheld
      refine ⟨{ s.pool with queue := some (q.push pCommand) }, ?_,
        fun hforeign => absurd hpool hforeign⟩
      rw [decide_eq_true hpool]
      exact agentReleaseCommand_pool hinit hq hfull hpool
    · refine ⟨s.pool, ?_, fun _ => ?_⟩
      · rw [decide_eq_false hforeign]
        exact agentReleaseCommand_foreign hinit hforeign
      · unfold CommandPool.step
        rw [if_pos h.asserted]
        dsimp only
        rw [agentReleaseCommand_foreign hinit hforeign]

end Call

/-! ## All runs -/

/-- **Conservation**: in every sequence of calls in which the pool is initialised
    before commands are taken and released, and callers release what they hold or
    pointers outside the pool, every call is correct, and in every state from the
    first initialisation on every structure is free or held. -/
theorem pool_conserved [DecidableEq Caller] (as : List (Action Caller))
    (hallowed : Along step Allowed (.init : System P Caller) as) :
    Along step Correct (.init : System P Caller) as ∧
      ∀ pre, pre <+: as → (run step (.init : System P Caller) pre).pool.initStatus = true →
        (run step (.init : System P Caller) pre).Conserved := by
  refine ⟨along_of_inv (fun s a hs ha => hs.step ha) (fun s a hs ha => correct_of_inv hs ha)
    inv_init hallowed, ?_⟩
  rintro pre ⟨rest, rfl⟩ hinit
  have hpre := ((along_append _ _ _).mp hallowed).1
  exact (Along.inv (fun s a hs ha => hs.step ha) inv_init hpre).conserved hinit

/-- Two structures of 40 bytes. -/
def twoCommands : Layout := ⟨0x1000, 40, 2, by decide, by decide⟩

/-- Two callers: one command is taken and put back, and a foreign pointer is
    refused. -/
def twoCallers : List (Action Bool) :=
  [.initializePool, .getCommand false, .getCommand true, .initializePool,
    .releaseCommand false 0x1000, .releaseCommand true 0x2000]

theorem pool_conserved_twoCallers :
    Along step Correct (.init : System twoCommands Bool) twoCallers ∧
      ∀ pre, pre <+: twoCallers →
        (run step (.init : System twoCommands Bool) pre).pool.initStatus = true →
        (run step (.init : System twoCommands Bool) pre).Conserved := by
  refine pool_conserved twoCallers ?_
  exact ⟨trivial, rfl, rfl, trivial, ⟨rfl, Or.inl (by decide)⟩, ⟨rfl, Or.inr (by decide)⟩, trivial⟩

/-- Before the initialisation nothing is in the queue or held, and the release of a
    foreign pointer ends with an assertion. -/
theorem not_conserved_uninitialised :
    ¬ (run step (.init : System twoCommands Bool) []).Conserved ∧
      ¬ Along step Correct (.init : System twoCommands Bool) [.releaseCommand true 0x2000] := by
  constructor
  · intro h
    obtain ⟨hfree, -⟩ | ⟨-, caller, hholder⟩ := h 0x1000 (by decide)
    · exact absurd hfree (by decide)
    · exact nomatch hholder
  · rintro ⟨h, -⟩
    exact absurd h.1 (by decide)

end Corstone.MqttAgent.CommandPool
