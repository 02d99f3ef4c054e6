import Corstone.Lib.History
import Corstone.Lib.Run
import Corstone.Sntp.SystemClock

/-!
# The task of the SNTP client

Model of `sntpTask` with `calculateBackoffForNextPoll` (`sntp_client_task.c`,
lines 1453–1489 and 1493–1636). An iteration of the polling loop is one step; what
the network and the library return are its inputs. The task stops where a
`configASSERT` fails, and where the behaviour is undefined.

* `answered_cases`: what sending the request and receiving the answer can do.
* `afterPoll_backsOff`, `afterPoll_exhausted`, `afterPoll_waits`: the rest of an iteration.
* `poll_cases`: an iteration.
-/

namespace Corstone.Sntp

open Corstone.Lib

/-! ## The backoff algorithm -/

/-- The backoff algorithm with a limit of attempts, as it is documented. -/
structure Backoff where
  Context : Type
  /-- The static context before it is initialised. -/
  zero : Context
  /-- `BackoffAlgorithm_InitializeParams`. -/
  initializeParams : (backOffBase maxBackOff : UInt16) → (maxAttempts : UInt32) → Context
  /-- `BackoffAlgorithm_GetNextBackoff`: the delay if the attempts are not exhausted. -/
  getNextBackoff : Context → UInt32 → Context × Option UInt16
  /-- The largest delay of the next call. -/
  window : Context → UInt16
  attemptsDone : Context → ℕ
  /-- The limit, 0 for none. -/
  maxRetryAttempts : Context → ℕ
  draw : ∀ c random delay, (getNextBackoff c random).2 = some delay →
    delay.toNat = random.toNat % ((window c).toNat + 1)
  succeeds_iff : ∀ c random, (getNextBackoff c random).2.isSome = true ↔
    maxRetryAttempts c = 0 ∨ attemptsDone c < maxRetryAttempts c
  attemptsDone_getNextBackoff : ∀ c random, (getNextBackoff c random).2.isSome = true →
    attemptsDone (getNextBackoff c random).1 = attemptsDone c + 1
  maxRetryAttempts_getNextBackoff : ∀ c random,
    maxRetryAttempts (getNextBackoff c random).1 = maxRetryAttempts c
  attemptsDone_initializeParams : ∀ backOffBase maxBackOff maxAttempts,
    attemptsDone (initializeParams backOffBase maxBackOff maxAttempts) = 0
  maxRetryAttempts_initializeParams : ∀ backOffBase maxBackOff maxAttempts,
    maxRetryAttempts (initializeParams backOffBase maxBackOff maxAttempts) = maxAttempts.toNat

/-- There are attempts left. -/
def Backoff.AttemptsLeft (B : Backoff) (c : B.Context) : Prop :=
  B.maxRetryAttempts c = 0 ∨ B.attemptsDone c < B.maxRetryAttempts c

instance (B : Backoff) (c : B.Context) : Decidable (B.AttemptsLeft c) :=
  inferInstanceAs (Decidable (_ ∨ _))

theorem Backoff.attemptsLeft_of_some {B : Backoff} {c : B.Context} {random : UInt32}
    {delay : UInt16} (h : (B.getNextBackoff c random).2 = some delay) : B.AttemptsLeft c :=
  (B.succeeds_iff c random).mp (by rw [h]; rfl)

theorem Backoff.not_attemptsLeft_of_none {B : Backoff} {c : B.Context} {random : UInt32}
    (h : (B.getNextBackoff c random).2 = none) : ¬ B.AttemptsLeft c := by
  intro hleft
  have hsome := (B.succeeds_iff c random).mpr hleft
  rw [h] at hsome
  cases hsome

/-- `BackoffAlgorithmContext_t`. -/
structure BackoffContext where
  attemptsDone : ℕ
  maxRetryAttempts : ℕ
  nextJitterMax : UInt16
  maxBackoffDelay : UInt16

/-- After an attempt. The window doubles up to the maximum. -/
def BackoffContext.attempted (c : BackoffContext) : BackoffContext :=
  { c with
    attemptsDone := c.attemptsDone + 1
    nextJitterMax :=
      if c.nextJitterMax < c.maxBackoffDelay / 2 then c.nextJitterMax + c.nextJitterMax
      else c.maxBackoffDelay }

/-- The algorithm as it is documented. -/
def documentedBackoff : Backoff where
  Context := BackoffContext
  zero := ⟨0, 0, 0, 0⟩
  initializeParams backOffBase maxBackOff maxAttempts :=
    ⟨0, maxAttempts.toNat, backOffBase, maxBackOff⟩
  getNextBackoff c random :=
    if c.maxRetryAttempts = 0 ∨ c.attemptsDone < c.maxRetryAttempts then
      (c.attempted, some (random % (c.nextJitterMax.toUInt32 + 1)).toUInt16)
    else (c, none)
  window c := c.nextJitterMax
  attemptsDone c := c.attemptsDone
  maxRetryAttempts c := c.maxRetryAttempts
  draw c random delay h := by
    split_ifs at h with hleft
    obtain rfl := Option.some.inj h
    have hwindow : (c.nextJitterMax.toUInt32 + 1).toNat = c.nextJitterMax.toNat + 1 := by
      have hlt := c.nextJitterMax.toNat_lt
      rw [UInt32.toNat_add, UInt16.toNat_toUInt32]
      simp
      omega
    have hlt : random.toNat % (c.nextJitterMax.toNat + 1) < 2 ^ 16 :=
      lt_of_lt_of_le (Nat.mod_lt _ (by omega)) c.nextJitterMax.toNat_lt
    rw [UInt32.toNat_toUInt16, UInt32.toNat_mod, hwindow, Nat.mod_eq_of_lt hlt]
  succeeds_iff c random := by
    split_ifs with hleft <;> simp [hleft]
  attemptsDone_getNextBackoff c random h := by
    split_ifs at h ⊢
    · rfl
    · cases h
  maxRetryAttempts_getNextBackoff c random := by
    split_ifs <;> rfl
  attemptsDone_initializeParams _ _ _ := rfl
  maxRetryAttempts_initializeParams _ _ _ := rfl

/-! ## The task -/

/-- `democonfigSNTP_CLIENT_POLLING_INTERVAL_SECONDS`. -/
def pollingIntervalSeconds : UInt32 := 16

/-- `SNTP_DEMO_POLL_MAX_BACKOFF_DELAY_SEC`. -/
def pollMaxBackoffDelaySec : UInt16 := 65535

/-- `SNTP_DEMO_MAX_SERVER_BACKOFF_RETRIES`. -/
def maxServerBackoffRetries : UInt32 := 10

/-- The errors of `SntpStatus_t` that the library returns to the task. -/
inductive SntpError
  | dnsFailure | networkFailure | sendTimeout | responseTimeout | invalidResponse
  | authFailure | serverNotAuthenticated | timeNotSupported
  deriving DecidableEq, Repr

/-- `SntpStatus_t`. -/
inductive SntpStatus
  | success | rejectedResponse | noResponseReceived
  | error (e : SntpError)
  deriving DecidableEq, Repr

/-- How the receiving of a response ends: the library has set the time, or the server has
    rejected the request, or there is an error. -/
inductive Response
  | time (pServerTime : SntpTimestamp) (clockOffsetMs : Int64)
  | rejected
  | error (e : SntpError)
  deriving DecidableEq, Repr

/-- What `Sntp_ReceiveTimeResponse` returns. -/
def Response.status : Response → SntpStatus
  | .time _ _ => .success
  | .rejected => .rejectedResponse
  | .error e => .error e

/-- What the calls of one iteration return. -/
structure PollResults (w : ℕ) where
  /-- `createUdpSocket`. -/
  socket : Bool := true
  /-- `Sntp_SendTimeRequest`. -/
  sendError : Option SntpError := none
  /-- How often `Sntp_ReceiveTimeResponse` returns `SntpNoResponseReceived` first. -/
  noResponses : ℕ := 0
  response : Response
  /-- `xTaskGetTickCount` when the time is set. -/
  tickCount : TickType w := 0
  /-- `generateRandomNumber` for the backoff. -/
  random : UInt32 := 0

/-- What the task does. -/
inductive TaskCall
  | sendTimeRequest (status : SntpStatus)
  /-- `sntpClient_SetTime`, and the poll period if it divides by it. -/
  | sntpClientSetTime (divisor : Option UInt32)
  | receiveTimeResponse (status : SntpStatus)
  | initializeParams (minPollPeriod : UInt32)
  | getNextBackoff (newPollPeriod : Option UInt16)
  /-- `vTaskDelay( pdMS_TO_TICKS( pollPeriod * 1000 ) )`. -/
  | vTaskDelay (pollPeriod : UInt32)
  deriving DecidableEq

/-- Why the task does not go on. -/
inductive Stop
  | assertion
  | divisionByZero
  deriving DecidableEq

/-- The statics and the locals of the loop. -/
structure SntpTask (B : Backoff) (w : ℕ) where
  systemClock : SystemClock w
  backoffContext : B.Context
  backoffModeFlag : Bool
  stopped : Option Stop
  log : List TaskCall

variable {B : Backoff} {w : ℕ}

namespace SntpTask

/-- The task after one more call. -/
def call (s : SntpTask B w) (c : TaskCall) : SntpTask B w := { s with log := c :: s.log }

/-- The task after `n` tries without a response. -/
def noResponseReceived (s : SntpTask B w) (n : ℕ) : SntpTask B w :=
  { s with log := List.replicate n (.receiveTimeResponse .noResponseReceived) ++ s.log }

/-- The task does not go on. -/
def stop (s : SntpTask B w) (reason : Stop) : SntpTask B w := { s with stopped := some reason }

/-- Another poll period. -/
def setPollPeriod (s : SntpTask B w) (pollPeriod : UInt32) : SntpTask B w :=
  { s with systemClock := { s.systemClock with pollPeriod := pollPeriod } }

end SntpTask

/-- `translateYearToUnixSeconds` (lines 661–673). -/
def translateYearToUnixSeconds (year : UInt32) : UInt32 :=
  let numOfDaysSince1970 := (year - 1970) * 365 + (year - 1969) / 4
  numOfDaysSince1970 * 24 * 3600

/-- `democonfigSYSTEM_START_YEAR`. -/
def systemStartYear : UInt32 := 2024

/-- The task when it enters the loop: the statics are 0, `initializeSystemClock` has set the
    base time, and lines 1546 and 1549 the rest. -/
def enterLoop (B : Backoff) (w : ℕ) : SntpTask B w where
  systemClock :=
    { baseTime := { secs := translateYearToUnixSeconds systemStartYear, msecs := 0 }
      lastSyncTickCount := 0
      pollPeriod := pollingIntervalSeconds
      slewRate := 0
      firstTimeSyncDone := false }
  backoffContext := B.zero
  backoffModeFlag := false
  stopped := none
  log := []

/-- What `sntpClient_SetTime` divides by. -/
def SystemClock.slewDivisor (systemClock : SystemClock w) : Option UInt32 :=
  if systemClock.firstTimeSyncDone = true ∧ systemClock.slewRate = 0 then
    some systemClock.pollPeriod
  else none

/-- `sntpClient_SetTime` in the task. -/
def setTime (C : CoreSntp) (pServerTime : SntpTimestamp) (clockOffsetMs : Int64)
    (tickCount : TickType w) (s : SntpTask B w) : SntpTask B w :=
  match sntpClientSetTime C s.systemClock pServerTime clockOffsetMs tickCount with
  | none => s.stop .assertion
  | some systemClock =>
    let divisor := s.systemClock.slewDivisor
    let s := s.call (.sntpClientSetTime divisor)
    if divisor = some 0 then s.stop .divisionByZero else { s with systemClock := systemClock }

/-- The last `Sntp_ReceiveTimeResponse` of the `do` loop. -/
def receiveTimeResponse (C : CoreSntp) (r : PollResults w) (s : SntpTask B w) : SntpTask B w :=
  match r.response with
  | .time pServerTime clockOffsetMs =>
    let s := setTime C pServerTime clockOffsetMs r.tickCount s
    if s.stopped.isSome then s else s.call (.receiveTimeResponse .success)
  | .rejected => s.call (.receiveTimeResponse .rejectedResponse)
  | .error e => s.call (.receiveTimeResponse (.error e))

/-- An iteration up to the end of the `do` loop (lines 1571–1583). -/
def answered (C : CoreSntp) (r : PollResults w) (s : SntpTask B w) : SntpTask B w :=
  if r.socket = false then s.stop .assertion
  else
    match r.sendError with
    | some e => (s.call (.sendTimeRequest (.error e))).stop .assertion
    | none => receiveTimeResponse C r
        ((s.call (.sendTimeRequest .success)).noResponseReceived r.noResponses)

/-- `calculateBackoffForNextPoll` with `minPollPeriod` and `pPollPeriod` as the task passes
    them. -/
def calculateBackoffForNextPoll (shouldInitializeContext : Bool) (random : UInt32)
    (s : SntpTask B w) : SntpTask B w × Bool :=
  let s :=
    if shouldInitializeContext then
      { s with
        backoffContext := B.initializeParams s.systemClock.pollPeriod.toUInt16
          pollMaxBackoffDelaySec maxServerBackoffRetries }.call
        (.initializeParams s.systemClock.pollPeriod)
    else s
  match B.getNextBackoff s.backoffContext random with
  | (backoffContext, some newPollPeriod) =>
    (({ s with backoffContext := backoffContext }.call
      (.getNextBackoff (some newPollPeriod))).setPollPeriod newPollPeriod.toUInt32, true)
  | (backoffContext, none) =>
    ({ s with backoffContext := backoffContext }.call (.getNextBackoff none), false)

/-- The rest of an iteration (lines 1588–1626). -/
def afterPoll (numOfServers : ℕ) (status : SntpStatus) (random : UInt32) (s : SntpTask B w) :
    SntpTask B w :=
  if status = .rejectedResponse ∧ numOfServers = 1 then
    let firstBackoffAttempt := !s.backoffModeFlag
    let (s, backoffStatus) :=
      calculateBackoffForNextPoll firstBackoffAttempt random { s with backoffModeFlag := true }
    if backoffStatus then s.call (.vTaskDelay s.systemClock.pollPeriod) else s.stop .assertion
  else { s with backoffModeFlag := false }.call (.vTaskDelay s.systemClock.pollPeriod)

/-- An iteration of the polling loop. -/
def poll (C : CoreSntp) (numOfServers : ℕ) (s : SntpTask B w) (r : PollResults w) :
    SntpTask B w :=
  if s.stopped.isSome then s
  else
    let s := answered C r s
    if s.stopped.isSome then s else afterPoll numOfServers r.response.status r.random s

/-! ## Sending and receiving -/

/-- A time that is received can be converted and does not make `sntpClient_SetTime` divide by
    zero. -/
def Settable (C : CoreSntp) (s : SntpTask B w) : Response → Prop
  | .time pServerTime _ =>
    (C.convertToUnixTime pServerTime).isSome = true ∧ s.systemClock.slewDivisor ≠ some 0
  | _ => True

instance (C : CoreSntp) (s : SntpTask B w) (response : Response) :
    Decidable (Settable C s response) := by
  cases response <;> unfold Settable <;> infer_instance

/-- The socket is created, the request is sent, and what is received can be dealt with. -/
def GetsThrough (C : CoreSntp) (s : SntpTask B w) (r : PollResults w) : Prop :=
  r.socket = true ∧ r.sendError = none ∧ Settable C s r.response

instance (C : CoreSntp) (s : SntpTask B w) (r : PollResults w) : Decidable (GetsThrough C s r) :=
  inferInstanceAs (Decidable (_ ∧ _ ∧ _))

/-- The calls before the delay, in a task whose clock divides by `divisor`. -/
def TaskCall.answers (divisor : Option UInt32) : TaskCall → Bool
  | .sendTimeRequest _ | .receiveTimeResponse _ => true
  | .sntpClientSetTime d => d == divisor
  | _ => false

/-- The result of a poll, when the call ends the `do` loop. -/
def TaskCall.result : TaskCall → Option SntpStatus
  | .receiveTimeResponse status => if status = .noResponseReceived then none else some status
  | _ => none

/-- The results of the polls so far. -/
def results (log : List TaskCall) : List SntpStatus := log.filterMap TaskCall.result

@[simp] theorem results_cons (c : TaskCall) (log : List TaskCall) :
    results (c :: log) = c.result.toList ++ results log := by
  unfold results
  rw [List.filterMap_cons]
  cases c.result <;> rfl

@[simp] theorem results_replicate (n : ℕ) (log : List TaskCall) :
    results (List.replicate n (.receiveTimeResponse .noResponseReceived) ++ log) = results log := by
  induction n with
  | zero => rfl
  | succ n ih =>
    rw [List.replicate_succ, List.cons_append, results_cons, ih]
    rfl

theorem setTime_cases (C : CoreSntp) (pServerTime : SntpTimestamp) (clockOffsetMs : Int64)
    (tickCount : TickType w) (s : SntpTask B w) :
    (C.convertToUnixTime pServerTime = none ∧
      setTime C pServerTime clockOffsetMs tickCount s = s.stop .assertion) ∨
    (s.systemClock.slewDivisor = some 0 ∧
      setTime C pServerTime clockOffsetMs tickCount s =
        (s.call (.sntpClientSetTime (some 0))).stop .divisionByZero) ∨
    ((C.convertToUnixTime pServerTime).isSome = true ∧ s.systemClock.slewDivisor ≠ some 0 ∧
      ∃ systemClock, systemClock.pollPeriod = s.systemClock.pollPeriod ∧
        setTime C pServerTime clockOffsetMs tickCount s =
          { s.call (.sntpClientSetTime s.systemClock.slewDivisor) with
            systemClock := systemClock }) := by
  unfold setTime sntpClientSetTime
  rcases C.convertToUnixTime pServerTime with _ | ⟨unixSecs, unixMicroSecs⟩
  · exact .inl ⟨rfl, rfl⟩
  · by_cases hdivisor : s.systemClock.slewDivisor = some 0
    · exact .inr (.inl ⟨hdivisor, by simp [hdivisor]⟩)
    · refine .inr (.inr ⟨rfl, hdivisor, _, ?_, if_neg hdivisor⟩)
      rfl

/-- The last call of the `do` loop: the task stops, or it has the result of the poll. -/
theorem receiveTimeResponse_cases (C : CoreSntp) (r : PollResults w) (s : SntpTask B w) :
    (¬ Settable C s r.response ∧ ∃ log reason,
      receiveTimeResponse C r s = { s with log := log, stopped := some reason } ∧
      Extends (TaskCall.answers s.systemClock.slewDivisor) s.log log) ∨
    (Settable C s r.response ∧ (s.stopped = none → ∃ log systemClock,
      receiveTimeResponse C r s = { s with systemClock := systemClock, log := log } ∧
      systemClock.pollPeriod = s.systemClock.pollPeriod ∧
      Extends (TaskCall.answers s.systemClock.slewDivisor) s.log log ∧
      results log = r.response.status :: results s.log)) := by
  unfold receiveTimeResponse
  have hrefl := Extends.refl (TaskCall.answers s.systemClock.slewDivisor) s.log
  rcases r.response with ⟨pServerTime, clockOffsetMs⟩ | _ | e
  · dsimp only
    rcases setTime_cases C pServerTime clockOffsetMs r.tickCount s with
      ⟨hconvert, hset⟩ | ⟨hzero, hset⟩ | ⟨hconvert, hnonzero, systemClock, hpoll, hset⟩
    · refine .inl ⟨fun h => by simp [Settable, hconvert] at h, s.log, .assertion, ?_, hrefl⟩
      rw [hset]
      rfl
    · refine .inl ⟨fun h => h.2 hzero, .sntpClientSetTime (some 0) :: s.log, .divisionByZero, ?_,
        hrefl.cons (by simp [TaskCall.answers, hzero])⟩
      rw [hset]
      rfl
    · refine .inr ⟨⟨hconvert, hnonzero⟩, fun hgoes => ⟨.receiveTimeResponse .success ::
        .sntpClientSetTime s.systemClock.slewDivisor :: s.log, systemClock, ?_, hpoll, ?_, rfl⟩⟩
      · rw [hset]
        simp [SntpTask.call, hgoes]
      · exact (hrefl.cons (by simp [TaskCall.answers])).cons rfl
  · exact .inr ⟨trivial, fun _ => ⟨_, s.systemClock, rfl, rfl, hrefl.cons rfl, rfl⟩⟩
  · exact .inr ⟨trivial, fun _ => ⟨_, s.systemClock, rfl, rfl, hrefl.cons rfl, rfl⟩⟩

/-- **Sending and receiving.** The task stops, or it has the result of the poll. It leaves the
    poll period and the backoff alone. -/
theorem answered_cases (C : CoreSntp) (r : PollResults w) (s : SntpTask B w) :
    (¬ GetsThrough C s r ∧ ∃ log reason,
      answered C r s = { s with log := log, stopped := some reason } ∧
      Extends (TaskCall.answers s.systemClock.slewDivisor) s.log log) ∨
    (GetsThrough C s r ∧ (s.stopped = none → ∃ log systemClock,
      answered C r s = { s with systemClock := systemClock, log := log } ∧
      systemClock.pollPeriod = s.systemClock.pollPeriod ∧
      Extends (TaskCall.answers s.systemClock.slewDivisor) s.log log ∧
      results log = r.response.status :: results s.log)) := by
  unfold answered
  have hrefl := Extends.refl (TaskCall.answers s.systemClock.slewDivisor) s.log
  by_cases hsocket : r.socket = false
  · refine .inl ⟨fun h => by simp [h.1] at hsocket, s.log, .assertion, ?_, hrefl⟩
    rw [if_pos hsocket]
    rfl
  rw [if_neg hsocket]
  have hsocket : r.socket = true := by simpa using hsocket
  rcases hsend : r.sendError with _ | e
  · have hwaits : Extends (TaskCall.answers s.systemClock.slewDivisor) s.log
        ((s.call (.sendTimeRequest .success)).noResponseReceived r.noResponses).log :=
      (hrefl.cons rfl).trans ((Extends.append_iff _).mpr fun c hc => by
        rw [List.eq_of_mem_replicate hc]
        rfl)
    rcases receiveTimeResponse_cases C r
        ((s.call (.sendTimeRequest .success)).noResponseReceived r.noResponses) with
      ⟨hset, log, reason, heq, hext⟩ | ⟨hset, hgoes⟩
    · exact .inl ⟨fun h => hset h.2.2, log, reason, heq, hwaits.trans hext⟩
    · refine .inr ⟨⟨hsocket, hsend, hset⟩, fun hstopped => ?_⟩
      obtain ⟨log, systemClock, heq, hpoll, hext, hresults⟩ := hgoes hstopped
      refine ⟨log, systemClock, heq, hpoll, hwaits.trans hext, ?_⟩
      rw [hresults, SntpTask.noResponseReceived, results_replicate]
      rfl
  · exact .inl ⟨fun h => by simp [h.2.1] at hsend, .sendTimeRequest (.error e) :: s.log,
      .assertion, rfl, hrefl.cons rfl⟩

/-! ## The rest of an iteration -/

/-- The context of the next call of the backoff algorithm. -/
def SntpTask.nextContext (s : SntpTask B w) : B.Context :=
  if s.backoffModeFlag then s.backoffContext
  else B.initializeParams s.systemClock.pollPeriod.toUInt16 pollMaxBackoffDelaySec
    maxServerBackoffRetries

/-- The call that initialises the context. -/
def SntpTask.initialises (s : SntpTask B w) : List TaskCall :=
  if s.backoffModeFlag then [] else [.initializeParams s.systemClock.pollPeriod]

@[simp] theorem results_initialises (s : SntpTask B w) (log : List TaskCall) :
    results (s.initialises ++ log) = results log := by
  unfold SntpTask.initialises
  split_ifs <;> rfl

/-- `calculateBackoffForNextPoll` in the task. -/
theorem calculateBackoffForNextPoll_eq (s : SntpTask B w) (random : UInt32) :
    calculateBackoffForNextPoll (!s.backoffModeFlag) random { s with backoffModeFlag := true } =
      match (B.getNextBackoff s.nextContext random).2 with
      | some newPollPeriod =>
        ({ s with
          systemClock := { s.systemClock with pollPeriod := newPollPeriod.toUInt32 }
          backoffContext := (B.getNextBackoff s.nextContext random).1
          backoffModeFlag := true
          log := .getNextBackoff (some newPollPeriod) :: (s.initialises ++ s.log) }, true)
      | none =>
        ({ s with
          backoffContext := (B.getNextBackoff s.nextContext random).1
          backoffModeFlag := true
          log := .getNextBackoff none :: (s.initialises ++ s.log) }, false) := by
  unfold calculateBackoffForNextPoll SntpTask.nextContext SntpTask.initialises
  cases s.backoffModeFlag with
  | false =>
    simp only [SntpTask.call, Bool.not_false, if_true, Bool.false_eq_true, if_false]
    rcases B.getNextBackoff _ random with ⟨context, _ | newPollPeriod⟩ <;> rfl
  | true =>
    simp only [Bool.not_true, Bool.false_eq_true, if_true, if_false]
    rcases B.getNextBackoff _ random with ⟨context, _ | newPollPeriod⟩ <;> rfl

/-- The single server has rejected, and there are attempts left. -/
theorem afterPoll_backsOff {s : SntpTask B w} {random : UInt32} {newPollPeriod : UInt16}
    (h : (B.getNextBackoff s.nextContext random).2 = some newPollPeriod) :
    afterPoll 1 .rejectedResponse random s =
      { s with
        systemClock := { s.systemClock with pollPeriod := newPollPeriod.toUInt32 }
        backoffContext := (B.getNextBackoff s.nextContext random).1
        backoffModeFlag := true
        log := .vTaskDelay newPollPeriod.toUInt32 :: .getNextBackoff (some newPollPeriod) ::
          (s.initialises ++ s.log) } := by
  unfold afterPoll
  rw [if_pos ⟨rfl, rfl⟩]
  dsimp only
  rw [calculateBackoffForNextPoll_eq, h]
  rfl

/-- The single server has rejected, and the attempts are exhausted. -/
theorem afterPoll_exhausted {s : SntpTask B w} {random : UInt32}
    (h : (B.getNextBackoff s.nextContext random).2 = none) :
    afterPoll 1 .rejectedResponse random s =
      { s with
        backoffContext := (B.getNextBackoff s.nextContext random).1
        backoffModeFlag := true
        stopped := some .assertion
        log := .getNextBackoff none :: (s.initialises ++ s.log) } := by
  unfold afterPoll
  rw [if_pos ⟨rfl, rfl⟩]
  dsimp only
  rw [calculateBackoffForNextPoll_eq, h]
  rfl

/-- No rejection by a single server. -/
theorem afterPoll_waits {numOfServers : ℕ} {status : SntpStatus}
    (h : ¬ (status = .rejectedResponse ∧ numOfServers = 1)) (random : UInt32) (s : SntpTask B w) :
    afterPoll numOfServers status random s =
      { s with
        backoffModeFlag := false
        log := .vTaskDelay s.systemClock.pollPeriod :: s.log } := by
  unfold afterPoll
  rw [if_neg h]
  rfl

/-! ## An iteration -/

section Poll

variable {s : SntpTask B w}

@[simp] theorem poll_of_stopped {C : CoreSntp} {numOfServers : ℕ} {r : PollResults w}
    (h : s.stopped ≠ none) : poll C numOfServers s r = s := by
  unfold poll
  rw [if_pos (Option.isSome_iff_ne_none.mpr h)]

@[simp] theorem status_eq_rejected_iff (response : Response) :
    response.status = .rejectedResponse ↔ response = .rejected := by
  cases response <;> simp [Response.status]

/-- **An iteration.** The task stops before its delay, or it backs off, or its attempts are
    exhausted, or it waits for the poll period. -/
theorem poll_cases (C : CoreSntp) (numOfServers : ℕ) (r : PollResults w)
    (hgoes : s.stopped = none) :
    (¬ GetsThrough C s r ∧ ∃ log reason,
      poll C numOfServers s r = { s with log := log, stopped := some reason } ∧
      Extends (TaskCall.answers s.systemClock.slewDivisor) s.log log) ∨
    (GetsThrough C s r ∧ ∃ log systemClock, systemClock.pollPeriod = s.systemClock.pollPeriod ∧
      Extends (TaskCall.answers s.systemClock.slewDivisor) s.log log ∧
      results log = r.response.status :: results s.log ∧
      ((∃ newPollPeriod, r.response = .rejected ∧ numOfServers = 1 ∧
          (B.getNextBackoff s.nextContext r.random).2 = some newPollPeriod ∧
          poll C numOfServers s r =
            { s with
              systemClock := { systemClock with pollPeriod := newPollPeriod.toUInt32 }
              backoffContext := (B.getNextBackoff s.nextContext r.random).1
              backoffModeFlag := true
              log := .vTaskDelay newPollPeriod.toUInt32 ::
                .getNextBackoff (some newPollPeriod) :: (s.initialises ++ log) }) ∨
        (r.response = .rejected ∧ numOfServers = 1 ∧
          (B.getNextBackoff s.nextContext r.random).2 = none ∧
          poll C numOfServers s r =
            { s with
              systemClock := systemClock
              backoffContext := (B.getNextBackoff s.nextContext r.random).1
              backoffModeFlag := true
              stopped := some .assertion
              log := .getNextBackoff none :: (s.initialises ++ log) }) ∨
        (¬ (r.response = .rejected ∧ numOfServers = 1) ∧
          poll C numOfServers s r =
            { s with
              systemClock := systemClock
              backoffModeFlag := false
              log := .vTaskDelay s.systemClock.pollPeriod :: log }))) := by
  have hpoll : poll C numOfServers s r =
      if (answered C r s).stopped.isSome then answered C r s
      else afterPoll numOfServers r.response.status r.random (answered C r s) := by
    unfold poll
    rw [if_neg (by simp [hgoes])]
  rcases answered_cases C r s with ⟨hgets, log, reason, heq, hext⟩ | ⟨hgets, hans⟩
  · refine .inl ⟨hgets, log, reason, ?_, hext⟩
    rw [hpoll, heq]
    rfl
  · obtain ⟨log, systemClock, heq, hperiod, hext, hresults⟩ := hans hgoes
    refine .inr ⟨hgets, log, systemClock, hperiod, hext, hresults, ?_⟩
    rw [heq, if_neg (by simp [hgoes])] at hpoll
    rw [hpoll]
    -- the answer leaves alone what the backoff reads
    have hnext : { s with systemClock := systemClock, log := log }.nextContext = s.nextContext := by
      simp only [SntpTask.nextContext, hperiod]
    have hinit : { s with systemClock := systemClock, log := log }.initialises = s.initialises := by
      simp only [SntpTask.initialises, hperiod]
    by_cases hrejected : r.response = .rejected ∧ numOfServers = 1
    · obtain ⟨hresponse, rfl⟩ := hrejected
      rw [hresponse]
      rcases hdraw : (B.getNextBackoff s.nextContext r.random).2 with _ | newPollPeriod
      · refine .inr (.inl ⟨rfl, rfl, rfl, ?_⟩)
        rw [← hnext] at hdraw
        rw [show Response.rejected.status = .rejectedResponse from rfl, afterPoll_exhausted hdraw,
          hnext, hinit]
      · refine .inl ⟨newPollPeriod, rfl, rfl, rfl, ?_⟩
        rw [← hnext] at hdraw
        rw [show Response.rejected.status = .rejectedResponse from rfl, afterPoll_backsOff hdraw,
          hnext, hinit]
    · refine .inr (.inr ⟨hrejected, ?_⟩)
      rw [afterPoll_waits (by simpa using hrejected), hperiod]

end Poll

end Corstone.Sntp
