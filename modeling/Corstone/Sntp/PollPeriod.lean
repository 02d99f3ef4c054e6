import Corstone.Sntp.SntpTask

/-!
# The poll period

`systemClock.pollPeriod` is the configured interval, the base of the backoff and its result
(`sntp_client_task.c`, lines 1453–1489 and 1588–1626).

* `pollPeriod_iff`: over every run, the task divides by a poll period of at least a second and
  waits for one iff the backoff never draws 0.
* `not_nonzeroUses_zeroDraw`: a draw of 0 is followed by a division by zero.
* `pollInterval_iff`: over every run, the task waits for the configured interval when it is not
  rejected and starts the backoff from it iff the last draw was that interval.
-/

namespace Corstone.Sntp

open Corstone.Lib

variable {B : Backoff} {w : ℕ} {C : CoreSntp} {numOfServers : ℕ}

/-! ## The poll period is at least a second -/

/-- A division by the poll period, or the delay computed from it, is by at least 1. -/
def TaskCall.UsesNonzero : TaskCall → Prop
  | .sntpClientSetTime (some divisor) => 1 ≤ divisor
  | .vTaskDelay pollPeriod => 1 ≤ pollPeriod
  | _ => True

instance (c : TaskCall) : Decidable c.UsesNonzero := by
  unfold TaskCall.UsesNonzero
  split <;> infer_instance

/-- All uses so far are. -/
def NonzeroUses (log : List TaskCall) : Prop := ∀ c ∈ log, c.UsesNonzero

instance (log : List TaskCall) : Decidable (NonzeroUses log) :=
  inferInstanceAs (Decidable (∀ c ∈ log, c.UsesNonzero))

/-- If the single server rejects and there are attempts left, then the window does not bring the
    random number to 0. -/
def NonzeroDraw (C : CoreSntp) (numOfServers : ℕ) (s : SntpTask B w) (r : PollResults w) : Prop :=
  s.stopped = none → GetsThrough C s r → r.response = .rejected → numOfServers = 1 →
    B.AttemptsLeft s.nextContext → r.random.toNat % ((B.window s.nextContext).toNat + 1) ≠ 0

theorem nonzeroUses_cons (c : TaskCall) (log : List TaskCall) :
    NonzeroUses (c :: log) ↔ c.UsesNonzero ∧ NonzeroUses log := List.forall_mem_cons

theorem usesNonzero_of_answers {divisor : Option UInt32} {c : TaskCall}
    (hc : c.answers divisor = true) (hdivisor : ∀ d, divisor = some d → 1 ≤ d) :
    c.UsesNonzero := by
  cases c with
  | sntpClientSetTime d =>
    have hd : d = divisor := by simpa [TaskCall.answers] using hc
    cases d with
    | none => trivial
    | some d => exact hdivisor d hd.symm
  | vTaskDelay pollPeriod => cases hc
  | _ => trivial

/-- What a task whose poll period is at least 1 does before its delay. -/
theorem nonzeroUses_extends {divisor : Option UInt32} {log log' : List TaskCall}
    (hext : Extends (TaskCall.answers divisor) log log')
    (hdivisor : NonzeroUses log → ∀ d, divisor = some d → 1 ≤ d) :
    NonzeroUses log' ↔ NonzeroUses log := by
  obtain ⟨calls, hcalls, rfl⟩ := hext
  constructor
  · exact fun h c hc => h c (List.mem_append_right _ hc)
  · intro hlog c hc
    rcases List.mem_append.mp hc with hc | hc
    · exact usesNonzero_of_answers (hcalls c hc) (hdivisor hlog)
    · exact hlog c hc

@[simp] theorem nonzeroUses_initialises (s : SntpTask B w) (log : List TaskCall) :
    NonzeroUses (s.initialises ++ log) ↔ NonzeroUses log := by
  unfold SntpTask.initialises
  split_ifs
  · rfl
  · exact (nonzeroUses_cons _ _).trans (and_iff_right trivial)

/-- As long as all uses were nonzero, the poll period is at least 1. -/
def PollPeriodNonzero (s : SntpTask B w) : Prop :=
  s.stopped = none → NonzeroUses s.log → 1 ≤ s.systemClock.pollPeriod

theorem slewDivisor_le {s : SntpTask B w} (h : 1 ≤ s.systemClock.pollPeriod) (d : UInt32)
    (hd : s.systemClock.slewDivisor = some d) : 1 ≤ d := by
  unfold SystemClock.slewDivisor at hd
  split_ifs at hd
  exact Option.some.inj hd ▸ h

/-- A draw is at least 1 iff the random number is not brought to 0. -/
theorem one_le_draw_iff {c : B.Context} {random : UInt32} {delay : UInt16}
    (h : (B.getNextBackoff c random).2 = some delay) :
    1 ≤ delay.toUInt32 ↔ random.toNat % ((B.window c).toNat + 1) ≠ 0 := by
  rw [← B.draw c random delay h, UInt32.le_iff_toNat_le, UInt16.toNat_toUInt32]
  exact Nat.one_le_iff_ne_zero

/-- The step. -/
theorem nonzeroUses_poll (s : SntpTask B w) (r : PollResults w) (hs : PollPeriodNonzero s) :
    PollPeriodNonzero (poll C numOfServers s r) ∧
      (NonzeroUses (poll C numOfServers s r).log ↔
        NonzeroUses s.log ∧ NonzeroDraw C numOfServers s r) := by
  by_cases hstopped : s.stopped = none
  · have huses : ∀ {log}, Extends (TaskCall.answers s.systemClock.slewDivisor) s.log log →
        (NonzeroUses log ↔ NonzeroUses s.log) := fun hext =>
      nonzeroUses_extends hext fun hlog d hd => slewDivisor_le (hs hstopped hlog) d hd
    rcases poll_cases C numOfServers r hstopped with
      ⟨hgets, log, reason, heq, hext⟩ | ⟨hgets, log, systemClock, hperiod, hext, -, hrest⟩
    · rw [heq]
      refine ⟨fun h => by simp at h, (huses hext).trans (and_iff_left ?_).symm⟩
      exact fun _ h => absurd h hgets
    · rcases hrest with ⟨newPollPeriod, hresponse, hsingle, hdraw, heq⟩ |
        ⟨hresponse, hsingle, hdraw, heq⟩ | ⟨hnot, heq⟩
      · have hleft := Backoff.attemptsLeft_of_some hdraw
        have hnonzero : NonzeroDraw C numOfServers s r ↔ 1 ≤ newPollPeriod.toUInt32 := by
          rw [one_le_draw_iff hdraw]
          exact ⟨fun h => h hstopped hgets hresponse hsingle hleft, fun h _ _ _ _ _ => h⟩
        rw [heq]
        refine ⟨fun _ h => ((nonzeroUses_cons _ _).mp h).1, ?_⟩
        simp only [nonzeroUses_cons, nonzeroUses_initialises, huses hext, hnonzero]
        simp [TaskCall.UsesNonzero, and_comm]
      · have hexhausted := Backoff.not_attemptsLeft_of_none hdraw
        have hnonzero : NonzeroDraw C numOfServers s r := fun _ _ _ _ h => absurd h hexhausted
        rw [heq]
        refine ⟨fun h => by simp at h, ?_⟩
        rw [nonzeroUses_cons, nonzeroUses_initialises, huses hext, and_iff_left hnonzero]
        exact and_iff_right trivial
      · have hnonzero : NonzeroDraw C numOfServers s r :=
          fun _ _ hrejected hsingle => absurd ⟨hrejected, hsingle⟩ hnot
        rw [heq]
        refine ⟨fun _ h => hperiod ▸ ((nonzeroUses_cons _ _).mp h).1, ?_⟩
        rw [nonzeroUses_cons, huses hext, and_iff_left hnonzero]
        exact and_iff_right_of_imp fun hlog => hs hstopped hlog
  · rw [poll_of_stopped hstopped]
    exact ⟨hs, (and_iff_left fun h => absurd h hstopped).symm⟩

/-- **No division by a zero poll period**, and no delay of 0 seconds, over every run iff no draw
    of the backoff is 0. -/
theorem pollPeriod_iff (B : Backoff) (C : CoreSntp) (numOfServers : ℕ) (rs : List (PollResults w)) :
    NonzeroUses (run (poll C numOfServers) (enterLoop B w) rs).log ↔
      Along (poll C numOfServers) (NonzeroDraw C numOfServers) (enterLoop B w) rs := by
  have hinit : PollPeriodNonzero (enterLoop B w) := fun _ _ => by
    show (1 : UInt32) ≤ 16
    decide
  refine (run_iff_along_of_inv (J := fun s => NonzeroUses s.log)
    (fun s r hs => (nonzeroUses_poll s r hs).1) (fun s r hs => (nonzeroUses_poll s r hs).2)
    hinit rs).trans (and_iff_right ?_)
  exact fun c hc => absurd hc (List.not_mem_nil)

/-- The time of the server is set, a request is rejected when the random number is 34, and the
    time is set again. -/
def zeroDraw : List (PollResults 32) :=
  [{ response := .time ⟨3913056000, 0⟩ 0 },
    { response := .rejected, random := 34 },
    { response := .time ⟨3913056016, 0⟩ 100 }]

/-- The first window is 16, and 34 is a multiple of 17: the task waits 0 seconds, and the next
    time that is set divides by zero. -/
theorem not_nonzeroUses_zeroDraw :
    ¬ NonzeroUses (run (poll documentedSntp 1) (enterLoop documentedBackoff 32) zeroDraw).log ∧
      (run (poll documentedSntp 1) (enterLoop documentedBackoff 32) zeroDraw).stopped =
        some .divisionByZero := by
  decide

/-! ## The configured interval -/

/-- What the backoff has drawn. -/
def TaskCall.drawn : TaskCall → Option UInt16
  | .getNextBackoff newPollPeriod => newPollPeriod
  | _ => none

/-- The last delay that the backoff has drawn. -/
def lastDraw (log : List TaskCall) : Option UInt16 := log.findSome? TaskCall.drawn

/-- After a poll that is not rejected the task waits for the configured interval, and a new
    sequence of rejections begins with the context initialised with it. -/
def WaitsAsConfigured (past : List TaskCall) : TaskCall → Prop
  | .vTaskDelay pollPeriod =>
    (results past).head? ≠ some .rejectedResponse → pollPeriod = pollingIntervalSeconds
  | .getNextBackoff _ => (results past)[1]? ≠ some .rejectedResponse →
    past.head? = some (.initializeParams pollingIntervalSeconds)
  | _ => True

instance (past : List TaskCall) (c : TaskCall) : Decidable (WaitsAsConfigured past c) := by
  unfold WaitsAsConfigured
  split <;> infer_instance

/-- A poll that is not rejected, or the first rejection of a sequence by the single server, comes
    when the last draw, if there is one, was the configured interval. -/
def IntervalKept (C : CoreSntp) (numOfServers : ℕ) (s : SntpTask B w) (r : PollResults w) : Prop :=
  s.stopped = none → GetsThrough C s r →
    (r.response ≠ .rejected ∨
      numOfServers = 1 ∧ (results s.log).head? ≠ some .rejectedResponse) →
    ∀ delay, lastDraw s.log = some delay → delay = 16

/-- The poll period and the flag, as the history has them. -/
structure PollsAsDrawn (numOfServers : ℕ) (s : SntpTask B w) : Prop where
  period : s.stopped = none →
    s.systemClock.pollPeriod = (lastDraw s.log).elim pollingIntervalSeconds UInt16.toUInt32
  flag : s.stopped = none → (s.backoffModeFlag = true ↔
    numOfServers = 1 ∧ (results s.log).head? = some .rejectedResponse)

theorem lastDraw_cons (c : TaskCall) (log : List TaskCall) :
    lastDraw (c :: log) = c.drawn.or (lastDraw log) := by
  unfold lastDraw
  rw [List.findSome?_cons]
  cases c.drawn <;> rfl

theorem lastDraw_extends {divisor : Option UInt32} {log log' : List TaskCall}
    (hext : Extends (TaskCall.answers divisor) log log') : lastDraw log' = lastDraw log := by
  refine hext.eq fun c l hc => ?_
  rw [lastDraw_cons]
  cases c with
  | getNextBackoff d => cases hc
  | _ => rfl

theorem waitsAsConfigured_extends {divisor : Option UInt32} {log log' : List TaskCall}
    (hext : Extends (TaskCall.answers divisor) log log') :
    Always WaitsAsConfigured log' ↔ Always WaitsAsConfigured log := by
  constructor
  · obtain ⟨calls, -, rfl⟩ := hext
    exact always_of_suffix (List.suffix_append _ _)
  · refine hext.always fun l c hc => ?_
    cases c with
    | getNextBackoff d => cases hc
    | vTaskDelay pollPeriod => cases hc
    | _ => trivial

section Initialises

variable (s : SntpTask B w) (log : List TaskCall)

@[simp] theorem waitsAsConfigured_initialises :
    Always WaitsAsConfigured (s.initialises ++ log) ↔ Always WaitsAsConfigured log := by
  unfold SntpTask.initialises
  split_ifs
  · rfl
  · exact and_iff_right trivial

end Initialises

/-- The poll period is the configured one iff the last draw was. -/
theorem PollsAsDrawn.period_iff {s : SntpTask B w} (hs : PollsAsDrawn numOfServers s)
    (hstopped : s.stopped = none) : s.systemClock.pollPeriod = pollingIntervalSeconds ↔
      ∀ delay, lastDraw s.log = some delay → delay = 16 := by
  rw [hs.period hstopped]
  cases lastDraw s.log with
  | none => simp
  | some delay =>
    have hdelay : delay.toUInt32 = pollingIntervalSeconds ↔ delay = 16 := by
      rw [← UInt32.toNat_inj, ← UInt16.toNat_inj, UInt16.toNat_toUInt32]
      rfl
    simpa using hdelay

/-- A call of the backoff algorithm. -/
theorem waitsAsConfigured_getNextBackoff {s : SntpTask B w} (hs : PollsAsDrawn 1 s)
    (hstopped : s.stopped = none) {log : List TaskCall}
    (hresults : results log = .rejectedResponse :: results s.log) (drawn : Option UInt16) :
    WaitsAsConfigured (s.initialises ++ log) (.getNextBackoff drawn) ↔
      ((results s.log).head? ≠ some .rejectedResponse →
        ∀ delay, lastDraw s.log = some delay → delay = 16) := by
  rw [← hs.period_iff hstopped]
  unfold WaitsAsConfigured
  rw [results_initialises, hresults, List.getElem?_cons_succ, ← List.head?_eq_getElem?]
  refine imp_congr_right fun hfirst => ?_
  have hflag : s.backoffModeFlag = false := by
    refine Bool.eq_false_iff.mpr fun h => hfirst ((hs.flag hstopped).mp h).2
  unfold SntpTask.initialises
  rw [hflag]
  simp

/-- The step. -/
theorem waitsAsConfigured_poll (s : SntpTask B w) (r : PollResults w)
    (hs : PollsAsDrawn numOfServers s) :
    PollsAsDrawn numOfServers (poll C numOfServers s r) ∧
      (Always WaitsAsConfigured (poll C numOfServers s r).log ↔
        Always WaitsAsConfigured s.log ∧ IntervalKept C numOfServers s r) := by
  by_cases hstopped : s.stopped = none
  · rcases poll_cases C numOfServers r hstopped with
      ⟨hgets, log, reason, heq, hext⟩ | ⟨hgets, log, systemClock, hperiod, hext, hresults, hrest⟩
    · rw [heq]
      refine ⟨⟨fun h => by simp at h, fun h => by simp at h⟩, ?_⟩
      exact (waitsAsConfigured_extends hext).trans (and_iff_left fun _ h => absurd h hgets).symm
    · have hkept : IntervalKept C numOfServers s r ↔
          ((r.response ≠ .rejected ∨
            numOfServers = 1 ∧ (results s.log).head? ≠ some .rejectedResponse) →
          ∀ delay, lastDraw s.log = some delay → delay = 16) :=
        ⟨fun h => h hstopped hgets, fun h _ _ => h⟩
      rcases hrest with ⟨newPollPeriod, hresponse, hsingle, hdraw, heq⟩ |
        ⟨hresponse, hsingle, hdraw, heq⟩ | ⟨hnot, heq⟩
      · subst hsingle
        rw [hresponse] at hresults
        have hcall := waitsAsConfigured_getNextBackoff hs hstopped hresults (some newPollPeriod)
        rw [heq]
        refine ⟨⟨fun _ => ?_, fun _ => ?_⟩, ?_⟩
        · simp [lastDraw_cons, TaskCall.drawn]
        · simp [hresults, TaskCall.result, Response.status]
        · have hdelay : WaitsAsConfigured
              (.getNextBackoff (some newPollPeriod) :: (s.initialises ++ log))
              (.vTaskDelay newPollPeriod.toUInt32) := by
            refine fun h => absurd ?_ h
            rw [results_cons, results_initialises, hresults]
            rfl
          rw [always_cons, always_cons, waitsAsConfigured_initialises, hcall,
            waitsAsConfigured_extends hext, hkept, and_iff_right hdelay]
          simp [hresponse, and_comm]
      · subst hsingle
        rw [hresponse] at hresults
        have hcall := waitsAsConfigured_getNextBackoff hs hstopped hresults none
        rw [heq]
        refine ⟨⟨fun h => by simp at h, fun h => by simp at h⟩, ?_⟩
        rw [always_cons, waitsAsConfigured_initialises, hcall, waitsAsConfigured_extends hext,
          hkept]
        simp [hresponse, and_comm]
      · have hsame : lastDraw (.vTaskDelay s.systemClock.pollPeriod :: log) = lastDraw s.log := by
          rw [lastDraw_cons, lastDraw_extends hext]
          rfl
        have hhead : (results log).head? = some .rejectedResponse ↔ r.response = .rejected := by
          simp [hresults]
        rw [heq]
        refine ⟨⟨fun _ => ?_, fun _ => ?_⟩, ?_⟩
        · rw [hsame, hperiod]
          exact hs.period hstopped
        · simp only [results_cons, TaskCall.result, Option.toList_none, List.nil_append, hhead]
          simpa [and_comm] using hnot
        · rw [always_cons, waitsAsConfigured_extends hext, hkept, ← hs.period_iff hstopped]
          have hdelay : WaitsAsConfigured log (.vTaskDelay s.systemClock.pollPeriod) ↔
              (r.response ≠ .rejected →
                s.systemClock.pollPeriod = pollingIntervalSeconds) :=
            imp_congr_left (not_congr hhead)
          rw [hdelay, and_comm]
          refine and_congr_right fun _ => imp_congr_left ?_
          exact ⟨.inl, fun h => h.elim id fun hfirst hresponse => hnot ⟨hresponse, hfirst.1⟩⟩
  · rw [poll_of_stopped hstopped]
    exact ⟨hs, (and_iff_left fun h => absurd h hstopped).symm⟩

/-- **The configured interval**, over every run: the task waits for it after every poll that is
    not rejected, and every sequence of rejections starts from it, iff at each of these moments
    the last draw of the backoff, if there is one, is that interval. -/
theorem pollInterval_iff (B : Backoff) (C : CoreSntp) (numOfServers : ℕ)
    (rs : List (PollResults w)) :
    Always WaitsAsConfigured (run (poll C numOfServers) (enterLoop B w) rs).log ↔
      Along (poll C numOfServers) (IntervalKept C numOfServers) (enterLoop B w) rs := by
  have hinit : PollsAsDrawn numOfServers (enterLoop B w) :=
    ⟨fun _ => rfl, fun _ => by simp [enterLoop, results]⟩
  refine (run_iff_along_of_inv (J := fun s => Always WaitsAsConfigured s.log)
    (fun s r hs => (waitsAsConfigured_poll s r hs).1)
    (fun s r hs => (waitsAsConfigured_poll s r hs).2) hinit rs).trans (and_iff_right ?_)
  exact trivial

/-- A rejection with a draw of 5 seconds, and no response to the next request. -/
def acceptedAfterDraw : List (PollResults 32) :=
  [{ response := .rejected, random := 5 },
    { response := .error .responseTimeout }]

/-- The task goes on waiting for 5 seconds. -/
theorem not_waitsAsConfigured_afterDraw :
    (run (poll documentedSntp 1) (enterLoop documentedBackoff 32) acceptedAfterDraw).log.head? =
        some (.vTaskDelay 5) ∧
      ¬ Always WaitsAsConfigured
        (run (poll documentedSntp 1) (enterLoop documentedBackoff 32) acceptedAfterDraw).log := by
  decide

end Corstone.Sntp
