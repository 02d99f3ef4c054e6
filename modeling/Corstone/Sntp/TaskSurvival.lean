import Corstone.Sntp.SntpTask

/-!
# The task against the network

The assertions of `sntpTask` (`sntp_client_task.c`, lines 1572, 1575 and 1614) and of
`sntpClient_SetTime` (line 917) are about what the network returns.

* `survives_iff`: a run goes on iff every request is sent, every time that is received can be
  dealt with, and the single server rejects at most ten times in a row.
* `not_survives`: a name that is not resolved, a time between the eras, an eleventh rejection.
-/

namespace Corstone.Sntp

open Corstone.Lib

variable {B : Backoff} {w : ℕ} {C : CoreSntp} {numOfServers : ℕ}

/-- The rejections since the last poll that was not rejected. -/
def rejectionsInARow (log : List TaskCall) : ℕ :=
  (since (fun status => status != .rejectedResponse) (results log)).length

/-- The request is sent, what is received can be dealt with, and a rejection by the single server
    is not the eleventh in a row. -/
def Survivable (C : CoreSntp) (numOfServers : ℕ) (s : SntpTask B w) (r : PollResults w) : Prop :=
  r.sendError = none ∧ Settable C s r.response ∧
    (r.response = .rejected → numOfServers = 1 →
      rejectionsInARow s.log < maxServerBackoffRetries.toNat)

/-- The backoff algorithm counts the rejections by the single server. -/
def CountsRejections (numOfServers : ℕ) (s : SntpTask B w) : Prop :=
  numOfServers = 1 → s.stopped = none →
    B.maxRetryAttempts s.nextContext = maxServerBackoffRetries.toNat ∧
      B.attemptsDone s.nextContext = rejectionsInARow s.log

theorem CountsRejections.attemptsLeft_iff {s : SntpTask B w} (hs : CountsRejections 1 s)
    (hstopped : s.stopped = none) :
    B.AttemptsLeft s.nextContext ↔ rejectionsInARow s.log < maxServerBackoffRetries.toNat := by
  obtain ⟨hmax, hdone⟩ := hs rfl hstopped
  unfold Backoff.AttemptsLeft
  rw [hmax, hdone]
  exact or_iff_right (by decide)

/-- A context that has just been initialised. -/
theorem countsRejections_of_not_backoffMode {s : SntpTask B w} (hflag : s.backoffModeFlag = false)
    (hrow : numOfServers = 1 → rejectionsInARow s.log = 0) : CountsRejections numOfServers s := by
  intro hsingle _
  unfold SntpTask.nextContext
  rw [hflag, hrow hsingle]
  exact ⟨B.maxRetryAttempts_initializeParams _ _ _, B.attemptsDone_initializeParams _ _ _⟩

/-- The step. -/
theorem survives_poll (s : SntpTask B w) (r : PollResults w)
    (hs : CountsRejections numOfServers s) :
    CountsRejections numOfServers (poll C numOfServers s r) ∧
      ((poll C numOfServers s r).stopped = none ↔
        s.stopped = none ∧ r.socket = true ∧ Survivable C numOfServers s r) := by
  by_cases hstopped : s.stopped = none
  · rcases poll_cases C numOfServers r hstopped with
      ⟨hgets, log, reason, heq, hext⟩ | ⟨hgets, log, systemClock, -, hext, hresults, hrest⟩
    · rw [heq]
      refine ⟨fun _ h => by simp at h, iff_of_false (by simp) fun h => hgets ?_⟩
      exact ⟨h.2.1, h.2.2.1, h.2.2.2.1⟩
    · obtain ⟨hsocket, hsend, hset⟩ := hgets
      have hsurvivable : (s.stopped = none ∧ r.socket = true ∧ Survivable C numOfServers s r) ↔
          (r.response = .rejected → numOfServers = 1 →
            rejectionsInARow s.log < maxServerBackoffRetries.toNat) :=
        ⟨fun h => h.2.2.2.2, fun h => ⟨hstopped, hsocket, hsend, hset, h⟩⟩
      rw [hsurvivable]
      rcases hrest with ⟨newPollPeriod, hresponse, hsingle, hdraw, heq⟩ |
        ⟨hresponse, hsingle, hdraw, heq⟩ | ⟨hnot, heq⟩
      · subst hsingle
        have hleft := Backoff.attemptsLeft_of_some hdraw
        rw [hs.attemptsLeft_iff hstopped] at hleft
        refine ⟨fun _ _ => ?_, iff_of_true (by rw [heq]; exact hstopped) fun _ _ => hleft⟩
        obtain ⟨hmax, hdone⟩ := hs rfl hstopped
        have hrow : rejectionsInARow (poll C 1 s r).log = rejectionsInARow s.log + 1 := by
          rw [heq]
          simp [rejectionsInARow, hresults, hresponse, TaskCall.result, Response.status]
        have hnext : (poll C 1 s r).nextContext =
            (B.getNextBackoff s.nextContext r.random).1 := by rw [heq]; rfl
        rw [hrow, hnext, B.maxRetryAttempts_getNextBackoff, hmax,
          B.attemptsDone_getNextBackoff _ _ (by rw [hdraw]; rfl), hdone]
        exact ⟨rfl, rfl⟩
      · subst hsingle
        have hexhausted := Backoff.not_attemptsLeft_of_none hdraw
        rw [hs.attemptsLeft_iff hstopped] at hexhausted
        rw [heq]
        refine ⟨fun _ h => by simp at h, iff_of_false (by simp) fun h => ?_⟩
        exact hexhausted (h hresponse rfl)
      · have hgoes : r.response = .rejected → numOfServers = 1 →
            rejectionsInARow s.log < maxServerBackoffRetries.toNat :=
          fun hrejected hsingle => absurd ⟨hrejected, hsingle⟩ hnot
        rw [heq]
        refine ⟨countsRejections_of_not_backoffMode rfl fun hsingle => ?_,
          iff_of_true hstopped hgoes⟩
        have hrejected : r.response ≠ .rejected := fun h => hnot ⟨h, hsingle⟩
        simp [rejectionsInARow, hresults, TaskCall.result, hrejected]
  · rw [poll_of_stopped hstopped]
    exact ⟨hs, iff_of_false hstopped fun h => hstopped h.1⟩

/-- **The task survives the network**, over every run in which the local sockets can be created,
    iff every request is sent, every time that is received can be dealt with, and the single
    server does not reject eleven times in a row. -/
theorem survives_iff (B : Backoff) (C : CoreSntp) (numOfServers : ℕ) (rs : List (PollResults w))
    (hsocket : ∀ r ∈ rs, r.socket = true) :
    (run (poll C numOfServers) (enterLoop B w) rs).stopped = none ↔
      Along (poll C numOfServers) (Survivable C numOfServers) (enterLoop B w) rs := by
  have hinit : CountsRejections numOfServers (enterLoop B w) :=
    countsRejections_of_not_backoffMode rfl fun _ => rfl
  have hsockets : Along (poll C numOfServers) (fun _ r => r.socket = true) (enterLoop B w) rs :=
    along_of_forall hsocket _
  rw [run_iff_along_of_inv (J := fun s : SntpTask B w => s.stopped = none)
      (fun s r hs => (survives_poll s r hs).1) (fun s r hs => (survives_poll s r hs).2) hinit rs,
    along_and, and_iff_right hsockets]
  exact and_iff_right rfl

/-- The server does not answer, and then rejects a request. -/
def timeoutAndRejection : List (PollResults 32) :=
  [{ response := .error .responseTimeout },
    { response := .rejected, random := 20 }]

theorem survives_iff_timeoutAndRejection :
    (run (poll documentedSntp 1) (enterLoop documentedBackoff 32) timeoutAndRejection).stopped =
        none ↔
      Along (poll documentedSntp 1) (Survivable documentedSntp 1) (enterLoop documentedBackoff 32)
        timeoutAndRejection :=
  survives_iff documentedBackoff documentedSntp 1 timeoutAndRejection (by decide)

/-- The name of the server is not resolved; the server sends a time between the eras; the server
    rejects eleven times. -/
theorem not_survives :
    (run (poll documentedSntp 1) (enterLoop documentedBackoff 32)
        [{ sendError := some .dnsFailure, response := .error .responseTimeout }]).stopped =
        some .assertion ∧
      (run (poll documentedSntp 1) (enterLoop documentedBackoff 32)
        [{ response := .time ⟨1000000000, 0⟩ 0 }]).stopped = some .assertion ∧
      (run (poll documentedSntp 1) (enterLoop documentedBackoff 32)
        (List.replicate 11 { response := .rejected, random := 20 })).stopped =
        some .assertion := by
  decide

end Corstone.Sntp
