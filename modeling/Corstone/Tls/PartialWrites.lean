import Corstone.Tls.Context

/-!
# Partial writes over TLS

`TLS_Send` calls `mbedtls_ssl_write` until the message is accepted or a call accepts nothing
(`iot_tls.c`, lines 928–975), and returns the count as an `int32_t`. `Transport_Send`
(`transport_mbedtls.c`, lines 265–287) hands it a message that is not empty. A caller resumes at
the offset that the counts add up to.

* `partial_writes`: for a message of less than 2^31 bytes, a count that is returned is the number
  of bytes that have been accepted, once and in order, a negative result is a hard error of a
  context that has been released, and a caller that resumes has the message accepted once.
* `send_count_wraps`: the count of 2^31 bytes is a negative result without an error.
-/

namespace Corstone.Tls

open Corstone.Lib

/-- The bytes that a call has accepted. -/
def MbedCall.written (c : MbedCall) : ℕ := c.result.toInt.toNat

/-- The calls that the loop of `TLS_Send` makes accept no more than they are offered. -/
def Offered (xMsgLength : ℕ) : List MbedCall → ℕ → Prop
  | [], _ => True
  | c :: calls, xWritten =>
    xWritten < xMsgLength → 0 < c.result →
      xWritten + c.written ≤ xMsgLength ∧ Offered xMsgLength calls (xWritten + c.written)

instance decidableOffered (xMsgLength : ℕ) :
    (calls : List MbedCall) → (xWritten : ℕ) → Decidable (Offered xMsgLength calls xWritten)
  | [], _ => isTrue trivial
  | c :: calls, xWritten =>
    have : Decidable (Offered xMsgLength calls (xWritten + c.written)) :=
      decidableOffered xMsgLength calls (xWritten + c.written)
    inferInstanceAs (Decidable (_ → _ → _ ∧ _))

/-- `mbedtls_ssl_write` has failed. -/
def HardError (result : Int32) : Prop := result < 0 ∧ result ≠ mbedtlsErrSslWantWrite

theorem HardError.not_nonneg {result : Int32} (h : HardError result) : ¬ 0 ≤ result :=
  Int32.not_le.mpr h.1

/-- The context has no session and is not set up. -/
def Connection.Invalid (s : Connection) : Prop :=
  s.context.xP11Session = 0 ∧ s.context.xMbedSslCtx = false

/-- `Transport_Send` over TLS, with a message that is not `NULL`. -/
def transportSend (closeNotify : ℕ) (pMessage : Bytes) (calls : List MbedCall) (s : Connection) :
    Connection × Option Int32 :=
  if pMessage = [] then (s, some (-1))
  else
    let (s, result) := s.tlsSend closeNotify pMessage calls
    (s, result.map Connection.sendResult)

/-- How far a caller has come that sends a message with `Transport_Send`. -/
inductive Progress
  /-- The next call is made at this offset, or has not returned. -/
  | pending (offset : ℕ)
  | done
  | failed (result : Int32)
  deriving DecidableEq

/-- A caller of `Transport_Send` that resumes a short write behind the bytes that were accepted,
    up to an error or the end of the message. -/
def resumeSend (msg : Bytes) :
    List (ℕ × List MbedCall) → ℕ → Connection → Connection × Progress
  | [], offset, s => (s, if offset < msg.length then .pending offset else .done)
  | (closeNotify, calls) :: attempts, offset, s =>
    if offset < msg.length then
      match transportSend closeNotify (msg.drop offset) calls s with
      | (s, none) => (s, .pending offset)
      | (s, some result) =>
        if result < 0 then (s, .failed result)
        else resumeSend msg attempts (offset + result.toInt.toNat) s
    else (s, .done)

/-- What one call of `TLS_Send` does with a message. -/
structure Sends (closeNotify : ℕ) (msg : Bytes) (calls : List MbedCall) (s : Connection) :
    Prop where
  /-- It has not returned as long as the calls accept some bytes but not all. -/
  pending : (s.tlsSend closeNotify msg calls).2 = none ↔
    (∀ c ∈ calls, 0 < c.result) ∧ (calls.map MbedCall.written).sum < msg.length
  /-- It makes no more calls once it has returned. -/
  returned : ∀ more, (s.tlsSend closeNotify msg calls).2 ≠ none →
    s.tlsSend closeNotify msg (calls ++ more) = s.tlsSend closeNotify msg calls
  accepted : ∀ e, (s.tlsSend closeNotify msg calls).2 = some e →
    0 ≤ Connection.sendResult e →
      (Connection.sendResult e).toInt.toNat ≤ msg.length ∧
      (s.tlsSend closeNotify msg calls).1.accepted =
        s.accepted ++ msg.take (Connection.sendResult e).toInt.toNat
  failed : ∀ e, (s.tlsSend closeNotify msg calls).2 = some e →
    Connection.sendResult e < 0 →
      HardError (Connection.sendResult e) ∧ (∃ c ∈ calls, c.result = Connection.sendResult e) ∧
      (s.tlsSend closeNotify msg calls).1.Invalid

/-- The calls that a caller makes accept no more than they are offered. -/
def AllOffered (msg : Bytes) : List (ℕ × List MbedCall) → ℕ → Connection → Prop
  | [], _, _ => True
  | (closeNotify, calls) :: attempts, offset, s =>
    Offered (msg.length - offset) calls 0 ∧
      match transportSend closeNotify (msg.drop offset) calls s with
      | (s, some result) => AllOffered msg attempts (offset + result.toInt.toNat) s
      | (_, none) => True

/-- A call of `Transport_Send` accepts some bytes, and is then interrupted without an error. -/
structure Advances (calls : List MbedCall) : Prop where
  first : ∀ c ∈ calls.head?, 0 < c.result
  stops : ∃ c ∈ calls, ¬ 0 < c.result
  noError : ∀ c ∈ calls, ¬ HardError c.result

/-- What a caller has reached that resumes at the offset. -/
def Resumed (msg : Bytes) (s s' : Connection) : Progress → Prop
  | .pending offset => offset < msg.length ∧
      ∃ k, offset ≤ k ∧ k ≤ msg.length ∧ s'.accepted = s.accepted ++ msg.take k
  | .done => s'.accepted = s.accepted ++ msg
  | .failed result => HardError result ∧ s'.Invalid ∧
      ∃ k, k ≤ msg.length ∧ s'.accepted = s.accepted ++ msg.take k

namespace Connection

/-- `prvFreeContext` leaves a context that is not valid. -/
theorem invalid_prvFreeContext (closeNotify : ℕ) (s : Connection) :
    (s.prvFreeContext closeNotify).Invalid := by
  unfold prvFreeContext closeSession
  by_cases hsession : (s.callbacks closeNotify).sslFree.context.xP11Session = 0
  · rw [if_neg (not_not.mpr hsession)]
    exact ⟨hsession, rfl⟩
  · rw [if_pos hsession]
    exact ⟨rfl, rfl⟩

@[simp] theorem accepted_useFunctionLists (n : ℕ) (s : Connection) :
    (useFunctionLists n s).accepted = s.accepted := by
  induction n generalizing s with
  | zero => rfl
  | succ n ih => exact ih s.useFunctionList

@[simp] theorem accepted_callbacks (n : ℕ) (s : Connection) :
    (s.callbacks n).accepted = s.accepted := by
  unfold callbacks
  by_cases hssl : s.context.xMbedSslCtx <;> simp [hssl]

@[simp] theorem accepted_prvFreeContext (closeNotify : ℕ) (s : Connection) :
    (s.prvFreeContext closeNotify).accepted = s.accepted := by
  unfold prvFreeContext closeSession
  by_cases hsession : (s.callbacks closeNotify).sslFree.context.xP11Session = 0
  · rw [if_neg (not_not.mpr hsession)]
    exact accepted_callbacks closeNotify s
  · rw [if_pos hsession]
    exact accepted_callbacks closeNotify s

variable {closeNotify : ℕ} {msg : Bytes}

/-- The bytes that are accepted behind an offset continue those before it. -/
theorem take_add_drop (msg : Bytes) (k written : ℕ) :
    msg.take k ++ (msg.drop k).take written = msg.take (k + written) :=
  List.take_add.symm

/-- How the loop of `TLS_Send` ends: it waits for the next call, it has accepted the message or
    stopped before the rest, or it has failed. The induction is on the calls, with the offset. -/
theorem tlsSendLoop_spec (closeNotify : ℕ) (acc : Bytes) (calls : List MbedCall) (xWritten : ℕ)
    (s : Connection)
    (hx : xWritten ≤ msg.length) (hacc : s.accepted = acc ++ msg.take xWritten)
    (h : Offered msg.length calls xWritten) :
    ∃ k, xWritten ≤ k ∧ k ≤ msg.length ∧ k ≤ xWritten + (calls.map MbedCall.written).sum ∧
      (s.tlsSendLoop closeNotify msg calls xWritten).1.accepted = acc ++ msg.take k ∧
      (((s.tlsSendLoop closeNotify msg calls xWritten).2 = none ∧ (∀ c ∈ calls, 0 < c.result) ∧
          xWritten + (calls.map MbedCall.written).sum < msg.length) ∨
        ((s.tlsSendLoop closeNotify msg calls xWritten).2 = some (.ok k) ∧
          (k = msg.length ∨ ∃ c ∈ calls, ¬ 0 < c.result)) ∨
        ∃ c ∈ calls, (s.tlsSendLoop closeNotify msg calls xWritten).2 = some (.error c.result) ∧
          HardError c.result ∧ (s.tlsSendLoop closeNotify msg calls xWritten).1.Invalid) := by
  induction calls generalizing s xWritten with
  | nil =>
    refine ⟨xWritten, le_refl _, hx, by simp, hacc, ?_⟩
    by_cases hmore : xWritten < msg.length
    · exact .inl ⟨by simp [tlsSendLoop, hmore], by simp, by simpa using hmore⟩
    · exact .inr (.inl ⟨by simp [tlsSendLoop, hmore], .inl (by omega)⟩)
  | cons c calls ih =>
    unfold tlsSendLoop
    by_cases hmore : xWritten < msg.length
    case neg =>
      simp only [if_neg hmore]
      exact ⟨xWritten, le_refl _, hx, by omega, hacc, .inr (.inl ⟨rfl, .inl (by omega)⟩)⟩
    simp only [if_pos hmore]
    by_cases hpos : 0 < c.result
    · -- Some bytes are accepted, and the loop goes on behind them.
      simp only [if_pos hpos]
      obtain ⟨hfits, hrest⟩ := h hmore hpos
      have hacc' : (s.callbacks c.callbacks).accepted ++
          (msg.drop xWritten).take c.result.toInt.toNat =
            acc ++ msg.take (xWritten + c.written) := by
        rw [accepted_callbacks, hacc, List.append_assoc, take_add_drop]
        rfl
      obtain ⟨k, hk, hlength, hsum, haccepted, hend⟩ := ih (xWritten + c.written)
        { s.callbacks c.callbacks with
          accepted := (s.callbacks c.callbacks).accepted ++
            (msg.drop xWritten).take c.result.toInt.toNat } hfits hacc' hrest
      refine ⟨k, by omega, hlength, ?_, haccepted, ?_⟩
      · rw [List.map_cons, List.sum_cons]
        omega
      rcases hend with ⟨hnone, hall, hless⟩ | ⟨hok, hstop⟩ | ⟨d, hd, herror⟩
      · refine .inl ⟨hnone, ?_, ?_⟩
        · intro d hd
          rcases List.mem_cons.mp hd with rfl | hd
          · exact hpos
          · exact hall d hd
        · rw [List.map_cons, List.sum_cons]
          omega
      · refine .inr (.inl ⟨hok, hstop.imp id ?_⟩)
        rintro ⟨d, hd, hneg⟩
        exact ⟨d, List.mem_cons_of_mem c hd, hneg⟩
      · exact .inr (.inr ⟨d, List.mem_cons_of_mem c hd, herror⟩)
    by_cases hwant : c.result = 0 ∨ c.result = mbedtlsErrSslWantWrite
    · simp only [if_neg hpos, if_pos hwant]
      refine ⟨xWritten, le_refl _, hx, by omega, ?_, .inr (.inl ⟨rfl, .inr ?_⟩)⟩
      · rw [accepted_callbacks, hacc]
      · exact ⟨c, by simp, hpos⟩
    · -- Any other result is a hard error.
      simp only [if_neg hpos, if_neg hwant]
      refine ⟨xWritten, le_refl _, hx, by omega, ?_, .inr (.inr ⟨c, by simp, rfl, ?_, ?_⟩)⟩
      · rw [accepted_prvFreeContext, accepted_callbacks, hacc]
      · obtain ⟨hzero, hwrite⟩ := not_or.mp hwant
        exact ⟨by grind, hwrite⟩
      · exact invalid_prvFreeContext closeNotify _

/-- How `TLS_Send` ends. -/
theorem tlsSend_spec (closeNotify : ℕ) (calls : List MbedCall) (h : Offered msg.length calls 0)
    (s : Connection) :
    ∃ k, k ≤ msg.length ∧ k ≤ (calls.map MbedCall.written).sum ∧
      (s.tlsSend closeNotify msg calls).1.accepted = s.accepted ++ msg.take k ∧
      (((s.tlsSend closeNotify msg calls).2 = none ∧ (∀ c ∈ calls, 0 < c.result) ∧
          (calls.map MbedCall.written).sum < msg.length) ∨
        ((s.tlsSend closeNotify msg calls).2 = some (.ok k) ∧
          (k = msg.length ∨ ∃ c ∈ calls, ¬ 0 < c.result)) ∨
        ∃ c ∈ calls, (s.tlsSend closeNotify msg calls).2 = some (.error c.result) ∧
          HardError c.result ∧ (s.tlsSend closeNotify msg calls).1.Invalid) := by
  obtain ⟨k, -, hlength, hsum, haccepted, hend⟩ :=
    tlsSendLoop_spec closeNotify s.accepted calls 0 s (Nat.zero_le _) (by simp) h
  rw [Nat.zero_add] at hsum hend
  exact ⟨k, hlength, hsum, haccepted, hend⟩

/-- A loop that has ended makes no more calls. -/
theorem tlsSendLoop_append (calls more : List MbedCall) (xWritten : ℕ) (s : Connection)
    (h : (s.tlsSendLoop closeNotify msg calls xWritten).2 ≠ none) :
    s.tlsSendLoop closeNotify msg (calls ++ more) xWritten =
      s.tlsSendLoop closeNotify msg calls xWritten := by
  induction calls generalizing s xWritten with
  | nil =>
    have hdone : ¬ xWritten < msg.length := by
      intro hmore
      exact h (if_pos hmore)
    cases more with
    | nil => rfl
    | cons c more => simp [tlsSendLoop, hdone]
  | cons c calls ih =>
    rw [List.cons_append]
    unfold tlsSendLoop at h ⊢
    by_cases hmore : xWritten < msg.length
    case neg => simp only [if_neg hmore]
    by_cases hpos : 0 < c.result
    · simp only [if_pos hmore, if_pos hpos] at h ⊢
      exact ih _ _ h
    · simp only [if_pos hmore, if_neg hpos]

/-- The count only grows. -/
theorem le_of_tlsSendLoop_ok {k : ℕ} (calls : List MbedCall) (xWritten : ℕ) (s : Connection)
    (h : (s.tlsSendLoop closeNotify msg calls xWritten).2 = some (.ok k)) : xWritten ≤ k := by
  induction calls generalizing s xWritten with
  | nil =>
    by_cases hmore : xWritten < msg.length
    · simp [tlsSendLoop, hmore] at h
    · simp [tlsSendLoop, hmore] at h
      omega
  | cons c calls ih =>
    unfold tlsSendLoop at h
    by_cases hmore : xWritten < msg.length
    case neg =>
      simp [hmore] at h
      omega
    by_cases hpos : 0 < c.result
    · simp only [if_pos hmore, if_pos hpos] at h
      exact le_trans (Nat.le_add_right _ _) (ih _ _ h)
    by_cases hwant : c.result = 0 ∨ c.result = mbedtlsErrSslWantWrite
    · simp [hmore, hpos, hwant] at h
      omega
    · simp [hmore, hpos, hwant] at h

/-- A call whose first result is positive accepts some bytes. -/
theorem pos_of_tlsSend_ok {k : ℕ} {calls : List MbedCall} {s : Connection} (hmsg : msg ≠ [])
    (hcalls : Advances calls) (h : (s.tlsSend closeNotify msg calls).2 = some (.ok k)) :
    0 < k := by
  cases calls with
  | nil =>
    obtain ⟨c, hc, -⟩ := hcalls.stops
    cases hc
  | cons c calls =>
    have hpos : 0 < c.result := hcalls.first c rfl
    have hmore : 0 < msg.length := List.length_pos_iff.mpr hmsg
    unfold tlsSend tlsSendLoop at h
    simp only [if_pos hmore, if_pos hpos] at h
    have hle := le_of_tlsSendLoop_ok _ _ _ h
    have hcount : 0 < c.result.toInt := by
      rw [Int32.lt_iff_toInt_lt] at hpos
      exact hpos
    omega

/-- The count of a message that fits into an `int32_t`. -/
theorem toInt_sendResult {k : ℕ} (hk : k < 2 ^ 31) : (sendResult (.ok k)).toInt = k :=
  Int32.toInt_ofNat_of_lt hk

theorem toNat_sendResult {k : ℕ} (hk : k < 2 ^ 31) : (sendResult (.ok k)).toInt.toNat = k := by
  rw [toInt_sendResult hk]
  rfl

theorem sendResult_nonneg {k : ℕ} (hk : k < 2 ^ 31) : 0 ≤ sendResult (.ok k) := by
  rw [Int32.le_iff_toInt_le, toInt_sendResult hk]
  exact Int.natCast_nonneg k

/-- One call of `TLS_Send`. -/
theorem sends (hmsg : msg.length < 2 ^ 31) (calls : List MbedCall)
    (h : Offered msg.length calls 0) (s : Connection) : Sends closeNotify msg calls s := by
  obtain ⟨k, hlength, hsum, haccepted, hend⟩ := tlsSend_spec closeNotify calls h s
  refine ⟨⟨?_, ?_⟩, fun more hreturned => tlsSendLoop_append calls more 0 s hreturned, ?_, ?_⟩
  · intro hnone
    rcases hend with ⟨-, hall, hless⟩ | ⟨hok, -⟩ | ⟨c, -, herror, -⟩
    · exact ⟨hall, hless⟩
    · exact absurd (hnone.symm.trans hok) (by simp)
    · exact absurd (hnone.symm.trans herror) (by simp)
  · rintro ⟨hall, hless⟩
    rcases hend with ⟨hnone, -⟩ | ⟨-, hdone | ⟨c, hc, hstop⟩⟩ | ⟨c, hc, -, herror, -⟩
    · exact hnone
    · omega
    · exact absurd (hall c hc) hstop
    · exact absurd (Int32.le_of_lt (hall c hc)) herror.not_nonneg
  · intro e he hnonneg
    rcases hend with ⟨hnone, -⟩ | ⟨hok, -⟩ | ⟨c, -, herror, hhard, -⟩
    · exact absurd (hnone.symm.trans he) (by simp)
    · obtain rfl : .ok k = e := Option.some.inj (hok.symm.trans he)
      rw [toNat_sendResult (by omega)]
      exact ⟨hlength, haccepted⟩
    · obtain rfl : .error c.result = e := Option.some.inj (herror.symm.trans he)
      exact absurd hnonneg hhard.not_nonneg
  · intro e he hneg
    rcases hend with ⟨hnone, -⟩ | ⟨hok, -⟩ | ⟨c, hc, herror, hhard, hinvalid⟩
    · exact absurd (hnone.symm.trans he) (by simp)
    · obtain rfl : .ok k = e := Option.some.inj (hok.symm.trans he)
      exact absurd (sendResult_nonneg (by omega)) (Int32.not_le.mpr hneg)
    · obtain rfl : .error c.result = e := Option.some.inj (herror.symm.trans he)
      exact ⟨hhard, ⟨c, hc, rfl⟩, hinvalid⟩

end Connection

variable {msg : Bytes}

/-- `Transport_Send` of a message that is not empty. -/
theorem transportSend_of_ne_nil {closeNotify : ℕ} (hmsg : msg ≠ []) (calls : List MbedCall)
    (s : Connection) : transportSend closeNotify msg calls s =
      ((s.tlsSend closeNotify msg calls).1,
        (s.tlsSend closeNotify msg calls).2.map Connection.sendResult) :=
  if_neg hmsg

/-- A caller that resumes: the induction is on its attempts, with what has been accepted before
    the offset. -/
theorem resumed_resumeSend {s₀ : Connection} (hmsg : msg.length < 2 ^ 31)
    (attempts : List (ℕ × List MbedCall)) (offset : ℕ) (s : Connection)
    (hoffset : offset ≤ msg.length) (hacc : s.accepted = s₀.accepted ++ msg.take offset)
    (h : AllOffered msg attempts offset s) :
    Resumed msg s₀ (resumeSend msg attempts offset s).1
      (resumeSend msg attempts offset s).2 := by
  induction attempts generalizing offset s with
  | nil =>
    by_cases hmore : offset < msg.length
    · simp only [resumeSend, if_pos hmore]
      exact ⟨hmore, offset, le_refl _, hoffset, hacc⟩
    · obtain rfl : offset = msg.length := by omega
      simp only [resumeSend, if_neg hmore]
      simpa [Resumed] using hacc
  | cons attempt attempts ih =>
    obtain ⟨closeNotify, calls⟩ := attempt
    by_cases hmore : offset < msg.length
    case neg =>
      obtain rfl : offset = msg.length := by omega
      simp only [resumeSend, if_neg hmore]
      simpa [Resumed] using hacc
    have hne : msg.drop offset ≠ [] := List.drop_eq_nil_iff.not.mpr (not_le.mpr hmore)
    obtain ⟨hoffered, hrest⟩ := h
    rw [← List.length_drop] at hoffered
    obtain ⟨k, hlength, -, haccepted, hend⟩ := Connection.tlsSend_spec closeNotify calls hoffered s
    rw [List.length_drop] at hlength
    -- What has been accepted so far is a prefix of the message.
    have hprefix : (s.tlsSend closeNotify (msg.drop offset) calls).1.accepted =
        s₀.accepted ++ msg.take (offset + k) := by
      rw [haccepted, hacc, List.append_assoc, Connection.take_add_drop]
    rw [transportSend_of_ne_nil hne] at hrest
    simp only [resumeSend, if_pos hmore, transportSend_of_ne_nil hne]
    rcases hend with ⟨hnone, -⟩ | ⟨hok, -⟩ | ⟨c, -, herror, hhard, hinvalid⟩
    · simp only [hnone, Option.map_none]
      exact ⟨hmore, offset + k, by omega, by omega, hprefix⟩
    · have hk : k < 2 ^ 31 := by omega
      have hcount := Connection.toNat_sendResult hk
      have hnonneg := Int32.not_lt.mpr (Connection.sendResult_nonneg hk)
      simp only [hok, Option.map_some, hcount] at hrest
      simp only [hok, Option.map_some, if_neg hnonneg, hcount]
      exact ih (offset + k) _ (by omega) hprefix hrest
    · simp only [herror, Option.map_some, Connection.sendResult, if_pos hhard.1]
      exact ⟨hhard, hinvalid, offset + k, by omega, hprefix⟩

/-- A caller whose calls all advance comes to the end of the message. -/
theorem done_resumeSend (hmsg : msg.length < 2 ^ 31) (attempts : List (ℕ × List MbedCall))
    (offset : ℕ) (s : Connection) (h : AllOffered msg attempts offset s)
    (hadvance : ∀ attempt ∈ attempts, Advances attempt.2)
    (hlength : msg.length ≤ offset + attempts.length) :
    (resumeSend msg attempts offset s).2 = .done := by
  induction attempts generalizing offset s with
  | nil =>
    have hdone : ¬ offset < msg.length := by
      simp only [List.length_nil] at hlength
      omega
    simp [resumeSend, hdone]
  | cons attempt attempts ih =>
    obtain ⟨closeNotify, calls⟩ := attempt
    by_cases hmore : offset < msg.length
    case neg => simp only [resumeSend, if_neg hmore]
    have hne : msg.drop offset ≠ [] := List.drop_eq_nil_iff.not.mpr (not_le.mpr hmore)
    obtain ⟨hoffered, hrest⟩ := h
    rw [← List.length_drop] at hoffered
    have hcalls : Advances calls := hadvance (closeNotify, calls) (by simp)
    obtain ⟨k, hk, -, -, hend⟩ := Connection.tlsSend_spec closeNotify calls hoffered s
    rw [List.length_drop] at hk
    rw [transportSend_of_ne_nil hne] at hrest
    simp only [resumeSend, if_pos hmore, transportSend_of_ne_nil hne]
    rcases hend with ⟨-, hall, -⟩ | ⟨hok, -⟩ | ⟨c, hc, -, hhard, -⟩
    · obtain ⟨c, hc, hstop⟩ := hcalls.stops
      exact absurd (hall c hc) hstop
    · have hpos : 0 < k := Connection.pos_of_tlsSend_ok hne hcalls hok
      have hk : k < 2 ^ 31 := by omega
      have hcount := Connection.toNat_sendResult hk
      have hnonneg := Int32.not_lt.mpr (Connection.sendResult_nonneg hk)
      simp only [hok, Option.map_some, hcount] at hrest
      simp only [hok, Option.map_some, if_neg hnonneg, hcount]
      refine ih (offset + k) _ hrest (fun attempt ha => hadvance attempt (by simp [ha])) ?_
      rw [List.length_cons] at hlength
      omega
    · exact absurd hhard (hcalls.noError c hc)

/-- A message of less than 2^31 bytes, over all splits into partial writes: one call of `TLS_Send`,
    a caller of `Transport_Send` that resumes, and one whose calls all advance. -/
theorem partial_writes (msg : Bytes) (hmsg : msg.length < 2 ^ 31) :
    (∀ closeNotify calls s, Offered msg.length calls 0 → Sends closeNotify msg calls s) ∧
    (∀ attempts s, AllOffered msg attempts 0 s →
      Resumed msg s (resumeSend msg attempts 0 s).1 (resumeSend msg attempts 0 s).2) ∧
    (∀ attempts s, AllOffered msg attempts 0 s → (∀ attempt ∈ attempts, Advances attempt.2) →
      msg.length ≤ attempts.length → (resumeSend msg attempts 0 s).2 = .done) := by
  refine ⟨fun closeNotify calls s h => Connection.sends hmsg calls h s, ?_, ?_⟩
  · intro attempts s h
    exact resumed_resumeSend hmsg attempts 0 s (Nat.zero_le _) (by simp) h
  · intro attempts s h hadvance hlength
    exact done_resumeSend hmsg attempts 0 s h hadvance (by omega)

/-- Three bytes are sent in two calls: two bytes and an interruption, then the last byte. -/
theorem partial_writes_resumed :
    (resumeSend [1, 2, 3] [(0, [⟨0, 2⟩, ⟨0, mbedtlsErrSslWantWrite⟩]), (0, [⟨0, 1⟩])] 0
      ⟨⟨true, 1, true⟩, [], []⟩).1.accepted = [1, 2, 3] :=
  (partial_writes [1, 2, 3] (by decide)).2.1
    [(0, [⟨0, 2⟩, ⟨0, mbedtlsErrSslWantWrite⟩]), (0, [⟨0, 1⟩])] ⟨⟨true, 1, true⟩, [], []⟩
    ⟨by decide, by decide, trivial⟩

/-- A message of 2^31 bytes that is accepted in two calls: its count is negative as an `int32_t`,
    and there is no error. -/
theorem send_count_wraps :
    let msg : Bytes := List.replicate (2 ^ 31) 0
    let calls : List MbedCall := [⟨0, 0x7fffffff⟩, ⟨0, 1⟩]
    let s : Connection := ⟨⟨true, 1, true⟩, [], []⟩
    Offered msg.length calls 0 ∧ (∀ c ∈ calls, 0 < c.result) ∧
      (s.tlsSend 0 msg calls).2.map Connection.sendResult = some (-2147483648) := by
  intro msg calls s
  have hlength : msg.length = 2 ^ 31 := List.length_replicate
  refine ⟨?_, by decide, ?_⟩
  · rw [hlength]
    decide
  · simp [Connection.tlsSend, Connection.tlsSendLoop, hlength, calls, Connection.sendResult]

end Corstone.Tls
