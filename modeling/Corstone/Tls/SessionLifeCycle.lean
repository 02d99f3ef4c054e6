import Corstone.Tls.Context

/-!
# The life of the PKCS#11 session of a TLS context

`TLS_Init` opens a session and `prvFreeContext` closes it (`iot_tls.c`, lines 115–134 and
606–982). The handle in the context tells whether there is one to close: it is `CK_INVALID_HANDLE`
before the session is opened and behind its close. A context that is set up has a session, and a
session has a function list.

* `session_life_cycle`: `TLS_Init` and then any calls close a session only while it is open, they
  never go through a null function list, and a call that fails leaves no session open.
* `init_drops_session`: `TLS_Init` on a context that has a session loses that session.
-/

namespace Corstone.Tls

open Corstone.Lib

/-- The session that has been opened since the last `TLS_Init`, if it has not been closed. -/
def lastSession : List P11 → Option CkSessionHandle
  | [] => none
  | .tlsInit :: _ => none
  | .openSession xP11Session :: _ => some xP11Session
  | .closeSession _ :: _ => none
  | .functionList _ :: log => lastSession log

/-- A call of `C_CloseSession` is for the session that is open. -/
def ClosesOpen (past : List P11) : P11 → Prop
  | .closeSession xP11Session => lastSession past = some xP11Session
  | _ => True

/-- Every session is closed while it is open, and no null function list is read. -/
structure Safe (log : List P11) : Prop where
  closes : Always ClosesOpen log
  listed : .functionList false ∉ log

/-- What `TLS_Init` sets up and every call keeps. -/
structure Linked (s : Connection) : Prop where
  safe : Safe s.log
  last : lastSession s.log =
    if s.context.xP11Session = 0 then none else some s.context.xP11Session
  list : s.context.xP11Session ≠ 0 → s.context.pxP11FunctionList = true
  ssl : s.context.xMbedSslCtx = true → s.context.xP11Session ≠ 0

/-- A call that fails or cleans up leaves no session open. -/
def Released (s : Connection) : TlsCall → Prop
  | .init r => (s.tlsInit r).2 = false → lastSession (step s (.init r)).log = none
  | .connect closeNotify calls => ∀ result,
      (s.tlsConnect closeNotify calls).2 = some result → result ≠ 0 →
        lastSession (step s (.connect closeNotify calls)).log = none
  | .recv closeNotify calls => ∀ result,
      (s.tlsRecv closeNotify calls).2 = some result → result < 0 →
        lastSession (step s (.recv closeNotify calls)).log = none
  | .send closeNotify pucMsg calls => ∀ e,
      (s.tlsSend closeNotify pucMsg calls).2 = some (.error e) →
        lastSession (step s (.send closeNotify pucMsg calls)).log = none
  | .cleanup closeNotify => lastSession (step s (.cleanup closeNotify)).log = none

namespace Safe

variable {log : List P11}

theorem cons (h : Safe log) {c : P11} (hc : ClosesOpen log c) (hne : c ≠ .functionList false) :
    Safe (c :: log) := by
  refine ⟨⟨hc, h.closes⟩, ?_⟩
  intro hmem
  rcases List.mem_cons.mp hmem with heq | hmem
  · exact hne heq.symm
  · exact h.listed hmem

end Safe

namespace Linked

open Connection

variable {s : Connection}

/-- A session that is `CK_INVALID_HANDLE` in the context is not open. -/
theorem lastSession_eq_none (h : Linked s) (hclosed : s.context.xP11Session = 0) :
    lastSession s.log = none := by
  rw [h.last, if_pos hclosed]

theorem useFunctionList (h : Linked s) (hlist : s.context.pxP11FunctionList = true) :
    Linked s.useFunctionList where
  safe := h.safe.cons trivial (by simp [hlist])
  last := h.last
  list := h.list
  ssl := h.ssl

/-- The uses of the list change nothing in the context. -/
@[simp] theorem context_useFunctionLists (n : ℕ) (s : Connection) :
    (useFunctionLists n s).context = s.context := by
  induction n generalizing s with
  | zero => rfl
  | succ n ih =>
    show (useFunctionLists n s.useFunctionList).context = s.context
    rw [ih]
    rfl

theorem useFunctionLists (n : ℕ) (h : Linked s) (hlist : s.context.pxP11FunctionList = true) :
    Linked (Connection.useFunctionLists n s) := by
  induction n generalizing s with
  | zero => exact h
  | succ n ih =>
    show Linked (Connection.useFunctionLists n s.useFunctionList)
    exact ih (h.useFunctionList hlist) hlist

@[simp] theorem context_callbacks (n : ℕ) (s : Connection) :
    (s.callbacks n).context = s.context := by
  unfold Connection.callbacks
  by_cases hssl : s.context.xMbedSslCtx <;> simp [hssl]

theorem callbacks (n : ℕ) (h : Linked s) : Linked (s.callbacks n) := by
  unfold Connection.callbacks
  by_cases hssl : s.context.xMbedSslCtx
  · rw [if_pos hssl]
    exact h.useFunctionLists n (h.list (h.ssl hssl))
  · rw [if_neg hssl]
    exact h

@[simp] theorem context_prvEntropyCallback (n : ℕ) (s : Connection) :
    (prvEntropyCallback n s).context = s.context := by
  unfold Connection.prvEntropyCallback
  by_cases hsession : s.context.xP11Session = 0 <;> simp [hsession]

theorem prvEntropyCallback (n : ℕ) (h : Linked s) : Linked (Connection.prvEntropyCallback n s) := by
  unfold Connection.prvEntropyCallback
  by_cases hsession : s.context.xP11Session = 0
  · simpa [hsession] using h
  · simpa [hsession] using h.useFunctionLists n (h.list hsession)

/-- A context that is no longer set up. -/
theorem sslFree (h : Linked s) : Linked s.sslFree where
  safe := h.safe
  last := h.last
  list := h.list
  ssl := by simp [Connection.sslFree]

/-- A context that is not set up, whose session is closed. -/
theorem closeSession (h : Linked s) (hssl : s.context.xMbedSslCtx = false) :
    Linked s.closeSession ∧ s.closeSession.context.xP11Session = 0 := by
  unfold Connection.closeSession
  by_cases hsession : s.context.xP11Session = 0
  · simpa [hsession] using h
  · have hused := h.useFunctionList (h.list hsession)
    rw [if_pos hsession]
    refine ⟨⟨hused.safe.cons ?_ (by simp), rfl, by simp, by simp [hssl]⟩, rfl⟩
    show lastSession s.useFunctionList.log = some s.context.xP11Session
    rw [hused.last]
    exact if_neg hsession

/-- `prvFreeContext` closes the session of the context, and its handle is not valid behind it. -/
theorem prvFreeContext (closeNotify : ℕ) (h : Linked s) :
    Linked (s.prvFreeContext closeNotify) ∧
      (s.prvFreeContext closeNotify).context.xP11Session = 0 :=
  (h.callbacks closeNotify).sslFree.closeSession rfl

/-- A context without a session that is zeroed. -/
theorem zeroed (h : Linked s) (hsession : s.context.xP11Session = 0) : Linked s.zeroed where
  safe := h.safe
  last := h.lastSession_eq_none hsession
  list := by simp [Connection.zeroed]
  ssl := by simp [Connection.zeroed]

/-- The end of a `TLS_Init` that has failed. -/
theorem initFailed (h : Linked s) :
    Linked s.initFailed.1 ∧ lastSession s.initFailed.1.log = none := by
  obtain ⟨hfree, hsession⟩ := h.prvFreeContext 0
  exact ⟨hfree.zeroed hsession, hfree.lastSession_eq_none hsession⟩

end Linked

/-! ## The calls -/

namespace Connection

variable {s : Connection}

/-- What `TLS_Init` has done once it has asked for a session. -/
theorem linked_initSession (h : Safe s.log) (r : InitResults) : Linked (s.initSession r) := by
  have hinit : Safe (P11.tlsInit :: s.log) := h.cons trivial (by simp)
  unfold initSession
  by_cases hlist : r.getFunctionList = 0
  case neg =>
    rw [if_neg hlist]
    exact ⟨hinit, rfl, by simp [zeroed], by simp [zeroed]⟩
  rw [if_pos hlist]
  unfold openSession
  by_cases hsession : r.session = 0
  · rw [if_pos hsession]
    exact ⟨hinit, rfl, by simp [zeroed], by simp [zeroed]⟩
  · rw [if_neg hsession]
    refine ⟨hinit.cons trivial (by simp), (if_neg hsession).symm, ?_, by simp [zeroed]⟩
    intro _
    exact r.listed hlist

/-- What `TLS_Init` leaves. -/
def InitSpec (result : Connection × Bool) : Prop :=
  Linked result.1 ∧ (result.2 = false → lastSession result.1.log = none)

/-- A step of `TLS_Init` that may fail. -/
theorem initSpec_ite (h : Linked s) {failed : Prop} [Decidable failed]
    {result : Connection × Bool} (hresult : ¬ failed → InitSpec result) :
    InitSpec (if failed then s.initFailed else result) := by
  by_cases hfailed : failed
  · rw [if_pos hfailed]
    exact ⟨h.initFailed.1, fun _ => h.initFailed.2⟩
  · rw [if_neg hfailed]
    exact hresult hfailed

/-- The client credential is not initialized without a session. -/
theorem linked_prvInitializeClientCredential (h : Linked s) (result : CkRv) :
    Linked (s.prvInitializeClientCredential result).1 ∧
      ((s.prvInitializeClientCredential result).2 = 0 →
        (s.prvInitializeClientCredential result).1.context.xP11Session ≠ 0) := by
  unfold prvInitializeClientCredential
  by_cases hsession : s.context.xP11Session = 0
  · rw [if_pos hsession]
    exact ⟨h, by simp [ckrSessionHandleInvalid]⟩
  · rw [if_neg hsession]
    exact ⟨h.useFunctionList (h.list hsession), fun _ => hsession⟩

theorem initSpec_tlsInit (h : Safe s.log) (r : InitResults) : InitSpec (s.tlsInit r) := by
  unfold tlsInit
  have hopened := linked_initSession h r
  refine initSpec_ite hopened fun _ => ?_
  have hseeded := hopened.prvEntropyCallback r.entropyCalls
  refine initSpec_ite hseeded fun _ => ?_
  refine initSpec_ite hseeded fun _ => ?_
  refine initSpec_ite hseeded fun _ => ?_
  obtain ⟨hcredential, hsession⟩ :=
    linked_prvInitializeClientCredential hseeded r.clientCredential
  refine initSpec_ite hcredential fun hresult => ?_
  refine initSpec_ite hcredential fun _ => ?_
  refine initSpec_ite hcredential fun _ => ?_
  refine initSpec_ite hcredential fun _ => ?_
  refine initSpec_ite hcredential fun _ => ?_
  refine ⟨⟨hcredential.safe, hcredential.last, hcredential.list, fun _ => ?_⟩, by simp⟩
  exact hsession (not_not.mp hresult)

/-- The handshake: each round makes callbacks, and an error frees the context. -/
theorem linked_tlsConnect (closeNotify : ℕ) (calls : List MbedCall) (h : Linked s) :
    Linked (s.tlsConnect closeNotify calls).1 ∧ ∀ result,
      (s.tlsConnect closeNotify calls).2 = some result → result ≠ 0 →
        lastSession (s.tlsConnect closeNotify calls).1.log = none := by
  induction calls generalizing s with
  | nil => exact ⟨h, by simp [tlsConnect]⟩
  | cons c calls ih =>
    have hcalled := h.callbacks c.callbacks
    unfold tlsConnect
    by_cases hdone : c.result = 0
    · simp only [if_pos hdone]
      refine ⟨hcalled, ?_⟩
      rintro result ⟨⟩ hne
      exact absurd rfl hne
    by_cases hwant : c.result = mbedtlsErrSslWantRead ∨ c.result = mbedtlsErrSslWantWrite
    · simp only [if_neg hdone, if_pos hwant]
      exact ih hcalled
    · simp only [if_neg hdone, if_neg hwant]
      obtain ⟨hfree, hsession⟩ := hcalled.prvFreeContext closeNotify
      exact ⟨hfree, fun _ _ _ => hfree.lastSession_eq_none hsession⟩

/-- Reading: a round that wants to read is repeated, and an error frees the context. -/
theorem linked_tlsRecv (closeNotify : ℕ) (calls : List MbedCall) (h : Linked s) :
    Linked (s.tlsRecv closeNotify calls).1 ∧ ∀ result,
      (s.tlsRecv closeNotify calls).2 = some result → result < 0 →
        lastSession (s.tlsRecv closeNotify calls).1.log = none := by
  induction calls generalizing s with
  | nil => exact ⟨h, by simp [tlsRecv]⟩
  | cons c calls ih =>
    have hcalled := h.callbacks c.callbacks
    unfold tlsRecv
    by_cases hwant : c.result = mbedtlsErrSslWantRead
    · simp only [if_pos hwant]
      exact ih hcalled
    by_cases hread : 0 ≤ c.result
    · simp only [if_neg hwant, if_pos hread]
      refine ⟨hcalled, ?_⟩
      rintro result ⟨⟩ hneg
      exact absurd hread (Int32.not_le.mpr hneg)
    · simp only [if_neg hwant, if_neg hread]
      obtain ⟨hfree, hsession⟩ := hcalled.prvFreeContext closeNotify
      exact ⟨hfree, fun _ _ _ => hfree.lastSession_eq_none hsession⟩

/-- Writing: what is accepted does not matter here, and an error frees the context. -/
theorem linked_tlsSendLoop (closeNotify : ℕ) (pucMsg : Bytes) (calls : List MbedCall)
    (xWritten : ℕ) (h : Linked s) :
    Linked (s.tlsSendLoop closeNotify pucMsg calls xWritten).1 ∧ ∀ e,
      (s.tlsSendLoop closeNotify pucMsg calls xWritten).2 = some (.error e) →
        lastSession (s.tlsSendLoop closeNotify pucMsg calls xWritten).1.log = none := by
  induction calls generalizing s xWritten with
  | nil =>
    refine ⟨h, ?_⟩
    intro e he
    by_cases hmore : xWritten < pucMsg.length <;> simp [tlsSendLoop, hmore] at he
  | cons c calls ih =>
    have hcalled := h.callbacks c.callbacks
    unfold tlsSendLoop
    by_cases hmore : xWritten < pucMsg.length
    case neg =>
      simp only [if_neg hmore]
      exact ⟨h, by simp⟩
    simp only [if_pos hmore]
    by_cases hpos : 0 < c.result
    · simp only [if_pos hpos]
      exact ih _ ⟨hcalled.safe, hcalled.last, hcalled.list, hcalled.ssl⟩
    by_cases hwant : c.result = 0 ∨ c.result = mbedtlsErrSslWantWrite
    · simp only [if_neg hpos, if_pos hwant]
      exact ⟨hcalled, by simp⟩
    · simp only [if_neg hpos, if_neg hwant]
      obtain ⟨hfree, hsession⟩ := hcalled.prvFreeContext closeNotify
      exact ⟨hfree, fun _ _ => hfree.lastSession_eq_none hsession⟩

end Connection

open Connection

variable {s : Connection}

/-- One call keeps the invariant and releases the session where it has to. -/
theorem linked_step (h : Linked s) (call : TlsCall) :
    Linked (step s call) ∧ Released s call := by
  cases call with
  | init r => exact initSpec_tlsInit h.safe r
  | connect closeNotify calls => exact linked_tlsConnect closeNotify calls h
  | recv closeNotify calls => exact linked_tlsRecv closeNotify calls h
  | send closeNotify pucMsg calls => exact linked_tlsSendLoop closeNotify pucMsg calls 0 h
  | cleanup closeNotify =>
    obtain ⟨hfree, hsession⟩ := h.prvFreeContext closeNotify
    exact ⟨hfree, hfree.lastSession_eq_none hsession⟩

/-- On a context of any contents, `TLS_Init` and then any calls close a session only while it is
    open, and so once. A call that fails leaves no session open. -/
theorem session_life_cycle (context : TlsContext) (r : InitResults) (calls : List TlsCall) :
    Safe (run step ⟨context, [], []⟩ (.init r :: calls)).log ∧
      Along step Released ⟨context, [], []⟩ (.init r :: calls) := by
  have hstart : Safe ([] : List P11) := ⟨trivial, by simp⟩
  have hinit : InitSpec (tlsInit r ⟨context, [], []⟩) := initSpec_tlsInit hstart r
  refine ⟨?_, hinit.2, ?_⟩
  · exact (run_inv (I := Linked) (fun s call hs => (linked_step hs call).1) hinit.1 calls).safe
  · refine along_of_inv (I := Linked) (P := fun _ _ => True) ?_ ?_ hinit.1 ?_
    · exact fun s call hs _ => (linked_step hs call).1
    · exact fun s call hs _ => (linked_step hs call).2
    · exact along_of_forall (fun _ _ => trivial) _

/-- `TLS_Init` zeroes the context: the session that an earlier `TLS_Init` has opened is never
    closed. -/
theorem init_drops_session :
    let log := (run step ⟨⟨false, 0, false⟩, [], []⟩ [.init { session := 1 },
      .init { session := 2 }, .cleanup 0]).log
    .openSession 1 ∈ log ∧ .closeSession 1 ∉ log := by
  decide

end Corstone.Tls
