import Corstone.Sntp.AuthContext

/-!
# The sessions of PKCS#11

`addClientAuthCode` and `validateServerAuth` close their session only behind
`if( result == CKR_OK )`, `generateRandomNumber` in any case (`sntp_client_task.c`, lines
1003–1309).

* `conserved_signRequest_iff`, `conserved_verifyResponse_iff`, `conserved_generateRandomNumber_iff`:
  when each of them closes its session.
* `sessions_conserved_iff`: the functions that return have closed what they have opened iff every
  step behind the opening succeeds.
* `forged_run`: each forged response leaves a session open.
-/

namespace Corstone.Sntp

open Corstone.Lib

/-- The sessions that a call opens. -/
def Pkcs11Call.opens : Pkcs11Call → ℤ
  | .initializeSession result => if result = 0 then 1 else 0
  | .closeSession result => if result = 0 then -1 else 0
  | _ => 0

/-- The sessions that the calls leave open. -/
def openSessions (calls : List Pkcs11Call) : ℤ := (calls.map Pkcs11Call.opens).sum

@[simp] theorem openSessions_nil : openSessions [] = 0 := rfl

@[simp] theorem openSessions_cons (c : Pkcs11Call) (calls : List Pkcs11Call) :
    openSessions (c :: calls) = c.opens + openSessions calls := by
  simp [openSessions]

theorem openSessions_append (calls calls' : List Pkcs11Call) :
    openSessions (calls ++ calls') = openSessions calls + openSessions calls' := by
  simp [openSessions]

/-- If the function returns, then it has closed every session that it has opened. -/
def Conserved {α : Type} (calls : List Pkcs11Call) (result : Except AuthAssertion α) : Prop :=
  (∃ value, result = .ok value) → openSessions calls = 0

@[simp] theorem conserved_ok {α : Type} (calls : List Pkcs11Call) (value : α) :
    Conserved calls (.ok value) ↔ openSessions calls = 0 :=
  ⟨fun h => h ⟨value, rfl⟩, fun h _ => h⟩

@[simp] theorem conserved_error {α : Type} (calls : List Pkcs11Call) (a : AuthAssertion) :
    Conserved calls (.error a : Except AuthAssertion α) := fun ⟨_, h⟩ => by cases h

/-- No session is opened, or every step behind it succeeds, up to the operation `op` that `init`
    has started. A handle that is not valid fails an assertion. -/
def Closes (r : Pkcs11Results) (init op : CkRv) : Prop :=
  r.initializeSession ≠ 0 ∨
    r.getFunctionList = 0 ∧ (r.cMacKey = 0 ∨ r.createObject = 0 ∧ init = 0 ∧ op = 0)

instance (r : Pkcs11Results) (init op : CkRv) : Decidable (Closes r init op) :=
  inferInstanceAs (Decidable (_ ∨ _))

variable (r : Pkcs11Results)

/-- An open session is closed, if the assertions hold. -/
theorem conserved_closePkcs11Session {α : Type} (f : Unit → α) {calls : List Pkcs11Call}
    (hopen : openSessions calls = 1) :
    Conserved (closePkcs11Session r calls).1 ((closePkcs11Session r calls).2.map f) := by
  unfold closePkcs11Session
  by_cases hclose : r.closeSession = 0
  · by_cases hfinalize : r.finalize = 0
    · simp [hclose, hfinalize, Except.map, Pkcs11Call.opens, hopen]
    · simp [hclose, hfinalize, Except.map]
  · simp [hclose, Except.map]

/-- What the setup leaves: no session, or one, or an assertion that fails. -/
theorem setup_cases (pAuthKey : Vector UInt8 16) :
    (r.initializeSession ≠ 0 ∧ setupPkcs11ObjectForAesCmac r pAuthKey =
      ([.initializeSession r.initializeSession], .ok r.initializeSession)) ∨
    (r.initializeSession = 0 ∧ r.getFunctionList ≠ 0 ∧ ∃ calls, openSessions calls = 1 ∧
      setupPkcs11ObjectForAesCmac r pAuthKey = (calls, .ok r.getFunctionList)) ∨
    (r.initializeSession = 0 ∧ r.getFunctionList = 0 ∧ r.cMacKey = 0 ∧
      ∃ calls a, setupPkcs11ObjectForAesCmac r pAuthKey = (calls, .error a)) ∨
    (r.initializeSession = 0 ∧ r.getFunctionList = 0 ∧ r.cMacKey ≠ 0 ∧
      ∃ calls, openSessions calls = 1 ∧
        setupPkcs11ObjectForAesCmac r pAuthKey = (calls, .ok r.createObject)) := by
  unfold setupPkcs11ObjectForAesCmac
  by_cases hinit : r.initializeSession = 0
  case neg => exact .inl ⟨hinit, if_pos hinit⟩
  by_cases hlist : r.getFunctionList = 0
  case neg =>
    refine .inr (.inl ⟨hinit, hlist, [.getFunctionList r.getFunctionList, .initializeSession 0],
      rfl, ?_⟩)
    simp [hinit, hlist]
  by_cases hkey : r.cMacKey = 0
  case pos =>
    refine .inr (.inr (.inl ⟨hinit, hlist, hkey, [.createObject pAuthKey 0 r.createObject,
      .getFunctionList 0, .initializeSession 0], .cMacKey, ?_⟩))
    simp [hinit, hlist, hkey]
  refine .inr (.inr (.inr ⟨hinit, hlist, hkey, [.createObject pAuthKey r.cMacKey r.createObject,
    .getFunctionList 0, .initializeSession 0], rfl, ?_⟩))
  simp [hinit, hlist, hkey]

/-- The calls of a session that is open: it is closed iff they succeed. -/
theorem closes_iff_of_setUp {init op : CkRv} (hinit : r.initializeSession = 0)
    (hlist : r.getFunctionList = 0) (hkey : r.cMacKey ≠ 0) :
    Closes r init op ↔ r.createObject = 0 ∧ init = 0 ∧ op = 0 := by
  simp [Closes, hinit, hlist, hkey]

/-- An operation with the key: it is started, it runs, and the session is closed behind both. The
    session stays as it is where one of the two fails. -/
def keyOperation {α : Type} (pAuthKey : Vector UInt8 16) (init op : CkRv)
    (initCall opCall : Pkcs11Call) (setupFailed initFailed opFailed success : α) :
    List Pkcs11Call × Except AuthAssertion α :=
  match setupPkcs11ObjectForAesCmac r pAuthKey with
  | (calls, .error a) => (calls, .error a)
  | (calls, .ok result) =>
    if result ≠ 0 then (calls, .ok setupFailed)
    else if init ≠ 0 then (initCall :: calls, .ok initFailed)
    else if op ≠ 0 then (opCall :: initCall :: calls, .ok opFailed)
    else
      let (calls, closed) := closePkcs11Session r (opCall :: initCall :: calls)
      (calls, closed.map fun _ => success)

/-- **An operation with the key** conserves the sessions iff it closes its own. -/
theorem conserved_keyOperation_iff {α : Type} (pAuthKey : Vector UInt8 16) (init op : CkRv)
    {initCall opCall : Pkcs11Call} (hinitCall : initCall.opens = 0) (hopCall : opCall.opens = 0)
    (setupFailed initFailed opFailed success : α) :
    Conserved
        (keyOperation r pAuthKey init op initCall opCall setupFailed initFailed opFailed success).1
        (keyOperation r pAuthKey init op initCall opCall setupFailed initFailed opFailed
          success).2 ↔
      Closes r init op := by
  unfold keyOperation
  rcases setup_cases r pAuthKey with ⟨hinit, heq⟩ | ⟨hinit, hlist, calls, hopen, heq⟩ |
    ⟨hinit, hlist, hkey, calls, a, heq⟩ | ⟨hinit, hlist, hkey, calls, hopen, heq⟩
  · simp [heq, hinit, Closes, Pkcs11Call.opens]
  · simp [heq, hinit, hlist, Closes, hopen]
  · simp [heq, hlist, hkey, Closes]
  · rw [closes_iff_of_setUp r hinit hlist hkey]
    by_cases hcreate : r.createObject = 0
    case neg => simp [heq, hcreate, hopen]
    by_cases hinitOp : init = 0
    case neg => simp [heq, hcreate, hinitOp, hopen, hinitCall]
    by_cases hop : op = 0
    case neg => simp [heq, hcreate, hinitOp, hop, hopen, hinitCall, hopCall]
    refine iff_of_true ?_ ⟨hcreate, hinitOp, hop⟩
    simp only [heq, hcreate, hinitOp, hop, ne_eq, not_true_eq_false, if_false]
    exact conserved_closePkcs11Session r _ (by simp [hopen, hinitCall, hopCall])

theorem verifyResponse_eq (pAuthKey : Vector UInt8 16) :
    verifyResponse r pAuthKey =
      keyOperation r pAuthKey r.verifyInit r.verify (.verifyInit r.cMacKey r.verifyInit)
        (.verify r.verify) (.error .authFailure) (.error .authFailure)
        (.error .serverNotAuthenticated) .success := by
  unfold verifyResponse keyOperation
  rcases setupPkcs11ObjectForAesCmac r pAuthKey with ⟨calls, a | result⟩
  · rfl
  · rfl

theorem signRequest_eq (authContext : SntpAuthContext) :
    ((signRequest r authContext).calls, (signRequest r authContext).result) =
      keyOperation r authContext.pAuthKey r.signInit r.sign (.signInit r.cMacKey r.signInit)
        (.sign r.sign) (.error .authFailure, none) (.error .authFailure, none)
        (.error .authFailure, none) (.success, some authCodeSize) := by
  unfold signRequest keyOperation
  rcases setupPkcs11ObjectForAesCmac r authContext.pAuthKey with ⟨calls, a | result⟩
  · rfl
  · dsimp only
    split_ifs <;> rfl

/-- **The verification of a response.** -/
theorem conserved_verifyResponse_iff (pAuthKey : Vector UInt8 16) :
    Conserved (verifyResponse r pAuthKey).1 (verifyResponse r pAuthKey).2 ↔
      Closes r r.verifyInit r.verify := by
  rw [verifyResponse_eq]
  exact conserved_keyOperation_iff r pAuthKey _ _ rfl rfl _ _ _ _

/-- **The signature of a request.** -/
theorem conserved_signRequest_iff (authContext : SntpAuthContext) :
    Conserved (signRequest r authContext).calls (signRequest r authContext).result ↔
      Closes r r.signInit r.sign := by
  have heq := Prod.mk.inj (signRequest_eq r authContext)
  rw [heq.1, heq.2]
  exact conserved_keyOperation_iff r authContext.pAuthKey _ _ rfl rfl _ _ _ _

/-- A random number closes its session, if `C_CloseSession` succeeds. -/
theorem conserved_generateRandomNumber_iff :
    Conserved (generateRandomNumber r).1 (generateRandomNumber r).2 ↔
      r.getFunctionList ≠ 0 ∨ r.initializeSession ≠ 0 ∨ r.closeSession = 0 := by
  unfold generateRandomNumber
  by_cases hlist : r.getFunctionList = 0
  case neg =>
    refine iff_of_true ?_ (.inl hlist)
    cases hleft : r.functionListLeft <;> simp [hlist, Pkcs11Call.opens]
  by_cases hinit : r.initializeSession = 0
  case neg =>
    refine iff_of_true ?_ (.inr (.inl hinit))
    cases hleft : r.sessionLeft <;> simp [hlist, hinit, Pkcs11Call.opens]
  by_cases hclose : r.closeSession = 0
  · simp [hlist, hinit, hclose, Pkcs11Call.opens]
  · simp [hlist, hinit, hclose, Pkcs11Call.opens]

/-- **The sessions are conserved** by a call of each of the three functions iff no session is
    opened, or the steps behind the opening succeed. -/
theorem sessions_conserved_iff (rows : List ServerRow) (r : Pkcs11Results) (server : ServerName)
    (bufferSize responseSize : ℕ) (authContext : SntpAuthContext) :
    (Conserved (addClientAuthCode rows r server bufferSize authContext).calls
        (addClientAuthCode rows r server bufferSize authContext).result ↔
      ∀ updated, updateAuthContext rows server authContext = .ok updated → updated.keyId ≠ -1 →
        sntpPacketAuthenticatedModeSize ≤ bufferSize → Closes r r.signInit r.sign) ∧
    (Conserved (validateServerAuth r server responseSize authContext).1
        (validateServerAuth r server responseSize authContext).2 ↔
      (server = authContext.pServer → authContext.keyId ≠ -1 →
        sntpPacketAuthenticatedModeSize ≤ responseSize → Closes r r.verifyInit r.verify)) ∧
    (Conserved (generateRandomNumber r).1 (generateRandomNumber r).2 ↔
      r.getFunctionList ≠ 0 ∨ r.initializeSession ≠ 0 ∨ r.closeSession = 0) := by
  refine ⟨?_, ?_, conserved_generateRandomNumber_iff r⟩
  · unfold addClientAuthCode
    rcases updateAuthContext rows server authContext with a | updated
    · simp
    · simp only [Except.ok.injEq, forall_eq']
      split_ifs with hid hbuffer
      · simp [hid]
      · simp [Nat.not_le.mpr hbuffer]
      · rw [conserved_signRequest_iff]
        simp [hid, Nat.le_of_not_lt hbuffer]
  · unfold validateServerAuth
    have hserver : sameServer server authContext.pServer = false ↔
        server ≠ authContext.pServer := by
      rw [← Bool.not_eq_true, sameServer_iff]
    split_ifs with hsame hid hsize
    · simp [hserver.mp hsame]
    · simp [hid]
    · simp [Nat.not_le.mpr hsize]
    · rw [conserved_verifyResponse_iff]
      simp [hid, Nat.le_of_not_lt hsize, not_not.mp (mt hserver.mpr hsame)]

/-- A response whose code is not the one of the key (`CKR_SIGNATURE_INVALID`) leaves a session
    open. -/
theorem not_conserved_forged :
    (validateServerAuth { verify := 192 } duplicateContext.pServer 68 duplicateContext).2 =
        .ok (.error .serverNotAuthenticated) ∧
      ¬ Conserved (validateServerAuth { verify := 192 } duplicateContext.pServer 68
          duplicateContext).1
        (validateServerAuth { verify := 192 } duplicateContext.pServer 68 duplicateContext).2 := by
  refine ⟨by decide, fun h => ?_⟩
  have hopen := h ⟨.error .serverNotAuthenticated, by decide⟩
  revert hopen
  decide

/-! ## Forged responses -/

/-- A call of PKCS#11 that rejects the code of a response, all others succeeding. -/
structure Forged (r : Pkcs11Results) : Prop where
  initializeSession : r.initializeSession = 0
  getFunctionList : r.getFunctionList = 0
  cMacKey : r.cMacKey ≠ 0
  createObject : r.createObject = 0
  verifyInit : r.verifyInit = 0
  verify : r.verify ≠ 0

variable {rows : List ServerRow}

/-- The calls of an exchange. -/
def exchangeCalls (rows : List ServerRow) (s : Exchange) : List (ExchangeCall rows) →
    List Pkcs11Call
  | [] => []
  | a :: as =>
    exchangeCalls rows (exchange rows s a) as ++
      match a with
      | .addClientAuthCode server r => (addClientAuthCode rows r (rows.get server).pTimeServer
          sntpPacketAuthenticatedModeSize s.authContext).calls
      | .validateServerAuth r =>
        match s.request with
        | none => []
        | some (server, size) =>
          (validateServerAuth r server (sntpPacketBaseSize + size) s.authContext).1

/-- A forged response is not accepted, and leaves a session open. -/
theorem validateServerAuth_forged {r : Pkcs11Results} (hr : Forged r) {s : Exchange}
    (hs : ContextOfServer rows s) {server : ServerName} {size : ℕ}
    (hrequest : s.request = some (server, size)) (hkey : s.authContext.keyId ≠ -1) :
    (validateServerAuth r server (sntpPacketBaseSize + size) s.authContext).2 =
        .ok (.error .serverNotAuthenticated) ∧
      openSessions (validateServerAuth r server (sntpPacketBaseSize + size) s.authContext).1 =
        1 := by
  obtain ⟨hserver, hsize⟩ := hs.request server size hrequest
  have hsame : sameServer server s.authContext.pServer = true :=
    (sameServer_iff _ _).mpr hserver.symm
  unfold validateServerAuth verifyResponse setupPkcs11ObjectForAesCmac
  simp [hsame, hkey, hsize hkey, sntpPacketAuthenticatedModeSize, hr.initializeSession,
    hr.getFunctionList, hr.cMacKey, hr.createObject, hr.verifyInit, hr.verify, Pkcs11Call.opens]

/-- **Forged responses** leave as many sessions open as there are. -/
theorem forged_run {s : Exchange} (hs : ContextOfServer rows s) (hgoes : s.stopped = false)
    {server : ServerName} {size : ℕ} (hrequest : s.request = some (server, size))
    (hkey : s.authContext.keyId ≠ -1) (rs : List Pkcs11Results) (hrs : ∀ r ∈ rs, Forged r) :
    openSessions (exchangeCalls rows s (rs.map .validateServerAuth)) = rs.length := by
  induction rs with
  | nil => rfl
  | cons r rs ih =>
    obtain ⟨hresult, hopen⟩ :=
      validateServerAuth_forged (hrs r (List.mem_cons_self)) hs hrequest hkey
    have hsame : exchange rows s (.validateServerAuth r) = s := by
      unfold exchange
      simp only [hgoes, Bool.false_eq_true, if_false, hrequest, hresult]
    rw [List.map_cons, exchangeCalls, hsame, openSessions_append,
      ih fun r hr => hrs r (List.mem_cons_of_mem _ hr), hrequest]
    dsimp only
    rw [hopen, List.length_cons]
    push_cast
    ring

end Corstone.Sntp
