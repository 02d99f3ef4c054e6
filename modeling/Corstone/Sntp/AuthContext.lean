import Corstone.Lib.Run
import Corstone.Sntp.ServerAuth

/-!
# The authentication context

The context is set for a server by `addClientAuthCode`, and `validateServerAuth` trusts it
(`sntp_client_task.c`, lines 948–1253). The library calls the two for the same server, in any
rotation, and passes a response of the size of the request.

* `populate_holdsRow`: the context that is set has the first row with the name of the server.
* `authenticated_run`: over every run, the context is the one of the server, a response passes only
  if the server has no key or `C_Verify` has accepted it under its key, and what stops
  `validateServerAuth` is the handle of the key, the session or the module.
* `not_ownRow`: two rows with the same name, and a session that cannot be closed.
-/

namespace Corstone.Sntp

open Corstone.Lib

/-! ## The row of a server -/

/-- The key of a row. A row without an ID has none. -/
def ServerRow.configuredKey (row : ServerRow) : Option Bytes :=
  if row.pAuthKeyId = -1 then none else row.pAESCMACAuthKey

/-- The context has the name, the key ID and the key of the row. -/
structure HoldsRow (row : ServerRow) (authContext : SntpAuthContext) : Prop where
  server : authContext.pServer = row.pTimeServer
  key : ∀ k ∈ row.configuredKey,
    authContext.keyId = row.pAuthKeyId ∧ Denotes k authContext.pAuthKey
  noKey : row.configuredKey = none →
    authContext.keyId = -1 ∧ authContext.pAuthKey = Vector.replicate 16 0

/-- The first row with the name of the server. -/
def firstRow (rows : List ServerRow) (server : ServerName) : Option ServerRow :=
  rows.find? fun row => row.pTimeServer = server

theorem exists_firstRow {rows : List ServerRow} {row : ServerRow} (h : row ∈ rows) :
    ∃ first, firstRow rows row.pTimeServer = some first := by
  refine Option.isSome_iff_exists.mp (List.find?_isSome.mpr ⟨row, h, ?_⟩)
  simp

theorem pTimeServer_firstRow {rows : List ServerRow} {server : ServerName} {row : ServerRow}
    (h : firstRow rows server = some row) : row.pTimeServer = server := by
  simpa using List.find?_some h

/-- **The context that is set** has the first row with the name of the server. -/
theorem populate_holdsRow {rows : List ServerRow} {server : ServerName} {row : ServerRow}
    (h : firstRow rows server = some row) (pAuthKey : Vector UInt8 16) :
    ∃ authContext, populateAuthContextForServer rows server pAuthKey = .ok authContext ∧
      HoldsRow row authContext := by
  have hfind : rows.find? (fun row => sameServer server row.pTimeServer) = some row := by
    rw [← h, firstRow]
    congr 1
    funext row
    rw [Bool.eq_iff_iff, sameServer_iff, decide_eq_true_iff]
    exact eq_comm
  have hname := (pTimeServer_firstRow h).symm
  unfold populateAuthContextForServer
  rw [hfind]
  dsimp only
  by_cases hid : row.pAuthKeyId = -1
  · have hnone : row.configuredKey = none := if_pos hid
    refine ⟨⟨server, -1, Vector.replicate 16 0⟩, ?_, hname, ?_, fun _ => ⟨rfl, rfl⟩⟩
    · simp [hid]
    · simp [hnone]
  · have hkey : row.configuredKey = row.pAESCMACAuthKey := if_neg hid
    rcases hhex : row.pAESCMACAuthKey with _ | k
    · refine ⟨⟨server, -1, Vector.replicate 16 0⟩, rfl, hname, ?_, fun _ => ⟨rfl, rfl⟩⟩
      simp [hkey, hhex]
    · obtain ⟨hlength, hdigits⟩ := row.digits k hhex
      refine ⟨⟨server, row.pAuthKeyId, storeKey k pAuthKey⟩, ?_, hname, ?_, ?_⟩
      · simp [hid, hlength]
      · rw [hkey, hhex]
        rintro k' ⟨⟩
        exact ⟨rfl, denotes_storeKey hlength hdigits pAuthKey⟩
      · simp [hkey, hhex]

theorem HoldsRow.keyId_eq_iff {row : ServerRow} {authContext : SntpAuthContext}
    (h : HoldsRow row authContext) : authContext.keyId = -1 ↔ row.configuredKey = none := by
  constructor
  · intro hid
    rcases hkey : row.configuredKey with _ | k
    · rfl
    · have hrow := (h.key k hkey).1
      rw [hid] at hrow
      simp [ServerRow.configuredKey, ← hrow] at hkey
  · exact fun hnone => (h.noKey hnone).1

/-! ## The callbacks -/

/-- What has been accepted: an object with the key, and a verification with the object. -/
def VerifiedUnder (key : Vector UInt8 16) (calls : List Pkcs11Call) : Prop :=
  ∃ cMacKey, [.verify 0, .verifyInit cMacKey 0, .createObject key cMacKey 0] <:+: calls

/-- The assertion fails because of a call of PKCS#11. -/
def FailedCall (r : Pkcs11Results) : AuthAssertion → Prop
  | .cMacKey => r.cMacKey = 0
  | .closeSession => r.closeSession ≠ 0
  | .finalize => r.finalize ≠ 0
  | _ => False

/-- The verification of a response: an assertion that a call of PKCS#11 has failed, an error, or
    success after all calls. -/
theorem verifyResponse_cases (r : Pkcs11Results) (pAuthKey : Vector UInt8 16) :
    (∃ a, (verifyResponse r pAuthKey).2 = .error a ∧ FailedCall r a) ∨
    (∃ e, (verifyResponse r pAuthKey).2 = .ok (.error e)) ∨
    verifyResponse r pAuthKey =
      ([.finalize 0, .closeSession 0, .verify 0, .verifyInit r.cMacKey 0,
        .createObject pAuthKey r.cMacKey 0, .getFunctionList 0, .initializeSession 0],
        .ok .success) := by
  unfold verifyResponse setupPkcs11ObjectForAesCmac closePkcs11Session
  by_cases hinit : r.initializeSession = 0
  case neg => exact .inr (.inl ⟨.authFailure, by simp [hinit]⟩)
  by_cases hlist : r.getFunctionList = 0
  case neg => exact .inr (.inl ⟨.authFailure, by simp [hinit, hlist]⟩)
  by_cases hkey : r.cMacKey = 0
  case pos => exact .inl ⟨.cMacKey, by simp [hinit, hlist, hkey], hkey⟩
  by_cases hcreate : r.createObject = 0
  case neg => exact .inr (.inl ⟨.authFailure, by simp [hinit, hlist, hkey, hcreate]⟩)
  by_cases hverifyInit : r.verifyInit = 0
  case neg => exact .inr (.inl ⟨.authFailure, by simp [hinit, hlist, hkey, hcreate, hverifyInit]⟩)
  by_cases hverify : r.verify = 0
  case neg =>
    exact .inr (.inl ⟨.serverNotAuthenticated,
      by simp [hinit, hlist, hkey, hcreate, hverifyInit, hverify]⟩)
  by_cases hclose : r.closeSession = 0
  case neg =>
    exact .inl ⟨.closeSession, by
      simp [hinit, hlist, hkey, hcreate, hverifyInit, hverify, hclose, Except.map], hclose⟩
  by_cases hfinalize : r.finalize = 0
  case neg =>
    exact .inl ⟨.finalize, by
      simp [hinit, hlist, hkey, hcreate, hverifyInit, hverify, hclose, hfinalize, Except.map],
      hfinalize⟩
  refine .inr (.inr ?_)
  simp [hinit, hlist, hkey, hcreate, hverifyInit, hverify, hclose, hfinalize, Except.map]

/-- The signature of a request leaves the context alone. -/
@[simp] theorem authContext_signRequest (r : Pkcs11Results) (authContext : SntpAuthContext) :
    (signRequest r authContext).authContext = authContext := by
  unfold signRequest
  rcases setupPkcs11ObjectForAesCmac r authContext.pAuthKey with ⟨calls, a | result⟩
  · rfl
  · dsimp only
    split_ifs <;> rfl

theorem authCodeSize_signRequest {r : Pkcs11Results} {authContext : SntpAuthContext} {size : ℕ}
    (h : (signRequest r authContext).result = .ok (.success, some size)) : size = authCodeSize := by
  unfold signRequest at h
  rcases hsetup : setupPkcs11ObjectForAesCmac r authContext.pAuthKey with ⟨calls, a | result⟩
  · simp [hsetup] at h
  · rw [hsetup] at h
    dsimp only at h
    split_ifs at h
    all_goals first | cases h | skip
    generalize closePkcs11Session r _ = closed at h
    rcases closed with ⟨calls, a | ok⟩
    · cases h
    · cases h
      rfl

/-- **After `addClientAuthCode`** the context is the one of the server, if it was one of a server
    before, and the size of the code is set if there is a key. -/
theorem addClientAuthCode_spec {rows : List ServerRow} {server : ServerName} {row : ServerRow}
    (h : firstRow rows server = some row) (r : Pkcs11Results) (bufferSize : ℕ)
    {authContext : SntpAuthContext}
    (hcontext : ∃ row, firstRow rows authContext.pServer = some row ∧ HoldsRow row authContext) :
    HoldsRow row (addClientAuthCode rows r server bufferSize authContext).authContext ∧
      ∀ size, (addClientAuthCode rows r server bufferSize authContext).result =
          .ok (.success, some size) →
        row.configuredKey ≠ none → size = authCodeSize := by
  obtain ⟨updated, hupdated, hholds⟩ : ∃ updated,
      updateAuthContext rows server authContext = .ok updated ∧ HoldsRow row updated := by
    by_cases hsame : server = authContext.pServer
    · obtain ⟨row', hrow', hholds⟩ := hcontext
      rw [← hsame, h] at hrow'
      obtain rfl := Option.some.inj hrow'
      exact ⟨authContext, if_pos ((sameServer_iff _ _).mpr hsame), hholds⟩
    · obtain ⟨updated, hpopulate, hholds⟩ := populate_holdsRow h authContext.pAuthKey
      exact ⟨updated, (if_neg (mt (sameServer_iff _ _).mp hsame)).trans hpopulate, hholds⟩
  unfold addClientAuthCode
  rw [hupdated]
  dsimp only
  split_ifs with hid hbuffer
  · exact ⟨hholds, fun _ _ hkey => absurd (hholds.keyId_eq_iff.mp hid) hkey⟩
  · exact ⟨hholds, fun _ hok => by cases hok⟩
  · rw [authContext_signRequest]
    exact ⟨hholds, fun size hok _ => authCodeSize_signRequest hok⟩

/-! ## The exchange with the servers -/

/-- The context, and the request that the library waits for a response to. -/
structure Exchange where
  authContext : SntpAuthContext
  request : Option (ServerName × ℕ)
  /-- An assertion has failed. -/
  stopped : Bool
  deriving DecidableEq

/-- What the library calls: `addClientAuthCode` for a server of its list, and
    `validateServerAuth` for the server of the request. -/
inductive ExchangeCall (rows : List ServerRow)
  | addClientAuthCode (server : Fin rows.length) (r : Pkcs11Results)
  | validateServerAuth (r : Pkcs11Results)

/-- `sntpTask` sets the context for the first server, whose static memory is zero. -/
def startExchange (rows : List ServerRow) : Option Exchange :=
  match rows with
  | [] => none
  | row :: _ =>
    match populateAuthContextForServer rows row.pTimeServer (Vector.replicate 16 0) with
    | .error _ => none
    | .ok authContext => some ⟨authContext, none, false⟩

/-- The context buffer has `SNTP_PACKET_AUTHENTICATED_MODE_SIZE` bytes. A response has the size
    of the request. -/
def exchange (rows : List ServerRow) (s : Exchange) (a : ExchangeCall rows) : Exchange :=
  if s.stopped then s
  else
    match a with
    | .addClientAuthCode server r =>
      let out := addClientAuthCode rows r (rows.get server).pTimeServer
        sntpPacketAuthenticatedModeSize s.authContext
      match out.result with
      | .error _ => ⟨out.authContext, none, true⟩
      | .ok (.success, some size) =>
        ⟨out.authContext, some ((rows.get server).pTimeServer, size), false⟩
      | .ok _ => ⟨out.authContext, none, false⟩
    | .validateServerAuth r =>
      match s.request with
      | none => s
      | some (server, size) =>
        match (validateServerAuth r server (sntpPacketBaseSize + size) s.authContext).2 with
        | .error _ => { s with stopped := true }
        | .ok _ => s

/-- The context is the one of a server, and of the one that the request is for. -/
structure ContextOfServer (rows : List ServerRow) (s : Exchange) : Prop where
  context : ∃ row, firstRow rows s.authContext.pServer = some row ∧ HoldsRow row s.authContext
  request : ∀ server size, s.request = some (server, size) → s.authContext.pServer = server ∧
    (s.authContext.keyId ≠ -1 → size = authCodeSize)

variable {rows : List ServerRow}

theorem contextOfServer_exchange (s : Exchange) (a : ExchangeCall rows)
    (hs : ContextOfServer rows s) : ContextOfServer rows (exchange rows s a) := by
  unfold exchange
  split_ifs with hstopped
  · exact hs
  cases a with
  | addClientAuthCode server r =>
    obtain ⟨row, hrow⟩ := exists_firstRow (List.get_mem rows server)
    obtain ⟨hholds, hsize⟩ :=
      addClientAuthCode_spec hrow r sntpPacketAuthenticatedModeSize hs.context
    dsimp only
    generalize addClientAuthCode rows r (rows.get server).pTimeServer
      sntpPacketAuthenticatedModeSize s.authContext = out at hholds hsize ⊢
    have hserver := hholds.server.trans (pTimeServer_firstRow hrow)
    have hcontext : ∃ row, firstRow rows out.authContext.pServer = some row ∧
        HoldsRow row out.authContext := ⟨row, by rw [hserver]; exact hrow, hholds⟩
    split
    · exact ⟨hcontext, fun _ _ h => by cases h⟩
    · rename_i size hresult
      refine ⟨hcontext, ?_⟩
      rintro _ _ ⟨⟩
      exact ⟨hserver, fun hid => hsize _ hresult (mt hholds.keyId_eq_iff.mpr hid)⟩
    · exact ⟨hcontext, fun _ _ h => by cases h⟩
  | validateServerAuth r =>
    dsimp only
    split
    · exact hs
    · split
      · exact ⟨hs.context, hs.request⟩
      · exact hs

theorem contextOfServer_start {s : Exchange} (h : startExchange rows = some s) :
    ContextOfServer rows s := by
  cases rows with
  | nil => cases h
  | cons row rows =>
    obtain ⟨first, hfirst⟩ := exists_firstRow (List.mem_cons_self (a := row) (l := rows))
    obtain ⟨authContext, hpopulate, hholds⟩ :=
      populate_holdsRow hfirst (Vector.replicate 16 0)
    unfold startExchange at h
    dsimp only at h
    rw [hpopulate] at h
    obtain rfl := Option.some.inj h
    refine ⟨⟨first, ?_, hholds⟩, fun _ _ h => by cases h⟩
    rw [hholds.server, pTimeServer_firstRow hfirst]
    exact hfirst

/-- What the two callbacks promise in a state of the exchange. -/
structure Authenticated (rows : List ServerRow) (s : Exchange) : Prop where
  /-- After `addClientAuthCode` the context has the row of the server. -/
  context : ∀ (server : Fin rows.length) (r : Pkcs11Results), ∃ row,
    firstRow rows (rows.get server).pTimeServer = some row ∧
      HoldsRow row (addClientAuthCode rows r (rows.get server).pTimeServer
        sntpPacketAuthenticatedModeSize s.authContext).authContext
  /-- No assertion of `validateServerAuth` fails but for a call of PKCS#11. -/
  assertion : ∀ server size, s.request = some (server, size) → ∀ (r : Pkcs11Results) a,
    (validateServerAuth r server (sntpPacketBaseSize + size) s.authContext).2 = .error a →
      FailedCall r a
  /-- A response passes if there is no key, or if it has been verified under the key. -/
  success : ∀ server size, s.request = some (server, size) → ∀ r : Pkcs11Results,
    (validateServerAuth r server (sntpPacketBaseSize + size) s.authContext).2 = .ok .success →
      ∃ row, firstRow rows server = some row ∧
        (row.configuredKey = none ∨ ∃ k key, row.configuredKey = some k ∧ Denotes k key ∧
          VerifiedUnder key
            (validateServerAuth r server (sntpPacketBaseSize + size) s.authContext).1)

theorem ContextOfServer.authenticated {s : Exchange} (hs : ContextOfServer rows s) :
    Authenticated rows s := by
  -- behind the checks of the context and of the size of the response
  have hvalidate : ∀ server size, s.request = some (server, size) → ∀ r : Pkcs11Results,
      validateServerAuth r server (sntpPacketBaseSize + size) s.authContext =
        if s.authContext.keyId = -1 then ([], .ok .success)
        else verifyResponse r s.authContext.pAuthKey := by
    intro server size hrequest r
    obtain ⟨hserver, hsize⟩ := hs.request server size hrequest
    unfold validateServerAuth
    rw [if_neg (by simp [(sameServer_iff _ _).mpr hserver.symm])]
    split_ifs with hid hsmall
    · rfl
    · rw [hsize hid] at hsmall
      exact absurd hsmall (lt_irrefl _)
    · rfl
  refine ⟨fun server r => ?_, fun server size hrequest r a ha => ?_,
    fun server size hrequest r hok => ?_⟩
  · obtain ⟨row, hrow⟩ := exists_firstRow (List.get_mem rows server)
    exact ⟨row, hrow, (addClientAuthCode_spec hrow r _ hs.context).1⟩
  · rw [hvalidate server size hrequest r] at ha
    split_ifs at ha
    rcases verifyResponse_cases r s.authContext.pAuthKey with ⟨a', ha', hfailed⟩ | ⟨e, he⟩ | hall
    · rw [ha'] at ha
      cases ha
      exact hfailed
    · rw [he] at ha
      cases ha
    · rw [hall] at ha
      cases ha
  · obtain ⟨row, hrow, hholds⟩ := hs.context
    rw [(hs.request server size hrequest).1] at hrow
    refine ⟨row, hrow, ?_⟩
    rw [hvalidate server size hrequest r] at hok ⊢
    by_cases hid : s.authContext.keyId = -1
    · exact .inl (hholds.keyId_eq_iff.mp hid)
    rw [if_neg hid] at hok ⊢
    obtain ⟨k, hk⟩ := Option.ne_none_iff_exists'.mp (mt hholds.keyId_eq_iff.mpr hid)
    refine .inr ⟨k, s.authContext.pAuthKey, hk, (hholds.key k hk).2, ?_⟩
    rcases verifyResponse_cases r s.authContext.pAuthKey with ⟨a', ha', -⟩ | ⟨e, he⟩ | hall
    · rw [ha'] at hok
      cases hok
    · rw [he] at hok
      cases hok
    · rw [hall]
      exact ⟨r.cMacKey, [.finalize 0, .closeSession 0],
        [.getFunctionList 0, .initializeSession 0], rfl⟩

/-- **The authentication context**, in every state of every exchange. -/
theorem authenticated_run {s : Exchange} (h : startExchange rows = some s)
    (as : List (ExchangeCall rows)) : Authenticated rows (run (exchange rows) s as) :=
  (run_inv contextOfServer_exchange (contextOfServer_start h) as).authenticated

/-- A row with a key of one digit repeated. -/
def repeatedDigit (name : ServerName) (digit : UInt8) (h : (hexDigit digit).isSome = true)
    (pAuthKeyId : Int32) : ServerRow where
  pTimeServer := name
  pAESCMACAuthKey := some (List.replicate 32 digit)
  pAuthKeyId := pAuthKeyId
  digits := by
    rintro key ⟨⟩
    exact ⟨List.length_replicate, fun c hc => by rw [List.eq_of_mem_replicate hc]; exact h⟩

/-- Two rows for the server "a", with the keys "0…0" and "1…1". -/
def duplicateServer : List ServerRow :=
  [repeatedDigit ⟨[97], by decide⟩ 48 (by decide) 1,
   repeatedDigit ⟨[97], by decide⟩ 49 (by decide) 2]

/-- The context of its first row. -/
def duplicateContext : SntpAuthContext := ⟨⟨[97], by decide⟩, 1, Vector.replicate 16 0⟩

/-- A request to the second server, and a response that is verified. -/
theorem authenticated_run_duplicateServer :
    Authenticated duplicateServer (run (exchange duplicateServer) ⟨duplicateContext, none, false⟩
      [.addClientAuthCode ⟨1, by decide⟩ {}, .validateServerAuth {}]) :=
  authenticated_run (by decide) _

/-- For the second server the context keeps the first row; and a session that cannot be closed
    after a response has been verified fails an assertion. -/
theorem not_ownRow :
    startExchange duplicateServer = some ⟨duplicateContext, none, false⟩ ∧
      ¬ HoldsRow (duplicateServer.get ⟨1, by decide⟩)
        (addClientAuthCode duplicateServer {} (duplicateServer.get ⟨1, by decide⟩).pTimeServer
          sntpPacketAuthenticatedModeSize duplicateContext).authContext ∧
      (run (exchange duplicateServer) ⟨duplicateContext, none, false⟩
        [.addClientAuthCode ⟨0, by decide⟩ {},
         .validateServerAuth { closeSession := 5 }]).stopped = true := by
  refine ⟨by decide, fun h => ?_, by decide⟩
  have hid := (h.key _ rfl).1
  revert hid
  decide

end Corstone.Sntp
