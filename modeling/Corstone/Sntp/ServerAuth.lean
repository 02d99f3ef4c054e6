import Corstone.Lib.CString
import Corstone.Sntp.SntpTask

/-!
# The authentication of time servers

Models of `populateAuthContextForServer`, `setupPkcs11ObjectForAesCmac`, `addClientAuthCode`,
`validateServerAuth` and `generateRandomNumber` (`sntp_client_task.c`, lines 948–1309). What the
calls of PKCS#11 return are inputs, and each function lists the calls that it makes, newest
first. A function that fails an assertion does not return.

* `sameServer_iff`: the comparison of names.
* `denotes_storeKey`: the key that is stored is the one that the string denotes.
* `populate_eq`: the context that the configuration gives a server.
-/

namespace Corstone.Sntp

open Corstone.Lib

/-! ## The configuration -/

/-- A string without its NUL. -/
abbrev ServerName := { s : Bytes // 0 ∉ s }

/-- The value of a hexadecimal digit. -/
def hexDigit (c : UInt8) : Option ℕ :=
  if 48 ≤ c ∧ c ≤ 57 then some (c.toNat - 48)
  else if 65 ≤ c ∧ c ≤ 70 then some (c.toNat - 55)
  else if 97 ≤ c ∧ c ≤ 102 then some (c.toNat - 87)
  else none

/-- A row of the three lists of the configuration. Keys are strings of 32 hexadecimal digits. -/
structure ServerRow where
  pTimeServer : ServerName
  pAESCMACAuthKey : Option Bytes
  pAuthKeyId : Int32
  digits : ∀ key ∈ pAESCMACAuthKey,
    key.length = 32 ∧ ∀ c ∈ key, (hexDigit c).isSome = true

/-- `SntpAuthContext_t`. -/
structure SntpAuthContext where
  pServer : ServerName
  keyId : Int32
  pAuthKey : Vector UInt8 16
  deriving DecidableEq

/-- `strtoul( s, NULL, 16 )` of a string without blanks, sign or prefix. -/
def strtoul16 (s : Bytes) : ℕ :=
  (s.takeWhile fun c => (hexDigit c).isSome).foldl (fun n c => 16 * n + (hexDigit c).getD 0) 0

/-- The two strings have the same length, and `strncmp` finds no difference. -/
def sameServer (a b : ServerName) : Bool :=
  a.1.length = b.1.length ∧ strncmp a.1 b.1 b.1.length = 0

/-- The conversion of the key, two characters at a time (lines 987–992). -/
def storeKey (pKeyHexString : Bytes) (pAuthKey : Vector UInt8 16) : Vector UInt8 16 :=
  (List.range (pKeyHexString.length / 2)).foldl (fun key i =>
    key.setIfInBounds i (UInt8.ofNat (strtoul16 ((pKeyHexString.drop (2 * i)).take 2)))) pAuthKey

/-- The assertions of the functions below. -/
inductive AuthAssertion
  /-- The server is configured (line 968). -/
  | server
  /-- Its key has 32 characters (line 980). -/
  | keyLength
  /-- `C_CreateObject` leaves a valid handle (line 1060). -/
  | cMacKey
  /-- The request has room for the code (line 1106). -/
  | bufferSize
  /-- `C_CloseSession` succeeds (lines 1147 and 1245). -/
  | closeSession
  /-- `C_Finalize` succeeds (lines 1150 and 1248). -/
  | finalize
  /-- The context is the one of the server (line 1191). -/
  | authContext
  /-- The response has a code (line 1201). -/
  | responseSize
  /-- `C_GetFunctionList` leaves a list when it fails (line 1270). -/
  | functionList
  /-- `xInitializePkcs11Session` leaves a handle when it fails (line 1282). -/
  | session
  deriving DecidableEq

/-- `populateAuthContextForServer`. -/
def populateAuthContextForServer (rows : List ServerRow) (pServer : ServerName)
    (pAuthKey : Vector UInt8 16) : Except AuthAssertion SntpAuthContext :=
  match rows.find? fun row => sameServer pServer row.pTimeServer with
  | none => .error .server
  | some row =>
    match row.pAESCMACAuthKey, decide (row.pAuthKeyId ≠ -1) with
    | some pKeyHexString, true =>
      if pKeyHexString.length ≠ 2 * 16 then .error .keyLength
      else .ok ⟨pServer, row.pAuthKeyId, storeKey pKeyHexString pAuthKey⟩
    | _, _ => .ok ⟨pServer, -1, Vector.replicate 16 0⟩

/-! ## Names and keys -/

theorem sameServer_iff (a b : ServerName) : sameServer a b = true ↔ a = b := by
  rw [sameServer, decide_eq_true_iff]
  constructor
  · rintro ⟨hlength, hstrncmp⟩
    have hstart := strncmp_eq_zero_iff_prefix a.1 b.2
    exact Subtype.ext ((hstart.mp hstrncmp).eq_of_length hlength.symm).symm
  · rintro rfl
    exact ⟨rfl, strncmp_self _ _⟩

/-- The 16 bytes that 32 hexadecimal digits denote. -/
def Denotes (pKeyHexString : Bytes) (key : Vector UInt8 16) : Prop :=
  ∀ (i : ℕ) (hi : i < 16), ∃ high low,
    pKeyHexString[2 * i]?.bind hexDigit = some high ∧
    pKeyHexString[2 * i + 1]?.bind hexDigit = some low ∧
    key[i].toNat = 16 * high + low

theorem hexDigit_lt {c : UInt8} {n : ℕ} (h : hexDigit c = some n) : n < 16 := by
  unfold hexDigit at h
  simp only [UInt8.le_iff_toNat_le] at h
  split_ifs at h with h1 h2 h3
  all_goals
    have heq := Option.some.inj h
    simp at *
    omega

theorem strtoul16_pair {c d : UInt8} {high low : ℕ} (hc : hexDigit c = some high)
    (hd : hexDigit d = some low) : strtoul16 [c, d] = 16 * high + low := by
  simp [strtoul16, hc, hd]

/-- A loop that sets the entries one after the other. -/
theorem getElem_foldl_setIfInBounds {m : ℕ} (f : ℕ → UInt8) (key : Vector UInt8 m) (n : ℕ)
    (i : ℕ) (hi : i < m) :
    ((List.range n).foldl (fun key i => key.setIfInBounds i (f i)) key)[i] =
      if i < n then f i else key[i] := by
  induction n with
  | zero => simp
  | succ n ih =>
    rw [List.range_succ, List.foldl_append]
    simp only [List.foldl_cons, List.foldl_nil, Vector.getElem_setIfInBounds, ih]
    split_ifs <;> first | rfl | omega | simp_all

/-- **The key that is stored** is the one that the string denotes. -/
theorem denotes_storeKey {pKeyHexString : Bytes} (hlength : pKeyHexString.length = 32)
    (hdigits : ∀ c ∈ pKeyHexString, (hexDigit c).isSome = true) (pAuthKey : Vector UInt8 16) :
    Denotes pKeyHexString (storeKey pKeyHexString pAuthKey) := by
  intro i hi
  have hhigh : 2 * i < pKeyHexString.length := by omega
  have hlow : 2 * i + 1 < pKeyHexString.length := by omega
  obtain ⟨high, hhigh'⟩ := Option.isSome_iff_exists.mp (hdigits _ (List.getElem_mem hhigh))
  obtain ⟨low, hlow'⟩ := Option.isSome_iff_exists.mp (hdigits _ (List.getElem_mem hlow))
  refine ⟨high, low, ?_, ?_, ?_⟩
  · rw [List.getElem?_eq_getElem hhigh]
    exact hhigh'
  · rw [List.getElem?_eq_getElem hlow]
    exact hlow'
  · have hpair : (pKeyHexString.drop (2 * i)).take 2 =
        [pKeyHexString[2 * i], pKeyHexString[2 * i + 1]] := by
      rw [List.drop_eq_getElem_cons hhigh, List.drop_eq_getElem_cons hlow]
      rfl
    have hbyte : 16 * high + low < 2 ^ 8 := by
      have h1 := hexDigit_lt hhigh'
      have h2 := hexDigit_lt hlow'
      omega
    unfold storeKey
    rw [getElem_foldl_setIfInBounds, if_pos (by omega), hpair, strtoul16_pair hhigh' hlow',
      UInt8.toNat_ofNat', Nat.mod_eq_of_lt hbyte]

/-! ## PKCS#11 -/

/-- `CK_RV`, of which `CKR_OK` is 0. -/
abbrev CkRv := UInt32

/-- `CK_OBJECT_HANDLE`, of which `CK_INVALID_HANDLE` is 0. -/
abbrev CkObjectHandle := UInt32

/-- What the calls of PKCS#11 return. -/
structure Pkcs11Results where
  /-- `xInitializePkcs11Session`, and whether it leaves a valid handle when it fails. -/
  initializeSession : CkRv := 0
  sessionLeft : Bool := false
  /-- `C_GetFunctionList`, and whether it leaves a list when it fails. -/
  getFunctionList : CkRv := 0
  functionListLeft : Bool := false
  /-- `C_CreateObject`, and the handle that it leaves. -/
  createObject : CkRv := 0
  cMacKey : CkObjectHandle := 1
  signInit : CkRv := 0
  sign : CkRv := 0
  verifyInit : CkRv := 0
  verify : CkRv := 0
  /-- `C_GenerateRandom`, and the number that it leaves. -/
  generateRandom : CkRv := 0
  randomNum : UInt32 := 0
  closeSession : CkRv := 0
  finalize : CkRv := 0

/-- A call of PKCS#11 and what it has returned. -/
inductive Pkcs11Call
  | initializeSession (result : CkRv)
  | getFunctionList (result : CkRv)
  | createObject (pValue : Vector UInt8 16) (cMacKey : CkObjectHandle) (result : CkRv)
  | signInit (cMacKey : CkObjectHandle) (result : CkRv)
  | sign (result : CkRv)
  | verifyInit (cMacKey : CkObjectHandle) (result : CkRv)
  | verify (result : CkRv)
  | generateRandom (result : CkRv)
  | closeSession (result : CkRv)
  | finalize (result : CkRv)
  deriving DecidableEq

/-- `setupPkcs11ObjectForAesCmac`. -/
def setupPkcs11ObjectForAesCmac (r : Pkcs11Results) (pAuthKey : Vector UInt8 16) :
    List Pkcs11Call × Except AuthAssertion CkRv :=
  let calls := [.initializeSession r.initializeSession]
  if r.initializeSession ≠ 0 then (calls, .ok r.initializeSession)
  else
    let calls := .getFunctionList r.getFunctionList :: calls
    if r.getFunctionList ≠ 0 then (calls, .ok r.getFunctionList)
    else
      let calls := .createObject pAuthKey r.cMacKey r.createObject :: calls
      (calls, if r.cMacKey = 0 then .error .cMacKey else .ok r.createObject)

/-- The session is closed and the module finalised (lines 1142–1151 and 1240–1249). -/
def closePkcs11Session (r : Pkcs11Results) (calls : List Pkcs11Call) :
    List Pkcs11Call × Except AuthAssertion Unit :=
  let calls := .closeSession r.closeSession :: calls
  if r.closeSession ≠ 0 then (calls, .error .closeSession)
  else
    (.finalize r.finalize :: calls, if r.finalize ≠ 0 then .error .finalize else .ok ())

/-- `SNTP_PACKET_BASE_SIZE`. -/
def sntpPacketBaseSize : ℕ := 48

/-- `SNTP_PACKET_SYMMETRIC_KEY_ID_LENGTH + pkcs11AES_CMAC_SIGNATURE_LENGTH`. -/
def authCodeSize : ℕ := 4 + 16

/-- `SNTP_PACKET_AUTHENTICATED_MODE_SIZE`. -/
def sntpPacketAuthenticatedModeSize : ℕ := sntpPacketBaseSize + authCodeSize

/-! ## The callbacks -/

/-- What `addClientAuthCode` leaves. -/
structure ClientAuth where
  authContext : SntpAuthContext
  calls : List Pkcs11Call
  /-- The key ID that it writes behind the packet. -/
  keyIdAppended : Option Int32
  /-- The status, and `*pAuthCodeSize` if it is set. -/
  result : Except AuthAssertion (SntpStatus × Option ℕ)

/-- The part of `addClientAuthCode` for a server with a key (lines 1108–1157). -/
def signRequest (r : Pkcs11Results) (authContext : SntpAuthContext) : ClientAuth :=
  match setupPkcs11ObjectForAesCmac r authContext.pAuthKey with
  | (calls, .error a) => ⟨authContext, calls, none, .error a⟩
  | (calls, .ok result) =>
    let authFailure (calls : List Pkcs11Call) : ClientAuth :=
      ⟨authContext, calls, some authContext.keyId, .ok (.error .authFailure, none)⟩
    if result ≠ 0 then authFailure calls
    else
      let calls := .signInit r.cMacKey r.signInit :: calls
      if r.signInit ≠ 0 then authFailure calls
      else
        let calls := .sign r.sign :: calls
        if r.sign ≠ 0 then authFailure calls
        else
          let (calls, closed) := closePkcs11Session r calls
          ⟨authContext, calls, some authContext.keyId,
            closed.map fun _ => (.success, some authCodeSize)⟩

/-- The context for the server that is passed (lines 1093–1099). -/
def updateAuthContext (rows : List ServerRow) (pTimeServer : ServerName)
    (pAuthContext : SntpAuthContext) : Except AuthAssertion SntpAuthContext :=
  if sameServer pTimeServer pAuthContext.pServer then .ok pAuthContext
  else populateAuthContextForServer rows pTimeServer pAuthContext.pAuthKey

/-- `addClientAuthCode`. -/
def addClientAuthCode (rows : List ServerRow) (r : Pkcs11Results) (pTimeServer : ServerName)
    (bufferSize : ℕ) (pAuthContext : SntpAuthContext) : ClientAuth :=
  match updateAuthContext rows pTimeServer pAuthContext with
  | .error a => ⟨pAuthContext, [], none, .error a⟩
  | .ok authContext =>
    if authContext.keyId = -1 then ⟨authContext, [], none, .ok (.success, some 0)⟩
    else if bufferSize < sntpPacketAuthenticatedModeSize then
      ⟨authContext, [], none, .error .bufferSize⟩
    else signRequest r authContext

/-- The part of `validateServerAuth` for a server with a key (lines 1203–1249). -/
def verifyResponse (r : Pkcs11Results) (pAuthKey : Vector UInt8 16) :
    List Pkcs11Call × Except AuthAssertion SntpStatus :=
  match setupPkcs11ObjectForAesCmac r pAuthKey with
  | (calls, .error a) => (calls, .error a)
  | (calls, .ok result) =>
    if result ≠ 0 then (calls, .ok (.error .authFailure))
    else
      let calls := .verifyInit r.cMacKey r.verifyInit :: calls
      if r.verifyInit ≠ 0 then (calls, .ok (.error .authFailure))
      else
        let calls := .verify r.verify :: calls
        if r.verify ≠ 0 then (calls, .ok (.error .serverNotAuthenticated))
        else
          let (calls, closed) := closePkcs11Session r calls
          (calls, closed.map fun _ => .success)

/-- `validateServerAuth`. -/
def validateServerAuth (r : Pkcs11Results) (pTimeServer : ServerName) (responseSize : ℕ)
    (pAuthContext : SntpAuthContext) : List Pkcs11Call × Except AuthAssertion SntpStatus :=
  if sameServer pTimeServer pAuthContext.pServer = false then ([], .error .authContext)
  else if pAuthContext.keyId = -1 then ([], .ok .success)
  else if responseSize < sntpPacketAuthenticatedModeSize then ([], .error .responseSize)
  else verifyResponse r pAuthContext.pAuthKey

/-- `generateRandomNumber`. -/
def generateRandomNumber (r : Pkcs11Results) : List Pkcs11Call × Except AuthAssertion UInt32 :=
  let calls := [.getFunctionList r.getFunctionList]
  if r.getFunctionList ≠ 0 then
    (calls, if r.functionListLeft then .ok 0 else .error .functionList)
  else
    let calls := .initializeSession r.initializeSession :: calls
    if r.initializeSession ≠ 0 then (calls, if r.sessionLeft then .ok 0 else .error .session)
    else (.closeSession r.closeSession :: .generateRandom r.generateRandom :: calls,
      .ok r.randomNum)

end Corstone.Sntp
