import Corstone.Lib.CString
import Corstone.Lib.History
import Corstone.Lib.Run

/-!
# The TLS context

Models of `prvFreeContext`, `TLS_Init`, `TLS_Connect`, `TLS_Recv`, `TLS_Send` and `TLS_Cleanup`
(`iot_tls.c`, lines 115–134 and 606–982) on a context that is not `NULL`. The results of mbedTLS
and of PKCS#11 are inputs, and so is how often mbedTLS calls the PKCS#11 callbacks of a context
that is set up. A function that loops takes the results of its calls one after the other; it has
not returned when they run out.

* `Connection.log`: what the calls have done with PKCS#11, newest first.
* `Connection.accepted`: the bytes that `mbedtls_ssl_write` has accepted, in order.
-/

namespace Corstone.Tls

open Corstone.Lib

/-- `CK_RV`, of which `CKR_OK` is 0. -/
abbrev CkRv := UInt32

def ckrCryptokiAlreadyInitialized : CkRv := 0x191

def ckrSessionHandleInvalid : CkRv := 0xB3

/-- `CK_SESSION_HANDLE`, of which `CK_INVALID_HANDLE` is 0. -/
abbrev CkSessionHandle := UInt32

/-- `MBEDTLS_ERR_SSL_WANT_READ`. -/
def mbedtlsErrSslWantRead : Int32 := -0x6900

/-- `MBEDTLS_ERR_SSL_WANT_WRITE`. -/
def mbedtlsErrSslWantWrite : Int32 := -0x6880

/-- `TLSContext_t`. -/
structure TlsContext where
  /-- `pxP11FunctionList` is not `NULL`. A list has all functions of PKCS#11. -/
  pxP11FunctionList : Bool
  xP11Session : CkSessionHandle
  /-- `xMbedSslCtx` and its configuration have been set up and not been freed. -/
  xMbedSslCtx : Bool

/-- What the functions do with PKCS#11. -/
inductive P11
  | tlsInit
  | openSession (xP11Session : CkSessionHandle)
  | closeSession (xP11Session : CkSessionHandle)
  /-- A function of the list is read, which is there or `NULL`. -/
  | functionList (pxP11FunctionList : Bool)
  deriving DecidableEq

/-- The context and what has been done so far. -/
structure Connection where
  context : TlsContext
  log : List P11
  accepted : Bytes

/-- A call of mbedTLS: the callbacks that it makes, and its result. -/
structure MbedCall where
  callbacks : ℕ := 0
  result : Int32
  deriving DecidableEq

/-- The results of the calls of `TLS_Init`. -/
structure InitResults where
  /-- `C_GetFunctionList`, and whether it leaves a list. -/
  getFunctionList : CkRv := 0
  functionList : Bool := true
  listed : getFunctionList = 0 → functionList = true := by decide
  /-- `xInitializePkcs11Session`, and the handle of the session that it opens, if it does. -/
  initializeSession : CkRv := 0
  session : CkSessionHandle
  /-- `mbedtls_ctr_drbg_seed`, and its calls of `prvEntropyCallback`. -/
  entropyCalls : ℕ := 1
  ctrDrbgSeed : Int32 := 0
  /-- The parse of the certificate of the server, or of the default certificates. -/
  serverCertificate : Int32 := 0
  configDefaults : Int32 := 0
  /-- `prvInitializeClientCredential` behind its test of the session. -/
  clientCredential : CkRv := 0
  /-- The calls that are made only if there are protocols, a host name, or the extension. -/
  confAlpnProtocols : Option Int32 := none
  setHostname : Option Int32 := none
  confMaxFragLen : Option Int32 := none
  sslSetup : Int32 := 0

namespace Connection

def call (s : Connection) (c : P11) : Connection := { s with log := c :: s.log }

/-- A use of the function list. -/
def useFunctionList (s : Connection) : Connection :=
  s.call (.functionList s.context.pxP11FunctionList)

/-- `n` uses of the function list. -/
def useFunctionLists (n : ℕ) (s : Connection) : Connection := useFunctionList^[n] s

/-- The callbacks of mbedTLS, which it makes only for a context that is set up. -/
def callbacks (n : ℕ) (s : Connection) : Connection :=
  if s.context.xMbedSslCtx then useFunctionLists n s else s

/-- `mbedtls_ssl_free` and `mbedtls_ssl_config_free`. -/
def sslFree (s : Connection) : Connection :=
  { s with context := { s.context with xMbedSslCtx := false } }

/-- The session of the context is closed if there is one (lines 127–132). -/
def closeSession (s : Connection) : Connection :=
  if s.context.xP11Session ≠ 0 then
    { s.useFunctionList.call (.closeSession s.context.xP11Session) with
      context := { s.context with xP11Session := 0 } }
  else s

/-- `prvFreeContext` (lines 115–134); `closeNotify` are the callbacks of
    `mbedtls_ssl_close_notify`. -/
def prvFreeContext (closeNotify : ℕ) (s : Connection) : Connection :=
  (s.callbacks closeNotify).sslFree.closeSession

/-- The context is zeroed. -/
def zeroed (s : Connection) : Connection := { s with context := ⟨false, 0, false⟩ }

/-- The end of `TLS_Init` when a step has failed (lines 838–846). -/
def initFailed (s : Connection) : Connection × Bool := ((s.prvFreeContext 0).zeroed, false)

/-- The session that `xInitializePkcs11Session` opens. -/
def openSession (xP11Session : CkSessionHandle) (s : Connection) : Connection :=
  if xP11Session = 0 then s
  else { s.call (.openSession xP11Session) with
    context := { s.context with xP11Session := xP11Session } }

/-- `prvEntropyCallback` (lines 520–548), `n` times. -/
def prvEntropyCallback (n : ℕ) (s : Connection) : Connection :=
  if s.context.xP11Session ≠ 0 then useFunctionLists n s else s

/-- `prvInitializeClientCredential` (lines 418–504). -/
def prvInitializeClientCredential (result : CkRv) (s : Connection) : Connection × CkRv :=
  if s.context.xP11Session = 0 then (s, ckrSessionHandleInvalid) else (s.useFunctionList, result)

/-- The start of `TLS_Init` (lines 614–631): the context is zeroed, and if there is a function
    list, then a session is opened. -/
def initSession (r : InitResults) (s : Connection) : Connection :=
  let s := (s.call .tlsInit).zeroed
  let s := { s with context := { s.context with pxP11FunctionList := r.functionList } }
  if r.getFunctionList = 0 then s.openSession r.session else s

/-- `TLS_Init` (lines 606–849). If there is no function list, then the function goes on without
    a session. -/
def tlsInit (r : InitResults) (s : Connection) : Connection × Bool :=
  let s := s.initSession r
  if r.getFunctionList = 0 ∧ r.initializeSession ≠ 0 ∧
      r.initializeSession ≠ ckrCryptokiAlreadyInitialized then s.initFailed
  else
    let s := s.prvEntropyCallback r.entropyCalls
    if r.ctrDrbgSeed ≠ 0 then s.initFailed
    else if r.serverCertificate ≠ 0 then s.initFailed
    else if r.configDefaults ≠ 0 then s.initFailed
    else
      let (s, result) := s.prvInitializeClientCredential r.clientCredential
      if result ≠ 0 then s.initFailed
      else if r.confAlpnProtocols.getD 0 ≠ 0 then s.initFailed
      else if r.setHostname.getD 0 ≠ 0 then s.initFailed
      else if r.confMaxFragLen.getD 0 ≠ 0 then s.initFailed
      else if r.sslSetup ≠ 0 then s.initFailed
      else ({ s with context := { s.context with xMbedSslCtx := true } }, true)

/-- `TLS_Connect` (lines 853–876). -/
def tlsConnect (closeNotify : ℕ) : List MbedCall → Connection → Connection × Option Int32
  | [], s => (s, none)
  | c :: calls, s =>
    let s := s.callbacks c.callbacks
    if c.result = 0 then (s, some 0)
    else if c.result = mbedtlsErrSslWantRead ∨ c.result = mbedtlsErrSslWantWrite then
      tlsConnect closeNotify calls s
    else (s.prvFreeContext closeNotify, some c.result)

/-- `TLS_Recv` (lines 880–924). -/
def tlsRecv (closeNotify : ℕ) : List MbedCall → Connection → Connection × Option Int32
  | [], s => (s, none)
  | c :: calls, s =>
    let s := s.callbacks c.callbacks
    if c.result = mbedtlsErrSslWantRead then tlsRecv closeNotify calls s
    else if 0 ≤ c.result then (s, some c.result)
    else (s.prvFreeContext closeNotify, some c.result)

/-- The loop of `TLS_Send` (lines 937–963): `xWritten`, or the error that ends it. -/
def tlsSendLoop (closeNotify : ℕ) (pucMsg : Bytes) :
    List MbedCall → ℕ → Connection → Connection × Option (Except Int32 ℕ)
  | [], xWritten, s => (s, if xWritten < pucMsg.length then none else some (.ok xWritten))
  | c :: calls, xWritten, s =>
    if xWritten < pucMsg.length then
      let s := s.callbacks c.callbacks
      if 0 < c.result then
        let written := c.result.toInt.toNat
        tlsSendLoop closeNotify pucMsg calls (xWritten + written)
          { s with accepted := s.accepted ++ (pucMsg.drop xWritten).take written }
      else if c.result = 0 ∨ c.result = mbedtlsErrSslWantWrite then (s, some (.ok xWritten))
      else (s.prvFreeContext closeNotify, some (.error c.result))
    else (s, some (.ok xWritten))

/-- `TLS_Send` (lines 928–975). -/
def tlsSend (closeNotify : ℕ) (pucMsg : Bytes) (calls : List MbedCall) (s : Connection) :
    Connection × Option (Except Int32 ℕ) :=
  tlsSendLoop closeNotify pucMsg calls 0 s

/-- What `TLS_Send` returns: the error, or `( int32_t ) xWritten`. -/
def sendResult : Except Int32 ℕ → Int32
  | .error e => e
  | .ok xWritten => Int32.ofNat xWritten

/-- `TLS_Cleanup` (lines 979–982). -/
def tlsCleanup (closeNotify : ℕ) (s : Connection) : Connection := s.prvFreeContext closeNotify

end Connection

/-- A call on the context. -/
inductive TlsCall
  | init (r : InitResults)
  | connect (closeNotify : ℕ) (calls : List MbedCall)
  | recv (closeNotify : ℕ) (calls : List MbedCall)
  | send (closeNotify : ℕ) (pucMsg : Bytes) (calls : List MbedCall)
  | cleanup (closeNotify : ℕ)

/-- One call. -/
def step (s : Connection) : TlsCall → Connection
  | .init r => (s.tlsInit r).1
  | .connect closeNotify calls => (s.tlsConnect closeNotify calls).1
  | .recv closeNotify calls => (s.tlsRecv closeNotify calls).1
  | .send closeNotify pucMsg calls => (s.tlsSend closeNotify pucMsg calls).1
  | .cleanup closeNotify => s.tlsCleanup closeNotify

end Corstone.Tls
