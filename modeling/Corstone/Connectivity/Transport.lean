import Corstone.Lib.History

/-!
# The TLS transport

Models of `Transport_Connect`, `Transport_Disconnect`, `Transport_Send` and
`Transport_Recv` of both network stacks (`transport_mbedtls.c` for FreeRTOS+TCP,
`transport_tls_iot_socket.c` for the virtual socket), with `TLS_Init`,
`TLS_Connect`, `TLS_Recv`, `TLS_Send` and `prvFreeContext` (`iot_tls.c`). The
results of the network stack, of the heap, of PKCS#11 and of mbedTLS are inputs.
So are the calls of `Send_Cb` and `Recv_Cb` that mbedTLS makes, in the order in
which it makes them. An SSL context that is freed or zeroed makes none.

A history has the calls of the transport on the stack, the heap and PKCS#11.
Sockets, contexts and sessions are numbered as they are made.

* `SameSocket`: what all functions but the creation and the close of a socket
  leave of the socket, with one lemma for each function.
-/

namespace Corstone.Connectivity

open Corstone.Lib

/-- The network stack of the transport. -/
inductive Stack
  | freeRtosPlusTcp | iotSocket
  deriving DecidableEq

/-- `NetworkContext_t.socket`: not set, the result of a failed creation, or a
    socket that has been created. -/
inductive SocketHandle
  | null
  | invalid
  | socket (n : ℕ)
  deriving DecidableEq

/-- The calls of the transport. -/
inductive Call
  /-- An attempt of the caller to connect. -/
  | attempt
  | socket (n : ℕ)
  | send (n : ℕ)
  | recv (n : ℕ)
  | shutdown (n : ℕ)
  /-- A call that closes a socket, or fails to. -/
  | close (n : ℕ) (closed : Bool)
  | malloc (n : ℕ)
  | free (n : ℕ)
  | openSession (n : ℕ)
  | closeSession (n : ℕ)
  deriving DecidableEq

/-- `TLSContext_t`. -/
structure TlsContext where
  id : ℕ
  /-- `xMbedSslCtx` has been set up and not been freed. -/
  ssl : Bool
  /-- `xP11Session`. -/
  p11Session : Option ℕ

/-- `NetworkContext_t` and what has been called. -/
structure Network where
  socket : SocketHandle
  pTlsContext : Option TlsContext
  /-- The number of the next socket, context or session. -/
  next : ℕ
  log : List Call

/-- `TransportStatus_t`. -/
inductive TransportStatus
  | success | invalidParameter | insufficientMemory | socketCreateFailure | dnsFailure
  | connectFailure | tlsFailure | socketCloseFailure
  deriving DecidableEq

/-- A use of the socket, also by `Send_Cb` or `Recv_Cb`. -/
inductive Io
  | send | recv
  deriving DecidableEq

def Io.call : Io → ℕ → Call
  | .send => .send
  | .recv => .recv

/-- The results of the calls of `Transport_Connect`. -/
structure ConnectResults where
  socket : Bool := true
  resolved : Bool := true
  connected : Bool := true
  malloc : Bool := true
  getFunctionList : Bool := true
  initializePkcs11Session : Bool := true
  /-- The seed, the certificates, the configuration, the client credential, the
      host name and `mbedtls_ssl_setup`. -/
  sslSetup : Bool := true
  handshakeIo : List Io := []
  handshake : Bool := true
  closeNotify : List Io := []

/-- The results of a call of `Transport_Send` or `Transport_Recv`: what its calls
    of mbedTLS use, and whether the last of them fails. -/
structure TransferResults where
  io : List Io := []
  hardError : Bool := false
  closeNotify : List Io := []

/-- The results of the calls of `Transport_Disconnect`. -/
structure DisconnectResults where
  /-- The calls of `FreeRTOS_recv` that do not fail after the shutdown. -/
  received : ℕ := 0
  /-- The calls of `iotSocketClose` that return `IOT_SOCKET_EAGAIN`. -/
  again : ℕ := 0
  /-- The last call of `iotSocketClose` succeeds. -/
  closed : Bool := true
  closeNotify : List Io := []

namespace Network

/-- A new context. -/
def new : Network := ⟨.null, none, 0, []⟩

variable (s : Network)

def call (c : Call) : Network := { s with log := c :: s.log }

/-- A call on the socket. -/
def onSocket (c : ℕ → Call) : Network :=
  match s.socket with
  | .socket n => s.call (c n)
  | _ => s

/-- Uses of the socket, in this order. -/
def ios : List Io → Network → Network
  | [], s => s
  | io :: rest, s => ios rest (s.onSocket io.call)

/-- The creation of the socket. -/
def createSocket : Network :=
  { s.call (.socket s.next) with socket := .socket s.next, next := s.next + 1 }

/-- `pvPortMalloc` of the context, and the `memset` of `TLS_Init`. -/
def mallocContext : Network :=
  { s.call (.malloc s.next) with
    pTlsContext := some ⟨s.next, false, none⟩, next := s.next + 1 }

/-- `xInitializePkcs11Session`. -/
def openSession (ctx : TlsContext) : Network :=
  { s.call (.openSession s.next) with
    pTlsContext := some { ctx with p11Session := some s.next }, next := s.next + 1 }

/-- `C_CloseSession`. -/
def closeSession : Option ℕ → Network
  | some n => s.call (.closeSession n)
  | none => s

/-- `prvFreeContext` (`iot_tls.c`, lines 115–134). -/
def prvFreeContext (closeNotify : List Io) : Network :=
  match s.pTlsContext with
  | none => s
  | some ctx =>
    let s := if ctx.ssl = true then ios closeNotify s else s
    { s.closeSession ctx.p11Session with
      pTlsContext := some { ctx with ssl := false, p11Session := none } }

/-- `TLS_Init` (lines 606–849) for a context that has just been allocated. Without
    a session the seed fails. -/
def tlsInit (ctx : TlsContext) (r : ConnectResults) : Network × Bool :=
  if r.getFunctionList = true ∧ r.initializePkcs11Session = true then
    let s := s.openSession ctx
    if r.sslSetup = true then
      ({ s with pTlsContext := s.pTlsContext.map fun ctx => { ctx with ssl := true } }, true)
    else (s.prvFreeContext [], false)
  else (s.prvFreeContext [], false)

/-- `TLS_Connect` (lines 854–876). -/
def tlsConnect (r : ConnectResults) : Network × Bool :=
  let s := ios r.handshakeIo s
  if r.handshake = true then (s, true) else (s.prvFreeContext r.closeNotify, false)

/-- `Transport_Connect` (`transport_mbedtls.c`, lines 62–197;
    `transport_tls_iot_socket.c`, lines 33–140). -/
def transportConnect (valid tls : Bool) (r : ConnectResults) : Network × TransportStatus :=
  if valid = false then (s, .invalidParameter)
  else if r.socket = false then ({ s with socket := .invalid }, .socketCreateFailure)
  else
    let s := s.createSocket
    if r.resolved = false then (s, .dnsFailure)
    else if r.connected = false then (s, .connectFailure)
    else if tls = false then (s, .success)
    else if r.malloc = false then ({ s with pTlsContext := none }, .insufficientMemory)
    else
      match s.mallocContext.tlsInit ⟨s.next, false, none⟩ r with
      | (s, false) => (s, .tlsFailure)
      | (s, true) =>
        match s.tlsConnect r with
        | (s, false) => (s, .tlsFailure)
        | (s, true) => (s, .success)

/-- `TLS_Recv` (lines 880–924) or `TLS_Send` (lines 928–975). On a context that is
    not set up the call of mbedTLS fails at once. -/
def tlsTransfer (ctx : TlsContext) (r : TransferResults) : Network :=
  if ctx.ssl = true then
    let s := ios r.io s
    if r.hardError = true then s.prvFreeContext r.closeNotify else s
  else s.prvFreeContext []

/-- What `Transport_Recv` and `Transport_Send` share. -/
def transfer (io : Io) (valid : Bool) (r : TransferResults) : Network :=
  if valid = false then s
  else
    match s.pTlsContext with
    | some ctx => s.tlsTransfer ctx r
    | none => s.onSocket io.call

/-- `Transport_Recv` (`transport_mbedtls.c`, lines 241–263;
    `transport_tls_iot_socket.c`, lines 142–165). -/
def transportRecv (valid : Bool) (r : TransferResults) : Network := s.transfer .recv valid r

/-- `Transport_Send` (`transport_mbedtls.c`, lines 265–287;
    `transport_tls_iot_socket.c`, lines 167–190). -/
def transportSend (valid : Bool) (r : TransferResults) : Network := s.transfer .send valid r

/-- `TLS_Cleanup` and the release of the context, where there is one. -/
def cleanup (closeNotify : List Io) : Network :=
  match s.pTlsContext with
  | none => s
  | some ctx => { (s.prvFreeContext closeNotify).call (.free ctx.id) with pTlsContext := none }

/-- `iotSocketClose`, until it does not return `IOT_SOCKET_EAGAIN`. -/
def closeAgain : ℕ → Network → Network
  | 0, s => s
  | again + 1, s => closeAgain again (s.onSocket fun n => .close n false)

/-- `Transport_Disconnect` (`transport_mbedtls.c`, lines 199–238;
    `transport_tls_iot_socket.c`, lines 257–289). The wait for the shutdown of
    FreeRTOS+TCP receives at most three times. -/
def transportDisconnect (stack : Stack) (r : DisconnectResults) : Network × TransportStatus :=
  match stack with
  | .freeRtosPlusTcp =>
    if s.socket = .null then (s, .invalidParameter)
    else
      let s := s.onSocket .shutdown
      let s := ios (List.replicate (min (r.received + 1) 3) .recv) s
      let s := s.onSocket fun n => .close n true
      (s.cleanup r.closeNotify, .success)
  | .iotSocket =>
    let s := closeAgain r.again s
    let s := s.onSocket fun n => .close n r.closed
    (s.cleanup r.closeNotify, if r.closed = true then .success else .socketCloseFailure)

end Network

section Frame

/-- A call that uses the socket, or the heap or PKCS#11. -/
def Call.keeps (socket : SocketHandle) : Call → Bool
  | .send n | .recv n | .shutdown n | .close n false => socket = .socket n
  | .malloc _ | .free _ | .openSession _ | .closeSession _ => true
  | .attempt | .socket _ | .close _ true => false

/-- From `s` to `s'` the socket has been used at most. -/
structure SameSocket (s s' : Network) : Prop where
  socket : s'.socket = s.socket
  next : s.next ≤ s'.next
  log : Extends (Call.keeps s.socket) s.log s'.log

namespace SameSocket

variable {s s' s'' : Network}

theorem refl (s : Network) : SameSocket s s := ⟨rfl, le_rfl, .refl _ _⟩

theorem trans (h : SameSocket s s') (h' : SameSocket s' s'') : SameSocket s s'' :=
  ⟨h'.socket.trans h.socket, h.next.trans h'.next, h.log.trans (h.socket ▸ h'.log)⟩

/-- The context does not matter. -/
theorem withContext (h : SameSocket s s') (ctx : Option TlsContext) :
    SameSocket s { s' with pTlsContext := ctx } := ⟨h.socket, h.next, h.log⟩

theorem withNext (h : SameSocket s s') {next : ℕ} (hnext : s'.next ≤ next) :
    SameSocket s { s' with next := next } := ⟨h.socket, h.next.trans hnext, h.log⟩

theorem suffix (h : SameSocket s s') : s.log <:+ s'.log := by
  obtain ⟨calls, _, hlog⟩ := h.log
  exact ⟨calls, hlog.symm⟩

/-- Nothing is closed. -/
theorem closed (h : SameSocket s s') (n : ℕ) : .close n true ∈ s'.log ↔ .close n true ∈ s.log := by
  obtain ⟨calls, hcalls, hlog⟩ := h.log
  rw [hlog, List.mem_append]
  exact or_iff_right fun hmem => absurd (hcalls _ hmem) Bool.false_ne_true

end SameSocket

namespace Network

variable (s : Network)

theorem sameSocket_call {c : Call} (hc : c.keeps s.socket = true) : SameSocket s (s.call c) :=
  ⟨rfl, le_rfl, (Extends.refl _ _).cons hc⟩

theorem sameSocket_onSocket {c : ℕ → Call} (hc : ∀ n, (c n).keeps (.socket n) = true) :
    SameSocket s (s.onSocket c) := by
  unfold onSocket
  split
  · rename_i n hn
    apply sameSocket_call
    rw [hn]
    exact hc n
  · exact .refl s

theorem sameSocket_ios (l : List Io) : SameSocket s (ios l s) := by
  induction l generalizing s with
  | nil => exact .refl s
  | cons io l ih =>
    refine (sameSocket_onSocket s fun n => ?_).trans (ih _)
    cases io <;> exact decide_eq_true rfl

theorem sameSocket_mallocContext : SameSocket s s.mallocContext :=
  ((sameSocket_call s (c := .malloc s.next) rfl).withNext (Nat.le_succ _)).withContext _

theorem sameSocket_openSession (ctx : TlsContext) : SameSocket s (s.openSession ctx) :=
  ((sameSocket_call s (c := .openSession s.next) rfl).withNext (Nat.le_succ _)).withContext _

theorem sameSocket_closeSession (session : Option ℕ) : SameSocket s (s.closeSession session) := by
  cases session with
  | none => exact .refl s
  | some n => exact sameSocket_call s rfl

theorem sameSocket_prvFreeContext (closeNotify : List Io) :
    SameSocket s (s.prvFreeContext closeNotify) := by
  unfold prvFreeContext
  split
  · exact .refl s
  · dsimp only
    apply SameSocket.withContext
    split_ifs
    · exact (sameSocket_ios s _).trans (sameSocket_closeSession _ _)
    · exact sameSocket_closeSession s _

theorem sameSocket_tlsInit (ctx : TlsContext) (r : ConnectResults) :
    SameSocket s (s.tlsInit ctx r).1 := by
  unfold tlsInit
  split_ifs
  · exact (sameSocket_openSession s ctx).withContext _
  · exact (sameSocket_openSession s ctx).trans (sameSocket_prvFreeContext _ [])
  · exact sameSocket_prvFreeContext s []

theorem sameSocket_tlsConnect (r : ConnectResults) : SameSocket s (s.tlsConnect r).1 := by
  unfold tlsConnect
  dsimp only
  split_ifs
  · exact sameSocket_ios s _
  · exact (sameSocket_ios s _).trans (sameSocket_prvFreeContext _ _)

theorem sameSocket_tlsTransfer (ctx : TlsContext) (r : TransferResults) :
    SameSocket s (s.tlsTransfer ctx r) := by
  unfold tlsTransfer
  dsimp only
  split_ifs
  · exact (sameSocket_ios s _).trans (sameSocket_prvFreeContext _ _)
  · exact sameSocket_ios s _
  · exact sameSocket_prvFreeContext s []

theorem sameSocket_transfer (io : Io) (valid : Bool) (r : TransferResults) :
    SameSocket s (s.transfer io valid r) := by
  unfold transfer
  split_ifs
  · exact .refl s
  · split
    · exact sameSocket_tlsTransfer s _ r
    · exact sameSocket_ios s [io]

theorem sameSocket_cleanup (closeNotify : List Io) : SameSocket s (s.cleanup closeNotify) := by
  unfold cleanup
  split
  · exact .refl s
  · rename_i ctx _
    exact ((sameSocket_prvFreeContext s closeNotify).trans
      (sameSocket_call _ (c := .free ctx.id) rfl)).withContext none

theorem sameSocket_closeAgain (again : ℕ) : SameSocket s (closeAgain again s) := by
  induction again generalizing s with
  | zero => exact .refl s
  | succ again ih =>
    have hclose : SameSocket s (s.onSocket fun n => .close n false) :=
      sameSocket_onSocket s fun n => decide_eq_true rfl
    exact hclose.trans (ih _)

/-- A connection after the creation of its socket. -/
theorem sameSocket_transportConnect {r : ConnectResults} (hsocket : r.socket = true)
    (tls : Bool) : SameSocket s.createSocket (s.transportConnect true tls r).1 := by
  unfold transportConnect
  dsimp only
  rw [if_neg (by decide), if_neg (by rw [hsocket]; decide)]
  split_ifs
  · exact .refl _
  · exact .refl _
  · exact .refl _
  · exact (SameSocket.refl _).withContext none
  · have hinit := (sameSocket_mallocContext s.createSocket).trans
      (sameSocket_tlsInit _ ⟨s.createSocket.next, false, none⟩ r)
    split
    · rename_i s₁ heq
      rwa [heq] at hinit
    · rename_i s₁ heq
      rw [heq] at hinit
      have hconnect := hinit.trans (sameSocket_tlsConnect s₁ r)
      split
      · rename_i s₂ heq'
        rwa [heq'] at hconnect
      · rename_i s₂ heq'
        rwa [heq'] at hconnect

@[simp] theorem pTlsContext_onSocket (c : ℕ → Call) :
    (s.onSocket c).pTlsContext = s.pTlsContext := by
  unfold onSocket
  split <;> rfl

@[simp] theorem pTlsContext_ios (l : List Io) : (ios l s).pTlsContext = s.pTlsContext := by
  induction l generalizing s with
  | nil => rfl
  | cons io l ih => exact (ih _).trans (pTlsContext_onSocket s _)

@[simp] theorem pTlsContext_closeAgain (again : ℕ) :
    (closeAgain again s).pTlsContext = s.pTlsContext := by
  induction again generalizing s with
  | zero => rfl
  | succ again ih => exact (ih _).trans (pTlsContext_onSocket s _)

@[simp] theorem pTlsContext_cleanup (closeNotify : List Io) :
    (s.cleanup closeNotify).pTlsContext = none := by
  unfold cleanup
  split
  · assumption
  · rfl

end Network

end Frame

end Corstone.Connectivity
