import Corstone.Connectivity.Transport
import Corstone.Lib.Run

/-!
# The connect loop of the MQTT agent

Model of the loop of `prvMQTTAgentTask` (`mqtt_agent_task.c`) over the transport
of FreeRTOS+TCP. `Transport_Connect` releases nothing when it fails, and the loop
disconnects only after a connection that has succeeded.

* `Owns`: what is held belongs to the network context.
* `iteration_clean`: one pass of the loop when nothing is held.
* `conserved_iff`: the resources are conserved in a run of the loop iff no
  attempt that fails after the creation of its socket is followed by another.
* `not_conserved_dnsFailure`: two attempts.
-/

namespace Corstone.MqttAgent

open Corstone.Lib Corstone.Connectivity Network

/-! ## The loop -/

/-- A call of `Transport_Send` or `Transport_Recv` by coreMQTT. -/
structure Transfer where
  io : Io
  valid : Bool
  results : TransferResults

/-- The results of a pass of the loop. -/
structure IterationResults where
  connect : ConnectResults := {}
  mqttConnectTransfers : List Transfer := []
  /-- `MQTT_Connect` returns `MQTTSuccess`. -/
  mqttConnect : Bool := true
  commandLoopTransfers : List Transfer := []
  /-- `MQTTAgent_CommandLoop` returns `MQTTSuccess`. -/
  commandLoop : Bool := false
  disconnect : DisconnectResults := {}

/-- `prvMQTTAgentTask` between two passes. -/
structure LoopState where
  network : Network
  /-- The loop has not been left. -/
  running : Bool

def transfers (l : List Transfer) (s : Network) : Network :=
  l.foldl (fun s t => s.transfer t.io t.valid t.results) s

/-- `prvSocketConnect` (lines 294–355). -/
def prvSocketConnect (r : ConnectResults) (s : Network) : Network × Bool :=
  let (s, status) := (s.call .attempt).transportConnect true true r
  (s, status = .success)

/-- `prvSocketDisconnect` (lines 357–370). -/
def prvSocketDisconnect (r : DisconnectResults) (s : Network) : Network :=
  (s.transportDisconnect .freeRtosPlusTcp r).1

/-- A pass of the loop (lines 682–770). -/
def iteration (s : LoopState) (r : IterationResults) : LoopState :=
  if s.running = false then s
  else
    match prvSocketConnect r.connect s.network with
    | (network, false) => { s with network := network }
    | (network, true) =>
      let network := transfers r.mqttConnectTransfers network
      if r.mqttConnect = false then
        { s with network := prvSocketDisconnect r.disconnect network }
      else
        let network := transfers r.commandLoopTransfers network
        if r.commandLoop = true then ⟨network, false⟩
        else { s with network := prvSocketDisconnect r.disconnect network }

/-- The task when it enters the loop. -/
def enterLoop : LoopState := ⟨.new, true⟩

/-! ## The resources -/

/-- A kind of resource. -/
inductive Resource
  | socket | context | session
  deriving DecidableEq

/-- The resource that a call makes. -/
def acquired : Call → Option (Resource × ℕ)
  | .socket n => some (.socket, n)
  | .malloc n => some (.context, n)
  | .openSession n => some (.session, n)
  | _ => none

/-- The resource that a call releases. -/
def released : Call → Option (Resource × ℕ)
  | .close n true => some (.socket, n)
  | .free n => some (.context, n)
  | .closeSession n => some (.session, n)
  | _ => none

/-- The resource `x` is held after the calls. -/
def Held (x : Resource × ℕ) : List Call → Prop
  | [] => False
  | c :: past => acquired c = some x ∨ Held x past ∧ released c ≠ some x

/-- At most one resource of each kind is held. -/
def AtMostOne (log : List Call) : Prop :=
  ∀ kind m n, Held (kind, m) log → Held (kind, n) log → m = n

/-- At every point at most one resource of each kind is held, and none at the
    start of an attempt. -/
def Conserved (log : List Call) : Prop :=
  Always (fun past c => AtMostOne (c :: past) ∧ (c = .attempt → ∀ x, ¬ Held x past)) log

/-! ## The condition -/

/-- `Transport_Connect` succeeds. -/
def Connects (r : ConnectResults) : Prop :=
  r.socket = true ∧ r.resolved = true ∧ r.connected = true ∧ r.malloc = true ∧
    r.getFunctionList = true ∧ r.initializePkcs11Session = true ∧ r.sslSetup = true ∧
    r.handshake = true

/-- It fails after the creation of the socket. -/
def LeavesSocket (r : ConnectResults) : Prop := r.socket = true ∧ ¬ Connects r

/-- The pass is the last one. -/
def Ends (r : IterationResults) : Prop :=
  Connects r.connect ∧ r.mqttConnect = true ∧ r.commandLoop = true

/-- No attempt that fails after the creation of its socket is followed by
    another. -/
def Releases : List IterationResults → Prop
  | [] => True
  | r :: rest => rest = [] ∨ Ends r ∨ ¬ LeavesSocket r.connect ∧ Releases rest

/-! ## What the network context owns -/

/-- A resource that the network context refers to. -/
def Owned (s : Network) : Resource × ℕ → Prop
  | (.socket, n) => s.socket = .socket n
  | (.context, n) => ∃ ctx, s.pTlsContext = some ctx ∧ ctx.id = n
  | (.session, n) => ∃ ctx, s.pTlsContext = some ctx ∧ ctx.p11Session = some n

/-- The resources have been conserved, and the network context refers to what is
    held. -/
structure Owns (s : Network) : Prop where
  conserved : Conserved s.log
  owned : ∀ x, Held x s.log → Owned s x

section Owns

variable {s s' : Network} {kind : Resource} {m n : ℕ} {x : Resource × ℕ} {c : Call}
  {log : List Call}

theorem Owned.unique (hm : Owned s (kind, m)) (hn : Owned s (kind, n)) : m = n := by
  cases kind with
  | socket => exact SocketHandle.socket.inj (hm.symm.trans hn)
  | context =>
    obtain ⟨ctx, hctx, rfl⟩ := hm
    obtain ⟨ctx', hctx', rfl⟩ := hn
    rw [Option.some_injective _ (hctx.symm.trans hctx')]
  | session =>
    obtain ⟨ctx, hctx, hm⟩ := hm
    obtain ⟨ctx', hctx', hn⟩ := hn
    obtain rfl := Option.some_injective _ (hctx.symm.trans hctx')
    exact Option.some_injective _ (hm.symm.trans hn)

/-- Another context with the same resources, or with fewer. -/
theorem Owned.of_context {ctx ctx' : TlsContext} (h : Owned s x) (hctx : s.pTlsContext = some ctx)
    (hctx' : s'.pTlsContext = some ctx') (hsocket : s'.socket = s.socket) (hid : ctx'.id = ctx.id)
    (hsession : ∀ n, x = (.session, n) → ctx.p11Session = some n → ctx'.p11Session = some n) :
    Owned s' x := by
  obtain ⟨kind, n⟩ := x
  cases kind with
  | socket => exact hsocket.trans h
  | context =>
    obtain ⟨ctx₀, hctx₀, hn⟩ := h
    obtain rfl := Option.some_injective _ (hctx.symm.trans hctx₀)
    exact ⟨ctx', hctx', hid.trans hn⟩
  | session =>
    obtain ⟨ctx₀, hctx₀, hn⟩ := h
    obtain rfl := Option.some_injective _ (hctx.symm.trans hctx₀)
    exact ⟨ctx', hctx', hsession n rfl hn⟩

theorem held_cons_of_quiet (hacquired : acquired c = none) (hreleased : released c = none) :
    Held x (c :: log) ↔ Held x log := by
  simp [Held, hacquired, hreleased]

/-- One more call. -/
theorem Owns.of_call (h : Owns s) (hlog : s'.log = c :: s.log) (hc : c ≠ .attempt)
    (howned : ∀ x, Held x (c :: s.log) → Owned s' x) : Owns s' := by
  constructor
  · rw [hlog]
    refine ⟨⟨fun kind m n hm hn => ?_, fun hattempt => absurd hattempt hc⟩, h.conserved⟩
    exact (howned _ hm).unique (howned _ hn)
  · rwa [hlog]

/-- A change of the context. -/
theorem Owns.of_log_eq (h : Owns s) (hlog : s'.log = s.log)
    (howned : ∀ x, Held x s.log → Owned s' x) : Owns s' :=
  ⟨hlog ▸ h.conserved, hlog ▸ howned⟩

/-- A use of the socket. -/
theorem Owns.onSocket (h : Owns s) {c : ℕ → Call} (hattempt : ∀ n, c n ≠ .attempt)
    (hacquired : ∀ n, acquired (c n) = none) (hreleased : ∀ n, released (c n) = none) :
    Owns (s.onSocket c) := by
  unfold Network.onSocket
  split
  · rename_i n hn
    refine h.of_call rfl (hattempt n) fun x hx => ?_
    exact h.owned x ((held_cons_of_quiet (hacquired n) (hreleased n)).1 hx)
  · exact h

theorem Owns.ios (h : Owns s) (l : List Io) : Owns (ios l s) := by
  induction l generalizing s with
  | nil => exact h
  | cons io l ih =>
    apply ih
    cases io
    · exact h.onSocket nofun (fun _ => rfl) fun _ => rfl
    · exact h.onSocket nofun (fun _ => rfl) fun _ => rfl

theorem Owns.createSocket (h : Owns s) (hnone : ∀ n, ¬ Held (.socket, n) s.log) :
    Owns s.createSocket := by
  refine h.of_call (c := .socket s.next) rfl nofun fun x hx => ?_
  obtain hnew | ⟨hold, _⟩ := hx
  · obtain rfl := Option.some_injective _ hnew
    rfl
  · have howned := h.owned x hold
    obtain ⟨kind, n⟩ := x
    cases kind with
    | socket => exact absurd hold (hnone n)
    | context => exact howned
    | session => exact howned

theorem Owns.mallocContext (h : Owns s)
    (hnone : ∀ n, ¬ Held (.context, n) s.log ∧ ¬ Held (.session, n) s.log) :
    Owns s.mallocContext := by
  refine h.of_call (c := .malloc s.next) rfl nofun fun x hx => ?_
  obtain hnew | ⟨hold, _⟩ := hx
  · obtain rfl := Option.some_injective _ hnew
    exact ⟨_, rfl, rfl⟩
  · have howned := h.owned x hold
    obtain ⟨kind, n⟩ := x
    cases kind with
    | socket => exact howned
    | context => exact absurd hold (hnone n).1
    | session => exact absurd hold (hnone n).2

theorem Owns.openSession (h : Owns s) {ctx : TlsContext} (hctx : s.pTlsContext = some ctx)
    (hsession : ctx.p11Session = none) : Owns (s.openSession ctx) := by
  refine h.of_call (c := .openSession s.next) rfl nofun fun x hx => ?_
  obtain hnew | ⟨hold, _⟩ := hx
  · obtain rfl := Option.some_injective _ hnew
    exact ⟨_, rfl, rfl⟩
  · exact (h.owned x hold).of_context hctx rfl rfl rfl fun n _ hn =>
      nomatch hsession.symm.trans hn

/-- The session goes, and the context and the socket stay. -/
theorem Owns.prvFreeContext (h : Owns s) (closeNotify : List Io) :
    Owns (s.prvFreeContext closeNotify) := by
  unfold Network.prvFreeContext
  split
  · exact h
  · rename_i ctx hctx
    dsimp only
    have hios : Owns (if ctx.ssl = true then Network.ios closeNotify s else s) ∧
        (if ctx.ssl = true then Network.ios closeNotify s else s).pTlsContext = some ctx := by
      split_ifs
      · exact ⟨h.ios closeNotify, (pTlsContext_ios s closeNotify).trans hctx⟩
      · exact ⟨h, hctx⟩
    obtain ⟨h, hctx⟩ := hios
    generalize (if ctx.ssl = true then Network.ios closeNotify s else s) = s at h hctx
    -- what else is held stays
    have hkeep : ∀ x, Held x s.log → (∀ n, x = (.session, n) → ctx.p11Session ≠ some n) →
        Owned { s with pTlsContext := some { ctx with ssl := false, p11Session := none } } x := by
      intro x hx hsession
      exact (h.owned x hx).of_context hctx rfl rfl rfl fun n hx hn => absurd hn (hsession n hx)
    cases hsession : ctx.p11Session with
    | none => exact h.of_log_eq rfl fun x hx => hkeep x hx fun n _ => by simp [hsession]
    | some k =>
      refine h.of_call (c := .closeSession k) rfl nofun fun x hx => ?_
      obtain hnew | ⟨hold, hreleased⟩ := hx
      · exact nomatch hnew
      · refine hkeep x hold ?_
        rintro n rfl hn
        obtain rfl := Option.some_injective _ (hsession.symm.trans hn)
        exact hreleased rfl

theorem Owns.tlsInit (h : Owns s) {ctx : TlsContext} (hctx : s.pTlsContext = some ctx)
    (hsession : ctx.p11Session = none) (r : ConnectResults) : Owns (s.tlsInit ctx r).1 := by
  have hopen := h.openSession hctx hsession
  unfold Network.tlsInit
  split_ifs
  · refine hopen.of_log_eq rfl fun x hx => ?_
    exact (hopen.owned x hx).of_context rfl rfl rfl rfl fun _ _ hn => hn
  · exact hopen.prvFreeContext []
  · exact h.prvFreeContext []

theorem Owns.tlsConnect (h : Owns s) (r : ConnectResults) : Owns (s.tlsConnect r).1 := by
  unfold Network.tlsConnect
  dsimp only
  split_ifs
  · exact h.ios _
  · exact (h.ios _).prvFreeContext _

theorem Owns.tlsTransfer (h : Owns s) (ctx : TlsContext) (r : TransferResults) :
    Owns (s.tlsTransfer ctx r) := by
  unfold Network.tlsTransfer
  dsimp only
  split_ifs
  · exact (h.ios _).prvFreeContext _
  · exact h.ios _
  · exact h.prvFreeContext []

theorem Owns.transfer (h : Owns s) (io : Io) (valid : Bool) (r : TransferResults) :
    Owns (s.transfer io valid r) := by
  unfold Network.transfer
  split_ifs
  · exact h
  · split
    · exact h.tlsTransfer _ r
    · exact h.ios [io]

theorem Owns.cleanup (h : Owns s) (closeNotify : List Io) : Owns (s.cleanup closeNotify) := by
  have hfree := h.prvFreeContext closeNotify
  unfold Network.cleanup
  split
  · exact h
  · rename_i ctx hctx
    have hafter : (s.prvFreeContext closeNotify).pTlsContext =
        some { ctx with ssl := false, p11Session := none } := by
      unfold Network.prvFreeContext
      rw [hctx]
    refine hfree.of_call (c := .free ctx.id) rfl nofun fun x hx => ?_
    obtain hnew | ⟨hold, hreleased⟩ := hx
    · exact nomatch hnew
    · have howned := hfree.owned x hold
      obtain ⟨kind, n⟩ := x
      cases kind with
      | socket => exact howned
      | context =>
        obtain ⟨ctx', hctx', rfl⟩ := howned
        obtain rfl := Option.some_injective _ (hafter.symm.trans hctx')
        exact absurd rfl hreleased
      | session =>
        obtain ⟨ctx', hctx', hn⟩ := howned
        obtain rfl := Option.some_injective _ (hafter.symm.trans hctx')
        exact nomatch hn

end Owns

/-! ## The calls of a pass -/

section Calls

variable {s s' : Network} {n : ℕ}

/-- The use of the socket does not release it, nor make one. -/
theorem held_socket_iff (h : SameSocket s s') :
    Held (.socket, n) s'.log ↔ Held (.socket, n) s.log := by
  refine h.log.induct (I := fun log => Held (.socket, n) log ↔ Held (.socket, n) s.log) ?_ Iff.rfl
  intro c past hc hpast
  rw [← hpast]
  cases c with
  | attempt => exact nomatch hc
  | socket m => exact nomatch hc
  | close m closed =>
    cases closed with
    | false => simp [Held, acquired, released]
    | true => exact nomatch hc
  | _ => simp [Held, acquired, released]

/-- **A connection** when nothing is held. -/
theorem owns_transportConnect (h : Owns s) (hnone : ∀ x, ¬ Held x s.log) (r : ConnectResults) :
    Owns (s.transportConnect true true r).1 := by
  have hnew := h.createSocket fun n => hnone _
  have hnone' (kind) (hkind : kind ≠ Resource.socket) (n : ℕ) :
      ¬ Held (kind, n) s.createSocket.log := by
    rintro (hacquired | ⟨hold, _⟩)
    · exact hkind (congrArg Prod.fst (Option.some_injective _ hacquired)).symm
    · exact hnone _ hold
  have hmalloc : Owns s.createSocket.mallocContext :=
    hnew.mallocContext fun n => ⟨hnone' .context nofun n, hnone' .session nofun n⟩
  unfold Network.transportConnect
  dsimp only
  rw [if_neg (by decide)]
  split_ifs with _ _ _ htls
  · exact h.of_log_eq rfl fun x hx => absurd hx (hnone x)
  · exact hnew
  · exact hnew
  · exact absurd htls (by decide)
  · refine hnew.of_log_eq rfl fun x hx => ?_
    obtain ⟨kind, n⟩ := x
    cases kind with
    | socket => exact hnew.owned _ hx
    | context => exact absurd hx (hnone' .context nofun n)
    | session => exact absurd hx (hnone' .session nofun n)
  · have hinit := hmalloc.tlsInit rfl rfl r
    split
    · rename_i s₁ heq
      rwa [heq] at hinit
    · rename_i s₁ heq
      rw [heq] at hinit
      have hconnect := hinit.tlsConnect r
      split
      · rename_i s₂ heq'
        rwa [heq'] at hconnect
      · rename_i s₂ heq'
        rwa [heq'] at hconnect

theorem tlsInit_snd_iff (s : Network) (ctx : TlsContext) (r : ConnectResults) :
    (s.tlsInit ctx r).2 = true ↔ r.getFunctionList = true ∧ r.initializePkcs11Session = true ∧
      r.sslSetup = true := by
  unfold Network.tlsInit
  split_ifs <;> simp_all

theorem tlsConnect_snd (s : Network) (r : ConnectResults) :
    (s.tlsConnect r).2 = r.handshake := by
  unfold Network.tlsConnect
  dsimp only
  split_ifs with hhandshake
  · exact hhandshake.symm
  · exact (Bool.eq_false_iff.2 hhandshake).symm

/-- When it succeeds. -/
theorem transportConnect_success_iff (s : Network) (r : ConnectResults) :
    (s.transportConnect true true r).2 = .success ↔ Connects r := by
  have hinit := tlsInit_snd_iff s.createSocket.mallocContext ⟨s.createSocket.next, false, none⟩ r
  unfold Network.transportConnect Connects
  dsimp only
  rw [if_neg (by decide)]
  split_ifs with _ _ _ htls
  · simp_all
  · simp_all
  · simp_all
  · exact absurd htls (by decide)
  · simp_all
  · split
    · rename_i s₁ heq
      rw [heq] at hinit
      simp_all
    · rename_i s₁ heq
      rw [heq] at hinit
      have hconnect := tlsConnect_snd s₁ r
      split
      · rename_i s₂ heq'
        rw [heq'] at hconnect
        simp_all
      · rename_i s₂ heq'
        rw [heq'] at hconnect
        simp_all

theorem owns_transfers (h : Owns s) (l : List Transfer) : Owns (transfers l s) := by
  induction l generalizing s with
  | nil => exact h
  | cons t l ih => exact ih (h.transfer t.io t.valid t.results)

theorem sameSocket_transfers (l : List Transfer) (s : Network) : SameSocket s (transfers l s) := by
  induction l generalizing s with
  | nil => exact .refl s
  | cons t l ih => exact (sameSocket_transfer s t.io t.valid t.results).trans (ih _)

/-- The close of the socket that the context has. -/
theorem Owns.close (h : Owns s) (hsocket : s.socket = .socket n) :
    Owns (s.onSocket fun n => .close n true) ∧
      ∀ m, ¬ Held (.socket, m) (s.onSocket fun n => .close n true).log := by
  have hcall : (s.onSocket fun n => .close n true) = s.call (.close n true) := by
    unfold Network.onSocket
    rw [hsocket]
  rw [hcall]
  constructor
  · refine h.of_call rfl nofun fun x hx => ?_
    obtain hnew | ⟨hold, _⟩ := hx
    · exact nomatch hnew
    · exact h.owned x hold
  · rintro m (hnew | ⟨hold, hreleased⟩)
    · exact nomatch hnew
    · obtain rfl : n = m := SocketHandle.socket.inj (hsocket.symm.trans (h.owned _ hold))
      exact hreleased rfl

/-- **A disconnection** releases everything. -/
theorem prvSocketDisconnect_spec (h : Owns s) (hsocket : s.socket = .socket n)
    (r : DisconnectResults) :
    Owns (prvSocketDisconnect r s) ∧ ∀ x, ¬ Held x (prvSocketDisconnect r s).log := by
  have hnull : s.socket ≠ .null := by
    rw [hsocket]
    exact nofun
  have hshutdown : SameSocket s (s.onSocket .shutdown) :=
    sameSocket_onSocket s fun n => decide_eq_true rfl
  have hrecv := sameSocket_ios (s.onSocket .shutdown)
    (List.replicate (min (r.received + 1) 3) .recv)
  have howns := (h.onSocket (c := .shutdown) nofun (fun _ => rfl) fun _ => rfl).ios
    (List.replicate (min (r.received + 1) 3) .recv)
  unfold prvSocketDisconnect Network.transportDisconnect
  dsimp only
  rw [if_neg hnull]
  obtain ⟨hclosed, hnosocket⟩ := howns.close ((hshutdown.trans hrecv).socket.trans hsocket)
  refine ⟨hclosed.cleanup r.closeNotify, ?_⟩
  rintro ⟨kind, m⟩ hheld
  have howned := (hclosed.cleanup r.closeNotify).owned _ hheld
  cases kind with
  | socket => exact hnosocket m ((held_socket_iff (sameSocket_cleanup _ _)).1 hheld)
  | context =>
    obtain ⟨ctx, hctx, _⟩ := howned
    exact nomatch (pTlsContext_cleanup _ _).symm.trans hctx
  | session =>
    obtain ⟨ctx, hctx, _⟩ := howned
    exact nomatch (pTlsContext_cleanup _ _).symm.trans hctx

end Calls

/-! ## The runs of the loop -/

/-- Nothing is held between two passes. -/
structure Clean (s : LoopState) : Prop where
  running : s.running = true
  owns : Owns s.network
  none_held : ∀ x, ¬ Held x s.network.log

section Runs

variable {s : LoopState}

theorem clean_enterLoop : Clean enterLoop := ⟨rfl, ⟨trivial, nofun⟩, fun _ h => h⟩

/-- A pass after the end of the loop. -/
theorem iteration_of_stopped (h : s.running = false) (r : IterationResults) :
    iteration s r = s := if_pos h

/-- The start of an attempt when nothing is held. -/
theorem owns_attempt (h : Clean s) : Owns (s.network.call .attempt) ∧
    ∀ x, ¬ Held x (s.network.call .attempt).log := by
  have hnone : ∀ x, ¬ Held x (s.network.call .attempt).log := by
    rintro x (hnew | ⟨hold, _⟩)
    · exact nomatch hnew
    · exact h.none_held x hold
  refine ⟨⟨⟨⟨?_, fun _ => h.none_held⟩, h.owns.conserved⟩, ?_⟩, hnone⟩
  · intro kind m n hm _
    exact absurd hm (hnone _)
  · exact fun x hx => absurd hx (hnone x)

/-- A pass whose connection fails. -/
theorem iteration_of_not_connects (hrunning : s.running = true) {r : IterationResults}
    (hfails : ¬ Connects r.connect) : iteration s r =
      ⟨((s.network.call .attempt).transportConnect true true r.connect).1, true⟩ := by
  have hstatus := mt (transportConnect_success_iff (s.network.call .attempt) r.connect).1 hfails
  unfold iteration prvSocketConnect
  rw [hrunning, if_neg (by decide)]
  dsimp only
  rw [decide_eq_false hstatus]

/-- A pass whose connection succeeds. -/
theorem iteration_of_connects (hrunning : s.running = true) {r : IterationResults}
    (hconnects : Connects r.connect) {network : Network}
    (hnetwork : network = transfers r.mqttConnectTransfers
      ((s.network.call .attempt).transportConnect true true r.connect).1) :
    iteration s r =
      if r.mqttConnect = false then ⟨prvSocketDisconnect r.disconnect network, true⟩
      else if r.commandLoop = true then ⟨transfers r.commandLoopTransfers network, false⟩
      else ⟨prvSocketDisconnect r.disconnect (transfers r.commandLoopTransfers network), true⟩ := by
  have hstatus := (transportConnect_success_iff (s.network.call .attempt) r.connect).2 hconnects
  rw [hnetwork]
  unfold iteration prvSocketConnect
  rw [hrunning, if_neg (by decide)]
  dsimp only
  rw [decide_eq_true hstatus]

/-- **A pass** of the loop when nothing is held. -/
theorem iteration_clean (h : Clean s) (r : IterationResults) :
    Conserved (iteration s r).network.log ∧
      (LeavesSocket r.connect → (iteration s r).running = true ∧
        ∃ n, Held (.socket, n) (iteration s r).network.log) ∧
      (Ends r → (iteration s r).running = false) ∧
      (¬ LeavesSocket r.connect → ¬ Ends r → Clean (iteration s r)) := by
  obtain ⟨hattempt, hnone⟩ := owns_attempt h
  have howns := owns_transportConnect hattempt hnone r.connect
  by_cases hconnects : Connects r.connect
  · have hsame := (sameSocket_transportConnect (s.network.call .attempt) hconnects.1 true).trans
      (sameSocket_transfers r.mqttConnectTransfers _)
    have hmqtt := owns_transfers howns r.mqttConnectTransfers
    have hsame' := hsame.trans (sameSocket_transfers r.commandLoopTransfers _)
    have hloop := owns_transfers hmqtt r.commandLoopTransfers
    rw [iteration_of_connects h.running hconnects rfl]
    split_ifs with hconnect hcommand
    · obtain ⟨hdone, hreleased⟩ := prvSocketDisconnect_spec hmqtt hsame.socket r.disconnect
      refine ⟨hdone.conserved, fun hleaves => absurd hconnects hleaves.2, fun hends => ?_,
        fun _ _ => ⟨rfl, hdone, hreleased⟩⟩
      exact absurd (hends.2.1.symm.trans hconnect) (by decide)
    · refine ⟨hloop.conserved, fun hleaves => absurd hconnects hleaves.2, fun _ => rfl,
        fun _ hends => ?_⟩
      exact absurd ⟨hconnects, Bool.eq_true_of_not_eq_false hconnect, hcommand⟩ hends
    · obtain ⟨hdone, hreleased⟩ := prvSocketDisconnect_spec hloop hsame'.socket r.disconnect
      refine ⟨hdone.conserved, fun hleaves => absurd hconnects hleaves.2, fun hends => ?_,
        fun _ _ => ⟨rfl, hdone, hreleased⟩⟩
      exact absurd hends.2.2 hcommand
  · rw [iteration_of_not_connects h.running hconnects]
    refine ⟨howns.conserved, fun hleaves => ⟨rfl, ?_⟩, fun hends => absurd hends.1 hconnects,
      fun hleaves _ => ⟨rfl, howns, ?_⟩⟩
    · -- the socket is still there
      refine ⟨(s.network.call .attempt).next, ?_⟩
      exact (held_socket_iff (sameSocket_transportConnect _ hleaves.1 true)).2 (Or.inl rfl)
    · have hsocket : r.connect.socket = false :=
        Bool.eq_false_iff.2 fun hsocket => hleaves ⟨hsocket, hconnects⟩
      have hlog : ((s.network.call .attempt).transportConnect true true r.connect).1.log =
          (s.network.call .attempt).log := by
        unfold Network.transportConnect
        rw [if_neg (by decide), if_pos hsocket]
      rw [hlog]
      exact hnone

theorem suffix_transportConnect (s : Network) (r : ConnectResults) :
    s.log <:+ (s.transportConnect true true r).1.log := by
  cases hsocket : r.socket with
  | true =>
    exact (List.suffix_cons _ _).trans (sameSocket_transportConnect s hsocket true).suffix
  | false =>
    unfold Network.transportConnect
    rw [if_neg (by decide), if_pos hsocket]

theorem suffix_prvSocketDisconnect (r : DisconnectResults) (s : Network) :
    s.log <:+ (prvSocketDisconnect r s).log := by
  have hshutdown : SameSocket s (s.onSocket .shutdown) :=
    sameSocket_onSocket s fun n => decide_eq_true rfl
  have hrecv := hshutdown.trans (sameSocket_ios _
    (List.replicate (min (r.received + 1) 3) .recv))
  have hclose (s : Network) : s.log <:+ (s.onSocket fun n => .close n true).log := by
    unfold Network.onSocket
    split
    · exact List.suffix_cons _ _
    · exact List.suffix_refl _
  unfold prvSocketDisconnect Network.transportDisconnect
  dsimp only
  split_ifs
  · exact List.suffix_refl _
  · exact (hrecv.suffix.trans (hclose _)).trans (sameSocket_cleanup _ _).suffix

/-- A pass starts with the attempt. -/
theorem attempt_suffix_iteration (hrunning : s.running = true) (r : IterationResults) :
    (.attempt :: s.network.log) <:+ (iteration s r).network.log := by
  have hconnect := suffix_transportConnect (s.network.call .attempt) r.connect
  by_cases hconnects : Connects r.connect
  · have hmqtt := hconnect.trans (sameSocket_transfers r.mqttConnectTransfers _).suffix
    have hloop := hmqtt.trans (sameSocket_transfers r.commandLoopTransfers _).suffix
    rw [iteration_of_connects hrunning hconnects rfl]
    split_ifs
    · exact hmqtt.trans (suffix_prvSocketDisconnect r.disconnect _)
    · exact hloop
    · exact hloop.trans (suffix_prvSocketDisconnect r.disconnect _)
  · rw [iteration_of_not_connects hrunning hconnects]
    exact hconnect

/-- A pass of the loop when a socket is held. -/
theorem not_conserved_iteration (hrunning : s.running = true) {n : ℕ}
    (hheld : Held (.socket, n) s.network.log) (r : IterationResults) :
    ¬ Conserved (iteration s r).network.log := by
  intro hconserved
  have hattempt : Conserved (.attempt :: s.network.log) :=
    always_of_suffix (attempt_suffix_iteration hrunning r) hconserved
  exact hattempt.1.2 rfl _ hheld

/-- What has been violated stays so. -/
theorem conserved_of_run (rs : List IterationResults)
    (h : Conserved (run iteration s rs).network.log) : Conserved s.network.log := by
  induction rs generalizing s with
  | nil => exact h
  | cons r rest ih =>
    have hnext := ih h
    cases hrunning : s.running with
    | false => rwa [iteration_of_stopped hrunning] at hnext
    | true =>
      exact always_of_suffix ((List.suffix_cons _ _).trans (attempt_suffix_iteration hrunning r))
        hnext

/-- Passes after the end of the loop. -/
theorem run_of_stopped (h : s.running = false) (rs : List IterationResults) :
    run iteration s rs = s := by
  induction rs with
  | nil => rfl
  | cons r rest ih => rw [run_cons, iteration_of_stopped h, ih]

/-- **A run** of the loop from a state where nothing is held. -/
theorem conserved_run_iff (h : Clean s) (rs : List IterationResults) :
    Conserved (run iteration s rs).network.log ↔ Releases rs := by
  induction rs generalizing s with
  | nil => exact iff_of_true h.owns.conserved trivial
  | cons r rest ih =>
    obtain ⟨hconserved, hleaves, hends, hclean⟩ := iteration_clean h r
    rw [run_cons]
    by_cases hstops : Ends r
    · rw [run_of_stopped (hends hstops)]
      exact iff_of_true hconserved (Or.inr (Or.inl hstops))
    · by_cases hleft : LeavesSocket r.connect
      · obtain ⟨hrunning, n, hheld⟩ := hleaves hleft
        cases rest with
        | nil => exact iff_of_true hconserved (Or.inl rfl)
        | cons r' rest =>
          refine iff_of_false (fun hrun => ?_) ?_
          · exact not_conserved_iteration hrunning hheld r' (conserved_of_run rest hrun)
          · rintro (hnil | hstops' | ⟨hnot, _⟩)
            · exact nomatch hnil
            · exact hstops hstops'
            · exact hnot hleft
      · rw [ih (hclean hleft hstops)]
        constructor
        · exact fun hrest => Or.inr (Or.inr ⟨hleft, hrest⟩)
        · rintro (rfl | hstops' | ⟨_, hrest⟩)
          · trivial
          · exact absurd hstops' hstops
          · exact hrest

/-- **The resources** of the connection are conserved in a run of the loop iff no
    attempt that fails after the creation of its socket is followed by
    another. -/
theorem conserved_iff (rs : List IterationResults) :
    Conserved (run iteration enterLoop rs).network.log ↔ Releases rs :=
  conserved_run_iff clean_enterLoop rs

/-- The name is not resolved in the first attempt, and its socket is still open
    when the second one starts. -/
theorem not_conserved_dnsFailure :
    ¬ Conserved (run iteration enterLoop
      [{ connect := { resolved := false } }, { connect := { resolved := false } }]).network.log :=
  fun h => h.2.1.2 rfl (.socket, 0) (Or.inl rfl)

end Runs

end Corstone.MqttAgent
