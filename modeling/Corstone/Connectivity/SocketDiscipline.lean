import Corstone.Connectivity.Transport
import Corstone.Lib.Run

/-!
# The use of the socket

The calls of the transport on one network context, on either network stack.
`Transport_Disconnect` closes the socket before it cleans up the TLS context,
where mbedTLS may write its close notify alert, and it leaves the closed socket
in the context.

* `Inv`: a closed socket has no TLS context.
* `disciplined_step_iff`: what one call may do to a closed socket.
* `disciplined_iff`: in a sequence of calls no closed socket is used or closed
  again iff every call meets the condition.
* `not_disciplined_closeNotify`: connect and disconnect.
-/

namespace Corstone.Connectivity

open Corstone.Lib Network

/-- A call does not send or receive on a socket that has been closed, and does
    not close it again. -/
def Call.Allowed (past : List Call) : Call → Prop
  | .send n | .recv n | .close n _ => .close n true ∉ past
  | _ => True

instance Call.decidableAllowed (past : List Call) : (c : Call) → Decidable (c.Allowed past)
  | .send n | .recv n | .close n _ => inferInstanceAs (Decidable (Call.close n true ∉ past))
  | .attempt | .socket _ | .shutdown _ | .malloc _ | .free _ | .openSession _
  | .closeSession _ => isTrue trivial

/-- All calls are so. -/
def Disciplined (log : List Call) : Prop := Always Call.Allowed log

/-- A call of the transport. -/
inductive TransportCall
  | connect (valid tls : Bool) (r : ConnectResults)
  | recv (valid : Bool) (r : TransferResults)
  | send (valid : Bool) (r : TransferResults)
  | disconnect (r : DisconnectResults)

/-- One call on the network context. -/
def transportStep (stack : Stack) (s : Network) : TransportCall → Network
  | .connect valid tls r => (s.transportConnect valid tls r).1
  | .recv valid r => s.transportRecv valid r
  | .send valid r => s.transportSend valid r
  | .disconnect r => (s.transportDisconnect stack r).1

/-- The socket of the context has been closed. -/
def Network.Closed (s : Network) : Prop := ∃ n, s.socket = .socket n ∧ .close n true ∈ s.log

/-- The disconnection closes a socket. -/
def Network.Closes (s : Network) (stack : Stack) (r : DisconnectResults) : Prop :=
  (∃ n, s.socket = .socket n) ∧ (stack = .iotSocket → r.closed = true)

/-- A TLS session is established. -/
def Network.Established (s : Network) : Prop := ∃ ctx, s.pTlsContext = some ctx ∧ ctx.ssl = true

/-- Without a TLS context, and for a disconnection, the socket has not been
    closed before, and where the disconnection closes it, no TLS session is
    established whose close notify uses it. -/
def UseCondition (stack : Stack) (s : Network) : TransportCall → Prop
  | .connect .. => True
  | .recv valid _ | .send valid _ => valid = true → s.pTlsContext = none → ¬ s.Closed
  | .disconnect r =>
    ¬ s.Closed ∧ (s.Closes stack r → s.Established → r.closeNotify = [])

section Frame

variable {s s' : Network}

theorem SameSocket.closed_iff (h : SameSocket s s') : s'.Closed ↔ s.Closed := by
  unfold Network.Closed
  rw [h.socket]
  exact exists_congr fun n => and_congr_right fun _ => h.closed n

/-- The use of a socket that is open. -/
theorem SameSocket.disciplined_log_iff (h : SameSocket s s') (hopen : ¬ s.Closed) :
    Disciplined s'.log ↔ Disciplined s.log := by
  constructor
  · exact always_of_suffix h.suffix
  · intro hall
    have hall' : Disciplined s'.log ∧ ∀ n, s.socket = .socket n → .close n true ∉ s'.log := by
      refine h.log.induct (I := fun log => Disciplined log ∧
        ∀ n, s.socket = .socket n → .close n true ∉ log) ?_
        ⟨hall, fun n hn hmem => hopen ⟨n, hn, hmem⟩⟩
      rintro c past hc ⟨hpast, hnot⟩
      refine ⟨⟨?_, hpast⟩, fun n hn hmem => ?_⟩
      · cases c with
        | send n => exact hnot n (of_decide_eq_true hc)
        | recv n => exact hnot n (of_decide_eq_true hc)
        | close n closed =>
          cases closed with
          | false => exact hnot n (of_decide_eq_true hc)
          | true => exact absurd hc Bool.false_ne_true
        | _ => trivial
      · obtain rfl | hmem := List.mem_cons.1 hmem
        · exact absurd hc Bool.false_ne_true
        · exact hnot n hn hmem
    exact hall'.1

end Frame

/-- A closed socket has no TLS context, and a new socket is none of the closed
    ones. -/
structure Inv (s : Network) : Prop where
  noContext : s.Closed → s.pTlsContext = none
  closed_lt : ∀ n, .close n true ∈ s.log → n < s.next
  socket_lt : ∀ n, s.socket = .socket n → n < s.next

theorem inv_new : Inv Network.new := by
  refine ⟨?_, ?_, ?_⟩
  · rintro ⟨n, hn, _⟩
    exact nomatch hn
  · exact nofun
  · exact nofun

section Steps

variable {s s' : Network}

theorem Inv.of_sameSocket (h : Inv s) (hs : SameSocket s s')
    (hctx : s.Closed → s.pTlsContext = none → s'.pTlsContext = none) : Inv s' where
  noContext hclosed :=
    have hclosed := hs.closed_iff.1 hclosed
    hctx hclosed (h.noContext hclosed)
  closed_lt n hn := (h.closed_lt n ((hs.closed n).1 hn)).trans_le hs.next
  socket_lt n hn := (h.socket_lt n (hs.socket ▸ hn)).trans_le hs.next

theorem not_closed_createSocket (h : Inv s) : ¬ s.createSocket.Closed := by
  rintro ⟨n, hn, hmem⟩
  obtain rfl : s.next = n := SocketHandle.socket.inj hn
  obtain hcall | hmem := List.mem_cons.1 hmem
  · exact nomatch hcall
  · exact lt_irrefl _ (h.closed_lt _ hmem)

theorem Inv.createSocket (h : Inv s) : Inv s.createSocket where
  noContext hclosed := absurd hclosed (not_closed_createSocket h)
  closed_lt n hn := by
    obtain hcall | hmem := List.mem_cons.1 hn
    · exact nomatch hcall
    · exact (h.closed_lt n hmem).trans (Nat.lt_succ_self _)
  socket_lt n hn := by
    obtain rfl : s.next = n := SocketHandle.socket.inj hn
    exact Nat.lt_succ_self _

/-- **A connection**, also one that fails, uses only the new socket. -/
theorem transportConnect_spec (h : Inv s) (valid tls : Bool) (r : ConnectResults) :
    Inv (s.transportConnect valid tls r).1 ∧
      (Disciplined (s.transportConnect valid tls r).1.log ↔ Disciplined s.log) := by
  have hnew := not_closed_createSocket h
  cases valid with
  | false => exact ⟨h, Iff.rfl⟩
  | true =>
    cases hsocket : r.socket with
    | false =>
      have heq : (s.transportConnect true tls r).1 = { s with socket := .invalid } := by
        unfold Network.transportConnect
        rw [if_neg (by decide), if_pos hsocket]
      rw [heq]
      refine ⟨⟨?_, h.closed_lt, nofun⟩, Iff.rfl⟩
      rintro ⟨n, hn, _⟩
      exact nomatch hn
    | true =>
      have hsame := sameSocket_transportConnect s hsocket tls
      refine ⟨h.createSocket.of_sameSocket hsame fun hclosed => absurd hclosed hnew, ?_⟩
      exact (hsame.disciplined_log_iff hnew).trans (and_iff_right trivial)

theorem closed_iff_of_socket {n : ℕ} (hn : s.socket = .socket n) :
    s.Closed ↔ .close n true ∈ s.log := by
  constructor
  · rintro ⟨m, hm, hmem⟩
    obtain rfl : n = m := SocketHandle.socket.inj (hn.symm.trans hm)
    exact hmem
  · exact fun hmem => ⟨n, hn, hmem⟩

/-- One call that the discipline is about. -/
theorem disciplined_onSocket_iff {c : ℕ → Call}
    (hc : ∀ past n, (c n).Allowed past ↔ .close n true ∉ past) (s : Network) :
    Disciplined (s.onSocket c).log ↔ Disciplined s.log ∧ ¬ s.Closed := by
  cases hs : s.socket with
  | socket n =>
    have hlog : (s.onSocket c).log = c n :: s.log := by
      unfold Network.onSocket
      rw [hs]
      rfl
    rw [hlog, closed_iff_of_socket hs, ← hc]
    exact and_comm
  | null =>
    have hopen : ¬ s.Closed := fun ⟨n, hn, _⟩ => nomatch hs.symm.trans hn
    unfold Network.onSocket
    rw [hs]
    exact (and_iff_left hopen).symm
  | invalid =>
    have hopen : ¬ s.Closed := fun ⟨n, hn, _⟩ => nomatch hs.symm.trans hn
    unfold Network.onSocket
    rw [hs]
    exact (and_iff_left hopen).symm

theorem allowed_io_iff (io : Io) (past : List Call) (n : ℕ) :
    (io.call n).Allowed past ↔ .close n true ∉ past := by
  cases io <;> exact Iff.rfl

/-- **A transfer.** -/
theorem transfer_spec (h : Inv s) (io : Io) (valid : Bool) (r : TransferResults) :
    Inv (s.transfer io valid r) ∧ (Disciplined (s.transfer io valid r).log ↔
      Disciplined s.log ∧ (valid = true → s.pTlsContext = none → ¬ s.Closed)) := by
  unfold Network.transfer
  split_ifs with hvalid
  · refine ⟨h, (and_iff_left fun htrue => ?_).symm⟩
    exact absurd (htrue.symm.trans hvalid) (by decide)
  · have hvalid : valid = true := Bool.eq_true_of_not_eq_false hvalid
    cases hctx : s.pTlsContext with
    | some ctx =>
      have hopen : ¬ s.Closed := fun hclosed => by
        rw [h.noContext hclosed] at hctx
        exact nomatch hctx
      have hsame := sameSocket_tlsTransfer s ctx r
      refine ⟨h.of_sameSocket hsame fun hclosed => absurd hclosed hopen, ?_⟩
      exact (hsame.disciplined_log_iff hopen).trans (and_iff_left fun _ => nofun).symm
    | none =>
      have hsame : SameSocket s (s.onSocket io.call) := sameSocket_ios s [io]
      refine ⟨h.of_sameSocket hsame fun _ _ => by rw [pTlsContext_onSocket, hctx], ?_⟩
      dsimp only
      rw [disciplined_onSocket_iff (allowed_io_iff io)]
      exact and_congr_right fun _ => ⟨fun hopen _ _ => hopen, fun hopen => hopen hvalid rfl⟩

/-- A close and the clean-up keep the invariant. -/
theorem Inv.close_cleanup (h : Inv s) (closed : Bool) (closeNotify : List Io) :
    Inv ((s.onSocket fun n => .close n closed).cleanup closeNotify) := by
  have hsame := sameSocket_cleanup (s.onSocket fun n => .close n closed) closeNotify
  have hclose : (s.onSocket fun n => .close n closed).socket = s.socket ∧
      (s.onSocket fun n => .close n closed).next = s.next ∧
      ∀ n, .close n true ∈ (s.onSocket fun n => .close n closed).log →
        s.socket = .socket n ∨ .close n true ∈ s.log := by
    unfold Network.onSocket
    split
    · rename_i m hm
      refine ⟨rfl, rfl, fun n hn => ?_⟩
      obtain hcall | hmem := List.mem_cons.1 hn
      · obtain ⟨rfl, _⟩ := Call.close.inj hcall
        exact Or.inl hm
      · exact Or.inr hmem
    · exact ⟨rfl, rfl, fun n hn => Or.inr hn⟩
  obtain ⟨hsocket, hnext, hmem⟩ := hclose
  refine ⟨fun _ => pTlsContext_cleanup _ _, fun n hn => ?_, fun n hn => ?_⟩
  · refine lt_of_lt_of_le ?_ (hnext ▸ hsame.next)
    obtain hhandle | hold := hmem n ((hsame.closed n).1 hn)
    · exact h.socket_lt n hhandle
    · exact h.closed_lt n hold
  · refine lt_of_lt_of_le (h.socket_lt n ?_) (hnext ▸ hsame.next)
    rw [← hsocket, ← hsame.socket]
    exact hn

/-- The session and the context are no uses of the socket. -/
theorem disciplined_closeSession_iff (session : Option ℕ) (s : Network) :
    Disciplined (s.closeSession session).log ↔ Disciplined s.log := by
  cases session with
  | none => exact Iff.rfl
  | some n => exact and_iff_right trivial

theorem disciplined_ios_closed_iff (hclosed : s.Closed) (l : List Io) :
    Disciplined (ios l s).log ↔ Disciplined s.log ∧ l = [] := by
  cases l with
  | nil => exact (and_iff_left rfl).symm
  | cons io l =>
    refine iff_of_false (fun hall => ?_) (fun hall => nomatch hall.2)
    have hfirst : Disciplined (s.onSocket io.call).log :=
      always_of_suffix (sameSocket_ios (s.onSocket io.call) l).suffix hall
    exact ((disciplined_onSocket_iff (allowed_io_iff io) s).1 hfirst).2 hclosed

theorem established_iff {ctx : TlsContext} (hctx : s.pTlsContext = some ctx) :
    s.Established ↔ ctx.ssl = true := by
  constructor
  · rintro ⟨ctx', hctx', hssl⟩
    obtain rfl : ctx = ctx' := Option.some_injective _ (hctx.symm.trans hctx')
    exact hssl
  · exact fun hssl => ⟨ctx, hctx, hssl⟩

/-- The clean-up after the close. -/
theorem disciplined_cleanup_closed_iff (hclosed : s.Closed) (closeNotify : List Io) :
    Disciplined (s.cleanup closeNotify).log ↔
      Disciplined s.log ∧ (s.Established → closeNotify = []) := by
  unfold Network.cleanup
  cases hctx : s.pTlsContext with
  | none =>
    refine (and_iff_left ?_).symm
    rintro ⟨ctx, hsome, _⟩
    exact nomatch hctx.symm.trans hsome
  | some ctx =>
    have hfree : Disciplined (.free ctx.id :: (s.prvFreeContext closeNotify).log) ↔
        Disciplined (s.prvFreeContext closeNotify).log := and_iff_right trivial
    refine hfree.trans ?_
    rw [established_iff hctx]
    unfold Network.prvFreeContext
    rw [hctx]
    dsimp only
    rw [disciplined_closeSession_iff]
    split_ifs with hssl
    · rw [disciplined_ios_closed_iff hclosed]
      exact and_congr_right fun _ => ⟨fun hnil _ => hnil, fun hnil => hnil hssl⟩
    · exact (and_iff_left fun htrue => absurd htrue hssl).symm

/-- **A close** of a socket that is open, and the clean-up. -/
theorem disciplined_close_cleanup_iff (hopen : ¬ s.Closed) (closed : Bool)
    (closeNotify : List Io) :
    Disciplined ((s.onSocket fun n => .close n closed).cleanup closeNotify).log ↔
      Disciplined s.log ∧ ((∃ n, s.socket = .socket n) → closed = true → s.Established →
        closeNotify = []) := by
  have hclose : Disciplined (s.onSocket fun n => .close n closed).log ↔ Disciplined s.log :=
    (disciplined_onSocket_iff (fun _ _ => Iff.rfl) s).trans (and_iff_left hopen)
  by_cases hcloses : (∃ n, s.socket = .socket n) ∧ closed = true
  · obtain ⟨⟨n, hn⟩, rfl⟩ := hcloses
    have hcall : s.onSocket (fun n => .close n true) = s.call (.close n true) := by
      unfold Network.onSocket
      rw [hn]
    have hclosed : (s.onSocket fun n => .close n true).Closed := by
      rw [hcall]
      exact ⟨n, hn, List.mem_cons_self⟩
    have hestablished : (s.onSocket fun n => .close n true).Established ↔ s.Established := by
      rw [hcall]
      exact Iff.rfl
    rw [disciplined_cleanup_closed_iff hclosed, hclose, hestablished]
    exact and_congr_right fun _ => ⟨fun hnil _ _ => hnil, fun hnil => hnil ⟨n, hn⟩ rfl⟩
  · -- nothing is closed
    have hsame : SameSocket s (s.onSocket fun n => .close n closed) := by
      cases closed with
      | false => exact sameSocket_closeAgain s 1
      | true =>
        have hno : ∀ n, s.socket ≠ .socket n := fun n hn => hcloses ⟨⟨n, hn⟩, rfl⟩
        unfold Network.onSocket
        split
        · rename_i n hn
          exact absurd hn (hno n)
        · exact .refl s
    rw [(hsame.trans (sameSocket_cleanup _ closeNotify)).disciplined_log_iff hopen]
    exact (and_iff_left fun hsocket htrue => absurd ⟨hsocket, htrue⟩ hcloses).symm

/-- The end of a disconnection. A socket that was closed before is closed
    again. -/
theorem close_cleanup_spec {s₁ : Network} (h : Inv s) (hsame : SameSocket s s₁)
    (hctx : s₁.pTlsContext = s.pTlsContext) (closed : Bool) (closeNotify : List Io) :
    Inv ((s₁.onSocket fun n => .close n closed).cleanup closeNotify) ∧
      (Disciplined ((s₁.onSocket fun n => .close n closed).cleanup closeNotify).log ↔
        Disciplined s.log ∧ ¬ s.Closed ∧
          ((∃ n, s.socket = .socket n) ∧ closed = true → s.Established →
            closeNotify = [])) := by
  have hinv : Inv s₁ := h.of_sameSocket hsame fun _ hnone => hctx.trans hnone
  refine ⟨hinv.close_cleanup closed closeNotify, ?_⟩
  by_cases hclosed : s.Closed
  · refine iff_of_false (fun hall => ?_) fun hall => hall.2.1 hclosed
    have hclose := always_of_suffix (sameSocket_cleanup _ closeNotify).suffix hall
    exact ((disciplined_onSocket_iff (fun _ _ => Iff.rfl) s₁).1 hclose).2
      (hsame.closed_iff.2 hclosed)
  · rw [disciplined_close_cleanup_iff (mt hsame.closed_iff.1 hclosed),
      hsame.disciplined_log_iff hclosed, hsame.socket]
    unfold Network.Established
    rw [hctx, and_imp]
    exact and_congr_right fun _ => (and_iff_right hclosed).symm

/-- **A disconnection.** -/
theorem transportDisconnect_spec (h : Inv s) (stack : Stack) (r : DisconnectResults) :
    Inv (s.transportDisconnect stack r).1 ∧
      (Disciplined (s.transportDisconnect stack r).1.log ↔ Disciplined s.log ∧
        ¬ s.Closed ∧ (s.Closes stack r → s.Established → r.closeNotify = [])) := by
  cases stack with
  | freeRtosPlusTcp =>
    unfold Network.transportDisconnect
    dsimp only
    split_ifs with hnull
    · refine ⟨h, (and_iff_left ⟨?_, ?_⟩).symm⟩
      · rintro ⟨n, hn, _⟩
        exact nomatch hnull.symm.trans hn
      · rintro ⟨⟨n, hn⟩, _⟩
        exact nomatch hnull.symm.trans hn
    · have hshutdown : SameSocket s (s.onSocket .shutdown) :=
        sameSocket_onSocket s fun n => decide_eq_true rfl
      have hrecv := sameSocket_ios (s.onSocket .shutdown)
        (List.replicate (min (r.received + 1) 3) .recv)
      obtain ⟨hinv, hiff⟩ :=
        close_cleanup_spec h (hshutdown.trans hrecv) (by simp) true r.closeNotify
      refine ⟨hinv, hiff.trans ?_⟩
      unfold Network.Closes
      simp
  | iotSocket =>
    obtain ⟨hinv, hiff⟩ := close_cleanup_spec h (sameSocket_closeAgain s r.again) (by simp)
      r.closed r.closeNotify
    refine ⟨hinv, hiff.trans ?_⟩
    unfold Network.Closes
    simp

/-- **One call** of the transport. -/
theorem disciplined_step_iff (stack : Stack) (h : Inv s) (a : TransportCall) :
    Inv (transportStep stack s a) ∧ (Disciplined (transportStep stack s a).log ↔
      Disciplined s.log ∧ UseCondition stack s a) := by
  cases a with
  | connect valid tls r =>
    obtain ⟨hinv, hiff⟩ := transportConnect_spec h valid tls r
    exact ⟨hinv, hiff.trans (and_iff_left trivial).symm⟩
  | recv valid r => exact transfer_spec h .recv valid r
  | send valid r => exact transfer_spec h .send valid r
  | disconnect r => exact transportDisconnect_spec h stack r

end Steps

/-- **The use of the socket.** In a sequence of calls no socket is used or closed
    after it has been closed iff each call meets the condition in the state that
    it finds. -/
theorem disciplined_iff (stack : Stack) (calls : List TransportCall) :
    Disciplined (run (transportStep stack) .new calls).log ↔
      Along (transportStep stack) (UseCondition stack) .new calls := by
  rw [run_iff_along_of_inv (I := Inv) (J := fun s => Disciplined s.log)
    (fun s a h => (disciplined_step_iff stack h a).1)
    (fun s a h => (disciplined_step_iff stack h a).2) inv_new]
  exact and_iff_right trivial

/-- A connection with TLS and its disconnection. -/
def connectDisconnect : List TransportCall :=
  [.connect true true { handshakeIo := [.send, .recv] }, .disconnect { closeNotify := [.send] }]

/-- On both network stacks the alert is written on the closed socket. -/
theorem not_disciplined_closeNotify :
    ¬ Disciplined (run (transportStep .freeRtosPlusTcp) .new connectDisconnect).log ∧
      ¬ Disciplined (run (transportStep .iotSocket) .new connectDisconnect).log := by
  unfold Disciplined
  decide

end Corstone.Connectivity
