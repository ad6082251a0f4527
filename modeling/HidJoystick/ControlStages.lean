import HidJoystick.ControlReply

/-!
# The stages of a request

What each function of the control endpoint does, said of the control pipe the firmware
shows as (`Firmware.Tracks`): the end of a request and the SETUP packet that breaks it off,
the stage that follows an accepted request, and the packets of a reply.
-/

namespace HidJoystick

open Packets

/-- The firmware shows as the control pipe `c`, and the invariant holds. -/
structure Firmware.Tracks (s : Firmware) (c : ControlPipe Byte Byte) : Prop where
  pipe : s.controlPipe = c
  inv : s.ControlInv

/-! ## The end of a request -/

section Ends

variable {s : Firmware}

/-- A SETUP packet finds nothing waiting. -/
theorem controlPipe_of_setup (hstate : s.uddEpControlState = .setup)
    (hcallback : s.uddGCtrlreq.callback = none) :
    s.controlPipe =
      ⟨.setup, [], (s.ctrl ctrlIn).stall, uddEndpointIsEnable (s.ctrl ctrlIn), none, s.usbAddr⟩ := by
  have hdeferred : s.deferred = none := deferred_of_callback hcallback
  simp only [Firmware.controlPipe, controlQueue_setup hstate, hstate, hdeferred, ite_self]
  rfl

/-- `udd_ctrl_endofrequest` -/
theorem uddCtrlEndofrequest_eq (s : Firmware) :
    uddCtrlEndofrequest s = { s with usbAddr := s.deferred.getD s.usbAddr } := by
  rw [uddCtrlEndofrequest, Firmware.deferred]
  rcases s.uddGCtrlreq.callback with _ | _ | _
  · rfl
  · rfl
  · rfl

/-- `udd_ctrl_init` -/
theorem tracks_ctrlInit (s : Firmware) : (uddCtrlInit s).Tracks
    ⟨.setup, [], (s.ctrl ctrlIn).stall, uddEndpointIsEnable (s.ctrl ctrlIn), none, s.usbAddr⟩ := by
  have hstate : (uddCtrlInit s).uddEpControlState = .setup := rfl
  have hcallback : (uddCtrlInit s).uddGCtrlreq.callback = none := rfl
  have hep : (uddCtrlInit s).ctrl ctrlIn =
      uddEndpointAckTransferComplete { uddEndpointSetNACK0 (s.ctrl ctrlIn) with cnt := 0 } := by
    simp [uddCtrlInit, Firmware.ctrl, Firmware.modifyCtrl, Firmware.modifyCtrlreq]
  constructor
  · rw [controlPipe_of_setup hstate hcallback, hep]
    rfl
  · refine .of_quiet (controlQueue_setup hstate) (fun _ => ?_) fun _ => hcallback
    rw [hep]
    rfl

/-- The request has ended. -/
theorem tracks_finish (s : Firmware) (hstate : s.uddEpControlState ≠ .stallReq) :
    (uddCtrlInit (uddCtrlEndofrequest s)).Tracks s.controlPipe.finish := by
  have hdeferred : s.controlPipe.deferred = s.deferred := if_neg hstate
  have hfinish : s.controlPipe.finish = ⟨.setup, [], (s.ctrl ctrlIn).stall,
      uddEndpointIsEnable (s.ctrl ctrlIn), none, s.deferred.getD s.usbAddr⟩ := by
    rw [ControlPipe.finish, hdeferred]
    rfl
  rw [hfinish, uddCtrlEndofrequest_eq]
  exact tracks_ctrlInit { s with usbAddr := s.deferred.getD s.usbAddr }

/-- A SETUP packet breaks off the request. -/
theorem tracks_restart (h : s.ControlInv) : (uddCtrlRestart s).Tracks s.controlPipe.interrupt := by
  have hstage : s.controlPipe.stage = s.uddEpControlState.stage := rfl
  rw [uddCtrlRestart]
  by_cases hsetup : s.uddEpControlState = .setup
  · have hkept : s.controlPipe.interrupt = s.controlPipe := by
      have hcallback := h.idle hsetup
      rw [ControlPipe.interrupt_eq, ControlPipe.settled, controlPipe_of_setup hsetup hcallback]
      rfl
    rw [if_neg (not_not.mpr hsetup), hkept]
    exact ⟨rfl, h⟩
  · rw [if_pos hsetup]
    by_cases hwait : s.uddEpControlState = .handshakeWaitInZlp ∨
        s.uddEpControlState = .handshakeWaitOutZlp
    · -- the handshake may have gone unnoticed
      have hstatus : s.controlPipe.stage = .statusIn ∨ s.controlPipe.stage = .statusOut := by
        rw [hstage]
        exact hwait.imp (fun h => by rw [h]; rfl) fun h => by rw [h]; rfl
      have hnot : s.uddEpControlState ≠ .stallReq := by
        intro hstall
        rw [hstall] at hwait
        rcases hwait with h | h <;> cases h
      rw [if_pos hwait, ControlPipe.interrupt, if_pos hstatus]
      exact tracks_finish s hnot
    · have hstatus : ¬ (s.controlPipe.stage = .statusIn ∨ s.controlPipe.stage = .statusOut) := by
        rw [hstage]
        rcases hstate : s.uddEpControlState with _ | _ | _ | _ | _ | _ <;>
          simp_all [UddCtrlEpState.stage]
      rw [if_neg hwait, ControlPipe.interrupt, if_neg hstatus]
      exact tracks_ctrlInit s

end Ends

/-! ## SETUP packets -/

section Setup

variable {s : Firmware}

theorem sameStage_hostSetup (packet : Vector Byte 8) (s : Firmware) :
    SameStage s (hostSetup packet s) := by
  have hep : (hostSetup packet s).ctrl ctrlIn = s.ctrl ctrlIn := by
    rw [hostSetup, Firmware.ctrl_modifyCtrl_of_ne (by decide)]
    rfl
  refine ⟨⟨rfl, rfl, rfl, rfl, by rw [hep], by rw [hep], fun p _ hbuffer => ?_⟩, rfl,
    by rw [hep], by rw [hep], rfl⟩
  rw [Firmware.bytesAt, Firmware.bytesAt]
  rcases p with ⟨base, offset⟩
  cases base with
  | uddCtrlBuffer => exact absurd rfl hbuffer
  | _ => rfl

theorem restart_state (s : Firmware) : (uddCtrlRestart s).uddEpControlState = .setup := by
  rw [uddCtrlRestart]
  split
  · rfl
  · next hsetup => exact not_not.mp hsetup

/-- A request is decoded with nothing waiting, and nothing deferred. -/
theorem tracks_atSetup (h : s.ControlInv) (packet : Vector Byte 8) :
    (s.atSetup packet).Tracks s.controlPipe.interrupt := by
  have hsame := sameStage_hostSetup packet s
  have hstall : ((hostSetup packet s).ctrl ctrlIn).stall = (s.ctrl ctrlIn).stall := by
    rw [hostSetup, Firmware.ctrl_modifyCtrl_of_ne (by decide)]
    rfl
  have hpipe : (hostSetup packet s).controlPipe = s.controlPipe := by
    rw [hsame.controlPipe h, hstall]
    rfl
  have hrestart := tracks_restart (hsame.controlInv h)
  have hstate := restart_state (hostSetup packet s)
  rw [hpipe] at hrestart
  rw [Firmware.atSetup]
  generalize uddCtrlRestart (hostSetup packet s) = t at hrestart hstate
  have hcallback := hrestart.inv.idle hstate
  constructor
  · rw [← hrestart.pipe, controlPipe_of_setup hstate hcallback,
      controlPipe_of_setup (s := uddCtrlFillRequest t) hstate hcallback]
    rfl
  · refine .of_quiet (controlQueue_setup hstate) (fun henabled => ?_) fun _ => hcallback
    exact hrestart.inv.nak henabled (controlQueue_setup hstate)

theorem atSetup_state (packet : Vector Byte 8) (s : Firmware) :
    (s.atSetup packet).uddEpControlState = .setup :=
  restart_state (hostSetup packet s)

/-- A request is refused. -/
theorem tracks_stallData {t u : Firmware} {c : ControlPipe Byte Byte} (ht : t.Tracks c)
    (hstate : t.uddEpControlState = .setup) (hcontrol : u.control = t.control) :
    (uddCtrlStallData u).Tracks (c.answer 8 .refuse) := by
  have hep : (uddCtrlStallData u).ctrl ctrlIn = uddEndpointEnableStall (u.ctrl ctrlIn) := by
    rw [uddCtrlStallData, Firmware.ctrl_modifyCtrl_of_ne (by decide), Firmware.ctrl_modifyCtrl]
    rfl
  have henabled : uddEndpointIsEnable (u.ctrl ctrlIn) = uddEndpointIsEnable (t.ctrl ctrlIn) :=
    congrArg ControlView.enabled hcontrol
  have hnak : (u.ctrl ctrlIn).busnack0 = (t.ctrl ctrlIn).busnack0 :=
    congrArg ControlView.nak hcontrol
  have haddr : u.usbAddr = t.usbAddr := congrArg ControlView.addr hcontrol
  have hidle := controlPipe_of_setup hstate (ht.inv.idle hstate)
  have hqueue : (uddCtrlStallData u).controlQueue = [] := rfl
  constructor
  · rw [← ht.pipe, hidle]
    refine ControlPipe.ext rfl rfl ?_ ?_ rfl haddr
    · change ((uddCtrlStallData u).ctrl ctrlIn).stall = true
      rw [hep]
      rfl
    · change uddEndpointIsEnable ((uddCtrlStallData u).ctrl ctrlIn) = _
      rw [hep]
      exact henabled
  · refine .of_quiet hqueue (fun h => ?_) UddCtrlEpState.noConfusion
    rw [hep] at h ⊢
    have htnak := ht.inv.nak (henabled.symm.trans h) (controlQueue_setup hstate)
    exact hnak.trans htnak

/-- The request has no data stage. -/
theorem tracks_sendZlpIn {t u : Firmware} {c : ControlPipe Byte Byte} (ht : t.Tracks c)
    (hcontrol : u.control = t.control) :
    (uddCtrlSendZlpIn u).Tracks
      { c with stage := .statusIn, queue := [[]], deferred := u.deferred } := by
  have hep : (uddCtrlSendZlpIn u).ctrl ctrlIn =
      uddEndpointClearNACK0 { u.ctrl ctrlIn with cnt := 0 } := by
    rw [uddCtrlSendZlpIn, Firmware.ctrl_modifyCtrl]
    rfl
  have hstate : (uddCtrlSendZlpIn u).uddEpControlState = .handshakeWaitInZlp := rfl
  constructor
  · rw [← ht.pipe]
    refine ControlPipe.ext rfl (controlQueue_handshake hstate) ?_ ?_ ?_ ?_
    · change ((uddCtrlSendZlpIn u).ctrl ctrlIn).stall = _
      rw [hep]
      exact congrArg ControlView.halted hcontrol
    · change uddEndpointIsEnable ((uddCtrlSendZlpIn u).ctrl ctrlIn) = _
      rw [hep]
      exact congrArg ControlView.enabled hcontrol
    · rfl
    · exact congrArg ControlView.addr hcontrol
  · exact .of_handshake hstate (by rw [hep]; rfl) (by rw [hep]; rfl)

/-- The host sends the data of an OUT request. -/
theorem tracks_receive {t u : Firmware} {c : ControlPipe Byte Byte} (ht : t.Tracks c)
    (hcontrol : u.control = t.control) (hstate : t.uddEpControlState = .setup)
    (hout : uddSetupIsIn u.uddGCtrlreq.req = false) (hlen : u.uddGCtrlreq.req.wLength ≠ 0)
    (hdeferred : u.deferred = none) :
    (uddCtrlAccept u).Tracks (c.answer 8 .receive) := by
  have hidle := controlPipe_of_setup hstate (ht.inv.idle hstate)
  rw [uddCtrlAccept, hout, if_neg Bool.false_ne_true, if_neg hlen]
  generalize hv : Firmware.modifyCtrl _ _ _ = v
  have hep : v.ctrl ctrlIn = u.ctrl ctrlIn := by
    rw [← hv, Firmware.ctrl_modifyCtrl_of_ne (by decide)]
    rfl
  have hdata : v.uddEpControlState = .dataOut := by rw [← hv]; rfl
  have haddr : v.usbAddr = u.usbAddr := by rw [← hv]; rfl
  have hdefer : v.deferred = u.deferred := by rw [← hv]; rfl
  have hqueue : v.controlQueue = [] := by rw [Firmware.controlQueue, hdata]
  have henabled : uddEndpointIsEnable (u.ctrl ctrlIn) = uddEndpointIsEnable (t.ctrl ctrlIn) :=
    congrArg ControlView.enabled hcontrol
  have hnak : (u.ctrl ctrlIn).busnack0 = (t.ctrl ctrlIn).busnack0 :=
    congrArg ControlView.nak hcontrol
  constructor
  · rw [← ht.pipe, hidle]
    refine ControlPipe.ext ?_ hqueue ?_ ?_ ?_ ?_
    · change v.uddEpControlState.stage = .dataOut
      rw [hdata]
      rfl
    · change (v.ctrl ctrlIn).stall = _
      rw [hep]
      exact congrArg ControlView.halted hcontrol
    · change uddEndpointIsEnable (v.ctrl ctrlIn) = _
      rw [hep]
      exact henabled
    · change (if v.uddEpControlState = .stallReq then none else v.deferred) = none
      rw [hdata, hdefer, hdeferred]
      rfl
    · exact haddr.trans (congrArg ControlView.addr hcontrol)
  · refine .of_quiet hqueue (fun h => ?_) fun h => by rw [hdata] at h; cases h
    rw [hep] at h ⊢
    have htnak := ht.inv.nak (henabled.symm.trans h) (controlQueue_setup hstate)
    exact hnak.trans htnak

end Setup

/-! ## Replies -/

section Replies

/-- The next packet of a reply -/
theorem tracks_inNext {t : Firmware} (h : t.Unsent)
    (hstate : t.uddEpControlState = .dataIn ∨ t.uddEpControlState = .handshakeWaitOutZlp) :
    (uddCtrlInNext (t.uddGCtrlreq.payloadSize - t.uddCtrlPayloadNbTrans) t).Tracks
      { t.controlPipe with
        queue := packets 8 (t.uddGCtrlreq.req.wLength.toNat - t.uddCtrlPayloadNbTrans.toNat)
          (t.reply.drop t.uddCtrlPayloadNbTrans.toNat) } := by
  generalize hu : uddCtrlInNext (t.uddGCtrlreq.payloadSize - t.uddCtrlPayloadNbTrans) t = u
  obtain ⟨hsending, hsent⟩ := sending_inNext h hu
  have hctrlreq : u.uddGCtrlreq = t.uddGCtrlreq := by rw [← hu]; rfl
  have hstate' : u.uddEpControlState = t.uddEpControlState := by rw [← hu]; rfl
  have haddr : u.usbAddr = t.usbAddr := by rw [← hu]; rfl
  have hep : uddEndpointIsEnable (u.ctrl ctrlIn) = uddEndpointIsEnable (t.ctrl ctrlIn) ∧
      (u.ctrl ctrlIn).stall = (t.ctrl ctrlIn).stall ∧ (u.ctrl ctrlIn).busnack0 = false := by
    rw [← hu]
    simp [uddCtrlInNext, Firmware.ctrl, Firmware.modifyCtrl, uddEndpointClearNACK0,
      uddEndpointIsEnable]
  have hreply : u.reply = t.reply := by
    rw [Firmware.reply, hctrlreq, ← hu, bytesAt_inNext, Firmware.reply]
  have hissending : u.IsSending := by
    rw [Firmware.IsSending, hstate', hep.2.2]
    exact hstate.imp id fun h => ⟨h, rfl⟩
  constructor
  · refine ControlPipe.ext (congrArg UddCtrlEpState.stage hstate') ?_ hep.2.1 hep.1 ?_ haddr
    · change u.controlQueue = _
      rw [hissending.controlQueue, Firmware.replyPackets, hsent, hctrlreq, hreply]
    · change (if u.uddEpControlState = .stallReq then none else u.deferred) =
        if t.uddEpControlState = .stallReq then none else t.deferred
      rw [hstate', Firmware.deferred, hctrlreq, Firmware.deferred]
  · exact .of_sending hissending hep.2.2 hsending

/-- **An IN request is answered with its object**, as much of it as was asked for. -/
theorem tracks_reply {t u : Firmware} {c : ControlPipe Byte Byte} (ht : t.Tracks c)
    (hcontrol : u.control = t.control) (hstate : t.uddEpControlState = .setup)
    {object : List Byte} (hu : u.HandsOut object) (hin : uddSetupIsIn u.uddGCtrlreq.req = true)
    (hlen : u.uddGCtrlreq.req.wLength ≠ 0) :
    (uddCtrlAccept u).Tracks (c.answer 8 (.reply u.uddGCtrlreq.req.wLength.toNat
      (object.take u.uddGCtrlreq.req.wLength.toNat))) := by
  have hidle := controlPipe_of_setup hstate (ht.inv.idle hstate)
  have hroom : 0 < u.uddGCtrlreq.req.wLength.toNat :=
    Nat.pos_of_ne_zero fun h => hlen (BitVec.eq_of_toNat_eq h)
  have hobject : 0 < object.length := List.length_pos_iff.mpr hu.nonempty
  have hprefix := hu.bytes.length_le
  have hsize := hu.size
  generalize hv : ({ u with
    uddCtrlPrevPayloadNbTrans := 0
    uddCtrlPayloadNbTrans := 0
    uddEpControlState := .dataIn } : Firmware) = v
  have hbytes (p : Ptr) : v.bytesAt p = u.bytesAt p := by
    rw [← hv, Firmware.bytesAt, Firmware.bytesAt]
    cases p.base <;> rfl
  have hctrlreq : v.uddGCtrlreq = u.uddGCtrlreq := by rw [← hv]
  have hdata : v.uddEpControlState = .dataIn := by rw [← hv]
  have hnb : v.uddCtrlPayloadNbTrans = 0 := by rw [← hv]
  have hcontrol' : v.control = t.control := by rw [← hcontrol, ← hv]; rfl
  have hunsent : v.Unsent := by
    constructor
    · rw [hctrlreq]
      omega
    · rw [hbytes, hctrlreq]
      omega
    · rw [hnb]
      exact Nat.zero_le _
    · rw [hnb, hctrlreq]
      exact hroom
    · intro _
      rw [← hv]
    · rw [hctrlreq]
      exact hu.steady
  have hreply : v.reply = object.take u.uddGCtrlreq.req.wLength.toNat := by
    obtain ⟨rest, hrest⟩ := hu.bytes
    have hle : u.uddGCtrlreq.payloadSize.toNat ≤ object.length := by omega
    rw [Firmware.reply, hbytes, hctrlreq, ← hrest, List.take_append_of_le_length hle, hsize,
      Nat.min_comm, ← List.take_take, List.take_length]
  have hmore : v.uddGCtrlreq.payloadSize - v.uddCtrlPayloadNbTrans ≠ 0 := by
    rw [hnb, hctrlreq]
    bv_omega
  have haccept : uddCtrlAccept u =
      uddCtrlInNext (v.uddGCtrlreq.payloadSize - v.uddCtrlPayloadNbTrans) v := by
    have hwait : v.uddEpControlState ≠ .handshakeWaitInZlp := by
      rw [hdata]
      decide
    rw [uddCtrlAccept, if_pos hin, hv, uddCtrlInSent, if_neg hwait]
    exact if_neg hmore
  have hsent := tracks_inNext hunsent (Or.inl hdata)
  rw [haccept]
  refine ⟨hsent.pipe.trans ?_, hsent.inv⟩
  rw [← ht.pipe, hidle, hreply, hnb, hctrlreq]
  refine ControlPipe.ext (congrArg UddCtrlEpState.stage hdata) rfl
    (congrArg ControlView.halted hcontrol') (congrArg ControlView.enabled hcontrol') ?_
    (congrArg ControlView.addr hcontrol')
  have hnone : v.deferred = none := deferred_of_callback (by rw [hctrlreq]; exact hu.callback)
  change (if v.uddEpControlState = .stallReq then none else v.deferred) = none
  rw [hnone, ite_self]

/-- What is waiting is the handshake or a packet of the reply. -/
theorem controlQueue_cases {s : Firmware} (hne : s.controlQueue ≠ []) :
    s.uddEpControlState = .handshakeWaitInZlp ∨ s.IsSending := by
  rw [Firmware.controlQueue] at hne
  rw [Firmware.IsSending]
  rcases hstate : s.uddEpControlState with _ | _ | _ | _ | _ | _
  · exact absurd (by rw [hstate]) hne
  · exact absurd (by rw [hstate]) hne
  · exact Or.inr (Or.inl rfl)
  · exact Or.inl rfl
  · rcases hnak : (s.ctrl ctrlIn).busnack0 with _ | _
    · exact Or.inr (Or.inr ⟨rfl, rfl⟩)
    · exact absurd (by rw [hstate, hnak]; rfl) hne
  · exact absurd (by rw [hstate]) hne

/-- **The packet on the bank is the one the control pipe offers**, and the endpoint is armed
exactly when there is one. -/
theorem offered_controlPipe {s : Firmware} (h : s.ControlInv) :
    s.controlPipe.offered = if (s.ctrl ctrlIn).armed then some s.ctrlPacketIn else none := by
  have hoffered : s.controlPipe.offered =
      if uddEndpointIsEnable (s.ctrl ctrlIn) && !(s.ctrl ctrlIn).stall then s.controlQueue.head?
      else none := rfl
  rw [hoffered, UsbEp.armed]
  rcases hopen : uddEndpointIsEnable (s.ctrl ctrlIn) && !(s.ctrl ctrlIn).stall with _ | _
  · rfl
  · have henabled : uddEndpointIsEnable (s.ctrl ctrlIn) = true :=
      (Bool.and_eq_true_iff.mp hopen).1
    by_cases hqueue : s.controlQueue = []
    · rw [h.nak henabled hqueue, hqueue]
      rfl
    · rw [h.released hqueue, if_pos rfl]
      change s.controlQueue.head? = some s.ctrlPacketIn
      rcases controlQueue_cases hqueue with hstate | hsending
      · rw [controlQueue_handshake hstate, Firmware.ctrlPacketIn, h.handshake hstate]
        rfl
      · rw [hsending.controlQueue, (h.sending hsending).replyPackets]
        rfl

section InSent

variable {s : Firmware}

/-- The sum of the data stage is that of this reply, as long as it decides anything. -/
theorem Firmware.Sending.sum_iff (h : s.Sending) :
    s.uddGCtrlreq.req.wLength = s.uddCtrlPrevPayloadNbTrans + s.uddCtrlPayloadNbTrans ∨
        s.uddCtrlInSentBShortpacket = true ↔
      s.uddGCtrlreq.req.wLength = s.uddCtrlPayloadNbTrans ∨
        s.uddCtrlInSentBShortpacket = true := by
  by_cases hshort : s.uddCtrlInSentBShortpacket = true
  · exact iff_of_true (Or.inr hshort) (Or.inr hshort)
  · -- after a full packet
    have hprev : s.uddCtrlPrevPayloadNbTrans = 0 := by
      refine h.prev fun hzero => hshort ?_
      rw [h.short, hzero]
      rfl
    have hsum : s.uddCtrlPrevPayloadNbTrans + s.uddCtrlPayloadNbTrans = s.uddCtrlPayloadNbTrans := by
      rw [hprev]
      exact BitVec.zero_add _
    rw [hsum]

/-- The counts when the last packet of a reply has gone -/
theorem inSent_last (h : s.Sending) (hwait : s.uddEpControlState ≠ .handshakeWaitInZlp)
    (hlast : s.LastPacket) :
    ∃ prev, uddCtrlInSent s = uddCtrlSendZlpOut { s with uddCtrlPrevPayloadNbTrans := prev } := by
  have hnone : s.uddGCtrlreq.payloadSize - s.uddCtrlPayloadNbTrans = 0 := by
    rw [hlast.1]
    exact BitVec.sub_self _
  refine ⟨s.uddCtrlPrevPayloadNbTrans + s.uddCtrlPayloadNbTrans, ?_⟩
  rw [uddCtrlInSent, if_neg hwait]
  exact (if_pos hnone).trans (if_pos (h.sum_iff.mpr hlast.2))

/-- and when there is more to send -/
theorem inSent_more (h : s.Sending) (hwait : s.uddEpControlState ≠ .handshakeWaitInZlp)
    (hmore : ¬ s.LastPacket) :
    ∃ prev, { s with uddCtrlPrevPayloadNbTrans := prev }.Unsent ∧
      uddCtrlInSent s = uddCtrlInNext (s.uddGCtrlreq.payloadSize - s.uddCtrlPayloadNbTrans)
        { s with uddCtrlPrevPayloadNbTrans := prev } := by
  have hsize := h.size
  have hnbTrans := h.nbTrans
  have hcnt := h.cnt
  have hle := h.sent_le
  have hsent : s.uddCtrlPayloadNbTrans.toNat ≤ s.uddGCtrlreq.payloadSize.toNat := by omega
  have hroom : s.uddCtrlPayloadNbTrans.toNat < s.uddGCtrlreq.req.wLength.toNat := by
    by_contra hfull
    have heq : s.uddCtrlPayloadNbTrans.toNat = s.uddGCtrlreq.payloadSize.toNat ∧
        s.uddGCtrlreq.req.wLength.toNat = s.uddCtrlPayloadNbTrans.toNat := by omega
    exact hmore ⟨BitVec.eq_of_toNat_eq heq.1, Or.inl (BitVec.eq_of_toNat_eq heq.2)⟩
  rw [uddCtrlInSent, if_neg hwait]
  by_cases hall : s.uddCtrlPayloadNbTrans = s.uddGCtrlreq.payloadSize
  · -- everything was sent in full packets, and the host does not know it
    have hnone : s.uddGCtrlreq.payloadSize - s.uddCtrlPayloadNbTrans = 0 := by
      rw [hall]
      exact BitVec.sub_self _
    have hsum := mt h.sum_iff.mp fun hend => hmore ⟨hall, hend⟩
    exact ⟨s.uddCtrlPrevPayloadNbTrans + s.uddCtrlPayloadNbTrans,
      ⟨hsize, h.bound, hsent, hroom, fun hne => absurd hall hne, h.steady⟩,
      (if_pos hnone).trans (if_neg hsum)⟩
  · have hnb : s.uddCtrlPayloadNbTrans.toNat ≠ s.uddGCtrlreq.payloadSize.toNat :=
      fun heq => hall (BitVec.eq_of_toNat_eq heq)
    have hrest : s.uddGCtrlreq.payloadSize - s.uddCtrlPayloadNbTrans ≠ 0 := by bv_omega
    have hprev : s.uddCtrlPrevPayloadNbTrans = 0 := by
      refine h.prev fun hzero => ?_
      have hnil : (s.ctrl ctrlIn).cnt.toNat = 0 := by
        rw [hzero]
        rfl
      omega
    exact ⟨s.uddCtrlPrevPayloadNbTrans, ⟨hsize, h.bound, hsent, hroom, fun _ => hprev, h.steady⟩,
      if_neg hrest⟩

end InSent

/-- The host's handshake may come: after the last packet, or early. -/
theorem tracks_sendZlpOut {t : Firmware}
    (hstate : t.uddEpControlState = .dataIn ∨ t.uddEpControlState = .handshakeWaitOutZlp)
    (hsending : (t.ctrl ctrlIn).busnack0 = false → t.Sending) :
    (uddCtrlSendZlpOut t).Tracks { t.controlPipe with
      stage := .statusOut
      queue := if (t.ctrl ctrlIn).busnack0 then [] else t.replyPackets } := by
  generalize hu : uddCtrlSendZlpOut t = u
  have hep : u.ctrl ctrlIn = t.ctrl ctrlIn := by
    rw [← hu, uddCtrlSendZlpOut, Firmware.ctrl_modifyCtrl_of_ne (by decide)]
    rfl
  have hout : u.uddEpControlState = .handshakeWaitOutZlp := by rw [← hu]; rfl
  have hsame : SameReply t u := by
    refine ⟨by rw [← hu]; rfl, by rw [← hu]; rfl, by rw [← hu]; rfl, by rw [← hu]; rfl, by rw [hep],
      by rw [hep], fun p _ _ => ?_⟩
    rw [← hu, Firmware.bytesAt, Firmware.bytesAt]
    cases p.base <;> rfl
  have hqueue : u.controlQueue = if (u.ctrl ctrlIn).busnack0 then [] else u.replyPackets := by
    rw [Firmware.controlQueue, hout]
  constructor
  · refine ControlPipe.ext ?_ ?_ ?_ ?_ ?_ ?_
    · change u.uddEpControlState.stage = _
      rw [hout]
      rfl
    · change u.controlQueue = _
      rw [hqueue, hep]
      rcases hnak : (t.ctrl ctrlIn).busnack0 with _ | _
      · exact hsame.replyPackets (hsending hnak)
      · rfl
    · change (u.ctrl ctrlIn).stall = _
      rw [hep]
      rfl
    · change uddEndpointIsEnable (u.ctrl ctrlIn) = _
      rw [hep]
      rfl
    · change (if u.uddEpControlState = .stallReq then none else u.deferred) =
        if t.uddEpControlState = .stallReq then none else t.deferred
      rw [hout, SameStage.deferred hsame]
      rcases hstate with h | h
      · rw [h]
        rfl
      · rw [h]
    · rw [← hu]
      rfl
  · rcases hnak : (t.ctrl ctrlIn).busnack0 with _ | _
    · rw [← hep] at hnak
      exact .of_sending (Or.inr ⟨hout, hnak⟩) hnak (hsame.sending (hsending (hep ▸ hnak)))
    · rw [← hep] at hnak
      rw [hnak] at hqueue
      exact .of_quiet hqueue (fun _ => hnak) fun h => by rw [hout] at h; cases h

/-- **A packet of a reply has gone**: the next one is put on the bank, or the host's
handshake is waited for. -/
theorem tracks_inSent {t : Firmware} (h : t.Sending)
    (hstate : t.uddEpControlState = .dataIn ∨ t.uddEpControlState = .handshakeWaitOutZlp)
    (hnak : (t.ctrl ctrlIn).busnack0 = true) :
    (uddCtrlInSent t).Tracks (t.controlPipe.sentPacket t.replyPackets.tail) := by
  have hwait : t.uddEpControlState ≠ .handshakeWaitInZlp := by
    intro heq
    rw [heq] at hstate
    rcases hstate with h | h <;> cases h
  have hstage : t.controlPipe.stage = .dataIn ∨ t.controlPipe.stage = .statusOut :=
    hstate.imp (congrArg UddCtrlEpState.stage) (congrArg UddCtrlEpState.stage)
  by_cases hlast : t.LastPacket
  · have hrest : t.replyPackets.tail = [] := by
      rw [h.replyPackets, if_pos hlast]
      rfl
    obtain ⟨prev, hrun⟩ := inSent_last h hwait hlast
    have hsent := tracks_sendZlpOut (t := { t with uddCtrlPrevPayloadNbTrans := prev }) hstate
      fun h => absurd (hnak.symm.trans h) Bool.noConfusion
    rw [hrest, ControlPipe.sentPacket_nil hstage, hrun]
    refine ⟨hsent.pipe.trans ?_, hsent.inv⟩
    exact ControlPipe.ext rfl (if_pos hnak) rfl rfl rfl rfl
  · obtain ⟨prev, hunsent, hrun⟩ := inSent_more h hwait hlast
    have htail : t.replyPackets.tail =
        packets 8 (t.uddGCtrlreq.req.wLength.toNat - t.uddCtrlPayloadNbTrans.toNat)
          (t.reply.drop t.uddCtrlPayloadNbTrans.toNat) := by
      rw [h.replyPackets, if_neg hlast]
      rfl
    have hnext := tracks_inNext hunsent hstate
    rw [hrun, htail, ControlPipe.sentPacket_of_ne_nil hstage packets_ne_nil]
    exact ⟨hnext.pipe.trans rfl, hnext.inv⟩

end Replies

end HidJoystick
