import HidJoystick.ControlFrame
import HidJoystick.ControlPipe
import HidJoystick.Orders

/-!
# Replies on the control endpoint

The driver keeps a reply as a pointer, a size and a count of the bytes it has handed to
the controller, and tells the end of the data stage from a flag and two sums. What is
left to send is the `ControlPipe` of the firmware (`Firmware.controlPipe`): the packets
of the object that was asked for.

* `Firmware.Sending` — what the counts have to do with the reply.
* `Firmware.Sending.replyPackets` — the first packet waiting is the one the controller
  reads, and the flag and the sums tell the last.
* `sending_inNext` — putting the next packet on the bank keeps it that way.
* `SameReply`, `SameStage` — what else goes on in the firmware does not matter.
-/

namespace HidJoystick

open Packets

/-! ## The abstraction -/

/-- The stage of the control pipe -/
def UddCtrlEpState.stage : UddCtrlEpState → ControlStage
  | .setup => .setup
  | .dataOut => .dataOut
  | .dataIn => .dataIn
  | .handshakeWaitInZlp => .statusIn
  | .handshakeWaitOutZlp => .statusOut
  | .stallReq => .stalled

/-- The reply to the request being served -/
def Firmware.reply (s : Firmware) : List Byte :=
  (s.bytesAt s.uddGCtrlreq.payload).take s.uddGCtrlreq.payloadSize.toNat

/-- The bytes of the reply that were sent before the packet on the bank -/
def Firmware.replySent (s : Firmware) : ℕ :=
  s.uddCtrlPayloadNbTrans.toNat - (s.ctrl ctrlIn).cnt.toNat

/-- The packets of the reply, from the one on the bank on -/
def Firmware.replyPackets (s : Firmware) : List (List Byte) :=
  packets 8 (s.uddGCtrlreq.req.wLength.toNat - s.replySent) (s.reply.drop s.replySent)

/-- The packets waiting for the host -/
def Firmware.controlQueue (s : Firmware) : List (List Byte) :=
  match s.uddEpControlState with
  | .setup | .dataOut | .stallReq => []
  | .handshakeWaitInZlp => [[]]
  | .dataIn => s.replyPackets
  | .handshakeWaitOutZlp => if (s.ctrl ctrlIn).busnack0 then [] else s.replyPackets

/-- **The control pipe of the firmware** -/
def Firmware.controlPipe (s : Firmware) : ControlPipe Byte Byte where
  stage := s.uddEpControlState.stage
  queue := s.controlQueue
  halted := (s.ctrl ctrlIn).stall
  attached := uddEndpointIsEnable (s.ctrl ctrlIn)
  deferred := if s.uddEpControlState = .stallReq then none else s.deferred
  value := s.usbAddr

/-- The answer to the request being decoded -/
def Firmware.answer (s : Firmware) : ControlPipe.Answer Byte Byte :=
  let req := s.uddGCtrlreq.req
  if uddSetupIsIn req then
    match s.requested with
    | some object => .reply req.wLength.toNat (object.take req.wLength.toNat)
    | none => .refuse
  else if s.takes then
    if req.wLength = 0 then .accept s.defers else .receive
  else .refuse

/-- What an event is to the control pipe -/
def Firmware.controlEvent (s : Firmware) : Event → ControlPipe.Event Byte Byte
  | .sof _ | .collect | .transferComplete => .keep
  | .reset => .reset 0
  | .setup packet => .setup (s.atSetup packet).answer
  | .ctrlIn => .poll
  | .ctrlOut _ => .send
  | .underflow => .underflow
  | .overflow => .overflow
  | .unstall => .unhalt

/-- The bytes the controller reads for a packet from the control endpoint -/
def Firmware.ctrlPacketIn (s : Firmware) : List Byte :=
  (s.bytesAt (s.ctrl ctrlIn).dataptr).take (s.ctrl ctrlIn).cnt.toNat

/-! ## The invariant -/

/-- The bank holds a packet of the reply, and the counts agree with it. -/
structure Firmware.Sending (s : Firmware) : Prop where
  size : s.uddGCtrlreq.payloadSize.toNat ≤ s.uddGCtrlreq.req.wLength.toNat
  bound : s.uddGCtrlreq.payloadSize.toNat ≤ (s.bytesAt s.uddGCtrlreq.payload).length
  /-- the packet on the bank is counted already -/
  nbTrans : s.uddCtrlPayloadNbTrans.toNat = s.replySent + (s.ctrl ctrlIn).cnt.toNat
  cnt : (s.ctrl ctrlIn).cnt.toNat = min 8 (s.uddGCtrlreq.payloadSize.toNat - s.replySent)
  sent_le : s.replySent ≤ s.uddGCtrlreq.payloadSize.toNat
  /-- the host has room left -/
  sent_lt : s.replySent < s.uddGCtrlreq.req.wLength.toNat
  dataptr : (s.ctrl ctrlIn).dataptr = s.uddGCtrlreq.payload.add s.replySent
  short : s.uddCtrlInSentBShortpacket = decide ((s.ctrl ctrlIn).cnt.toNat < 8)
  /-- the sum of the data stage is touched when the payload is exhausted -/
  prev : (s.ctrl ctrlIn).cnt ≠ 0 → s.uddCtrlPrevPayloadNbTrans = 0
  steady : s.uddGCtrlreq.payload.base ≠ .udiHidGenericReportIn ∧
    s.uddGCtrlreq.payload.base ≠ .uddCtrlBuffer

/-- A packet of the reply is waiting: the host may have sent its handshake early. -/
def Firmware.IsSending (s : Firmware) : Prop :=
  s.uddEpControlState = .dataIn ∨
    s.uddEpControlState = .handshakeWaitOutZlp ∧ (s.ctrl ctrlIn).busnack0 = false

/-- The invariant of the control endpoint between handlers -/
structure Firmware.ControlInv (s : Firmware) : Prop where
  /-- with nothing to send the endpoint answers NAK, once it has been set up -/
  nak : uddEndpointIsEnable (s.ctrl ctrlIn) = true → s.controlQueue = [] →
    (s.ctrl ctrlIn).busnack0 = true
  /-- the bank is released while a packet is waiting -/
  released : s.controlQueue ≠ [] → (s.ctrl ctrlIn).busnack0 = false
  sending : s.IsSending → s.Sending
  idle : s.uddEpControlState = .setup → s.uddGCtrlreq.callback = none
  /-- the handshake is an empty packet -/
  handshake : s.uddEpControlState = .handshakeWaitInZlp → (s.ctrl ctrlIn).cnt = 0

section Invariant

variable {s : Firmware}

theorem Firmware.replyPackets_ne_nil (s : Firmware) : s.replyPackets ≠ [] := packets_ne_nil

theorem Firmware.IsSending.controlQueue (h : s.IsSending) : s.controlQueue = s.replyPackets := by
  rcases h with hstate | ⟨hstate, hnak⟩
  · rw [Firmware.controlQueue, hstate]
  · rw [Firmware.controlQueue, hstate, hnak]
    rfl

theorem controlQueue_handshake (h : s.uddEpControlState = .handshakeWaitInZlp) :
    s.controlQueue = [[]] := by
  rw [Firmware.controlQueue, h]

theorem controlQueue_setup (h : s.uddEpControlState = .setup) : s.controlQueue = [] := by
  rw [Firmware.controlQueue, h]

/-- Nothing is waiting. -/
theorem Firmware.ControlInv.of_quiet (hqueue : s.controlQueue = [])
    (hnak : uddEndpointIsEnable (s.ctrl ctrlIn) = true → (s.ctrl ctrlIn).busnack0 = true)
    (hidle : s.uddEpControlState = .setup → s.uddGCtrlreq.callback = none) : s.ControlInv where
  nak henabled _ := hnak henabled
  released hne := absurd hqueue hne
  sending hsending := absurd (hsending.controlQueue.symm.trans hqueue) s.replyPackets_ne_nil
  idle := hidle
  handshake hstate := by
    rw [controlQueue_handshake hstate] at hqueue
    cases hqueue

/-- A packet of the reply is waiting. -/
theorem Firmware.ControlInv.of_sending (hstate : s.IsSending)
    (hnak : (s.ctrl ctrlIn).busnack0 = false) (h : s.Sending) : s.ControlInv where
  nak _ hqueue := absurd (hstate.controlQueue.symm.trans hqueue) s.replyPackets_ne_nil
  released _ := hnak
  sending _ := h
  idle hsetup := by
    rw [Firmware.IsSending, hsetup] at hstate
    rcases hstate with h | ⟨h, _⟩ <;> cases h
  handshake hwait := by
    rw [Firmware.IsSending, hwait] at hstate
    rcases hstate with h | ⟨h, _⟩ <;> cases h

/-- The handshake is waiting. -/
theorem Firmware.ControlInv.of_handshake (hstate : s.uddEpControlState = .handshakeWaitInZlp)
    (hnak : (s.ctrl ctrlIn).busnack0 = false) (hcnt : (s.ctrl ctrlIn).cnt = 0) : s.ControlInv where
  nak _ hqueue := by
    rw [controlQueue_handshake hstate] at hqueue
    cases hqueue
  released _ := hnak
  sending hsending := by
    rw [Firmware.IsSending, hstate] at hsending
    rcases hsending with h | ⟨h, _⟩ <;> cases h
  idle hsetup := by
    rw [hstate] at hsetup
    cases hsetup
  handshake _ := hcnt

end Invariant

/-! ## Sending a reply -/

section Sending

variable {s : Firmware}

theorem Firmware.Sending.length_reply (h : s.Sending) :
    s.reply.length = s.uddGCtrlreq.payloadSize.toNat := by
  rw [reply, List.length_take, Nat.min_eq_left h.bound]

/-- The packet on the bank -/
theorem Firmware.Sending.ctrlPacketIn (h : s.Sending) :
    s.ctrlPacketIn = (s.reply.drop s.replySent).take 8 := by
  have hbytes : s.bytesAt (s.ctrl ctrlIn).dataptr =
      (s.bytesAt s.uddGCtrlreq.payload).drop s.replySent := by
    rw [h.dataptr, Firmware.bytesAt, Firmware.bytesAt, List.drop_drop]
    rfl
  rw [Firmware.ctrlPacketIn, hbytes, reply, h.cnt, List.drop_take, List.take_take]

/-- The data stage ends with the packet on the bank. -/
def Firmware.LastPacket (s : Firmware) : Prop :=
  s.uddCtrlPayloadNbTrans = s.uddGCtrlreq.payloadSize ∧
    (s.uddGCtrlreq.req.wLength = s.uddCtrlPayloadNbTrans ∨ s.uddCtrlInSentBShortpacket = true)

instance (s : Firmware) : Decidable s.LastPacket := inferInstanceAs (Decidable (_ ∧ _))

/-- The last packet is the one that is not full, or that uses up what the host asked for. -/
theorem Firmware.Sending.lastPacket_iff (h : s.Sending) :
    s.LastPacket ↔ (s.reply.drop s.replySent).length < 8 ∨
      s.uddGCtrlreq.req.wLength.toNat - s.replySent ≤ 8 := by
  have hcnt := h.cnt
  have hnb := h.nbTrans
  have hle := h.sent_le
  have hlt := h.sent_lt
  have hsize := h.size
  rw [List.length_drop, h.length_reply, LastPacket, h.short, decide_eq_true_iff,
    ← BitVec.toNat_inj, ← BitVec.toNat_inj]
  omega

/-- The packets waiting: the one on the bank, and the rest -/
theorem Firmware.Sending.replyPackets (h : s.Sending) :
    s.replyPackets = s.ctrlPacketIn ::
      if s.LastPacket then []
      else packets 8 (s.uddGCtrlreq.req.wLength.toNat - s.uddCtrlPayloadNbTrans.toNat)
        (s.reply.drop s.uddCtrlPayloadNbTrans.toNat) := by
  rw [h.ctrlPacketIn, Firmware.replyPackets, packets_eq (by decide)]
  refine congrArg (_ :: ·) ?_
  by_cases hlast : s.LastPacket
  · rw [if_pos hlast, if_pos (h.lastPacket_iff.mp hlast)]
  · have hmore := mt h.lastPacket_iff.mpr hlast
    have hcnt : (s.ctrl ctrlIn).cnt.toNat = 8 := by
      have hcnt := h.cnt
      rw [List.length_drop, h.length_reply] at hmore
      omega
    have hnb : s.uddCtrlPayloadNbTrans.toNat = s.replySent + 8 := by rw [h.nbTrans, hcnt]
    rw [if_neg hlast, if_neg hmore, hnb, List.drop_drop, Nat.sub_sub]

/-- There is more to send: bytes of the reply, or an empty packet that ends it. -/
structure Firmware.Unsent (s : Firmware) : Prop where
  size : s.uddGCtrlreq.payloadSize.toNat ≤ s.uddGCtrlreq.req.wLength.toNat
  bound : s.uddGCtrlreq.payloadSize.toNat ≤ (s.bytesAt s.uddGCtrlreq.payload).length
  sent_le : s.uddCtrlPayloadNbTrans.toNat ≤ s.uddGCtrlreq.payloadSize.toNat
  sent_lt : s.uddCtrlPayloadNbTrans.toNat < s.uddGCtrlreq.req.wLength.toNat
  prev : s.uddCtrlPayloadNbTrans ≠ s.uddGCtrlreq.payloadSize → s.uddCtrlPrevPayloadNbTrans = 0
  steady : s.uddGCtrlreq.payload.base ≠ .udiHidGenericReportIn ∧
    s.uddGCtrlreq.payload.base ≠ .uddCtrlBuffer

theorem bytesAt_inNext (n : Word) (t : Firmware) (p : Ptr) :
    (uddCtrlInNext n t).bytesAt p = t.bytesAt p := by
  rw [Firmware.bytesAt, Firmware.bytesAt]
  cases p.base <;> rfl

/-- Going on with a reply: the next packet is put on the bank. -/
theorem sending_inNext {t u : Firmware} (h : t.Unsent)
    (hu : uddCtrlInNext (t.uddGCtrlreq.payloadSize - t.uddCtrlPayloadNbTrans) t = u) :
    u.Sending ∧ u.replySent = t.uddCtrlPayloadNbTrans.toNat := by
  obtain ⟨hsize, hbound, hsent, hroom, hprev, hsteady⟩ := h
  generalize hrest : t.uddGCtrlreq.payloadSize - t.uddCtrlPayloadNbTrans = rest at hu
  have hrest' : rest.toNat = t.uddGCtrlreq.payloadSize.toNat - t.uddCtrlPayloadNbTrans.toNat := by
    rw [← hrest, BitVec.toNat_sub_of_le (BitVec.le_def.mpr hsent)]
  have hlt := t.uddGCtrlreq.payloadSize.isLt
  have hbytes (p : Ptr) : u.bytesAt p = t.bytesAt p := by rw [← hu, bytesAt_inNext]
  -- what the handler writes
  have hreq : u.uddGCtrlreq = t.uddGCtrlreq := by rw [← hu]; rfl
  have hcnt : (u.ctrl ctrlIn).cnt.toNat = min 8 rest.toNat := by
    rw [← hu]
    simp only [uddCtrlInNext, Firmware.ctrl, Firmware.modifyCtrl, uddEndpointClearNACK0,
      ge_iff_le, BitVec.le_def, Fin.getElem_fin, Vector.getElem_set_self]
    have hfull : (8 : Word).toNat = 8 := rfl
    split
    · next hmore =>
      rw [hfull] at hmore ⊢
      omega
    · next hmore =>
      rw [hfull] at hmore
      omega
  have hnb : u.uddCtrlPayloadNbTrans = t.uddCtrlPayloadNbTrans + (u.ctrl ctrlIn).cnt := by
    rw [← hu]
    simp [uddCtrlInNext, Firmware.ctrl, Firmware.modifyCtrl, uddEndpointClearNACK0]
  have hptr : (u.ctrl ctrlIn).dataptr = t.uddGCtrlreq.payload.add t.uddCtrlPayloadNbTrans.toNat := by
    rw [← hu]
    simp [uddCtrlInNext, Firmware.ctrl, Firmware.modifyCtrl, uddEndpointClearNACK0]
  have hshort : u.uddCtrlInSentBShortpacket = decide (rest.toNat < 8) := by
    rw [← hu]
    simp only [uddCtrlInNext, Firmware.modifyCtrl, ge_iff_le, BitVec.le_def]
    rw [← decide_not, decide_eq_decide, Nat.not_le]
    rfl
  have hprev' : u.uddCtrlPrevPayloadNbTrans = t.uddCtrlPrevPayloadNbTrans := by rw [← hu]; rfl
  have hnb' : u.uddCtrlPayloadNbTrans.toNat =
      t.uddCtrlPayloadNbTrans.toNat + (u.ctrl ctrlIn).cnt.toNat := by
    rw [hnb, BitVec.toNat_add]
    omega
  have hstart : u.replySent = t.uddCtrlPayloadNbTrans.toNat := by
    rw [Firmware.replySent]
    omega
  refine ⟨?_, hstart⟩
  constructor
  · rw [hreq]
    exact hsize
  · rw [hreq, hbytes]
    exact hbound
  · rw [hnb', hstart]
  · rw [hcnt, hreq, hstart, hrest']
  · rw [hreq, hstart]
    exact hsent
  · rw [hreq, hstart]
    exact hroom
  · rw [hreq, hptr, hstart]
  · rw [hshort, decide_eq_decide]
    omega
  · intro hne
    rw [hprev']
    refine hprev fun hall => hne ?_
    rw [← BitVec.toNat_inj, hcnt, hrest', hall, Nat.sub_self]
    rfl
  · rw [hreq]
    exact hsteady

end Sending

/-! ## What leaves a reply alone -/

/-- The reply and how far it has got are the same. -/
structure SameReply (s s' : Firmware) : Prop where
  ctrlreq : s'.uddGCtrlreq = s.uddGCtrlreq
  nbTrans : s'.uddCtrlPayloadNbTrans = s.uddCtrlPayloadNbTrans
  prev : s'.uddCtrlPrevPayloadNbTrans = s.uddCtrlPrevPayloadNbTrans
  short : s'.uddCtrlInSentBShortpacket = s.uddCtrlInSentBShortpacket
  cnt : (s'.ctrl ctrlIn).cnt = (s.ctrl ctrlIn).cnt
  dataptr : (s'.ctrl ctrlIn).dataptr = (s.ctrl ctrlIn).dataptr
  bytes : ∀ p : Ptr, p.base ≠ .udiHidGenericReportIn → p.base ≠ .uddCtrlBuffer →
    s'.bytesAt p = s.bytesAt p

namespace SameReply

variable {s s' s'' : Firmware}

theorem trans (h : SameReply s s') (h' : SameReply s' s'') : SameReply s s'' where
  ctrlreq := h'.ctrlreq.trans h.ctrlreq
  nbTrans := h'.nbTrans.trans h.nbTrans
  prev := h'.prev.trans h.prev
  short := h'.short.trans h.short
  cnt := h'.cnt.trans h.cnt
  dataptr := h'.dataptr.trans h.dataptr
  bytes p hreport hbuffer := (h'.bytes p hreport hbuffer).trans (h.bytes p hreport hbuffer)

/-- Something else of an entry of the endpoint table -/
theorem modifyCtrl (s : Firmware) (c : Fin 4) {f : UsbEp → UsbEp}
    (hf : c = ctrlIn → ∀ e, (f e).cnt = e.cnt ∧ (f e).dataptr = e.dataptr) :
    SameReply s (s.modifyCtrl c f) := by
  have hep : ((s.modifyCtrl c f).ctrl ctrlIn).cnt = (s.ctrl ctrlIn).cnt ∧
      ((s.modifyCtrl c f).ctrl ctrlIn).dataptr = (s.ctrl ctrlIn).dataptr := by
    by_cases hc : c = ctrlIn
    · subst hc
      rw [Firmware.ctrl_modifyCtrl]
      exact hf rfl _
    · rw [Firmware.ctrl_modifyCtrl_of_ne hc]
      exact ⟨rfl, rfl⟩
  refine ⟨rfl, rfl, rfl, rfl, hep.1, hep.2, fun p _ _ => ?_⟩
  rw [Firmware.bytesAt, Firmware.bytesAt]
  cases p.base <;> rfl

/-- The report pipe, without the number of the configuration -/
theorem withPipe (s : Firmware) {p : Pipe} (hconf : p.numConf = s.udcNumConfiguration) :
    SameReply s (s.withPipe p) := by
  have hep : (s.withPipe p).ctrl ctrlIn = s.ctrl ctrlIn := by
    simp [Firmware.withPipe, Firmware.ctrl]
  refine ⟨rfl, rfl, rfl, rfl, by rw [hep], by rw [hep], fun q hreport _ => ?_⟩
  rw [Firmware.bytesAt, Firmware.bytesAt]
  rcases q with ⟨base, offset⟩
  cases base with
  | udiHidGenericReportIn => exact absurd rfl hreport
  | udcNumConfiguration =>
    simp only [Firmware.contents, Firmware.withPipe, hconf]
  | _ => rfl

theorem hostData (s : Firmware) (data : OutPacket) : SameReply s (hostData data s) := by
  have hep : (HidJoystick.hostData data s).ctrl ctrlIn = s.ctrl ctrlIn := by
    rw [HidJoystick.hostData, Firmware.ctrl_modifyCtrl_of_ne (by decide)]
    rfl
  refine ⟨rfl, rfl, rfl, rfl, by rw [hep], by rw [hep], fun q _ hbuffer => ?_⟩
  rw [Firmware.bytesAt, Firmware.bytesAt]
  rcases q with ⟨base, offset⟩
  cases base with
  | uddCtrlBuffer => exact absurd rfl hbuffer
  | _ => rfl

theorem replySent (h : SameReply s s') : s'.replySent = s.replySent := by
  rw [Firmware.replySent, h.nbTrans, h.cnt, Firmware.replySent]

theorem bytesAt (h : SameReply s s') (hs : s.Sending) :
    s'.bytesAt s'.uddGCtrlreq.payload = s.bytesAt s.uddGCtrlreq.payload := by
  rw [h.ctrlreq]
  exact h.bytes _ hs.steady.1 hs.steady.2

theorem reply (h : SameReply s s') (hs : s.Sending) : s'.reply = s.reply := by
  rw [Firmware.reply, h.bytesAt hs, h.ctrlreq, Firmware.reply]

theorem replyPackets (h : SameReply s s') (hs : s.Sending) : s'.replyPackets = s.replyPackets := by
  rw [Firmware.replyPackets, h.reply hs, h.replySent, h.ctrlreq, Firmware.replyPackets]

theorem sending (h : SameReply s s') (hs : s.Sending) : s'.Sending where
  size := by
    rw [h.ctrlreq]
    exact hs.size
  bound := by
    rw [h.bytesAt hs, h.ctrlreq]
    exact hs.bound
  nbTrans := by
    rw [h.nbTrans, h.replySent, h.cnt]
    exact hs.nbTrans
  cnt := by
    rw [h.cnt, h.ctrlreq, h.replySent]
    exact hs.cnt
  sent_le := by
    rw [h.replySent, h.ctrlreq]
    exact hs.sent_le
  sent_lt := by
    rw [h.replySent, h.ctrlreq]
    exact hs.sent_lt
  dataptr := by
    rw [h.dataptr, h.ctrlreq, h.replySent]
    exact hs.dataptr
  short := by
    rw [h.short, h.cnt]
    exact hs.short
  prev := by
    rw [h.cnt, h.prev]
    exact hs.prev
  steady := by
    rw [h.ctrlreq]
    exact hs.steady

end SameReply

/-- The control endpoint is as it was, but for the halt. -/
structure SameStage (s s' : Firmware) : Prop extends SameReply s s' where
  state : s'.uddEpControlState = s.uddEpControlState
  enabled : uddEndpointIsEnable (s'.ctrl ctrlIn) = uddEndpointIsEnable (s.ctrl ctrlIn)
  nak : (s'.ctrl ctrlIn).busnack0 = (s.ctrl ctrlIn).busnack0
  addr : s'.usbAddr = s.usbAddr

namespace SameStage

variable {s s' : Firmware}

theorem trans {s'' : Firmware} (h : SameStage s s') (h' : SameStage s' s'') : SameStage s s'' where
  toSameReply := h.toSameReply.trans h'.toSameReply
  state := h'.state.trans h.state
  enabled := h'.enabled.trans h.enabled
  nak := h'.nak.trans h.nak
  addr := h'.addr.trans h.addr

/-- Something else of an entry of the endpoint table -/
theorem modifyCtrl (s : Firmware) (c : Fin 4) {f : UsbEp → UsbEp}
    (hf : c = ctrlIn → ∀ e, (f e).cnt = e.cnt ∧ (f e).dataptr = e.dataptr ∧
      (f e).type = e.type ∧ (f e).busnack0 = e.busnack0) :
    SameStage s (s.modifyCtrl c f) := by
  have hep : ((s.modifyCtrl c f).ctrl ctrlIn).type = (s.ctrl ctrlIn).type ∧
      ((s.modifyCtrl c f).ctrl ctrlIn).busnack0 = (s.ctrl ctrlIn).busnack0 := by
    by_cases hc : c = ctrlIn
    · subst hc
      rw [Firmware.ctrl_modifyCtrl]
      exact (hf rfl _).2.2
    · rw [Firmware.ctrl_modifyCtrl_of_ne hc]
      exact ⟨rfl, rfl⟩
  refine ⟨.modifyCtrl s c fun h e => ⟨(hf h e).1, (hf h e).2.1⟩, rfl, ?_, hep.2, rfl⟩
  rw [uddEndpointIsEnable, hep.1, uddEndpointIsEnable]

theorem isSending (h : SameStage s s') : s'.IsSending ↔ s.IsSending := by
  rw [Firmware.IsSending, Firmware.IsSending, h.state, h.nak]

theorem controlQueue (h : SameStage s s') (hs : s.ControlInv) :
    s'.controlQueue = s.controlQueue := by
  by_cases hsending : s.IsSending
  · rw [(h.isSending.mpr hsending).controlQueue, hsending.controlQueue]
    exact h.replyPackets (hs.sending hsending)
  · simp only [Firmware.IsSending, not_or, not_and, Bool.not_eq_false] at hsending
    simp only [Firmware.controlQueue, h.state, h.nak]
    rcases hstate : s.uddEpControlState with _ | _ | _ | _ | _ | _
    · rfl
    · rfl
    · exact absurd hstate hsending.1
    · rfl
    · rw [hsending.2 hstate]
      rfl
    · rfl

theorem controlInv (h : SameStage s s') (hs : s.ControlInv) : s'.ControlInv where
  nak := by
    rw [h.enabled, h.controlQueue hs, h.nak]
    exact hs.nak
  released := by
    rw [h.controlQueue hs, h.nak]
    exact hs.released
  sending hsending := h.toSameReply.sending (hs.sending (h.isSending.mp hsending))
  idle := by
    rw [h.state, h.ctrlreq]
    exact hs.idle
  handshake := by
    rw [h.state, h.cnt]
    exact hs.handshake

theorem deferred (h : SameReply s s') : s'.deferred = s.deferred := by
  rw [Firmware.deferred, h.ctrlreq, Firmware.deferred]

theorem controlPipe (h : SameStage s s') (hs : s.ControlInv) :
    s'.controlPipe = { s.controlPipe with halted := (s'.ctrl ctrlIn).stall } := by
  simp only [Firmware.controlPipe, h.state, h.enabled, h.controlQueue hs, h.addr,
    deferred h.toSameReply]

end SameStage

end HidJoystick
