import HidJoystick.Packets
import HidJoystick.Reachable
import Mathlib.Algebra.Group.Nat.Defs

/-!
# IN transfers

`udd_ep_run` and `udd_ep_trans_complet` for any buffer, not only a report. The controller
is given at most `UDD_ENDPOINT_MAX_TRANS` bytes at a time, so a transfer goes out in chunks;
the host polls a chunk packet by packet, and the transfer-complete interrupt puts the next
one on the bank. The buffer is the caller's, so what the memory holds is a parameter
here; a caller leaves its buffer alone until the callback is called.

* `transComplet_cases` — what one interrupt does.
* `Firmware.Pumping.step`, `Firmware.Pumping.run` — the step and the run lemma: what the host
  has got, the chunk on the bank and the rest make up the transfer.
* `bulkIn_transfers` — what it means for a caller of `udd_ep_run`: the host gets
  `Packets.transfer`, in order, and the callback is called when it has got all of it, once.
* `bulkIn_completes` — a host that polls gets all of it.
-/

namespace HidJoystick

open Packets

/-! ## The bus -/

/-- The bytes from an address on -/
def Memory.bytesAt (mem : Memory) (p : Ptr) : List Byte := (mem p.base).drop p.offset

/-- What the host gets in a step -/
def wireSent (mem : Memory) (t : Machine.Transition Firmware Event) : List (List Byte) :=
  match t.event with
  | .collect => if (t.pre.ctrl epInCtrl).live then [(t.pre.ctrl epInCtrl).nextPacket mem] else []
  | _ => []

/-- The packets the host gets from EP 0x81 in a run -/
def wirePackets (mem : Memory) (s : Firmware) (es : List Event) : List (List Byte) :=
  (device.transitions s es).flatMap (wireSent mem)

/-- EP 0x81 is served: the host collects, or the interrupt runs. -/
def Event.pumps : Event → Prop
  | .collect | .transferComplete => True
  | _ => False

/-! ## The driver -/

namespace Pipe

/-- `udd_ep_run`, once it has accepted the transfer -/
def start (bShortpacket : Bool) (buf : Ptr) (bufSize : Word) (callback : Option UddCallbackTrans)
    (p : Pipe) : Pipe :=
  { p with
    job :=
      { busy := true
        bShortpacket := bShortpacket || bufSize == 0
        bUseOutCacheBuffer := false
        buf := buf
        bufSize := bufSize
        nbTrans := 0
        callTrans := callback }
    ep := { p.ep with auxdata := 0 } }.transComplet

/-- How often the callback of a transfer was called. -/
def callbacks (p : Pipe) : ℕ :=
  p.history.countP fun a => a == .completed || a == .aborted

end Pipe

/-- A transfer a caller of `udd_ep_run` asks for. -/
structure InTransfer where
  /-- what the buffer holds -/
  data : List Byte
  buf : Ptr
  /-- the size of packets -/
  m : ℕ
  callback : Option UddCallbackTrans
  /-- how often a callback was called before -/
  callbacks : ℕ

namespace Pipe

/-- The job is the transfer, and the endpoint serves it. -/
structure Transfers (x : InTransfer) (p : Pipe) : Prop where
  busy : p.job.busy = true
  buf : p.job.buf = x.buf
  bufSize : p.job.bufSize.toNat = x.data.length
  callTrans : p.job.callTrans = x.callback
  enabled : uddEndpointIsEnable p.ep = true
  unhalted : p.ep.halted = false
  chunks : p.ep.Chunks
  size : p.ep.packetSize = x.m
  callbacks : p.callbacks = x.callbacks

/-- A chunk of `c` bytes is on the bank, and the host has got `a` of them, in whole packets. -/
structure Chunk (x : InTransfer) (c a : ℕ) (p : Pipe) : Prop extends Transfers x p where
  bound : p.job.nbTrans.toNat + c ≤ x.data.length
  small : c ≤ 1023
  cnt : p.ep.cnt.toNat = c
  auxdata : p.ep.auxdata.toNat = a
  whole : x.m ∣ a
  more : a < c ∨ a = 0
  dataptr : c ≠ 0 → p.ep.dataptr = x.buf.add p.job.nbTrans.toNat

/-- The interrupt has nothing left to send. -/
def completed (p : Pipe) : Pipe :=
  { p with job := { p.job with nbTrans := p.job.nbTrans + p.ep.auxdata } }.finish .ok

variable {x : InTransfer} {p : Pipe}

/-- A busy job ends with a call of its callback. -/
theorem finish_busy (hbusy : p.job.busy = true) (status : UddEpStatus) :
    (p.finish status).job.busy = false ∧ (p.finish status).ep = p.ep ∧
      (p.finish status).callbacks = p.callbacks + p.job.callTrans.toList.length := by
  simp only [finish, hbusy, if_true]
  split
  · next hcallback =>
    rw [hcallback]
    refine ⟨rfl, rfl, List.countP_cons_of_pos ?_⟩
    cases status <;> rfl
  · next hnone =>
    rw [hnone]
    exact ⟨rfl, rfl, rfl⟩

/-- The length of the next chunk: all that is left, or as many whole packets as the
controller takes. -/
theorem nextTrans_cases {e : UsbEp} {m : ℕ} (hm : e.packetSize = m) {rest : Word} (hrest : rest ≠ 0) :
    let next := if uddEndpointMaxTrans < rest then
        uddEndpointMaxTrans - uddEndpointMaxTrans % uddEpGetSize e else rest
    0 < next.toNat ∧ next.toNat ≤ rest.toNat ∧ next.toNat ≤ 1023 ∧
      (next.toNat < rest.toNat → m ∣ next.toNat) ∧
      (next % uddEpGetSize e == 0) = (next.toNat % m == 0) := by
  have hpos := packetSize_pos e
  have hle := (packetSize_bounds e).2
  rw [hm] at hpos hle
  rw [UsbEp.packetSize] at hm
  have hpos' : 0 < rest.toNat := Nat.pos_of_ne_zero fun h => hrest (BitVec.eq_of_toNat_eq h)
  have hmod (w : Word) : (w % uddEpGetSize e == 0) = (w.toNat % m == 0) := by
    rw [Bool.eq_iff_iff, beq_iff_eq, beq_iff_eq, ← BitVec.toNat_inj, BitVec.toNat_umod, hm]
    rfl
  intro next
  by_cases hbig : uddEndpointMaxTrans < rest
  · have hnext : next.toNat = 1023 - 1023 % m := by
      have hle : uddEndpointMaxTrans % uddEpGetSize e ≤ uddEndpointMaxTrans := by
        rw [BitVec.le_def, BitVec.toNat_umod]
        exact Nat.mod_le _ _
      have heq : next = uddEndpointMaxTrans - uddEndpointMaxTrans % uddEpGetSize e := if_pos hbig
      rw [heq, BitVec.toNat_sub_of_le hle, BitVec.toNat_umod, hm]
      rfl
    have hlt : 1023 % m < m := Nat.mod_lt _ hpos
    have hrest' : 1023 < rest.toNat := BitVec.lt_def.mp hbig
    refine ⟨by omega, by omega, by omega, fun _ => ?_, hmod next⟩
    rw [hnext]
    exact Nat.dvd_sub_mod 1023
  · have hnext : next = rest := if_neg hbig
    have hrest' : rest.toNat ≤ 1023 := Nat.le_of_not_lt fun h => hbig (BitVec.lt_def.mpr h)
    rw [hnext]
    exact ⟨hpos', Nat.le_refl _, hrest', fun h => absurd h (Nat.lt_irrefl _), hmod rest⟩

/-- **One interrupt**: the next chunk is put on the bank, or an empty one that closes the
transfer, or there is nothing left. -/
theorem transComplet_cases (h : p.Transfers x)
    (hsent : p.job.nbTrans.toNat + p.ep.auxdata.toNat ≤ x.data.length) :
    (∃ c, p.transComplet.Chunk x c 0 ∧
        p.transComplet.job.nbTrans.toNat = p.job.nbTrans.toNat + p.ep.auxdata.toNat ∧
        transfer x.m p.job.bShortpacket (x.data.drop p.transComplet.job.nbTrans.toNat) =
          packets x.m c ((x.data.drop p.transComplet.job.nbTrans.toNat).take c) ++
            transfer x.m p.transComplet.job.bShortpacket
              (x.data.drop (p.transComplet.job.nbTrans.toNat + c)) ∧
        p.transComplet.ep.busnack0 = false ∧ p.transComplet.ep.trncompl0 = p.ep.trncompl0) ∨
      transfer x.m p.job.bShortpacket
          (x.data.drop (p.job.nbTrans.toNat + p.ep.auxdata.toNat)) = [] ∧
        p.job.nbTrans.toNat + p.ep.auxdata.toNat = x.data.length ∧
        p.transComplet = p.completed := by
  have hm : 0 < x.m := h.size ▸ packetSize_pos p.ep
  have hlen := p.job.bufSize.isLt
  have hsize := h.bufSize
  have hsum : (p.job.nbTrans + p.ep.auxdata).toNat =
      p.job.nbTrans.toNat + p.ep.auxdata.toNat := by
    rw [BitVec.toNat_add]
    omega
  by_cases hall : p.job.nbTrans + p.ep.auxdata = p.job.bufSize
  · have hend : p.job.nbTrans.toNat + p.ep.auxdata.toNat = x.data.length := by
      rw [← hsum, hall, hsize]
    by_cases hclose : p.job.bShortpacket = true
    · -- an empty packet closes the transfer
      left
      refine ⟨0, ?_⟩
      generalize hp : p.transComplet = p'
      simp only [transComplet, hall, ne_eq, not_true_eq_false, if_false, hclose, if_true] at hp
      subst hp
      refine ⟨⟨⟨h.busy, h.buf, hsize, h.callTrans, h.enabled, h.unhalted, h.chunks, h.size,
        h.callbacks⟩, ?_, Nat.zero_le _, rfl, rfl, Nat.dvd_zero _, Or.inr rfl,
        fun hne => absurd rfl hne⟩, ?_, ?_, rfl, rfl⟩
      · exact Nat.le_of_eq hsize
      · exact hsize.trans hend.symm
      · change transfer x.m p.job.bShortpacket (x.data.drop p.job.bufSize.toNat) =
          packets x.m 0 ((x.data.drop p.job.bufSize.toNat).take 0) ++
            transfer x.m false (x.data.drop (p.job.bufSize.toNat + 0))
        rw [hclose, hsize, Nat.add_zero, List.drop_length, List.take_nil, packets_of_short hm]
        rfl
    · right
      have hopen : p.job.bShortpacket = false := Bool.eq_false_of_not_eq_true hclose
      refine ⟨?_, hend, ?_⟩
      · rw [hopen, hend, List.drop_length]
        rfl
      · simp only [transComplet, hall, ne_eq, not_true_eq_false, if_false, hclose, completed]
        rfl
  · left
    have hrest : p.job.bufSize - (p.job.nbTrans + p.ep.auxdata) ≠ 0 := by
      intro hzero
      exact hall (by bv_omega)
    have hle : p.job.nbTrans + p.ep.auxdata ≤ p.job.bufSize := by
      rw [BitVec.le_def, hsum]
      omega
    have hleft : (p.job.bufSize - (p.job.nbTrans + p.ep.auxdata)).toNat =
        x.data.length - (p.job.nbTrans.toNat + p.ep.auxdata.toNat) := by
      rw [BitVec.toNat_sub_of_le hle, hsum, hsize]
    obtain ⟨hpos, hfits, hsmall, hwhole, hmod⟩ := nextTrans_cases h.size hrest
    generalize hp : p.transComplet = p'
    simp only [transComplet, ne_eq, hall, not_false_eq_true, if_true] at hp
    generalize (if uddEndpointMaxTrans < p.job.bufSize - (p.job.nbTrans + p.ep.auxdata) then
      uddEndpointMaxTrans - uddEndpointMaxTrans % uddEpGetSize p.ep
      else p.job.bufSize - (p.job.nbTrans + p.ep.auxdata)) = next at hpos hfits hsmall hwhole hmod hp
    subst hp
    rw [hleft] at hfits hwhole
    have hdrop : (x.data.drop (p.job.nbTrans.toNat + p.ep.auxdata.toNat)).length =
        x.data.length - (p.job.nbTrans.toNat + p.ep.auxdata.toNat) := List.length_drop
    refine ⟨next.toNat, ⟨⟨h.busy, h.buf, hsize, h.callTrans, h.enabled, h.unhalted, h.chunks, h.size,
      h.callbacks⟩, ?_, hsmall, rfl, rfl, Nat.dvd_zero _, Or.inr rfl, fun _ => ?_⟩, hsum, ?_, rfl,
      rfl⟩
    · change (p.job.nbTrans + p.ep.auxdata).toNat + next.toNat ≤ x.data.length
      rw [hsum]
      omega
    · exact congrArg (fun b : Ptr => b.add (p.job.nbTrans + p.ep.auxdata).toNat) h.buf
    · change transfer x.m p.job.bShortpacket (x.data.drop (p.job.nbTrans + p.ep.auxdata).toNat) =
        packets x.m next.toNat ((x.data.drop (p.job.nbTrans + p.ep.auxdata).toNat).take next.toNat) ++
          transfer x.m (p.job.bShortpacket && next % uddEpGetSize p.ep == 0)
            (x.data.drop ((p.job.nbTrans + p.ep.auxdata).toNat + next.toNat))
      have hlast : x.data.drop (p.job.nbTrans.toNat + p.ep.auxdata.toNat + next.toNat) =
          (x.data.drop (p.job.nbTrans.toNat + p.ep.auxdata.toNat)).drop next.toNat :=
        List.drop_drop.symm
      rw [hsum, hmod, hlast]
      refine transfer_chunk hm hpos ?_ fun hlt => hwhole ?_
      · rw [hdrop]
        exact hfits
      · rw [hdrop] at hlt
        exact hlt

end Pipe

/-- `udd_ep_run` on EP 0x81 -/
theorem uddEpRun_start {ep : Byte} (h : IsEpIn ep) (bShortpacket : Bool) (buf : Ptr)
    (bufSize : Word) (callback : Option UddCallbackTrans) (s : Firmware) :
    uddEpRun ep bShortpacket buf bufSize callback s =
      if s.pipe.accepts then
        .ok (true, s.withPipe (s.pipe.start bShortpacket buf bufSize callback))
      else .ok (false, s) := by
  simp only [uddEpRun, h.getCtrl, h.getJob, h.dir, ok_bind, pure_eq_ok, Firmware.modifyCtrl_epIn,
    Firmware.modifyJob_epIn, Firmware.job_epIn, Firmware.ctrl_epIn, Firmware.pipe_withPipe,
    Firmware.withPipe_withPipe, uddEpTransComplet_epIn h, Pipe.accepts, Pipe.start]
  by_cases henable : uddEndpointIsEnable s.pipe.ep = true
  · by_cases hhalt : s.pipe.ep.type ≠ .isochronous ∧ s.pipe.ep.stall = true
    · simp [henable, hhalt]
    · by_cases hbusy : s.pipe.job.busy = true
      · simp [henable, hbusy]
      · simp [henable, hhalt, hbusy]
  · simp [henable]

/-! ## Runs -/

/-- The transfer consists of the packets `all`, and the host has got `ps`. -/
inductive Firmware.Pumping (x : InTransfer) (all ps : List (List Byte)) (s : Firmware) : Prop where
  /-- a chunk is on the bank -/
  | armed (c a : ℕ) : s.pipe.Chunk x c a → s.pipe.ep.busnack0 = false →
    s.pipe.ep.trncompl0 = false →
    ps ++ (packets x.m (c - a) ((x.data.drop (s.pipe.job.nbTrans.toNat + a)).take (c - a)) ++
      transfer x.m s.pipe.job.bShortpacket (x.data.drop (s.pipe.job.nbTrans.toNat + c))) = all →
    Pumping x all ps s
  /-- the host has got it, and the interrupt is pending -/
  | sent : s.pipe.Transfers x → s.pipe.ep.busnack0 = true → s.pipe.ep.trncompl0 = true →
    s.pipe.job.nbTrans.toNat + s.pipe.ep.auxdata.toNat ≤ x.data.length →
    ps ++ transfer x.m s.pipe.job.bShortpacket
      (x.data.drop (s.pipe.job.nbTrans.toNat + s.pipe.ep.auxdata.toNat)) = all →
    Pumping x all ps s
  /-- the transfer has completed -/
  | done : s.pipe.job.busy = false → s.pipe.ep.busnack0 = true → s.pipe.ep.trncompl0 = false →
    s.pipe.callbacks = x.callbacks + x.callback.toList.length → ps = all → Pumping x all ps s

section Steps

variable {mem : Memory} {x : InTransfer} {all ps : List (List Byte)} {s : Firmware}

/-- Where the controller reads the next packet -/
theorem Pipe.Chunk.packet {p : Pipe} {c a : ℕ} (h : p.Chunk x c a) :
    p.ep.packetStart = a ∧ p.ep.packetLen = min x.m (c - a) := by
  rcases h.chunks with hmulti | hone
  · rw [UsbEp.packetStart, UsbEp.packetLen, if_pos hmulti, if_pos hmulti, h.auxdata, h.cnt, h.size]
    exact ⟨rfl, rfl⟩
  · -- the chunk is one packet, and the host has got none
    have hnone : a = 0 := by
      rcases h.more with hmore | hnone
      · have hsmall := h.small
        have hwhole := h.whole
        rw [h.size.symm.trans hone] at hwhole
        exact Nat.eq_zero_of_dvd_of_lt hwhole (by omega)
      · exact hnone
    have hmin : min x.m (c - a) = c := by
      have hsmall := h.small
      rw [h.size.symm.trans hone, hnone]
      omega
    rw [UsbEp.packetStart, UsbEp.packetLen, h.auxdata, h.cnt, h.size, hmin, hnone]
    exact ⟨ite_self 0, ite_self c⟩

theorem map_getD_range {l : List Byte} {k n : ℕ} (h : k + n ≤ l.length) :
    ((List.range n).map fun i => l.getD (k + i) 0) = (l.drop k).take n := by
  refine List.ext_getElem ?_ fun i hi hi' => ?_
  · rw [List.length_map, List.length_range, List.length_take, List.length_drop]
    omega
  · have hlt : k + i < l.length := by
      rw [List.length_map, List.length_range] at hi
      omega
    simp [hlt]

/-- The next packet on the bus -/
theorem Pipe.Chunk.nextPacket {p : Pipe} {c a : ℕ} (h : p.Chunk x c a)
    (hmem : x.data <+: mem.bytesAt x.buf) :
    p.ep.nextPacket mem =
      ((x.data.drop (p.job.nbTrans.toNat + a)).take (c - a)).take x.m := by
  obtain ⟨hstart, hlen⟩ := h.packet
  have hbound := h.bound
  rw [UsbEp.nextPacket, hstart, hlen, List.take_take]
  rcases Nat.eq_zero_or_pos c with rfl | hpos
  · rw [Nat.zero_sub, Nat.min_zero]
    rfl
  · obtain ⟨rest, hrest⟩ := hmem
    have hptr := h.dataptr (by omega)
    rw [Memory.bytesAt] at hrest
    have hlong : x.data.length ≤ (mem x.buf.base).length - x.buf.offset := by
      rw [← List.length_drop, ← hrest, List.length_append]
      omega
    have hfits : x.data.length ≤ (mem x.buf.base).length - x.buf.offset := hlong
    have hread : p.ep.dataptr.offset + a + min x.m (c - a) ≤ (mem p.ep.dataptr.base).length := by
      rw [hptr]
      change x.buf.offset + p.job.nbTrans.toNat + a + _ ≤ (mem x.buf.base).length
      rcases h.more with hmore | hnone <;> omega
    rw [map_getD_range hread, hptr]
    change ((mem x.buf.base).drop (x.buf.offset + p.job.nbTrans.toNat + a)).take _ = _
    have hsplit : x.buf.offset + p.job.nbTrans.toNat + a =
        x.buf.offset + (p.job.nbTrans.toNat + a) := by omega
    have hinside : p.job.nbTrans.toNat + a ≤ x.data.length := by
      rcases h.more with hmore | hnone <;> omega
    have htake : min x.m (c - a) ≤ (x.data.drop (p.job.nbTrans.toNat + a)).length := by
      rw [List.length_drop]
      omega
    rw [hsplit, ← List.drop_drop, ← hrest, List.drop_append_of_le_length hinside,
      List.take_append_of_le_length htake]

theorem UsbEp.live_of_nak {e : UsbEp} (h : e.busnack0 = true) : e.live = false := by
  rw [UsbEp.live, h]
  exact Bool.and_false _

/-- **A poll**: the first packet of what is left of the chunk, after which the rest of it is on
the bank, or the interrupt is pending. -/
theorem Pipe.Chunk.collect {p : Pipe} {c a : ℕ} (h : p.Chunk x c a) (hnak : p.ep.busnack0 = false)
    (hdone : p.ep.trncompl0 = false) :
    let left := (x.data.drop (p.job.nbTrans.toNat + a)).take (c - a)
    (p.collect.Chunk x c (a + x.m) ∧ p.collect.ep.busnack0 = false ∧
        p.collect.ep.trncompl0 = false ∧
        packets x.m (c - a) left = left.take x.m :: packets x.m (c - (a + x.m))
          ((x.data.drop (p.job.nbTrans.toNat + (a + x.m))).take (c - (a + x.m)))) ∨
      p.collect.Transfers x ∧ p.collect.ep.busnack0 = true ∧ p.collect.ep.trncompl0 = true ∧
        p.collect.ep.auxdata.toNat = c ∧ packets x.m (c - a) left = [left.take x.m] := by
  intro left
  obtain ⟨hstart, hlen⟩ := h.packet
  have hm : 0 < x.m := h.size ▸ packetSize_pos p.ep
  have hbound := h.bound
  have hleft : left.length = c - a := by
    rw [List.length_take, List.length_drop]
    rcases h.more with hmore | hnone <;> omega
  have hlive : p.ep.live = true := by
    rw [UsbEp.live, h.enabled, h.unhalted, hnak]
    rfl
  have hcalls {ep : UsbEp} : ({ p with ep := ep }.note (.received p.packetIn)).callbacks =
      x.callbacks := (List.countP_cons_of_neg Bool.false_ne_true).trans h.callbacks
  rw [Pipe.collect, if_pos hlive, UsbEp.afterPacket, hstart, hlen, h.cnt]
  by_cases hmore : x.m < c - a
  · left
    have haux : (BitVec.ofNat 16 (a + x.m)).toNat = a + x.m := by
      have hsmall := h.small
      rw [BitVec.toNat_ofNat, Nat.mod_eq_of_lt (by omega)]
    rw [Nat.min_eq_left (by omega), if_pos (by omega)]
    refine ⟨⟨⟨h.busy, h.buf, h.bufSize, h.callTrans, h.enabled, h.unhalted, h.chunks, h.size, hcalls⟩,
      hbound, h.small, h.cnt, haux, Nat.dvd_add h.whole (Nat.dvd_refl _), Or.inl (by omega),
      h.dataptr⟩, hnak, hdone, ?_⟩
    have hdrop : left.drop x.m =
        (x.data.drop (p.job.nbTrans.toNat + (a + x.m))).take (c - (a + x.m)) := by
      rw [List.drop_take, List.drop_drop, Nat.sub_sub, Nat.add_assoc]
    rw [packets_of_more hm (by omega) hmore, hdrop, Nat.sub_sub]
  · right
    rw [Nat.min_eq_right (by omega), if_neg (by rcases h.more with hmore | hnone <;> omega)]
    refine ⟨⟨h.busy, h.buf, h.bufSize, h.callTrans, h.enabled, h.unhalted, h.chunks, h.size, hcalls⟩,
      rfl, rfl, h.cnt, ?_⟩
    rw [packets_eq hm, if_pos (Or.inr (by omega))]

/-- The host collects. -/
theorem Firmware.Pumping.collect (h : s.Pumping x all ps) (hmem : x.data <+: mem.bytesAt x.buf) :
    (s.withPipe s.pipe.collect).Pumping x all
      (ps ++ if s.pipe.ep.live then [s.pipe.ep.nextPacket mem] else []) := by
  have hidle (hnak : s.pipe.ep.busnack0 = true) : (s.withPipe s.pipe.collect).Pumping x all
      (ps ++ if s.pipe.ep.live then [s.pipe.ep.nextPacket mem] else []) := by
    rw [Pipe.collect, UsbEp.live_of_nak hnak, if_neg Bool.false_ne_true,
      if_neg Bool.false_ne_true, Firmware.withPipe_pipe, List.append_nil]
    exact h
  cases h with
  | sent _ hnak _ _ _ => exact hidle hnak
  | done _ hnak _ _ _ => exact hidle hnak
  | armed c a hchunk hnak hdone hall =>
    have hlive : s.pipe.ep.live = true := by
      rw [UsbEp.live, hchunk.enabled, hchunk.unhalted, hnak]
      rfl
    have hnb : s.pipe.collect.job = s.pipe.job := by
      rw [Pipe.collect, if_pos hlive]
      rfl
    rw [if_pos hlive, hchunk.nextPacket hmem]
    rcases hchunk.collect hnak hdone with
      ⟨hchunk', hnak', hdone', hrest⟩ | ⟨htransfers, hnak', hdone', haux, hlast⟩
    · refine .armed c (a + x.m) ?_ ?_ ?_ ?_
      · rw [Firmware.pipe_withPipe]
        exact hchunk'
      · rw [Firmware.pipe_withPipe]
        exact hnak'
      · rw [Firmware.pipe_withPipe]
        exact hdone'
      · rw [Firmware.pipe_withPipe, hnb, List.append_assoc, List.singleton_append, ← List.cons_append,
          ← hrest]
        exact hall
    · refine .sent ?_ ?_ ?_ ?_ ?_
      · rw [Firmware.pipe_withPipe]
        exact htransfers
      · rw [Firmware.pipe_withPipe]
        exact hnak'
      · rw [Firmware.pipe_withPipe]
        exact hdone'
      · rw [Firmware.pipe_withPipe, hnb, haux]
        exact hchunk.bound
      · rw [Firmware.pipe_withPipe, hnb, haux, List.append_assoc, ← hlast]
        exact hall

/-- What an interrupt finds: the job as it is, with the flag acknowledged -/
theorem Pipe.Transfers.ack {p : Pipe} (h : p.Transfers x) :
    { p with ep := uddEndpointAckTransferComplete p.ep }.Transfers x :=
  ⟨h.busy, h.buf, h.bufSize, h.callTrans, h.enabled, h.unhalted, h.chunks, h.size, h.callbacks⟩

/-- The transfer goes on, or is over. -/
theorem pumping_transComplet {p : Pipe} (h : p.Transfers x)
    (hnak : p.ep.busnack0 = true ∨ p.job.nbTrans.toNat + p.ep.auxdata.toNat ≠ x.data.length ∨
      p.job.bShortpacket = true)
    (hflag : p.ep.trncompl0 = false)
    (hsent : p.job.nbTrans.toNat + p.ep.auxdata.toNat ≤ x.data.length)
    (hall : ps ++ transfer x.m p.job.bShortpacket
      (x.data.drop (p.job.nbTrans.toNat + p.ep.auxdata.toNat)) = all) :
    (s.withPipe p.transComplet).Pumping x all ps := by
  rcases Pipe.transComplet_cases h hsent with
    ⟨c, hchunk, hnb, hrest, hrelease, hack⟩ | ⟨hnone, hend, hover⟩
  · refine .armed c 0 ?_ ?_ ?_ ?_
    · rw [Firmware.pipe_withPipe]
      exact hchunk
    · rw [Firmware.pipe_withPipe]
      exact hrelease
    · rw [Firmware.pipe_withPipe, hack]
      exact hflag
    · rw [Firmware.pipe_withPipe, Nat.sub_zero, Nat.add_zero, ← hrest, hnb]
      exact hall
  · have hnak' : p.ep.busnack0 = true := by
      rcases hnak with hnak | hmore | hclose
      · exact hnak
      · exact absurd hend hmore
      · exact absurd hnone (transfer_ne_nil (Or.inl hclose))
    rw [hnone, List.append_nil] at hall
    obtain ⟨hidle, hep, hcalls⟩ := Pipe.finish_busy
      (p := { p with job := { p.job with nbTrans := p.job.nbTrans + p.ep.auxdata } }) h.busy .ok
    have hbefore : p.callbacks + p.job.callTrans.toList.length =
        x.callbacks + x.callback.toList.length := by rw [h.callbacks, h.callTrans]
    rw [hover, Pipe.completed]
    refine .done ?_ ?_ ?_ ?_ hall
    · rw [Firmware.pipe_withPipe]
      exact hidle
    · rw [Firmware.pipe_withPipe, hep]
      exact hnak'
    · rw [Firmware.pipe_withPipe, hep]
      exact hflag
    · rw [Firmware.pipe_withPipe]
      exact hcalls.trans hbefore

/-- The interrupt runs. -/
theorem Firmware.Pumping.transferComplete (h : s.Pumping x all ps) :
    (s.withPipe s.pipe.transferComplete).Pumping x all ps := by
  have hidle (hflag : s.pipe.ep.trncompl0 = false) :
      (s.withPipe s.pipe.transferComplete).Pumping x all ps := by
    rw [Pipe.transferComplete, hflag, if_neg Bool.false_ne_true, Firmware.withPipe_pipe]
    exact h
  cases h with
  | armed c a _ _ hflag _ => exact hidle hflag
  | done _ _ hflag _ _ => exact hidle hflag
  | sent htransfers hnak hflag hsent hall =>
    rw [Pipe.transferComplete, hflag, if_pos rfl]
    exact pumping_transComplet htransfers.ack (Or.inl hnak) rfl hsent hall

/-- **The step lemma** -/
theorem Firmware.Pumping.step (h : s.Pumping x all ps) (hmem : x.data <+: mem.bytesAt x.buf)
    {e : Event} (he : e.pumps) {s' : Firmware} (hstep : device.step s e = .ok s') :
    s'.Pumping x all (ps ++ wireSent mem ⟨s, e, s'⟩) := by
  cases e with
  | collect =>
    obtain rfl : hostCollect s = s' := Except.ok.inj hstep
    rw [hostCollect_eq]
    exact h.collect hmem
  | transferComplete =>
    have hrun : usbTrncomplVect s = .ok s' := hstep
    rw [usbTrncomplVect_eq] at hrun
    obtain rfl := Except.ok.inj hrun
    have hnone : wireSent mem ⟨s, .transferComplete, s.withPipe s.pipe.transferComplete⟩ = [] := rfl
    rw [hnone, List.append_nil]
    exact h.transferComplete
  | sof _ | reset | setup _ | ctrlIn | ctrlOut _ | underflow | overflow | unstall => exact he.elim

/-- Serving the endpoint does not fault. -/
theorem pumps_ok {e : Event} (he : e.pumps) (s : Firmware) : ∃ s', device.step s e = .ok s' := by
  cases e with
  | collect => exact ⟨_, rfl⟩
  | transferComplete => exact ⟨_, usbTrncomplVect_eq s⟩
  | sof _ | reset | setup _ | ctrlIn | ctrlOut _ | underflow | overflow | unstall => exact he.elim

theorem wirePackets_cons {s s' : Firmware} {e : Event} (hs : device.step s e = .ok s')
    (es : List Event) :
    wirePackets mem s (e :: es) = wireSent mem ⟨s, e, s'⟩ ++ wirePackets mem s' es := by
  rw [wirePackets, Machine.transitions_cons_of_ok hs, List.flatMap_cons]
  rfl

/-- **The run lemma** -/
theorem Firmware.Pumping.run (hmem : x.data <+: mem.bytesAt x.buf) {es : List Event}
    (hes : ∀ e ∈ es, e.pumps) (h : s.Pumping x all ps) :
    ∃ s', device.run s es = .ok s' ∧ s'.Pumping x all (ps ++ wirePackets mem s es) := by
  refine Machine.observe_run (f := wireSent mem) (fun ps s e he h => ?_) hes h
  obtain ⟨s', hs⟩ := pumps_ok he s
  exact ⟨s', hs, h.step hmem he hs⟩

/-- The host never gets anything but the beginning of the transfer. -/
theorem Firmware.Pumping.isPrefix (h : s.Pumping x all ps) : ps <+: all := by
  cases h with
  | armed c a _ _ _ hall => exact ⟨_, hall⟩
  | sent _ _ _ _ hall => exact ⟨_, hall⟩
  | done _ _ _ _ hall => exact hall ▸ List.prefix_refl ps

/-- Once the job has ended, the host has got all of it. -/
theorem Firmware.Pumping.all_of_idle (h : s.Pumping x all ps)
    (hidle : (s.job epInJob).busy = false) : ps = all := by
  cases h with
  | armed c a hchunk _ _ _ => exact absurd (hchunk.busy.symm.trans hidle) Bool.noConfusion
  | sent htransfers _ _ _ _ => exact absurd (htransfers.busy.symm.trans hidle) Bool.noConfusion
  | done _ _ _ _ hall => exact hall

end Steps

/-! ## Completion -/

theorem Pipe.transComplet_trncompl0 (p : Pipe) :
    p.transComplet.ep.trncompl0 = p.ep.trncompl0 := by
  simp only [transComplet]
  split
  · rfl
  · split
    · rfl
    · simp only [finish]
      split
      · split
        · rfl
        · rfl
      · rfl

/-- The interrupt acknowledges its flag. -/
theorem Pipe.transferComplete_trncompl0 (p : Pipe) : p.transferComplete.ep.trncompl0 = false := by
  rw [transferComplete]
  split
  · exact transComplet_trncompl0 _
  · next hflag => exact Bool.eq_false_of_not_eq_true hflag

/-- The host collects, the interrupt runs, and so on. -/
def pumpRounds (n : ℕ) : List Event := (List.replicate n [.collect, .transferComplete]).flatten

theorem pumpRounds_succ (n : ℕ) :
    pumpRounds (n + 1) = .collect :: .transferComplete :: pumpRounds n := rfl

theorem pumps_of_mem_rounds {n : ℕ} {e : Event} (he : e ∈ pumpRounds n) : e.pumps := by
  obtain ⟨round, hround, he⟩ := List.mem_flatten.mp he
  rw [List.eq_of_mem_replicate hround] at he
  rcases List.mem_cons.mp he with rfl | he
  · trivial
  · obtain rfl := List.mem_singleton.mp he
    trivial

section Completion

variable {mem : Memory} {x : InTransfer} {all ps : List (List Byte)} {s : Firmware}

/-- Nothing more happens once the transfer has completed. -/
theorem run_rounds_of_quiet (hnak : s.pipe.ep.busnack0 = true)
    (hflag : s.pipe.ep.trncompl0 = false) (n : ℕ) : device.run s (pumpRounds n) = .ok s := by
  have hcollect : device.step s .collect = .ok s := by
    have hrun : device.step s .collect = .ok (hostCollect s) := rfl
    rw [hrun, hostCollect_eq, Pipe.collect, UsbEp.live_of_nak hnak, if_neg Bool.false_ne_true,
      Firmware.withPipe_pipe]
  have hcomplete : device.step s .transferComplete = .ok s := by
    have hrun : device.step s .transferComplete = usbTrncomplVect s := rfl
    rw [hrun, usbTrncomplVect_eq, Pipe.transferComplete, hflag, if_neg Bool.false_ne_true,
      Firmware.withPipe_pipe]
  induction n with
  | zero => rfl
  | succ n ih =>
    rw [pumpRounds_succ, Machine.run_cons_of_ok hcollect, Machine.run_cons_of_ok hcomplete, ih]

/-- Each round hands out a packet, until the transfer has completed. -/
theorem Firmware.Pumping.rounds (h : s.Pumping x all ps) (hmem : x.data <+: mem.bytesAt x.buf)
    (hflag : s.pipe.ep.trncompl0 = false) (n : ℕ) :
    ∃ s', device.run s (pumpRounds n) = .ok s' ∧
      (s'.pipe.job.busy = false ∨
        ps.length + n ≤ (ps ++ wirePackets mem s (pumpRounds n)).length) := by
  induction n generalizing s ps with
  | zero => exact ⟨s, rfl, Or.inr (Nat.le_of_eq (congrArg List.length (List.append_nil ps)).symm)⟩
  | succ n ih =>
    have hcollect : device.step s .collect = .ok (s.withPipe s.pipe.collect) :=
      congrArg _ (hostCollect_eq s)
    have hafter := h.collect hmem
    have hsent : wireSent mem ⟨s, .collect, s.withPipe s.pipe.collect⟩ =
        if s.pipe.ep.live then [s.pipe.ep.nextPacket mem] else [] := rfl
    generalize s.withPipe s.pipe.collect = t at hcollect hafter hsent
    have hcomplete : device.step t .transferComplete = .ok (t.withPipe t.pipe.transferComplete) :=
      usbTrncomplVect_eq t
    have hnone : wireSent mem ⟨t, .transferComplete, t.withPipe t.pipe.transferComplete⟩ = [] := rfl
    have hquiet : (t.withPipe t.pipe.transferComplete).pipe.ep.trncompl0 = false := by
      rw [Firmware.pipe_withPipe]
      exact Pipe.transferComplete_trncompl0 _
    obtain ⟨s', hs', hmore⟩ := ih hafter.transferComplete hquiet
    cases h with
    | sent _ _ hpending _ _ => exact absurd (hpending.symm.trans hflag) Bool.noConfusion
    | done hidle hnak _ _ _ => exact ⟨s, run_rounds_of_quiet hnak hflag (n + 1), Or.inl hidle⟩
    | armed c a hchunk hnak _ _ =>
      have hlive : s.pipe.ep.live = true := by
        rw [UsbEp.live, hchunk.enabled, hchunk.unhalted, hnak]
        rfl
      rw [hlive, if_pos rfl] at hsent hmore
      refine ⟨s', ?_, hmore.imp id fun hlen => ?_⟩
      · rw [pumpRounds_succ, Machine.run_cons_of_ok hcollect, Machine.run_cons_of_ok hcomplete,
          hs']
      · rw [pumpRounds_succ, wirePackets_cons hcollect, wirePackets_cons hcomplete, hsent, hnone,
          List.nil_append, ← List.append_assoc]
        rw [List.length_append, List.length_singleton] at hlen
        omega

end Completion

/-! ## Callers of `udd_ep_run` -/

section Callers

variable {mem : Memory} {s : Firmware} {ep : Byte} {data : List Byte} {buf : Ptr}

/-- An endpoint `udd_ep_alloc` has allocated hands out a chunk packet by packet. -/
theorem chunks_uddEpAlloc (h : IsEpIn ep) {bmAttributes : Byte} {maxEndpointSize : Word}
    {s' : Firmware} (halloc : uddEpAlloc ep bmAttributes maxEndpointSize s = .ok (true, s')) :
    (s'.ctrl epInCtrl).Chunks := by
  simp only [uddEpAlloc, uddEpInit, h.getCtrl, ok_bind, pure_eq_ok] at halloc
  split at halloc
  · cases halloc
  · split at halloc
    · next hlargest =>
      cases halloc
      exact .inr (packetSize_of_size1023 hlargest.2)
    · cases halloc
      refine .inl ?_
      rw [Firmware.ctrl_modifyCtrl]
      rfl

/-- EP 0x81 can take a transfer. -/
structure Firmware.EpReady (s : Firmware) : Prop where
  enabled : uddEndpointIsEnable (s.ctrl epInCtrl) = true
  unhalted : (s.ctrl epInCtrl).halted = false
  /-- it was allocated by `udd_ep_alloc` -/
  chunks : (s.ctrl epInCtrl).Chunks
  /-- there is no job -/
  idle : (s.job epInJob).busy = false
  /-- no interrupt is pending -/
  quiet : (s.ctrl epInCtrl).trncompl0 = false

/-- The transfer a call asks for -/
def Firmware.inTransfer (s : Firmware) (data : List Byte) (buf : Ptr)
    (callback : Option UddCallbackTrans) : InTransfer where
  data := data
  buf := buf
  m := (s.ctrl epInCtrl).packetSize
  callback := callback
  callbacks := s.pipe.callbacks

/-- `udd_ep_run` accepts the transfer and puts its first chunk on the bank. -/
theorem pumping_start (h : s.EpReady) (hep : IsEpIn ep) (buf : Ptr)
    (hlen : data.length < 2 ^ 16) (bShortpacket : Bool) (callback : Option UddCallbackTrans) :
    ∃ s', uddEpRun ep bShortpacket buf (BitVec.ofNat 16 data.length) callback s = .ok (true, s') ∧
      s'.Pumping (s.inTransfer data buf callback)
        (transfer (s.ctrl epInCtrl).packetSize (bShortpacket || data.isEmpty) data) [] ∧
      s'.pipe.ep.trncompl0 = false := by
  have haccepts : s.pipe.accepts = true := by
    have henabled : uddEndpointIsEnable s.pipe.ep = true := h.enabled
    have hunhalted : s.pipe.ep.halted = false := h.unhalted
    have hidle : s.pipe.job.busy = false := h.idle
    rw [UsbEp.halted] at hunhalted
    rw [Pipe.accepts, henabled, hunhalted, hidle]
    rfl
  have hsize : (BitVec.ofNat 16 data.length).toNat = data.length := by
    rw [BitVec.toNat_ofNat]
    exact Nat.mod_eq_of_lt hlen
  have hzero : (BitVec.ofNat 16 data.length == 0) = data.isEmpty := by
    rw [Bool.eq_iff_iff, beq_iff_eq, List.isEmpty_iff, ← BitVec.toNat_inj, hsize]
    exact List.length_eq_zero_iff
  refine ⟨_, by rw [uddEpRun_start hep, if_pos haccepts], ?_, ?_⟩
  swap
  · rw [Firmware.pipe_withPipe, Pipe.start, Pipe.transComplet_trncompl0]
    exact h.quiet
  refine pumping_transComplet (x := s.inTransfer data buf callback)
    ⟨rfl, rfl, hsize, rfl, h.enabled, h.unhalted, h.chunks, rfl, rfl⟩ ?_ h.quiet (Nat.zero_le _) ?_
  · -- an empty transfer is closed with an empty packet
    by_cases hempty : data = []
    · refine Or.inr (Or.inr ?_)
      change (bShortpacket || BitVec.ofNat 16 data.length == 0) = true
      rw [hzero, hempty]
      exact Bool.or_true _
    · refine Or.inr (Or.inl ?_)
      exact (List.length_pos_iff.mpr hempty).ne
  · change transfer _ (bShortpacket || BitVec.ofNat 16 data.length == 0) data = _
    rw [hzero]
    rfl

/-- **What a caller of `udd_ep_run` can rely on.** For any buffer, size of packets and
callback, and however the host polls and the interrupt is delayed: the host gets the
packets of the buffer, in order and without gaps or repetitions; and the callback is called
once, when the host has got all of them. -/
theorem bulkIn_transfers (h : s.EpReady) (hep : IsEpIn ep) (hmem : data <+: mem.bytesAt buf)
    (hlen : data.length < 2 ^ 16) (bShortpacket : Bool) (callback : Option UddCallbackTrans)
    {es : List Event} (hes : ∀ e ∈ es, e.pumps) :
    let all := transfer (s.ctrl epInCtrl).packetSize (bShortpacket || data.isEmpty) data
    ∃ s₁ s', uddEpRun ep bShortpacket buf (BitVec.ofNat 16 data.length) callback s =
        .ok (true, s₁) ∧ device.run s₁ es = .ok s' ∧ wirePackets mem s₁ es <+: all ∧
      ((s'.job epInJob).busy = true → s'.pipe.callbacks = s.pipe.callbacks) ∧
      ((s'.job epInJob).busy = false → wirePackets mem s₁ es = all ∧
        (wirePackets mem s₁ es).flatten = data ∧
        s'.pipe.callbacks = s.pipe.callbacks + callback.toList.length) := by
  intro all
  obtain ⟨s₁, hrun, hstart, _⟩ := pumping_start h hep buf hlen bShortpacket callback
  obtain ⟨s', hs', hpump⟩ := hstart.run hmem hes
  rw [List.nil_append] at hpump
  have hm : 0 < (s.ctrl epInCtrl).packetSize := packetSize_pos _
  refine ⟨s₁, s', hrun, hs', hpump.isPrefix, fun hbusy => ?_, fun hidle => ?_⟩
  · cases hpump with
    | armed c a hchunk _ _ _ => exact hchunk.callbacks
    | sent htransfers _ _ _ _ => exact htransfers.callbacks
    | done hidle _ _ _ _ => exact absurd (hbusy.symm.trans hidle) Bool.noConfusion
  · have hall := hpump.all_of_idle hidle
    refine ⟨hall, ?_, ?_⟩
    · rw [hall]
      exact flatten_transfer hm
    · cases hpump with
      | armed c a hchunk _ _ _ => exact absurd (hchunk.busy.symm.trans hidle) Bool.noConfusion
      | sent htransfers _ _ _ _ =>
        exact absurd (htransfers.busy.symm.trans hidle) Bool.noConfusion
      | done _ _ _ hcalls _ => exact hcalls

/-- **A host that polls gets all of it**: after as many rounds as there are packets, and one
more, the transfer has completed. -/
theorem bulkIn_completes (h : s.EpReady) (hep : IsEpIn ep) (hmem : data <+: mem.bytesAt buf)
    (hlen : data.length < 2 ^ 16) (bShortpacket : Bool) (callback : Option UddCallbackTrans) {n : ℕ}
    (hn : (transfer (s.ctrl epInCtrl).packetSize (bShortpacket || data.isEmpty) data).length < n) :
    ∃ s₁ s', uddEpRun ep bShortpacket buf (BitVec.ofNat 16 data.length) callback s =
        .ok (true, s₁) ∧ device.run s₁ (pumpRounds n) = .ok s' ∧
      (s'.job epInJob).busy = false ∧
      wirePackets mem s₁ (pumpRounds n) =
        transfer (s.ctrl epInCtrl).packetSize (bShortpacket || data.isEmpty) data := by
  obtain ⟨s₁, hrun, hstart, hflag⟩ := pumping_start h hep buf hlen bShortpacket callback
  obtain ⟨s', hs', hpump⟩ := hstart.run hmem fun e he => pumps_of_mem_rounds he
  obtain ⟨t, ht, hmore⟩ := hstart.rounds hmem hflag n
  obtain rfl : s' = t := Except.ok.inj (hs'.symm.trans ht)
  rw [List.nil_append] at hpump hmore
  have hidle : (s'.job epInJob).busy = false := by
    refine hmore.resolve_right fun hmany => ?_
    have hle := hpump.isPrefix.length_le
    rw [List.length_nil, Nat.zero_add] at hmany
    omega
  exact ⟨s₁, s', hrun, hs', hidle, hpump.all_of_idle hidle⟩

end Callers

/-- Two thousand bytes are two chunks. -/
def sevens : List Byte := List.replicate 2000 7

theorem sevens_fits : sevens.length < 2 ^ 16 := by
  rw [sevens, List.length_replicate]
  decide

theorem sevens_bytesAt : sevens <+: Memory.bytesAt (fun _ => sevens) ⟨.udiHidGenericReportIn, 0⟩ :=
  List.prefix_refl _

theorem enumerated_epReady :
    ∃ s, device.run Firmware.powerOn enumeration = .ok s ∧ s.EpReady :=
  ⟨_, rfl, by decide +kernel, by decide +kernel, .inl (by decide +kernel), by decide +kernel,
    by decide +kernel⟩

/-- Two packets, an interrupt routine that finds no flag, and a third packet. -/
theorem bulkIn_transfers_sevens :
    ∃ s s₁ s', device.run Firmware.powerOn enumeration = .ok s ∧
      uddEpRun udiHidGenericEpIn true ⟨.udiHidGenericReportIn, 0⟩ (BitVec.ofNat 16 sevens.length)
        none s = .ok (true, s₁) ∧
      device.run s₁ [.collect, .collect, .transferComplete, .collect] = .ok s' ∧
      wirePackets (fun _ => sevens) s₁ [.collect, .collect, .transferComplete, .collect] <+:
        transfer (s.ctrl epInCtrl).packetSize (true || sevens.isEmpty) sevens := by
  obtain ⟨s, hrun, hready⟩ := enumerated_epReady
  have hpumps : ∀ e ∈ [Event.collect, .collect, .transferComplete, .collect], e.pumps := by
    simp [Event.pumps]
  obtain ⟨s₁, s', hstart, hs', hprefix, _⟩ := bulkIn_transfers hready isEpIn_epIn sevens_bytesAt
    sevens_fits true none hpumps
  exact ⟨s, s₁, s', hrun, hstart, hs', hprefix⟩

theorem bulkIn_completes_sevens :
    ∃ s s₁ s' n, device.run Firmware.powerOn enumeration = .ok s ∧
      uddEpRun udiHidGenericEpIn false ⟨.udiHidGenericReportIn, 0⟩ (BitVec.ofNat 16 sevens.length)
        none s = .ok (true, s₁) ∧
      device.run s₁ (pumpRounds n) = .ok s' ∧ (s'.job epInJob).busy = false ∧
      wirePackets (fun _ => sevens) s₁ (pumpRounds n) =
        transfer (s.ctrl epInCtrl).packetSize (false || sevens.isEmpty) sevens := by
  obtain ⟨s, hrun, hready⟩ := enumerated_epReady
  obtain ⟨s₁, s', hstart, hs', hidle, hall⟩ := bulkIn_completes hready isEpIn_epIn sevens_bytesAt
    sevens_fits false none (Nat.lt_succ_self _)
  exact ⟨s, s₁, s', _, hrun, hstart, hs', hidle, hall⟩

end HidJoystick
