import HidJoystick.Device
import HidJoystick.Ram
import Mathlib.Algebra.Group.Nat.Defs
import Mathlib.Order.Interval.Set.Basic

/-!
# OUT endpoints

The other half of `udd_ep_run` and `udd_ep_trans_complet`: the host sends, and the driver fills
the buffer of a caller. The controller writes straight into that buffer as long as whole packets
fit; the rest of the buffer may be smaller than a packet, and is filled by way of
`udd_ep_out_cache_buffer`. No interface of this firmware has an OUT endpoint, so nothing here is
reached from `device`; `OutDriver` says where the two meet.

`OutPipe` is the endpoint with everything the driver and the controller use: the registers, the
job, and the memory by addresses, because where things are written is what matters here.

* `OutPipe.Safe`, `OutPipe.Safe.step` — the invariant of the registers and the job.
* `bulkOut_inside` — **no overflow**: whatever the host sends, and however transfers are started,
  aborted and halted, nothing is written but the buffers that were given to `udd_ep_run` and
  the cache buffer.
-/

namespace HidJoystick

/-- An OUT endpoint, its job and the memory. -/
structure OutPipe where
  /-- the entry in the endpoint table; its `DATAPTR` is an address here -/
  ep : UsbEp
  /-- `DATAPTR` -/
  dataptr : ℕ
  /-- the job; its buffer is an address here -/
  job : UddEpJob
  /-- `buf` -/
  buf : ℕ
  ram : Ram Byte
  /-- the calls of `call_trans`: status and size, the last call first -/
  calls : List (UddEpStatus × Word)

/-- What happens on an OUT endpoint. -/
inductive OutEvent : Type where
  /-- `udd_ep_alloc` -/
  | alloc (bmAttributes : Byte) (maxEndpointSize : Word) : OutEvent
  /-- `udd_ep_free` -/
  | free : OutEvent
  /-- `udd_ep_run` -/
  | run (bShortpacket : Bool) (buf : ℕ) (bufSize : Word) (callback : Option UddCallbackTrans) :
    OutEvent
  /-- `udd_ep_abort` -/
  | abort : OutEvent
  /-- `udd_ep_set_halt` -/
  | setHalt : OutEvent
  /-- `udd_ep_clear_halt` -/
  | clearHalt : OutEvent
  /-- the host sends a packet -/
  | receive (data : List Byte) : OutEvent
  /-- `USB_TRNCOMPL_vect`, for this endpoint -/
  | transferComplete : OutEvent
  deriving DecidableEq

namespace OutPipe

/-! ## The driver -/

/-- `udd_ep_trans_complet`, for an OUT endpoint. `cache` is the address of
`udd_ep_out_cache_buffer[ep - 1]`. -/
def transComplet (cache : ℕ) (p : OutPipe) : OutPipe :=
  let epSize := uddEpGetSize p.ep
  let nbTrans := p.ep.cnt
  let p :=
    if p.job.bUseOutCacheBuffer then
      { p with
        ram := p.ram.copy (p.buf + p.job.nbTrans.toNat) cache (p.job.bufSize % epSize).toNat }
    else p
  let total := p.job.nbTrans + nbTrans
  let p :=
    { p with
      job := { p.job with nbTrans := if p.job.bufSize < total then p.job.bufSize else total } }
  if nbTrans = p.ep.auxdata ∧ p.job.nbTrans ≠ p.job.bufSize then
    let nextTrans := p.job.bufSize - p.job.nbTrans
    let nextTrans :=
      if uddEndpointMaxTrans < nextTrans then uddEndpointMaxTrans - uddEndpointMaxTrans % epSize
      else nextTrans - nextTrans % epSize
    if nextTrans < epSize then
      { p with
        job := { p.job with bUseOutCacheBuffer := true }
        dataptr := cache
        ep := uddEndpointClearNACK0 { p.ep with cnt := 0, auxdata := epSize } }
    else
      { p with
        dataptr := p.buf + p.job.nbTrans.toNat
        ep := uddEndpointClearNACK0 { p.ep with cnt := 0, auxdata := nextTrans } }
  else if p.job.busy then
    { p with
      job := { p.job with busy := false }
      calls := if p.job.callTrans.isSome then (.ok, p.job.nbTrans) :: p.calls else p.calls }
  else p

/-- The endpoint takes a transfer: it is allocated, not halted and has no job. -/
def accepts (p : OutPipe) : Bool :=
  uddEndpointIsEnable p.ep && !p.ep.halted && !p.job.busy

/-- The job `udd_ep_run` registers -/
def newJob (bShortpacket : Bool) (bufSize : Word) (callback : Option UddCallbackTrans)
    (job : UddEpJob) : UddEpJob :=
  { job with
    busy := true
    bShortpacket := bShortpacket || bufSize == 0
    bUseOutCacheBuffer := false
    bufSize := bufSize
    nbTrans := 0
    callTrans := callback }

/-- `udd_ep_run`, for an OUT endpoint -/
def run (cache : ℕ) (bShortpacket : Bool) (buf : ℕ) (bufSize : Word)
    (callback : Option UddCallbackTrans) (p : OutPipe) : Bool × OutPipe :=
  if !p.accepts then (false, p)
  else
    let p := { p with job := newJob bShortpacket bufSize callback p.job, buf := buf }
    if p.ep.type = .isochronous ∧ bufSize % uddEpGetSize p.ep ≠ 0 then
      -- the buffer must be made of whole packets
      (false, { p with job := { p.job with busy := false } })
    else (true, transComplet cache { p with ep := { p.ep with cnt := 0, auxdata := 0 } })

/-- `udd_ep_abort` -/
def abort (p : OutPipe) : OutPipe :=
  let p := { p with ep := uddEndpointSetNACK0 p.ep }
  if p.job.busy then
    { p with
      job := { p.job with busy := false }
      calls := if p.job.callTrans.isSome then (.abort, p.ep.cnt) :: p.calls else p.calls }
  else p

/-- `udd_ep_alloc` -/
def alloc (bmAttributes : Byte) (maxEndpointSize : Word) (p : OutPipe) : OutPipe :=
  if uddEndpointIsEnable p.ep then p
  else
    let ep :=
      uddEndpointSetControl (usbEpTypeOfAttributes bmAttributes) (usbEpBufsizeOfSize maxEndpointSize)
        (uddEndpointClearStatus (uddEndpointDisable p.ep))
    { p with
      ep :=
        if ep.type = .isochronous ∧ uddEndpointGetSizeField ep = .size1023 then ep
        else uddEndpointSetMultipacket ep }

/-- A new endpoint takes a chunk of packets at a time. -/
theorem chunks_alloc {p : OutPipe} {bmAttributes : Byte} {maxEndpointSize : Word}
    (h : uddEndpointIsEnable p.ep = false) : (p.alloc bmAttributes maxEndpointSize).ep.Chunks := by
  simp only [alloc, h, Bool.false_eq_true, if_false]
  split
  · next hlargest => exact .inr (packetSize_of_size1023 hlargest.2)
  · exact .inl rfl

/-- `udd_ep_free` -/
def free (p : OutPipe) : OutPipe :=
  let p := p.abort
  { p with ep := uddEndpointDisable p.ep }

/-- `udd_ep_set_halt` -/
def setHalt (p : OutPipe) : OutPipe := abort { p with ep := uddEndpointEnableStall p.ep }

/-- `udd_ep_clear_halt`. A busy job is taken to be waiting for the halt to end. -/
def clearHalt (p : OutPipe) : Except Fault OutPipe :=
  let p := { p with ep := uddEndpointClearDtgl p.ep }
  if !p.ep.stall then .ok p
  else if p.job.busy then .error .callbackType
  else .ok { p with ep := uddEndpointDisableStall p.ep }

/-- `USB_TRNCOMPL_vect`, for this endpoint -/
def transferComplete (cache : ℕ) (p : OutPipe) : OutPipe :=
  if p.ep.trncompl0 then
    transComplet cache { p with ep := uddEndpointAckTransferComplete p.ep }
  else p

/-! ## The controller -/

/-- The controller takes a packet. Longer packets than the endpoint's are not for it. -/
def takes (data : List Byte) (p : OutPipe) : Bool := p.ep.live && data.length ≤ p.ep.packetSize

/-- **The host sends a packet**: the controller writes it to `DATAPTR`, after the `CNT` bytes it
has written there. With a packet that is not full, or with the last of the `AUXDATA` bytes it
was told to expect, it stops and raises the transfer-complete flag. Without multi-packet
transfers it stops with every packet. -/
def receive (data : List Byte) (p : OutPipe) : OutPipe :=
  if p.takes data then
    let cnt := p.ep.cnt + data.length
    let ends := !p.ep.multipkt || data.length < p.ep.packetSize || p.ep.auxdata ≤ cnt
    { p with
      ram := p.ram.store (p.dataptr + p.ep.cnt.toNat) data
      ep :=
        { p.ep with
          cnt := cnt
          busnack0 := ends
          trncompl0 := p.ep.trncompl0 || ends } }
  else p

/-- An OUT endpoint with the driver and the controller -/
def machine (cache : ℕ) : Machine OutPipe OutEvent Fault where
  step p
    | .alloc bmAttributes maxEndpointSize => .ok (p.alloc bmAttributes maxEndpointSize)
    | .free => .ok p.free
    | .run bShortpacket buf bufSize callback =>
      .ok (p.run cache bShortpacket buf bufSize callback).2
    | .abort => .ok p.abort
    | .setHalt => .ok p.setHalt
    | .clearHalt => p.clearHalt
    | .receive data => .ok (p.receive data)
    | .transferComplete => .ok (p.transferComplete cache)

end OutPipe

namespace OutPipe

/-! ## One interrupt -/

/-- The length of the next chunk: whole packets, as many as fit into what is left and the
controller takes. -/
theorem nextTrans_cases (e : UsbEp) (rest : Word) :
    let next := if uddEndpointMaxTrans < rest then
        uddEndpointMaxTrans - uddEndpointMaxTrans % uddEpGetSize e
      else rest - rest % uddEpGetSize e
    e.packetSize ∣ next.toNat ∧ next.toNat ≤ rest.toNat ∧ next.toNat ≤ 1023 ∧
      (next < uddEpGetSize e ↔ rest.toNat < e.packetSize) := by
  have hpos := packetSize_pos e
  have hle := (packetSize_bounds e).2
  have hsub (w : Word) : (w - w % uddEpGetSize e).toNat = w.toNat - w.toNat % e.packetSize := by
    have hmod : w % uddEpGetSize e ≤ w := by
      rw [BitVec.le_def, BitVec.toNat_umod]
      exact Nat.mod_le _ _
    rw [BitVec.toNat_sub_of_le hmod, BitVec.toNat_umod]
    rfl
  have hlt (w : Word) : w.toNat - w.toNat % e.packetSize < e.packetSize ↔ w.toNat < e.packetSize := by
    constructor
    · intro h
      by_contra hge
      have hmod := Nat.mod_lt w.toNat hpos
      have hdvd : e.packetSize ∣ w.toNat - w.toNat % e.packetSize := Nat.dvd_sub_mod w.toNat
      exact absurd (Nat.le_of_dvd (by omega) hdvd) (by omega)
    · intro h
      omega
  intro next
  rw [BitVec.lt_def]
  by_cases hbig : uddEndpointMaxTrans < rest
  · have hnext : next.toNat = 1023 - 1023 % e.packetSize := by
      have heq : next = uddEndpointMaxTrans - uddEndpointMaxTrans % uddEpGetSize e := if_pos hbig
      rw [heq, hsub]
      rfl
    have hrest : 1023 < rest.toNat := BitVec.lt_def.mp hbig
    have hmax : 1023 - 1023 % e.packetSize < e.packetSize ↔ 1023 < e.packetSize :=
      hlt uddEndpointMaxTrans
    rw [hnext]
    refine ⟨Nat.dvd_sub_mod 1023, by omega, by omega, ?_⟩
    exact iff_of_false (fun h => by have := hmax.mp h; omega) (by omega)
  · have hnext : next.toNat = rest.toNat - rest.toNat % e.packetSize := by
      have heq : next = rest - rest % uddEpGetSize e := if_neg hbig
      rw [heq, hsub]
    have hrest : rest.toNat ≤ 1023 := Nat.le_of_not_lt fun h => hbig (BitVec.lt_def.mpr h)
    rw [hnext]
    exact ⟨Nat.dvd_sub_mod rest.toNat, by omega, by omega, hlt rest⟩

/-- What has been received is counted, and copied out of the cache buffer. -/
def counted (cache : ℕ) (p : OutPipe) : OutPipe :=
  let total := p.job.nbTrans + p.ep.cnt
  { p with
    ram :=
      if p.job.bUseOutCacheBuffer then
        p.ram.copy (p.buf + p.job.nbTrans.toNat) cache (p.job.bufSize % uddEpGetSize p.ep).toNat
      else p.ram
    job := { p.job with nbTrans := if p.job.bufSize < total then p.job.bufSize else total } }

/-- The next chunk is asked for. -/
def request (cache : ℕ) (p : OutPipe) : OutPipe :=
  let rest := p.job.bufSize - p.job.nbTrans
  let next :=
    if uddEndpointMaxTrans < rest then
      uddEndpointMaxTrans - uddEndpointMaxTrans % uddEpGetSize p.ep
    else rest - rest % uddEpGetSize p.ep
  if next < uddEpGetSize p.ep then
    { p with
      job := { p.job with bUseOutCacheBuffer := true }
      dataptr := cache
      ep := uddEndpointClearNACK0 { p.ep with cnt := 0, auxdata := uddEpGetSize p.ep } }
  else
    { p with
      dataptr := p.buf + p.job.nbTrans.toNat
      ep := uddEndpointClearNACK0 { p.ep with cnt := 0, auxdata := next } }

/-- The job is complete. -/
def finish (p : OutPipe) : OutPipe :=
  if p.job.busy then
    { p with
      job := { p.job with busy := false }
      calls := if p.job.callTrans.isSome then (.ok, p.job.nbTrans) :: p.calls else p.calls }
  else p

/-- **One interrupt**: count, and then go on or finish. -/
theorem transComplet_eq (cache : ℕ) (p : OutPipe) :
    p.transComplet cache =
      if p.ep.cnt = p.ep.auxdata ∧ (p.counted cache).job.nbTrans ≠ p.job.bufSize then
        (p.counted cache).request cache
      else (p.counted cache).finish := by
  rcases hcache : p.job.bUseOutCacheBuffer with _ | _
  · simp only [transComplet, counted, request, finish, hcache, if_false, Bool.false_eq_true]
  · simp only [transComplet, counted, request, finish, hcache, if_true]

/-- What is counted never exceeds the buffer. -/
theorem toNat_counted (cache : ℕ) {p : OutPipe}
    (h : p.job.nbTrans.toNat + p.ep.cnt.toNat < 2 ^ 16) :
    (p.counted cache).job.nbTrans.toNat =
      min (p.job.nbTrans.toNat + p.ep.cnt.toNat) p.job.bufSize.toNat := by
  have hsum : (p.job.nbTrans + p.ep.cnt).toNat = p.job.nbTrans.toNat + p.ep.cnt.toNat := by
    rw [BitVec.toNat_add, Nat.mod_eq_of_lt h]
  change (if p.job.bufSize < p.job.nbTrans + p.ep.cnt then p.job.bufSize
    else p.job.nbTrans + p.ep.cnt).toNat = _
  split
  · next hlt =>
    rw [BitVec.lt_def, hsum] at hlt
    exact (Nat.min_eq_right (Nat.le_of_lt hlt)).symm
  · next hle =>
    rw [BitVec.lt_def, hsum] at hle
    rw [hsum]
    exact (Nat.min_eq_left (Nat.le_of_not_lt hle)).symm

/-! ## The invariant -/

/-- What is known of a chunk that is on the bank, or whose interrupt is pending. -/
structure Chunk (p : OutPipe) : Prop where
  whole : p.ep.packetSize ∣ p.ep.auxdata.toNat
  bound : p.ep.auxdata.toNat ≤ 1023
  received : p.ep.cnt.toNat ≤ 1023
  /-- the part of the buffer that has been filled is made of whole packets -/
  aligned : p.ep.packetSize ∣ p.job.nbTrans.toNat ∨ p.job.nbTrans = p.job.bufSize
  /-- the cache buffer takes one packet, the last one -/
  cached : p.job.bUseOutCacheBuffer = true →
    p.ep.auxdata.toNat = p.ep.packetSize ∧ p.ep.packetSize ≤ 64 ∧
      p.job.nbTrans.toNat + p.job.bufSize.toNat % p.ep.packetSize = p.job.bufSize.toNat
  isochronous : p.ep.type = .isochronous → p.ep.packetSize ∣ p.job.bufSize.toNat

/-- The controller may write what it has been told to, and one packet at least. -/
structure Bank (R : Set ℕ) (p : OutPipe) : Prop where
  whole : p.ep.packetSize ∣ p.ep.cnt.toNat
  more : p.ep.cnt.toNat < p.ep.auxdata.toNat ∨ p.ep.cnt.toNat = 0
  inside : Set.Ico p.dataptr (p.dataptr + max p.ep.auxdata.toNat p.ep.packetSize) ⊆ R

/-- **The invariant**: `R` is what may be written. -/
structure Safe (cache : ℕ) (R : Set ℕ) (p : OutPipe) : Prop where
  cacheBuffer : Set.Ico cache (cache + 64) ⊆ R
  buffer : Set.Ico p.buf (p.buf + p.job.bufSize.toNat) ⊆ R
  fits : p.job.bufSize.toNat + 1023 < 2 ^ 16
  le : p.job.nbTrans.toNat ≤ p.job.bufSize.toNat
  /-- a halted endpoint does nothing, also later -/
  quiet : p.ep.halted = true → p.ep.busnack0 = true ∧ p.ep.trncompl0 = false
  chunk : uddEndpointIsEnable p.ep = true → p.ep.busnack0 = false ∨ p.ep.trncompl0 = true → p.Chunk
  bank : uddEndpointIsEnable p.ep = true → p.ep.busnack0 = false → p.Bank R
  /-- the copy out of the cache buffer -/
  copy : p.ep.trncompl0 = true → p.job.bUseOutCacheBuffer = true →
    p.ep.packetSize ≤ 64 ∧
      p.job.nbTrans.toNat + p.job.bufSize.toNat % p.ep.packetSize ≤ p.job.bufSize.toNat

/-- The packets of an endpoint that is neither isochronous nor halted fit into the cache buffer:
the highest bit of the size field is the halt. -/
theorem packetSize_small {e : UsbEp} (h : e.halted = false) :
    e.type = .isochronous ∨ e.packetSize ≤ 64 := by
  rcases htype : decide (e.type = .isochronous) with _ | _
  · right
    have hstall : e.stall = false := by
      have hne : e.type ≠ .isochronous := of_decide_eq_false htype
      rw [UsbEp.halted, bne_iff_ne.mpr hne, Bool.true_and] at h
      exact h
    rw [UsbEp.packetSize, uddEpGetSize, uddEndpointGetSizeField, hstall]
    generalize e.bufsize = bufsize
    revert bufsize
    decide
  · exact Or.inl (of_decide_eq_true htype)

variable {cache : ℕ} {R : Set ℕ} {p : OutPipe}

/-- **The next chunk**: whole packets that go straight into the buffer, or the last packet, which
goes into the cache buffer. -/
theorem request_cases (cache : ℕ) (hmore : p.job.nbTrans.toNat < p.job.bufSize.toNat)
    (haligned : p.ep.packetSize ∣ p.job.nbTrans.toNat) :
    (∃ next : Word, p.ep.packetSize ≤ next.toNat ∧ p.ep.packetSize ∣ next.toNat ∧
        next.toNat ≤ 1023 ∧ p.job.nbTrans.toNat + next.toNat ≤ p.job.bufSize.toNat ∧
        p.request cache =
          { p with
            dataptr := p.buf + p.job.nbTrans.toNat
            ep := uddEndpointClearNACK0 { p.ep with cnt := 0, auxdata := next } }) ∨
      (p.job.bufSize.toNat - p.job.nbTrans.toNat < p.ep.packetSize ∧
        p.job.nbTrans.toNat + p.job.bufSize.toNat % p.ep.packetSize = p.job.bufSize.toNat ∧
        p.request cache =
          { p with
            job := { p.job with bUseOutCacheBuffer := true }
            dataptr := cache
            ep := uddEndpointClearNACK0 { p.ep with cnt := 0, auxdata := uddEpGetSize p.ep } }) := by
  have hle : p.job.nbTrans ≤ p.job.bufSize := BitVec.le_def.mpr (Nat.le_of_lt hmore)
  have hrest : (p.job.bufSize - p.job.nbTrans).toNat = p.job.bufSize.toNat - p.job.nbTrans.toNat :=
    BitVec.toNat_sub_of_le hle
  obtain ⟨hwhole, hfits, hbound, hshort⟩ :=
    nextTrans_cases p.ep (p.job.bufSize - p.job.nbTrans)
  rw [hrest] at hfits hshort
  simp only [request]
  generalize (if uddEndpointMaxTrans < p.job.bufSize - p.job.nbTrans then
    uddEndpointMaxTrans - uddEndpointMaxTrans % uddEpGetSize p.ep
    else p.job.bufSize - p.job.nbTrans - (p.job.bufSize - p.job.nbTrans) % uddEpGetSize p.ep)
    = next at hwhole hfits hbound hshort
  by_cases hlast : next < uddEpGetSize p.ep
  · right
    have hleft := hshort.mp hlast
    obtain ⟨k, hk⟩ := haligned
    have hsplit : p.job.bufSize.toNat =
        p.job.bufSize.toNat - p.job.nbTrans.toNat + p.ep.packetSize * k := by omega
    have hmod : p.job.bufSize.toNat % p.ep.packetSize =
        p.job.bufSize.toNat - p.job.nbTrans.toNat := by
      rw [hsplit, Nat.add_mul_mod_self_left, Nat.mod_eq_of_lt hleft]
      omega
    exact ⟨hleft, by omega, if_pos hlast⟩
  · left
    have hlong : p.ep.packetSize ≤ next.toNat := Nat.le_of_not_lt fun h => hlast (BitVec.lt_def.mpr h)
    exact ⟨next, hlong, hwhole, hbound, by omega, if_neg hlast⟩

/-- The next chunk may be written. -/
theorem request_placed (hcache : Set.Ico cache (cache + 64) ⊆ R)
    (hbuffer : Set.Ico p.buf (p.buf + p.job.bufSize.toNat) ⊆ R)
    (hmore : p.job.nbTrans.toNat < p.job.bufSize.toNat)
    (haligned : p.ep.packetSize ∣ p.job.nbTrans.toNat)
    (hunused : p.job.bUseOutCacheBuffer = false)
    (hsmall : p.ep.type = .isochronous ∨ p.ep.packetSize ≤ 64)
    (hiso : p.ep.type = .isochronous → p.ep.packetSize ∣ p.job.bufSize.toNat) :
    (p.request cache).Chunk ∧ (p.request cache).Bank R := by
  have hsize := (packetSize_bounds p.ep).2
  rcases request_cases cache hmore haligned with
    ⟨next, hlong, hwhole, hbound, hfits, heq⟩ | ⟨hleft, hrest, heq⟩
  · rw [heq]
    refine ⟨⟨hwhole, hbound, Nat.zero_le _, Or.inl haligned,
      fun huse => absurd (hunused.symm.trans huse) Bool.false_ne_true, hiso⟩,
      ⟨Nat.dvd_zero _, Or.inr rfl, ?_⟩⟩
    change Set.Ico (p.buf + p.job.nbTrans.toNat)
      (p.buf + p.job.nbTrans.toNat + max next.toNat p.ep.packetSize) ⊆ R
    rw [Nat.max_eq_left hlong]
    exact (Set.Ico_subset_Ico (by omega) (by omega)).trans hbuffer
  · rw [heq]
    -- less than a packet is left, which only happens where the cache buffer is large enough
    have hsmall' : p.ep.packetSize ≤ 64 := by
      rcases hsmall with htype | hsmall
      · have hdvd := Nat.dvd_sub (hiso htype) haligned
        exact absurd (Nat.le_of_dvd (by omega) hdvd) (by omega)
      · exact hsmall
    refine ⟨⟨Nat.dvd_refl _, hsize, Nat.zero_le _, Or.inl haligned, fun _ => ⟨rfl, hsmall', hrest⟩,
      hiso⟩, ⟨Nat.dvd_zero _, Or.inr rfl, ?_⟩⟩
    change Set.Ico cache (cache + max p.ep.packetSize p.ep.packetSize) ⊆ R
    rw [Nat.max_self]
    exact (Set.Ico_subset_Ico_right (by omega)).trans hcache

/-- What is counted, whatever has been received -/
theorem counted_le (cache : ℕ) (p : OutPipe) :
    (p.counted cache).job.nbTrans.toNat ≤ p.job.bufSize.toNat := by
  change (if p.job.bufSize < p.job.nbTrans + p.ep.cnt then p.job.bufSize
    else p.job.nbTrans + p.ep.cnt).toNat ≤ _
  split
  · exact Nat.le_refl _
  · next hle => exact Nat.le_of_not_lt fun h => hle (BitVec.lt_def.mpr h)

/-- An interrupt that has counted whole packets leaves them counted. -/
theorem Chunk.counted (h : p.Chunk) (cache : ℕ) (hfits : p.job.bufSize.toNat + 1023 < 2 ^ 16)
    (hle : p.job.nbTrans.toNat ≤ p.job.bufSize.toNat) (hcnt : p.ep.packetSize ∣ p.ep.cnt.toNat) :
    p.ep.packetSize ∣ (p.counted cache).job.nbTrans.toNat ∨
      (p.counted cache).job.nbTrans = p.job.bufSize := by
  have hreceived := h.received
  have hcounted := toNat_counted cache (p := p) (by omega)
  by_cases hfull : p.job.bufSize.toNat ≤ p.job.nbTrans.toNat + p.ep.cnt.toNat
  · right
    exact BitVec.eq_of_toNat_eq (hcounted.trans (Nat.min_eq_right hfull))
  · left
    rw [hcounted, Nat.min_eq_left (by omega)]
    rcases h.aligned with hdvd | heq
    · exact Nat.dvd_add hdvd hcnt
    · rw [heq] at hfull
      omega

/-- What a step that leaves the job's buffer and the endpoint's kind alone has to keep. -/
theorem Safe.of_same {p' : OutPipe} (h : p.Safe cache R) (hbuf : p'.buf = p.buf)
    (hsize : p'.job.bufSize = p.job.bufSize) (htype : p'.ep.type = p.ep.type)
    (hpacket : p'.ep.packetSize = p.ep.packetSize)
    (hle : p'.job.nbTrans.toNat ≤ p.job.bufSize.toNat)
    (hquiet : p'.ep.halted = true → p'.ep.busnack0 = true ∧ p'.ep.trncompl0 = false)
    (hchunk : uddEndpointIsEnable p.ep = true → p'.ep.busnack0 = false ∨ p'.ep.trncompl0 = true →
      p'.Chunk)
    (hbank : uddEndpointIsEnable p.ep = true → p'.ep.busnack0 = false → p'.Bank R)
    (hcopy : p'.ep.trncompl0 = true → p'.job.bUseOutCacheBuffer = true → p.ep.packetSize ≤ 64 ∧
      p'.job.nbTrans.toNat + p.job.bufSize.toNat % p.ep.packetSize ≤ p.job.bufSize.toNat) :
    p'.Safe cache R where
  cacheBuffer := h.cacheBuffer
  buffer := by
    rw [hbuf, hsize]
    exact h.buffer
  fits := by
    rw [hsize]
    exact h.fits
  le := by
    rw [hsize]
    exact hle
  quiet := hquiet
  chunk henabled := by
    rw [uddEndpointIsEnable, htype] at henabled
    exact hchunk henabled
  bank henabled := by
    rw [uddEndpointIsEnable, htype] at henabled
    exact hbank henabled
  copy hflag huse := by
    rw [hsize, hpacket]
    exact hcopy hflag huse

/-- What the request for a chunk leaves alone -/
theorem request_same (cache : ℕ) (p : OutPipe) :
    let p' := p.request cache
    (p'.ram = p.ram ∧ p'.buf = p.buf) ∧
      (p'.job.bufSize = p.job.bufSize ∧ p'.job.nbTrans = p.job.nbTrans) ∧
      p'.ep.type = p.ep.type ∧ p'.ep.packetSize = p.ep.packetSize ∧
      p'.ep.trncompl0 = p.ep.trncompl0 ∧ p'.ep.halted = p.ep.halted := by
  simp only [request]
  generalize (if uddEndpointMaxTrans < p.job.bufSize - p.job.nbTrans then
    uddEndpointMaxTrans - uddEndpointMaxTrans % uddEpGetSize p.ep
    else p.job.bufSize - p.job.nbTrans - (p.job.bufSize - p.job.nbTrans) % uddEpGetSize p.ep)
    = next
  split
  · exact ⟨⟨rfl, rfl⟩, ⟨rfl, rfl⟩, rfl, rfl, rfl, rfl⟩
  · exact ⟨⟨rfl, rfl⟩, ⟨rfl, rfl⟩, rfl, rfl, rfl, rfl⟩

/-- The end of a job is only recorded. -/
theorem finish_same (p : OutPipe) :
    ∃ busy calls, p.finish = { p with job := { p.job with busy := busy }, calls := calls } := by
  rw [finish]
  split
  · exact ⟨_, _, rfl⟩
  · exact ⟨_, _, rfl⟩

/-- **The step lemma for one interrupt.** -/
theorem Safe.transComplet (h : p.Safe cache R) (hunhalted : p.ep.halted = false)
    (hchunk : uddEndpointIsEnable p.ep = true → p.Chunk)
    (hcopy : p.job.bUseOutCacheBuffer = true → p.ep.packetSize ≤ 64 ∧
      p.job.nbTrans.toNat + p.job.bufSize.toNat % p.ep.packetSize ≤ p.job.bufSize.toNat)
    (hflag : p.ep.trncompl0 = true → uddEndpointIsEnable p.ep = true ∧
      p.job.bUseOutCacheBuffer = false ∧ p.ep.cnt.toNat = 0) :
    (p.transComplet cache).Safe cache R ∧ ∀ i ∉ R, (p.transComplet cache).ram i = p.ram i := by
  have hbuffer := h.buffer
  have hle := counted_le cache p
  have hram : ∀ i ∉ R, (p.counted cache).ram i = p.ram i := by
    intro i hi
    change (if p.job.bUseOutCacheBuffer = true then p.ram.copy _ _ _ else p.ram) i = p.ram i
    split
    · next huse =>
      obtain ⟨_, hinside⟩ := hcopy huse
      refine Ram.copy_of_outside ?_
      have hlen : (p.job.bufSize % uddEpGetSize p.ep).toNat = p.job.bufSize.toNat % p.ep.packetSize :=
        BitVec.toNat_umod
      by_contra hin
      exact hi (hbuffer ⟨by omega, by omega⟩)
    · rfl
  rw [transComplet_eq]
  by_cases hgoes : p.ep.cnt = p.ep.auxdata ∧ (p.counted cache).job.nbTrans ≠ p.job.bufSize
  · rw [if_pos hgoes]
    obtain ⟨hall, hleft⟩ := hgoes
    obtain ⟨⟨hsame, hbuf⟩, ⟨hsize, hnb⟩, htype, hpacket, hdone, hhalt⟩ :=
      request_same cache (p.counted cache)
    have hplaced (henabled : uddEndpointIsEnable p.ep = true) :
        ((p.counted cache).request cache).Chunk ∧ ((p.counted cache).request cache).Bank R := by
      have hc := hchunk henabled
      have hmore : (p.counted cache).job.nbTrans.toNat < p.job.bufSize.toNat :=
        Nat.lt_of_le_of_ne hle fun heq => hleft (BitVec.eq_of_toNat_eq heq)
      have haligned := (hc.counted cache h.fits h.le (hall ▸ hc.whole)).resolve_right hleft
      refine request_placed h.cacheBuffer hbuffer hmore haligned ?_ (packetSize_small hunhalted)
        hc.isochronous
      -- after a packet in the cache buffer nothing is left
      by_contra huse
      obtain ⟨hone, _, hrest⟩ := hc.cached (Bool.eq_true_of_not_eq_false huse)
      have hreceived := hc.received
      have hfits := h.fits
      have hmod := Nat.mod_lt p.job.bufSize.toNat (packetSize_pos p.ep)
      rw [toNat_counted cache (by omega), hall] at hmore
      omega
    refine ⟨h.of_same hbuf hsize htype hpacket ?_ (fun hset => ?_)
      (fun henabled _ => (hplaced henabled).1) (fun henabled _ => (hplaced henabled).2) fun hset huse => ?_, fun i hi => ?_⟩
    · rw [hnb]
      exact hle
    · exact absurd (hunhalted.symm.trans (hhalt.symm.trans hset)) Bool.false_ne_true
    · obtain ⟨hchunk', _⟩ := hplaced (hflag (hdone ▸ hset)).1
      obtain ⟨_, hsmall, hrest⟩ := hchunk'.cached huse
      rw [hpacket] at hsmall
      rw [hsize, hpacket] at hrest
      exact ⟨hsmall, Nat.le_of_eq hrest⟩
    · rw [hsame]
      exact hram i hi
  · rw [if_neg hgoes]
    obtain ⟨busy, calls, hfinish⟩ := finish_same (p.counted cache)
    rw [hfinish]
    refine ⟨h.of_same rfl rfl rfl rfl hle
      (fun hset => absurd (hunhalted.symm.trans hset) Bool.false_ne_true)
      (fun henabled hlive => ?_) ?_ ?_, hram⟩
    · have hc := hchunk henabled
      have hwhole : p.ep.packetSize ∣ p.ep.cnt.toNat := by
        rcases hlive with hnak | hdone
        · exact (h.bank henabled hnak).whole
        · rw [(hflag hdone).2.2]
          exact Nat.dvd_zero _
      refine ⟨hc.whole, hc.bound, hc.received, hc.counted cache h.fits h.le hwhole, fun huse => ?_,
        hc.isochronous⟩
      obtain ⟨hone, hsmall, hrest⟩ := hc.cached huse
      have hnone : p.ep.cnt.toNat = 0 := by
        rcases hlive with hnak | hdone
        · rcases (h.bank henabled hnak).more with hmore | hnone
          · exact Nat.eq_zero_of_dvd_of_lt hwhole (hone ▸ hmore)
          · exact hnone
        · exact (hflag hdone).2.2
      have hsame : (p.counted cache).job.nbTrans.toNat = p.job.nbTrans.toNat := by
        have hfits := h.fits
        rw [toNat_counted cache (by omega), hnone]
        exact Nat.min_eq_left h.le
      refine ⟨hone, hsmall, ?_⟩
      change (p.counted cache).job.nbTrans.toNat + _ = _
      rw [hsame]
      exact hrest
    · intro henabled hnak
      obtain ⟨hwhole, hmore, hinside⟩ := h.bank henabled hnak
      exact ⟨hwhole, hmore, hinside⟩
    · intro hdone huse
      exact absurd ((hflag hdone).2.1.symm.trans huse) Bool.false_ne_true

/-! ## Steps -/

theorem Safe.mono {R' : Set ℕ} (h : p.Safe cache R) (hR : R ⊆ R') : p.Safe cache R' where
  cacheBuffer := h.cacheBuffer.trans hR
  buffer := h.buffer.trans hR
  fits := h.fits
  le := h.le
  quiet := h.quiet
  chunk := h.chunk
  bank henabled hnak :=
    ⟨(h.bank henabled hnak).whole, (h.bank henabled hnak).more,
      (h.bank henabled hnak).inside.trans hR⟩
  copy := h.copy

/-- It does no harm to stop the controller or to drop the interrupt. -/
theorem Safe.quieter (h : p.Safe cache R) (toggle busy : Bool)
    (calls : List (UddEpStatus × Word)) {nak done : Bool} (hnak : nak = false → p.ep.busnack0 = false)
    (hdone : done = true → p.ep.trncompl0 = true) :
    { p with
      ep := { p.ep with toggle := toggle, busnack0 := nak, trncompl0 := done }
      job := { p.job with busy := busy }
      calls := calls }.Safe cache R := by
  refine h.of_same rfl rfl rfl rfl h.le (fun hset => ?_) (fun henabled hlive => ?_)
    (fun henabled hstill => ?_) fun hset => h.copy (hdone hset)
  · obtain ⟨hstill, hnone⟩ := h.quiet hset
    refine ⟨Bool.eq_true_of_not_eq_false fun hgoes => ?_, Bool.eq_false_of_not_eq_true fun hpending => ?_⟩
    · exact Bool.false_ne_true ((hnak hgoes).symm.trans hstill)
    · exact Bool.false_ne_true (hnone.symm.trans (hdone hpending))
  · obtain ⟨hwhole, hbound, hreceived, haligned, hcached, hiso⟩ :=
      h.chunk henabled (hlive.imp hnak hdone)
    exact ⟨hwhole, hbound, hreceived, haligned, hcached, hiso⟩
  · obtain ⟨hwhole, hmore, hinside⟩ := h.bank henabled (hnak hstill)
    exact ⟨hwhole, hmore, hinside⟩

/-- Where the controller does nothing and no interrupt is pending, the control register may be
anything. -/
theorem Safe.still (h : p.Safe cache R) (ep : UsbEp) (hnak : ep.busnack0 = true)
    (hdone : ep.trncompl0 = false) (busy : Bool) (calls : List (UddEpStatus × Word)) :
    { p with ep := ep, job := { p.job with busy := busy }, calls := calls }.Safe cache R where
  cacheBuffer := h.cacheBuffer
  buffer := h.buffer
  fits := h.fits
  le := h.le
  quiet := fun _ => ⟨hnak, hdone⟩
  chunk := fun _ hlive => hlive.elim (fun hgoes => absurd (hnak.symm.trans hgoes).symm Bool.false_ne_true)
    fun hset => absurd (hdone.symm.trans hset) Bool.false_ne_true
  bank := fun _ hgoes => absurd (hnak.symm.trans hgoes).symm Bool.false_ne_true
  copy := fun hset => absurd (hdone.symm.trans hset) Bool.false_ne_true

/-- `USB_TRNCOMPL_vect` -/
theorem Safe.transferComplete (h : p.Safe cache R) :
    (p.transferComplete cache).Safe cache R ∧
      ∀ i ∉ R, (p.transferComplete cache).ram i = p.ram i := by
  rw [OutPipe.transferComplete]
  split
  · next hdone =>
    have hacked : { p with ep := uddEndpointAckTransferComplete p.ep }.Safe cache R :=
      h.quieter p.ep.toggle p.job.busy p.calls id nofun
    have hunhalted : p.ep.halted = false := Bool.eq_false_of_not_eq_true fun hset =>
      absurd ((h.quiet hset).2.symm.trans hdone) Bool.false_ne_true
    refine hacked.transComplet hunhalted (fun henabled => ?_) (h.copy hdone) nofun
    obtain ⟨hwhole, hbound, hreceived, haligned, hcached, hiso⟩ := h.chunk henabled (Or.inr hdone)
    exact ⟨hwhole, hbound, hreceived, haligned, hcached, hiso⟩
  · exact ⟨h, fun _ _ => rfl⟩

/-- `udd_ep_abort` -/
theorem Safe.abort (h : p.Safe cache R) : p.abort.Safe cache R ∧ p.abort.ram = p.ram := by
  simp only [OutPipe.abort]
  split
  · exact ⟨h.quieter p.ep.toggle false _ nofun id, rfl⟩
  · exact ⟨h.quieter p.ep.toggle p.job.busy p.calls nofun id, rfl⟩

/-- `udd_ep_set_halt`. With the halt the size of packets changes, which an interrupt that is
still pending would take for the size of the chunk that has come in. -/
theorem Safe.setHalt (h : p.Safe cache R) (hnone : p.ep.trncompl0 = false) :
    p.setHalt.Safe cache R ∧ p.setHalt.ram = p.ram := by
  simp only [OutPipe.setHalt, OutPipe.abort]
  have hstill := h.still (uddEndpointSetNACK0 (uddEndpointEnableStall p.ep)) rfl hnone
  split
  · exact ⟨hstill false _, rfl⟩
  · exact ⟨hstill p.job.busy p.calls, rfl⟩

/-- `udd_ep_clear_halt` -/
theorem Safe.clearHalt {p' : OutPipe} (h : p.Safe cache R)
    (htype : p.ep.type = .isochronous → p.ep.stall = false) (hstep : p.clearHalt = .ok p') :
    p'.Safe cache R ∧ p'.ram = p.ram := by
  rw [OutPipe.clearHalt] at hstep
  simp only at hstep
  split at hstep
  · obtain rfl := Except.ok.inj hstep
    exact ⟨h.quieter false p.job.busy p.calls id id, rfl⟩
  · next hset =>
    split at hstep
    · cases hstep
    · obtain rfl := Except.ok.inj hstep
      have hstall : p.ep.stall = true := by simpa [uddEndpointClearDtgl] using hset
      have hhalted : p.ep.halted = true := by
        have hne : p.ep.type ≠ .isochronous := fun hiso =>
          absurd ((htype hiso).symm.trans hstall) Bool.false_ne_true
        rw [UsbEp.halted, bne_iff_ne.mpr hne, hstall]
        rfl
      obtain ⟨hnak, hnone⟩ := h.quiet hhalted
      exact ⟨h.still (uddEndpointDisableStall (uddEndpointClearDtgl p.ep)) hnak hnone p.job.busy
        p.calls, rfl⟩

/-- Packets that fit into the cache buffer come in multiples of eight bytes. -/
theorem eight_dvd_packetSize {e : UsbEp} (h : e.packetSize ≤ 64) : 8 ∣ e.packetSize := by
  rw [UsbEp.packetSize, uddEpGetSize] at h ⊢
  cases hsize : uddEndpointGetSizeField e with
  | size1023 =>
    rw [hsize] at h
    exact absurd h (by decide)
  | size8 | size16 | size32 | size64 | size128 | size256 | size512 => decide

/-- `udd_ep_free`. The size of packets goes back to eight bytes, while an interrupt may be
pending. -/
theorem Safe.free (h : p.Safe cache R) : p.free.Safe cache R ∧ p.free.ram = p.ram := by
  obtain ⟨habort, hram⟩ := h.abort
  refine ⟨?_, hram⟩
  exact {
    cacheBuffer := habort.cacheBuffer
    buffer := habort.buffer
    fits := habort.fits
    le := habort.le
    quiet := nofun
    chunk := nofun
    bank := nofun
    copy := by
      intro hdone huse
      obtain ⟨hsmall, hinside⟩ := habort.copy hdone huse
      refine ⟨(by decide : (8 : ℕ) ≤ 64), ?_⟩
      change p.abort.job.nbTrans.toNat + p.abort.job.bufSize.toNat % 8 ≤ p.abort.job.bufSize.toNat
      have hmod := Nat.mod_le (p.abort.job.bufSize.toNat % p.abort.ep.packetSize) 8
      rw [Nat.mod_mod_of_dvd _ (eight_dvd_packetSize hsmall)] at hmod
      omega }

/-- `udd_ep_alloc` -/
theorem Safe.alloc (h : p.Safe cache R) (bmAttributes : Byte) (maxEndpointSize : Word) :
    (p.alloc bmAttributes maxEndpointSize).Safe cache R ∧
      (p.alloc bmAttributes maxEndpointSize).ram = p.ram := by
  simp only [OutPipe.alloc]
  split
  · exact ⟨h, rfl⟩
  · split
    · exact ⟨h.still _ rfl rfl p.job.busy p.calls, rfl⟩
    · exact ⟨h.still _ rfl rfl p.job.busy p.calls, rfl⟩

/-- `CNT` does not overflow. -/
theorem toNat_add_length {cnt : Word} {n : ℕ} (h : cnt.toNat + n ≤ 1023) :
    (cnt + n).toNat = cnt.toNat + n := by
  rw [BitVec.toNat_add, BitVec.natCast_eq_ofNat, BitVec.toNat_ofNat]
  omega

/-- **The host sends a packet.** -/
theorem Safe.receive (h : p.Safe cache R) (data : List Byte) :
    (p.receive data).Safe cache R ∧ ∀ i ∉ R, (p.receive data).ram i = p.ram i := by
  rw [OutPipe.receive]
  split
  · next htakes =>
    obtain ⟨hlive, hlen⟩ := Bool.and_eq_true_iff.mp htakes
    have hlen : data.length ≤ p.ep.packetSize := of_decide_eq_true hlen
    obtain ⟨henabled, hunhalted, hnak⟩ :
        uddEndpointIsEnable p.ep = true ∧ p.ep.halted = false ∧ p.ep.busnack0 = false := by
      simp only [UsbEp.live, Bool.and_eq_true, Bool.not_eq_true'] at hlive
      exact ⟨hlive.1.1, hlive.1.2, hlive.2⟩
    obtain ⟨hcnt, hmore, hinside⟩ := h.bank henabled hnak
    have hchunk := h.chunk henabled (Or.inl hnak)
    obtain ⟨hpos, hmax⟩ := packetSize_bounds p.ep
    -- there is room for a packet
    have hroom : p.ep.cnt.toNat + p.ep.packetSize ≤ max p.ep.auxdata.toNat p.ep.packetSize := by
      rcases hmore with hlt | hzero
      · have hdvd := Nat.dvd_sub hchunk.whole hcnt
        have hle := Nat.le_of_dvd (by omega) hdvd
        omega
      · omega
    have hbound := hchunk.bound
    have hsum := toNat_add_length (n := data.length) (by omega : p.ep.cnt.toNat + _ ≤ 1023)
    refine ⟨h.of_same rfl rfl rfl rfl h.le
      (fun hset => absurd (hunhalted.symm.trans hset) Bool.false_ne_true) (fun _ _ => ?_)
      (fun _ hgoes => ?_) ?_, fun i hi => ?_⟩
    · obtain ⟨hwhole, _, _, haligned, hcached, hiso⟩ := hchunk
      exact ⟨hwhole, hbound, hsum.le.trans (by omega), haligned, hcached, hiso⟩
    · obtain ⟨⟨_, hfull⟩, hleft⟩ : (p.ep.multipkt = true ∧ ¬ data.length < p.ep.packetSize) ∧
          ¬ p.ep.auxdata ≤ p.ep.cnt + data.length := by simpa using hgoes
      have hfull' : data.length = p.ep.packetSize := by omega
      rw [BitVec.le_def, hsum] at hleft
      refine ⟨?_, Or.inl ?_, hinside⟩
      · change p.ep.packetSize ∣ (p.ep.cnt + data.length).toNat
        rw [hsum, hfull']
        exact Nat.dvd_add hcnt (Nat.dvd_refl _)
      · change (p.ep.cnt + data.length).toNat < p.ep.auxdata.toNat
        omega
    · intro _ huse
      obtain ⟨_, hsmall, hrest⟩ := hchunk.cached huse
      exact ⟨hsmall, Nat.le_of_eq hrest⟩
    · refine Ram.store_of_outside ?_
      by_contra hin
      exact hi (hinside ⟨by omega, by omega⟩)
  · exact ⟨h, fun _ _ => rfl⟩

/-- `udd_ep_run`: whatever the endpoint was doing, it goes on in the new buffer, or it is idle. -/
theorem Safe.run (h : p.Safe cache R) {bShortpacket : Bool} {buf : ℕ} {bufSize : Word}
    {callback : Option UddCallbackTrans} (hfits : bufSize.toNat + 1023 < 2 ^ 16)
    (hiso : p.ep.type = .isochronous → p.ep.packetSize ∣ bufSize.toNat) :
    let p' := (p.run cache bShortpacket buf bufSize callback).2
    let R' := R ∪ Set.Ico buf (buf + bufSize.toNat)
    p'.Safe cache R' ∧ ∀ i ∉ R', p'.ram i = p.ram i := by
  intro p' R'
  have hmono := h.mono (Set.subset_union_left : R ⊆ R')
  change (p.run cache bShortpacket buf bufSize callback).2.Safe cache R' ∧
    ∀ i ∉ R', (p.run cache bShortpacket buf bufSize callback).2.ram i = p.ram i
  simp only [OutPipe.run]
  split
  · exact ⟨hmono, fun _ _ => rfl⟩
  · next haccepts =>
    obtain ⟨henabled, hunhalted⟩ : uddEndpointIsEnable p.ep = true ∧ p.ep.halted = false := by
      have htakes : p.accepts = true := by simpa using haccepts
      simp only [accepts, Bool.and_eq_true, Bool.not_eq_true'] at htakes
      exact htakes.1
    split
    · next hrefused =>
      -- the buffer is made of whole packets
      refine absurd (BitVec.eq_of_toNat_eq ?_) hrefused.2
      rw [BitVec.toNat_umod]
      exact Nat.mod_eq_zero_of_dvd (hiso hrefused.1)
    · have hstarted : OutPipe.Safe cache R' { p with
          job := newJob bShortpacket bufSize callback p.job
          buf := buf
          ep := { p.ep with cnt := 0, auxdata := 0 } } := {
        cacheBuffer := hmono.cacheBuffer
        buffer := Set.subset_union_right
        fits := hfits
        le := Nat.zero_le _
        quiet := h.quiet
        chunk := fun _ _ => ⟨Nat.dvd_zero _, Nat.zero_le _, Nat.zero_le _, Or.inl (Nat.dvd_zero _),
          nofun, hiso⟩
        bank := fun _ hnak => by
          refine ⟨Nat.dvd_zero _, Or.inr rfl, ?_⟩
          -- a packet still goes where the last chunk was
          refine (Set.Ico_subset_Ico_right ?_).trans (hmono.bank henabled hnak).inside
          change p.dataptr + max 0 p.ep.packetSize ≤ _
          omega
        copy := nofun }
      exact hstarted.transComplet hunhalted (fun _ => ⟨Nat.dvd_zero _, Nat.zero_le _, Nat.zero_le _,
        Or.inl (Nat.dvd_zero _), nofun, hiso⟩) nofun fun _ => ⟨henabled, rfl, rfl⟩

end OutPipe

/-! ## Runs -/

/-- What an event allows to be written -/
def OutEvent.buffer : OutEvent → Set ℕ
  | .run _ buf bufSize _ => Set.Ico buf (buf + bufSize.toNat)
  | _ => ∅

/-- What the driver asks of its callers. The buffer of an isochronous endpoint is made of whole
packets, and no buffer reaches the end of the address space. The halt is a bit of the size of
packets: it is not set while an interrupt is pending, and not cleared on an isochronous
endpoint. -/
def OutEvent.Legal (p : OutPipe) : OutEvent → Prop
  | .run _ _ bufSize _ =>
    bufSize.toNat + 1023 < 2 ^ 16 ∧ (p.ep.type = .isochronous → p.ep.packetSize ∣ bufSize.toNat)
  | .setHalt => p.ep.trncompl0 = false
  | .clearHalt => p.ep.type = .isochronous → p.ep.stall = false
  | .alloc _ _ | .free | .abort | .receive _ | .transferComplete => True

instance (p : OutPipe) : DecidablePred (OutEvent.Legal p) := fun e => by
  cases e <;> unfold OutEvent.Legal <;> infer_instance

namespace OutPipe

/-- Nothing has happened yet. -/
def fresh (ram : Ram Byte) : OutPipe where
  ep := .zero
  dataptr := 0
  job := .zero
  buf := 0
  ram := ram
  calls := []

variable {cache : ℕ} {R : Set ℕ} {p p' : OutPipe}

theorem fresh_safe (cache : ℕ) (ram : Ram Byte) :
    (fresh ram).Safe cache (Set.Ico cache (cache + 64)) where
  cacheBuffer := Set.Subset.rfl
  buffer := fun _ hi => absurd hi.2 (Nat.not_lt_zero _)
  fits := (by decide : (0 : Word).toNat + 1023 < 2 ^ 16)
  le := Nat.zero_le _
  quiet := nofun
  chunk := nofun
  bank := nofun
  copy := nofun

/-- **The step lemma** -/
theorem Safe.step (h : p.Safe cache R) {e : OutEvent} (hlegal : e.Legal p)
    (hstep : (machine cache).step p e = .ok p') :
    p'.Safe cache (R ∪ e.buffer) ∧ ∀ i ∉ R ∪ e.buffer, p'.ram i = p.ram i := by
  have hkeeps {q : OutPipe} (hq : q.Safe cache R ∧ ∀ i ∉ R, q.ram i = p.ram i) (hp' : q = p')
      (hnone : e.buffer = ∅) :
      p'.Safe cache (R ∪ e.buffer) ∧ ∀ i ∉ R ∪ e.buffer, p'.ram i = p.ram i := by
    rw [hnone, Set.union_empty, ← hp']
    exact hq
  have hspares {q : OutPipe} (hq : q.Safe cache R ∧ q.ram = p.ram) :
      q.Safe cache R ∧ ∀ i ∉ R, q.ram i = p.ram i := ⟨hq.1, fun i _ => congrFun hq.2 i⟩
  cases e with
  | run bShortpacket buf bufSize callback =>
    obtain rfl := Except.ok.inj hstep
    exact h.run hlegal.1 hlegal.2
  | alloc bmAttributes maxEndpointSize =>
    exact hkeeps (hspares (h.alloc bmAttributes maxEndpointSize)) (Except.ok.inj hstep) rfl
  | free => exact hkeeps (hspares h.free) (Except.ok.inj hstep) rfl
  | abort => exact hkeeps (hspares h.abort) (Except.ok.inj hstep) rfl
  | setHalt => exact hkeeps (hspares (h.setHalt hlegal)) (Except.ok.inj hstep) rfl
  | clearHalt => exact hkeeps (hspares (h.clearHalt hlegal hstep)) rfl rfl
  | receive data => exact hkeeps (h.receive data) (Except.ok.inj hstep) rfl
  | transferComplete => exact hkeeps h.transferComplete (Except.ok.inj hstep) rfl

/-- **The run lemma**: what is outside the buffers of the run is left alone. -/
theorem Safe.run_outside {es : List OutEvent} (h : p.Safe cache R)
    (hadm : (machine cache).Admits OutEvent.Legal p es)
    (hrun : (machine cache).run p es = .ok p') {i : ℕ} (hR : i ∉ R)
    (hbuffers : ∀ e ∈ es, i ∉ e.buffer) : p'.ram i = p.ram i := by
  induction es generalizing p R with
  | nil =>
    obtain rfl : p = p' := by simpa using hrun
    rfl
  | cons e es ih =>
    obtain ⟨q, hstep, hrest⟩ := Machine.run_cons_eq_ok hrun
    obtain ⟨hlegal, hadm'⟩ := (Machine.admits_cons_of_ok hstep).mp hadm
    obtain ⟨hq, hsame⟩ := h.step hlegal hstep
    have hi : i ∉ R ∪ e.buffer := fun hmem => hmem.elim hR (hbuffers e List.mem_cons_self)
    rw [ih hq hadm' hrest hi fun e' he' => hbuffers e' (List.mem_cons_of_mem e he'), hsame i hi]

end OutPipe

open OutPipe

/-- **No overflow.** Let the host send what it likes, and let transfers be started, aborted,
interrupted and, with no interrupt pending, halted in any order: no byte is written but those of
the buffers given to `udd_ep_run` and of the cache buffer. A buffer may be smaller than a packet. -/
theorem bulkOut_inside {cache : ℕ} {ram : Ram Byte} {es : List OutEvent}
    (hadm : (machine cache).Admits OutEvent.Legal (fresh ram) es) {p : OutPipe}
    (hrun : (machine cache).run (fresh ram) es = .ok p) {i : ℕ}
    (hcache : i ∉ Set.Ico cache (cache + 64)) (hbuffers : ∀ e ∈ es, i ∉ e.buffer) :
    p.ram i = ram i :=
  (fresh_safe cache ram).run_outside hadm hrun hcache hbuffers

/-- A buffer of three bytes; a full packet; an abort before the interrupt, and a buffer of nine
bytes after it. -/
def overrun : List OutEvent :=
  [.alloc 2 8, .run false 100 3 none, .receive (List.replicate 8 0x55), .abort, .transferComplete,
    .run false 200 9 (some .udiHidGenericReportInSent), .receive (List.replicate 8 0xAA),
    .transferComplete, .receive (List.replicate 8 0xAA), .receive (List.replicate 8 0xAA),
    .transferComplete]

theorem bulkOut_inside_overrun :
    ∃ p, (machine 1000).run (fresh fun _ => 0) overrun = .ok p ∧ p.ram 209 = 0 := by
  obtain ⟨p, hrun⟩ : ∃ p, (machine 1000).run (fresh fun _ => 0) overrun = .ok p := ⟨_, rfl⟩
  have hadm : (machine 1000).Admits OutEvent.Legal (fresh fun _ => 0) overrun := by
    decide +kernel
  refine ⟨p, hrun, bulkOut_inside hadm hrun (by simp) fun e he => ?_⟩
  simp only [overrun, List.mem_cons, List.not_mem_nil, or_false] at he
  rcases he with rfl | rfl | rfl | rfl | rfl | rfl | rfl | rfl | rfl | rfl | rfl <;>
    simp [OutEvent.buffer]

/-- An endpoint of eight bytes is halted while an interrupt is pending, which then asks for 128
bytes in the cache buffer. -/
def haltedTooEarly : List OutEvent :=
  [.alloc 2 8, .run false 100 11 none, .receive (List.replicate 8 0x55), .setHalt,
    .transferComplete, .clearHalt] ++ List.replicate 9 (.receive (List.replicate 8 0xAA))

-- the ninth packet goes behind the cache buffer
example : ((machine 1000).run (fresh fun _ => 0) haltedTooEarly).map (fun p => p.ram 1064) =
    .ok 0xAA := by decide

end HidJoystick
