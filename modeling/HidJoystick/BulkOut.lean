import HidJoystick.OutPipe
import HidJoystick.Packets

/-!
# OUT transfers

What a caller of `udd_ep_run` gets from an OUT endpoint. The packets the controller has taken
are in the buffer, the last of them perhaps in the cache buffer still; the driver tells the end
of the transfer from the counts of the controller, and the reader of `Packets.readTransfer` tells
it from the packets. They agree.

* `Filling.receive`, `Filling.transferComplete`, `Filling.run` — the step lemmas and the run
  lemma.
* `bulkOut_receives` — the callback is called when the transfer has ended, once, and the buffer
  holds what the reader makes of the packets.
* `bulkOut_delivers` — **round trip**: a host that cuts data into packets and waits for the
  interrupts gets them into the buffer.
-/

namespace HidJoystick

open Packets

/-- A transfer a caller of `udd_ep_run` asks for. -/
structure OutTransfer where
  buf : ℕ
  /-- the size of the buffer -/
  room : ℕ
  /-- the size of packets -/
  m : ℕ
  callback : Option UddCallbackTrans
  /-- the calls of callbacks before -/
  calls : List (UddEpStatus × Word)

/-- The cache buffer is not part of the buffer. -/
def OutTransfer.Apart (cache : ℕ) (x : OutTransfer) : Prop :=
  x.buf + x.room ≤ cache ∨ cache + x.m ≤ x.buf

/-- The packet the controller takes in a step -/
def packetTaken (t : Machine.Transition OutPipe OutEvent) : List (List Byte) :=
  match t.event with
  | .receive data => if t.pre.takes data then [data] else []
  | _ => []

/-- The packets the controller takes in a run -/
def packetsTaken (cache : ℕ) (p : OutPipe) (es : List OutEvent) : List (List Byte) :=
  ((OutPipe.machine cache).transitions p es).flatMap packetTaken

/-- The endpoint is served: the host sends, or the interrupt runs. -/
def OutEvent.serves : OutEvent → Prop
  | .receive _ | .transferComplete => True
  | _ => False

instance : DecidablePred OutEvent.serves
  | .receive _ | .transferComplete => inferInstanceAs (Decidable True)
  | .alloc _ _ | .free | .run _ _ _ _ | .abort | .setHalt | .clearHalt =>
    inferInstanceAs (Decidable False)

namespace OutPipe

/-- What has been received: what is in the buffer, and the chunk that is coming in. -/
def held (p : OutPipe) : List Byte :=
  p.ram.load p.buf p.job.nbTrans.toNat ++ p.ram.load p.dataptr p.ep.cnt.toNat

/-- The job is the transfer, and the endpoint serves it. -/
structure Serves (x : OutTransfer) (p : OutPipe) : Prop where
  busy : p.job.busy = true
  buf : p.buf = x.buf
  room : p.job.bufSize.toNat = x.room
  callTrans : p.job.callTrans = x.callback
  enabled : uddEndpointIsEnable p.ep = true
  unhalted : p.ep.halted = false
  chunks : p.ep.Chunks
  size : p.ep.packetSize = x.m
  calls : p.calls = x.calls

/-- A chunk has been asked for: whole packets for the buffer, or the last one for the cache
buffer. -/
structure Asks (cache : ℕ) (x : OutTransfer) (p : OutPipe) : Prop extends Serves x p where
  aligned : x.m ∣ p.job.nbTrans.toNat
  more : p.job.nbTrans.toNat < x.room
  whole : x.m ∣ p.ep.auxdata.toNat
  bound : p.ep.auxdata.toNat ≤ 1023
  place :
    p.job.bUseOutCacheBuffer = false ∧ p.dataptr = x.buf + p.job.nbTrans.toNat ∧
        p.job.nbTrans.toNat + p.ep.auxdata.toNat ≤ x.room ∨
      p.job.bUseOutCacheBuffer = true ∧ p.dataptr = cache ∧ p.ep.auxdata.toNat = x.m ∧
        p.job.nbTrans.toNat + x.room % x.m = x.room

/-- **How far the transfer has got**: the controller has taken the packets `ps`. -/
inductive Filling (cache : ℕ) (x : OutTransfer) (ps : List (List Byte)) (p : OutPipe) : Prop where
  /-- it takes the next one -/
  | armed : p.Asks cache x → p.ep.busnack0 = false → p.ep.trncompl0 = false →
    x.m ∣ p.ep.cnt.toNat → p.ep.cnt.toNat < p.ep.auxdata.toNat → (∀ q ∈ ps, q.length = x.m) →
    p.held = ps.flatten → Filling cache x ps p
  /-- the interrupt is pending, and there is room for more or the transfer has ended -/
  | received : p.Asks cache x → p.ep.busnack0 = true → p.ep.trncompl0 = true →
    p.ep.cnt.toNat ≤ p.ep.auxdata.toNat → p.held = ps.flatten →
    (p.ep.cnt = p.ep.auxdata ∧ (∀ q ∈ ps, q.length = x.m) ∧
        p.job.nbTrans.toNat + p.ep.cnt.toNat < x.room ∨
      (p.ep.cnt = p.ep.auxdata → x.room ≤ p.job.nbTrans.toNat + p.ep.cnt.toNat) ∧
        readTransfer x.m x.room ps = some (ps.flatten, [])) →
    Filling cache x ps p
  /-- the transfer has ended -/
  | done : p.job.busy = false → p.ep.busnack0 = true → p.ep.trncompl0 = false →
    p.job.nbTrans.toNat = min ps.flatten.length x.room →
    p.ram.load x.buf p.job.nbTrans.toNat = ps.flatten.take x.room →
    p.calls = (x.callback.toList.map fun _ => (.ok, p.job.nbTrans)) ++ x.calls →
    readTransfer x.m x.room ps = some (ps.flatten, []) → Filling cache x ps p

variable {cache : ℕ} {x : OutTransfer} {ps : List (List Byte)} {p : OutPipe} {data : List Byte}

/-! ## Packets -/

theorem length_held (p : OutPipe) : p.held.length = p.job.nbTrans.toNat + p.ep.cnt.toNat := by
  rw [held, List.length_append, Ram.length_load, Ram.length_load]

/-- What the controller writes is received. -/
theorem Asks.load_store (h : p.Asks cache x) (hapart : x.Apart cache)
    (hfits : p.ep.cnt.toNat + data.length ≤ p.ep.auxdata.toNat) :
    let ram := p.ram.store (p.dataptr + p.ep.cnt.toNat) data
    ram.load p.buf p.job.nbTrans.toNat ++ ram.load p.dataptr (p.ep.cnt.toNat + data.length) =
      p.held ++ data := by
  intro ram
  have hbuf := h.buf
  have hmore := h.more
  have hkept : ram.load p.buf p.job.nbTrans.toNat = p.ram.load p.buf p.job.nbTrans.toNat := by
    refine Ram.load_store_of_disjoint ?_
    rcases h.place with ⟨_, hptr, _⟩ | ⟨_, hptr, hone, _⟩
    · omega
    · rcases hapart with hbelow | habove
      · omega
      · omega
  rw [hkept, held, List.append_assoc]
  exact congrArg _ Ram.load_store_next

/-- The chunk on the bank has room for a packet, and the buffer for a part of it. -/
theorem Asks.fits (h : p.Asks cache x) (hwhole : x.m ∣ p.ep.cnt.toNat)
    (hless : p.ep.cnt.toNat < p.ep.auxdata.toNat) :
    p.ep.cnt.toNat + x.m ≤ p.ep.auxdata.toNat ∧
      p.job.nbTrans.toNat + p.ep.cnt.toNat < x.room := by
  have hdvd := Nat.dvd_sub h.whole hwhole
  have hle := Nat.le_of_dvd (by omega) hdvd
  refine ⟨by omega, ?_⟩
  have hmore := h.more
  rcases h.place with ⟨_, _, hfits⟩ | ⟨_, _, hone, _⟩
  · omega
  · -- the cache buffer takes one packet
    have hnone : p.ep.cnt.toNat = 0 := Nat.eq_zero_of_dvd_of_lt hwhole (hone ▸ hless)
    omega

/-- The packet is written, and the controller stops if `ends`. -/
def stored (data : List Byte) (ends : Bool) (p : OutPipe) : OutPipe :=
  { p with
    ram := p.ram.store (p.dataptr + p.ep.cnt.toNat) data
    ep :=
      { p.ep with
        cnt := p.ep.cnt + data.length
        busnack0 := ends
        trncompl0 := p.ep.trncompl0 || ends } }

theorem receive_of_takes (h : p.takes data = true) :
    p.receive data =
      p.stored data (!p.ep.multipkt || data.length < p.ep.packetSize ||
        p.ep.auxdata ≤ p.ep.cnt + data.length) :=
  if_pos h

theorem Asks.stored (h : p.Asks cache x) (data : List Byte) (ends : Bool) :
    (p.stored data ends).Asks cache x :=
  ⟨⟨h.busy, h.buf, h.room, h.callTrans, h.enabled, h.unhalted, h.chunks, h.size, h.calls⟩,
    h.aligned, h.more, h.whole, h.bound, h.place⟩

/-- **The host sends a packet.** -/
theorem Filling.receive (h : Filling cache x ps p) (hapart : x.Apart cache) (data : List Byte) :
    Filling cache x (ps ++ if p.takes data then [data] else []) (p.receive data) := by
  have hidle (hnak : p.ep.busnack0 = true) :
      Filling cache x (ps ++ if p.takes data then [data] else []) (p.receive data) := by
    have hrefused : p.takes data = false := by
      rw [takes, UsbEp.live, hnak]
      simp
    rw [OutPipe.receive, hrefused, if_neg Bool.false_ne_true, if_neg Bool.false_ne_true,
      List.append_nil]
    exact h
  cases h with
  | received _ hnak _ _ _ _ => exact hidle hnak
  | done _ hnak _ _ _ _ _ => exact hidle hnak
  | armed hasks hnak hflag hwhole hless hfull hheld =>
    by_cases htakes : p.takes data = true
    · rw [if_pos htakes, receive_of_takes htakes, hasks.size]
      have hlen : data.length ≤ x.m := by
        rw [← hasks.size]
        exact of_decide_eq_true (Bool.and_eq_true_iff.mp htakes).2
      obtain ⟨hroom, hmore⟩ := hasks.fits hwhole hless
      have hbound := hasks.bound
      have hsum := toNat_add_length (n := data.length) (by omega : p.ep.cnt.toNat + _ ≤ 1023)
      have hread : ps.flatten.length = p.job.nbTrans.toNat + p.ep.cnt.toNat := by
        rw [← hheld, length_held]
      have hheld' (ends : Bool) : (p.stored data ends).held = (ps ++ [data]).flatten := by
        rw [List.flatten_append, List.flatten_singleton, ← hheld,
          ← hasks.load_store hapart (by omega), ← hsum]
        rfl
      by_cases hgoes : data.length = x.m ∧ p.ep.cnt.toNat + data.length < p.ep.auxdata.toNat
      · -- a full packet, and the chunk has room for the next one
        obtain ⟨hlast, hleft⟩ := hgoes
        have hmulti : p.ep.multipkt = true := hasks.chunks.resolve_right fun hone => by
          rw [hasks.size] at hone
          omega
        have hends : (!p.ep.multipkt || decide (data.length < x.m) ||
            decide (p.ep.auxdata ≤ p.ep.cnt + data.length)) = false := by
          rw [hmulti, Bool.not_true, Bool.false_or, Bool.or_eq_false_iff, decide_eq_false_iff_not,
            decide_eq_false_iff_not, BitVec.le_def, hsum]
          omega
        rw [hends]
        refine .armed (hasks.stored data false) rfl ?_ ?_ ?_ ?_ (hheld' false)
        · exact (Bool.or_false _).trans hflag
        · change x.m ∣ (p.ep.cnt + data.length).toNat
          rw [hsum, hlast]
          exact Nat.dvd_add hwhole (Nat.dvd_refl _)
        · exact hsum.trans_lt hleft
        · exact List.forall_mem_append.mpr ⟨hfull, List.forall_mem_singleton.mpr hlast⟩
      · have hends : (!p.ep.multipkt || decide (data.length < x.m) ||
            decide (p.ep.auxdata ≤ p.ep.cnt + data.length)) = true := by
          rw [Bool.or_assoc, Bool.or_eq_true_iff, Bool.or_eq_true_iff, decide_eq_true_iff,
            decide_eq_true_iff, BitVec.le_def, hsum]
          omega
        rw [hends]
        have hle : p.ep.cnt.toNat + data.length ≤ p.ep.auxdata.toNat := by omega
        refine .received (hasks.stored data true) rfl (Bool.or_true _) (hsum.trans_le hle)
          (hheld' true) ?_
        by_cases hshort : data.length < x.m
        · -- a packet that is not full ends the transfer before the chunk is complete
          refine Or.inr ⟨fun hcomplete => ?_, ?_⟩
          · have hcomplete' : p.ep.cnt.toNat + data.length = p.ep.auxdata.toNat :=
              hsum.symm.trans (congrArg BitVec.toNat hcomplete)
            omega
          · rw [List.flatten_append, List.flatten_singleton]
            exact readTransfer_of_last hfull (by omega) (Or.inl hshort)
        · have hlast : data.length = x.m := by omega
          have hcomplete : p.ep.cnt + data.length = p.ep.auxdata :=
            BitVec.eq_of_toNat_eq (hsum.trans (by omega))
          by_cases hmore' : p.job.nbTrans.toNat + (p.ep.cnt.toNat + data.length) < x.room
          · refine Or.inl ⟨hcomplete, ?_, ?_⟩
            · exact List.forall_mem_append.mpr ⟨hfull, List.forall_mem_singleton.mpr hlast⟩
            · exact (congrArg _ hsum).trans_lt hmore'
          · refine Or.inr ⟨fun _ => ?_, ?_⟩
            · exact (Nat.le_of_not_lt hmore').trans (Nat.le_of_eq (congrArg _ hsum.symm))
            · rw [List.flatten_append, List.flatten_singleton]
              exact readTransfer_of_last hfull (by omega) (Or.inr (by omega))
    · rw [if_neg htakes, OutPipe.receive, if_neg htakes, List.append_nil]
      exact .armed hasks hnak hflag hwhole hless hfull hheld

/-! ## Interrupts -/

/-- The next chunk is asked for. -/
theorem Serves.request (h : p.Serves x) (haligned : x.m ∣ p.job.nbTrans.toNat)
    (hmore : p.job.nbTrans.toNat < x.room) (hunused : p.job.bUseOutCacheBuffer = false)
    (hflag : p.ep.trncompl0 = false) (hfull : ∀ q ∈ ps, q.length = x.m)
    (hheld : p.ram.load x.buf p.job.nbTrans.toNat = ps.flatten) :
    Filling cache x ps (p.request cache) := by
  have hroom := h.room
  have hsize := h.size
  have hpos := packetSize_pos p.ep
  have hle := (packetSize_bounds p.ep).2
  rw [hsize] at hpos hle
  have hempty (ram : Ram Byte) (a : ℕ) (hram : ram = p.ram) :
      ram.load p.buf p.job.nbTrans.toNat ++ ram.load a 0 = ps.flatten := by
    rw [hram, Ram.load_zero, List.append_nil, h.buf]
    exact hheld
  rcases request_cases cache (by omega) (hsize.symm ▸ haligned) with
    ⟨next, hlong, hwhole, hbound, hfits, heq⟩ | ⟨_, hrest, heq⟩
  · rw [heq]
    rw [hsize] at hwhole hlong
    refine .armed ⟨⟨h.busy, h.buf, h.room, h.callTrans, h.enabled, h.unhalted, h.chunks, h.size,
      h.calls⟩, haligned, hmore, hwhole, hbound, Or.inl ⟨hunused, ?_, ?_⟩⟩ rfl hflag (Nat.dvd_zero _)
      (hpos.trans_le hlong) hfull (hempty _ _ rfl)
    · exact congrArg (· + p.job.nbTrans.toNat) h.buf
    · exact hfits.trans (Nat.le_of_eq hroom)
  · rw [heq]
    rw [hsize, hroom] at hrest
    have haux : (uddEpGetSize p.ep).toNat = x.m := hsize
    refine .armed ⟨⟨h.busy, h.buf, h.room, h.callTrans, h.enabled, h.unhalted, h.chunks, h.size,
      h.calls⟩, haligned, hmore, haux ▸ Nat.dvd_refl _, haux.trans_le hle, Or.inr ⟨rfl, rfl, haux, hrest⟩⟩
      rfl hflag (Nat.dvd_zero _) (hpos.trans_eq haux.symm) hfull (hempty _ _ rfl)

/-- What has been copied out of the cache buffer is what was received, as far as there is
room. -/
theorem Asks.load_counted (h : p.Asks cache x) (hfits : x.room + 1023 < 2 ^ 16)
    (hcnt : p.ep.cnt.toNat ≤ p.ep.auxdata.toNat) :
    (p.counted cache).job.nbTrans.toNat = min p.held.length x.room ∧
      (p.counted cache).ram.load x.buf (p.counted cache).job.nbTrans.toNat = p.held.take x.room := by
  have hroom := h.room
  have hmore := h.more
  have hbound := h.bound
  have hbuf := h.buf
  have hnb : (p.counted cache).job.nbTrans.toNat = min p.held.length x.room := by
    rw [toNat_counted cache (by omega), length_held, hroom]
  refine ⟨hnb, ?_⟩
  rw [hnb, length_held]
  rcases h.place with ⟨hunused, hptr, hinside⟩ | ⟨hused, hptr, hone, hrest⟩
  · -- straight into the buffer
    have hram : (p.counted cache).ram = p.ram := by
      rw [counted, hunused]
      rfl
    have hheld : p.held = p.ram.load x.buf (p.job.nbTrans.toNat + p.ep.cnt.toNat) := by
      rw [held, hptr, hbuf, Ram.load_add]
    rw [hram, hheld, Ram.take_load, Nat.min_comm x.room]
  · have hlen : (p.job.bufSize % uddEpGetSize p.ep).toNat = x.room % x.m := by
      rw [BitVec.toNat_umod, hroom]
      exact congrArg (x.room % ·) h.size
    have hram : (p.counted cache).ram =
        p.ram.copy (x.buf + p.job.nbTrans.toNat) cache (x.room % x.m) := by
      rw [counted, hused, if_pos rfl, hlen, hbuf]
    have hmin : min (p.job.nbTrans.toNat + p.ep.cnt.toNat) x.room =
        p.job.nbTrans.toNat + min p.ep.cnt.toNat (x.room % x.m) := by omega
    have htake : p.held.take x.room = p.ram.load x.buf p.job.nbTrans.toNat ++
        p.ram.load cache (min p.ep.cnt.toNat (x.room % x.m)) := by
      rw [held, hbuf, hptr, List.take_append, Ram.length_load, Ram.take_load, Ram.take_load,
        Nat.min_eq_right (Nat.le_of_lt hmore)]
      congr 2
      omega
    rw [hmin, hram, htake, Ram.load_add, Ram.load_copy_of_disjoint (Or.inl (Nat.le_refl _)),
      Ram.load_copy (Nat.min_le_right _ _)]

/-- **One interrupt**: the next chunk is asked for, or the callback is called. -/
theorem Asks.transComplet (h : p.Asks cache x) (hfits : x.room + 1023 < 2 ^ 16)
    (hnak : p.ep.busnack0 = true) (hflag : p.ep.trncompl0 = false)
    (hcnt : p.ep.cnt.toNat ≤ p.ep.auxdata.toNat) (hheld : p.held = ps.flatten)
    (hends : p.ep.cnt = p.ep.auxdata ∧ (∀ q ∈ ps, q.length = x.m) ∧
        p.job.nbTrans.toNat + p.ep.cnt.toNat < x.room ∨
      (p.ep.cnt = p.ep.auxdata → x.room ≤ p.job.nbTrans.toNat + p.ep.cnt.toNat) ∧
        readTransfer x.m x.room ps = some (ps.flatten, [])) :
    Filling cache x ps (p.transComplet cache) := by
  have hlen := length_held p
  have hroom := h.room
  obtain ⟨hnb, hload⟩ := h.load_counted hfits hcnt
  have hserves : (p.counted cache).Serves x :=
    ⟨h.busy, h.buf, h.room, h.callTrans, h.enabled, h.unhalted, h.chunks, h.size, h.calls⟩
  rw [transComplet_eq]
  rcases hends with ⟨hcomplete, hfull, hmore⟩ | ⟨hover, hread⟩
  · rw [Nat.min_eq_left (by omega), hlen] at hnb
    have hgoes : (p.counted cache).job.nbTrans ≠ p.job.bufSize := by
      intro heq
      rw [heq, hroom] at hnb
      omega
    rw [if_pos ⟨hcomplete, hgoes⟩]
    refine hserves.request ?_ (by omega) ?_ hflag hfull ?_
    · rw [hnb, hcomplete]
      exact Nat.dvd_add h.aligned h.whole
    · -- after the cache buffer there is no room
      rcases h.place with ⟨hunused, _⟩ | ⟨_, _, hone, hrest⟩
      · exact hunused
      · have hpos := packetSize_pos p.ep
        rw [h.size] at hpos
        have hmod := Nat.mod_lt x.room hpos
        rw [hcomplete] at hmore
        omega
    · rw [hload, hheld, List.take_of_length_le]
      rw [← hheld, hlen]
      omega
  · have hstops : ¬ (p.ep.cnt = p.ep.auxdata ∧ (p.counted cache).job.nbTrans ≠ p.job.bufSize) := by
      rintro ⟨hcomplete, hgoes⟩
      have hfull := hover hcomplete
      exact hgoes (BitVec.eq_of_toNat_eq (by omega))
    rw [if_neg hstops, finish, if_pos hserves.busy]
    rw [hheld] at hnb hload
    refine .done rfl hnak hflag hnb hload ?_ hread
    change (if p.job.callTrans.isSome = true then _ :: p.calls else p.calls) = _
    rw [h.callTrans, h.calls]
    cases x.callback <;> rfl

/-- `USB_TRNCOMPL_vect` -/
theorem Filling.transferComplete (h : Filling cache x ps p) (hfits : x.room + 1023 < 2 ^ 16) :
    Filling cache x ps (p.transferComplete cache) := by
  have hidle (hflag : p.ep.trncompl0 = false) : Filling cache x ps (p.transferComplete cache) := by
    rw [OutPipe.transferComplete, hflag, if_neg Bool.false_ne_true]
    exact h
  cases h with
  | armed _ _ hflag _ _ _ _ => exact hidle hflag
  | done _ _ hflag _ _ _ _ => exact hidle hflag
  | received hasks hnak hflag hcnt hheld hends =>
    rw [OutPipe.transferComplete, hflag, if_pos rfl]
    have hacked : { p with ep := uddEndpointAckTransferComplete p.ep }.Asks cache x :=
      ⟨⟨hasks.busy, hasks.buf, hasks.room, hasks.callTrans, hasks.enabled, hasks.unhalted,
        hasks.chunks, hasks.size, hasks.calls⟩, hasks.aligned, hasks.more, hasks.whole, hasks.bound, hasks.place⟩
    exact hacked.transComplet hfits hnak rfl hcnt hheld hends

/-! ## Runs -/

/-- **The run lemma** -/
theorem Filling.run (h : Filling cache x ps p) (hfits : x.room + 1023 < 2 ^ 16)
    (hapart : x.Apart cache) {es : List OutEvent} (hes : ∀ e ∈ es, e.serves) :
    ∃ p', (machine cache).run p es = .ok p' ∧
      Filling cache x (ps ++ packetsTaken cache p es) p' := by
  refine Machine.observe_run (f := packetTaken) (fun ps p e he h => ?_) hes h
  cases e with
  | receive data => exact ⟨_, rfl, h.receive hapart data⟩
  | transferComplete =>
    refine ⟨_, rfl, ?_⟩
    rw [packetTaken, List.append_nil]
    exact h.transferComplete hfits
  | alloc _ _ | free | run _ _ _ _ | abort | setHalt | clearHalt => exact he.elim

/-- As long as the reader waits, the endpoint does, too. -/
theorem Filling.busy_of_none (h : Filling cache x ps p) (hread : readTransfer x.m x.room ps = none) :
    p.job.busy = true ∧ p.calls = x.calls := by
  cases h with
  | armed hasks _ _ _ _ _ _ => exact ⟨hasks.busy, hasks.calls⟩
  | received hasks _ _ _ _ _ => exact ⟨hasks.busy, hasks.calls⟩
  | done _ _ _ _ _ _ hend =>
    rw [hread] at hend
    cases hend

/-- Without an interrupt pending, the next packet is taken. -/
theorem Filling.takes_of_none (h : Filling cache x ps p) (hread : readTransfer x.m x.room ps = none)
    (hflag : p.ep.trncompl0 = false) (hlen : data.length ≤ x.m) : p.takes data = true := by
  cases h with
  | armed hasks hnak _ _ _ _ _ =>
    rw [takes, UsbEp.live, hasks.enabled, hasks.unhalted, hnak, hasks.size]
    exact decide_eq_true hlen
  | received _ _ hset _ _ _ => exact absurd (hset.symm.trans hflag) Bool.noConfusion
  | done _ _ _ _ _ _ hend =>
    rw [hread] at hend
    cases hend

/-- The interrupt acknowledges its flag. -/
theorem transferComplete_trncompl0 (cache : ℕ) (p : OutPipe) :
    (p.transferComplete cache).ep.trncompl0 = false := by
  rw [OutPipe.transferComplete]
  split
  · rw [transComplet_eq]
    split
    · exact (request_same cache _).2.2.2.2.1
    · obtain ⟨busy, calls, hfinish⟩ :=
        finish_same (counted cache { p with ep := uddEndpointAckTransferComplete p.ep })
      rw [hfinish]
      rfl
  · next hflag => exact Bool.eq_false_of_not_eq_true hflag

/-- When the transfer has ended and no interrupt is pending, the job is complete. -/
theorem Filling.done_of_some (h : Filling cache x ps p) (hflag : p.ep.trncompl0 = false)
    {data : List Byte} {rest : List (List Byte)}
    (hread : readTransfer x.m x.room ps = some (data, rest)) :
    rest = [] ∧ p.job.busy = false ∧ p.job.nbTrans.toNat = min data.length x.room ∧
      p.ram.load x.buf (min data.length x.room) = data.take x.room ∧
      p.calls = (x.callback.toList.map fun _ => (.ok, p.job.nbTrans)) ++ x.calls := by
  cases h with
  | armed hasks _ _ hwhole hless hfull hheld =>
    have hlen := length_held p
    rw [hheld] at hlen
    rw [readTransfer_of_full hfull (hlen.trans_lt (hasks.fits hwhole hless).2)] at hread
    cases hread
  | received _ _ hset _ _ _ => exact absurd (hset.symm.trans hflag) Bool.noConfusion
  | done hidle _ _ hnb hload hcalls hend =>
    obtain ⟨rfl, rfl⟩ := Prod.mk.inj (Option.some.inj (hend.symm.trans hread))
    exact ⟨rfl, hidle, hnb, hnb ▸ hload, hcalls⟩

/-- The endpoint can take a transfer. -/
structure Ready (p : OutPipe) : Prop where
  enabled : uddEndpointIsEnable p.ep = true
  unhalted : p.ep.halted = false
  /-- it was allocated by `udd_ep_alloc` -/
  chunks : p.ep.Chunks
  /-- there is no job -/
  idle : p.job.busy = false
  /-- no interrupt is pending -/
  quiet : p.ep.trncompl0 = false

/-- The transfer a call asks for -/
def outTransfer (buf : ℕ) (bufSize : Word) (callback : Option UddCallbackTrans) (p : OutPipe) :
    OutTransfer where
  buf := buf
  room := bufSize.toNat
  m := p.ep.packetSize
  callback := callback
  calls := p.calls

/-- `udd_ep_run` accepts the transfer and asks for its first chunk. -/
theorem filling_start (h : p.Ready) (cache : ℕ) (bShortpacket : Bool) (buf : ℕ) {bufSize : Word}
    (callback : Option UddCallbackTrans) (hpos : 0 < bufSize.toNat)
    (hiso : p.ep.type = .isochronous → p.ep.packetSize ∣ bufSize.toNat) :
    ∃ p₁, p.run cache bShortpacket buf bufSize callback = (true, p₁) ∧
      Filling cache (p.outTransfer buf bufSize callback) [] p₁ ∧ p₁.ep.trncompl0 = false := by
  have haccepts : p.accepts = true := by
    rw [accepts, h.enabled, h.unhalted, h.idle]
    rfl
  have hwhole : ¬ (p.ep.type = .isochronous ∧ bufSize % uddEpGetSize p.ep ≠ 0) := by
    rintro ⟨htype, hrest⟩
    refine hrest (BitVec.eq_of_toNat_eq ?_)
    rw [BitVec.toNat_umod]
    exact Nat.mod_eq_zero_of_dvd (hiso htype)
  refine ⟨_, by rw [run, haccepts, Bool.not_true, if_neg Bool.false_ne_true, if_neg hwhole], ?_⟩
  -- no byte has been received of a chunk of no bytes
  let started : OutPipe :=
    { p with
      job := newJob bShortpacket bufSize callback p.job
      buf := buf
      ep := { p.ep with cnt := 0, auxdata := 0 } }
  change Filling cache (p.outTransfer buf bufSize callback) [] (started.transComplet cache) ∧
    (started.transComplet cache).ep.trncompl0 = false
  have hnb : (started.counted cache).job.nbTrans = 0 := by
    refine BitVec.eq_of_toNat_eq ?_
    rw [toNat_counted cache (by decide : (0 : Word).toNat + (0 : Word).toNat < 2 ^ 16)]
    exact Nat.zero_min _
  have hgoes : (started.counted cache).job.nbTrans ≠ started.job.bufSize := by
    rw [hnb]
    rintro hzero
    exact absurd (congrArg BitVec.toNat hzero) (Nat.ne_of_lt hpos)
  have hserves : (started.counted cache).Serves (p.outTransfer buf bufSize callback) :=
    ⟨rfl, rfl, rfl, rfl, h.enabled, h.unhalted, h.chunks, rfl, rfl⟩
  have hzero : (started.counted cache).job.nbTrans.toNat = 0 := congrArg BitVec.toNat hnb
  rw [transComplet_eq, if_pos ⟨rfl, hgoes⟩]
  refine ⟨hserves.request ?_ ?_ rfl h.quiet (List.forall_mem_nil _) ?_,
    (request_same cache _).2.2.2.2.1.trans h.quiet⟩
  · rw [hzero]
    exact Nat.dvd_zero _
  · exact hzero.trans_lt hpos
  · rw [hzero, Ram.load_zero, List.flatten_nil]

/-- The host sends packets, and waits for the interrupt after each. -/
def sendRounds (qs : List (List Byte)) : List OutEvent :=
  qs.flatMap fun q => [.receive q, .transferComplete]

/-- The controller takes the packets of a transfer one after the other. -/
theorem Filling.rounds {qs : List (List Byte)} (h : Filling cache x ps p)
    (hfits : x.room + 1023 < 2 ^ 16) (hapart : x.Apart cache) (hm : 0 < x.m)
    (hflag : p.ep.trncompl0 = false) (hall : ps ++ qs = packets x.m x.room data) :
    ∃ p', (machine cache).run p (sendRounds qs) = .ok p' ∧
      Filling cache x (packets x.m x.room data) p' ∧ p'.ep.trncompl0 = false := by
  induction qs generalizing ps p with
  | nil =>
    rw [List.append_nil] at hall
    exact ⟨p, rfl, hall ▸ h, hflag⟩
  | cons q qs ih =>
    have hmem : q ∈ packets x.m x.room data := by
      rw [← hall]
      exact List.mem_append_right _ List.mem_cons_self
    have hne : ps ≠ packets x.m x.room data := by
      intro heq
      have hlen := congrArg List.length hall
      rw [List.length_append, ← heq, List.length_cons] at hlen
      omega
    have hwaits := readTransfer_of_isPrefix hm ⟨_, hall⟩ hne
    have htakes := h.takes_of_none hwaits hflag (length_le_of_mem_packets hmem)
    have htaken := h.receive hapart q
    rw [if_pos htakes] at htaken
    have hall' : (ps ++ [q]) ++ qs = packets x.m x.room data := by
      rw [List.append_assoc]
      exact hall
    obtain ⟨p', hrun, hend⟩ := ih (htaken.transferComplete hfits)
      (transferComplete_trncompl0 cache _) hall'
    exact ⟨p', hrun, hend⟩

end OutPipe

/-! ## Callers of `udd_ep_run` -/

section Callers

open OutPipe

variable {cache buf : ℕ} {bufSize : Word} {p : OutPipe}

/-- **What a caller of `udd_ep_run` gets.** For any buffer, size of packets and callback, and
however the host sends and the interrupt is delayed: nothing is taken after the end of the
transfer; as long as it has not ended, the callback waits; and when the interrupt has run
after the end, the buffer holds what has been sent as far as there is room, and the callback
has been called with its length, once. -/
theorem bulkOut_receives (h : p.Ready) (hpos : 0 < bufSize.toNat)
    (hfits : bufSize.toNat + 1023 < 2 ^ 16)
    (hiso : p.ep.type = .isochronous → p.ep.packetSize ∣ bufSize.toNat)
    (hapart : buf + bufSize.toNat ≤ cache ∨ cache + p.ep.packetSize ≤ buf) (bShortpacket : Bool)
    (callback : Option UddCallbackTrans) {es : List OutEvent} (hes : ∀ e ∈ es, e.serves) :
    ∃ p₁ p', p.run cache bShortpacket buf bufSize callback = (true, p₁) ∧
      (machine cache).run p₁ es = .ok p' ∧
      let taken := readTransfer p.ep.packetSize bufSize.toNat (packetsTaken cache p₁ es)
      let after := p'.transferComplete cache
      (taken = none → p'.job.busy = true ∧ p'.calls = p.calls) ∧
      ∀ data rest, taken = some (data, rest) →
        rest = [] ∧ after.job.busy = false ∧
        after.job.nbTrans.toNat = min data.length bufSize.toNat ∧
        after.ram.load buf (min data.length bufSize.toNat) = data.take bufSize.toNat ∧
        after.calls = (callback.toList.map fun _ => (.ok, after.job.nbTrans)) ++ p.calls := by
  obtain ⟨p₁, hrun, hstart, _⟩ := filling_start h cache bShortpacket buf callback hpos hiso
  obtain ⟨p', hs', hfill⟩ := hstart.run hfits hapart hes
  rw [List.nil_append] at hfill
  refine ⟨p₁, p', hrun, hs', hfill.busy_of_none, fun data rest hread => ?_⟩
  exact (hfill.transferComplete hfits).done_of_some (transferComplete_trncompl0 cache p') hread

/-- **Round trip**: a host that cuts data into packets and waits for the interrupts gets them
into the buffer, and the callback is called once. -/
theorem bulkOut_delivers (h : p.Ready) (hpos : 0 < bufSize.toNat)
    (hfits : bufSize.toNat + 1023 < 2 ^ 16)
    (hiso : p.ep.type = .isochronous → p.ep.packetSize ∣ bufSize.toNat)
    (hapart : buf + bufSize.toNat ≤ cache ∨ cache + p.ep.packetSize ≤ buf) (bShortpacket : Bool)
    (callback : Option UddCallbackTrans) {data : List Byte} (hlen : data.length ≤ bufSize.toNat) :
    ∃ p₁ p', p.run cache bShortpacket buf bufSize callback = (true, p₁) ∧
      (machine cache).run p₁ (sendRounds (packets p.ep.packetSize bufSize.toNat data)) = .ok p' ∧
      p'.job.busy = false ∧ p'.ram.load buf data.length = data ∧
      p'.calls = (callback.toList.map fun _ => (.ok, BitVec.ofNat 16 data.length)) ++ p.calls := by
  have hm : 0 < p.ep.packetSize := packetSize_pos _
  obtain ⟨p₁, hrun, hstart, hquiet⟩ :=
    filling_start h cache bShortpacket buf callback hpos hiso
  obtain ⟨p', hs', hfill, hflag⟩ := hstart.rounds hfits hapart hm hquiet (List.nil_append _)
  have hread : readTransfer p.ep.packetSize bufSize.toNat
      (packets p.ep.packetSize bufSize.toNat data) = some (data, []) := by
    have hback := readTransfer_packets hm hlen []
    rwa [List.append_nil] at hback
  obtain ⟨_, hidle, hnb, hload, hcalls⟩ := hfill.done_of_some hflag hread
  have hmin : min data.length bufSize.toNat = data.length := Nat.min_eq_left hlen
  have hsize : p'.job.nbTrans = BitVec.ofNat 16 data.length := by
    refine BitVec.eq_of_toNat_eq ?_
    have hsmall : data.length < 2 ^ 16 := by omega
    rw [BitVec.toNat_ofNat, Nat.mod_eq_of_lt hsmall]
    exact hnb.trans hmin
  refine ⟨p₁, p', hrun, hs', hidle, ?_, hsize ▸ hcalls⟩
  have hload' : p'.ram.load buf (min data.length bufSize.toNat) = data.take bufSize.toNat := hload
  rwa [hmin, List.take_of_length_le hlen] at hload'

end Callers

open OutPipe

/-- A bulk endpoint with packets of eight bytes -/
def bulkEight : OutPipe := (fresh fun _ => 0).alloc 2 8

theorem bulkEight_ready : bulkEight.Ready := ⟨rfl, rfl, chunks_alloc rfl, rfl, rfl⟩

/-- The host sends two packets before the interrupt runs; the second of them is refused. -/
def hasty : List OutEvent :=
  [.receive (List.replicate 8 1), .receive (List.replicate 8 2), .transferComplete,
    .receive (List.replicate 8 2), .receive [3]]

/-- The buffer takes three bytes of the second packet. -/
theorem bulkOut_receives_hasty :
    ∃ p₁ p', bulkEight.run 1000 false 2000 11 (some .udiHidGenericReportInSent) = (true, p₁) ∧
      (machine 1000).run p₁ hasty = .ok p' ∧
      (p'.transferComplete 1000).ram.load 2000 11 = [1, 1, 1, 1, 1, 1, 1, 1, 2, 2, 2] ∧
      (p'.transferComplete 1000).calls = [(.ok, 11)] := by
  have hes : ∀ e ∈ hasty, e.serves := by decide
  obtain ⟨p₁, p', hrun, hs', _, hend⟩ := bulkOut_receives bulkEight_ready
    (by decide : 0 < (11 : Word).toNat) (by decide : (11 : Word).toNat + 1023 < 2 ^ 16) nofun
    (Or.inr (by decide : 1000 + bulkEight.ep.packetSize ≤ 2000)) false
    (some .udiHidGenericReportInSent) hes
  obtain rfl : (bulkEight.run 1000 false 2000 11 (some .udiHidGenericReportInSent)).2 = p₁ :=
    congrArg Prod.snd hrun
  have htaken : readTransfer bulkEight.ep.packetSize (11 : Word).toNat
      (packetsTaken 1000
        (bulkEight.run 1000 false 2000 11 (some .udiHidGenericReportInSent)).2 hasty) =
      some (List.replicate 8 1 ++ List.replicate 8 2, []) := by decide +kernel
  obtain ⟨_, _, hnb, hload, hcalls⟩ := hend _ _ htaken
  refine ⟨_, p', hrun, hs', hload, ?_⟩
  rw [hcalls, BitVec.eq_of_toNat_eq (hnb.trans (rfl : _ = (11 : Word).toNat))]
  rfl

theorem bulkOut_delivers_twenty :
    ∃ p₁ p', bulkEight.run 1000 false 2000 30 none = (true, p₁) ∧
      (machine 1000).run p₁ (sendRounds (packets 8 30 (List.replicate 20 7))) = .ok p' ∧
      p'.job.busy = false ∧ p'.ram.load 2000 20 = List.replicate 20 7 := by
  obtain ⟨p₁, p', hrun, hs', hidle, hload, _⟩ := bulkOut_delivers bulkEight_ready
    (by decide : 0 < (30 : Word).toNat) (by decide : (30 : Word).toNat + 1023 < 2 ^ 16) nofun
    (Or.inr (by decide : 1000 + bulkEight.ep.packetSize ≤ 2000)) false none
    (by decide : (List.replicate 20 (7 : Byte)).length ≤ (30 : Word).toNat)
  exact ⟨p₁, p', hrun, hs', hidle, hload⟩

end HidJoystick
