import HidJoystick.Machine
import HidJoystick.Packets

/-!
# Control pipes

A control pipe serves one request at a time: a SETUP packet, then data in one direction
or none, then a handshake in the other direction. The host may break off at any time and
send the next SETUP packet. A request may change a value of the device, such as its
address; the change is deferred until the request has ended.

The device's side of the pipe is `ControlPipe`: how far the request has got, and the
packets waiting for the host. What a request means is not its business: an `Answer`
comes with each SETUP packet.

* `Progress.run` — **what the host has been sent** is the beginning of the reply, in
  order and without gaps or repetitions, however the host polls, breaks off and halts.
* `packetsSent_poll` — a host that polls gets all of it.
* `Settling.run` — **a deferred change** takes place at the end of the handshake, and
  only once.
* `Orderly.value_next` — nothing else but a reset changes the value.
* `next_setup` — a SETUP packet puts the pipe into a state that does not depend on the
  request it interrupts.

Items of data are of type `β`, and values of type `ω`.
-/

universe u v

open Packets

/-- How far the request has got. -/
inductive ControlStage : Type where
  /-- no request -/
  | setup : ControlStage
  /-- waiting for the host's data -/
  | dataOut : ControlStage
  /-- sending data -/
  | dataIn : ControlStage
  /-- sending the handshake -/
  | statusIn : ControlStage
  /-- waiting for the host's handshake -/
  | statusOut : ControlStage
  /-- the request was refused -/
  | stalled : ControlStage
  deriving DecidableEq, Repr

/-- The device's side of a control pipe. -/
@[ext] structure ControlPipe (β : Type u) (ω : Type v) where
  stage : ControlStage
  /-- the packets waiting for the host, the next one first -/
  queue : List (List β)
  /-- every packet is answered with STALL -/
  halted : Bool
  /-- the endpoint is enabled -/
  attached : Bool
  /-- the change to make when the request has ended -/
  deferred : Option ω
  /-- the value such changes are made to -/
  value : ω

namespace ControlPipe

/-- The answer to a SETUP packet. -/
inductive Answer (β : Type u) (ω : Type v) : Type (max u v) where
  /-- the request is refused -/
  | refuse : Answer β ω
  /-- the host has room for so many items, and is sent these -/
  | reply : ℕ → List β → Answer β ω
  /-- there is no data, and this is the deferred change -/
  | accept : Option ω → Answer β ω
  /-- the host sends data -/
  | receive : Answer β ω

/-- What happens on the pipe. -/
inductive Event (β : Type u) (ω : Type v) : Type (max u v) where
  /-- nothing -/
  | keep : Event β ω
  /-- a SETUP packet -/
  | setup : Answer β ω → Event β ω
  /-- the host polls -/
  | poll : Event β ω
  /-- the host sends data or a handshake -/
  | send : Event β ω
  /-- the host sends while the device is not ready for it -/
  | overflow : Event β ω
  /-- the host polls while the device is not ready for it -/
  | underflow : Event β ω
  /-- the halt ends -/
  | unhalt : Event β ω
  /-- the bus is reset, and the value with it -/
  | reset : ω → Event β ω

/-- The stages of a request that has been answered. -/
def Event.isStage {β : Type u} {ω : Type v} : Event β ω → Prop
  | .setup _ | .reset _ => False
  | .keep | .poll | .send | .overflow | .underflow | .unhalt => True

variable {β : Type u} {ω : Type v}

/-! ## Operations -/

/-- The request has ended. -/
def finish (c : ControlPipe β ω) : ControlPipe β ω :=
  { c with stage := .setup, queue := [], deferred := none, value := c.deferred.getD c.value }

/-- The request is broken off. The host's SETUP packet may hide that the handshake went
well before. -/
def interrupt (c : ControlPipe β ω) : ControlPipe β ω :=
  if c.stage = .statusIn ∨ c.stage = .statusOut then c.finish
  else { c with stage := .setup, queue := [], deferred := none }

/-- The stage that follows a SETUP packet. -/
def answer (m : ℕ) : Answer β ω → ControlPipe β ω → ControlPipe β ω
  | .refuse, c => { c with stage := .stalled, halted := true }
  | .reply room data, c => { c with stage := .dataIn, queue := packets m room data }
  | .accept deferred, c => { c with stage := .statusIn, queue := [[]], deferred := deferred }
  | .receive, c => { c with stage := .dataOut }

/-- The handshake that ends an OUT request. -/
def sendHandshake (c : ControlPipe β ω) : ControlPipe β ω :=
  { c with stage := .statusIn, queue := [[]] }

/-- A packet has gone to the host, and these are left. -/
def sentPacket (rest : List (List β)) (c : ControlPipe β ω) : ControlPipe β ω :=
  match c.stage with
  | .statusIn => c.finish
  | .dataIn => { c with stage := if rest.isEmpty then .statusOut else .dataIn, queue := rest }
  | .setup | .dataOut | .statusOut | .stalled => { c with queue := rest }

/-- The packet the host would get. -/
def offered (c : ControlPipe β ω) : Option (List β) :=
  if c.attached && !c.halted then c.queue.head? else none

/-- The host polls. -/
def poll (c : ControlPipe β ω) : ControlPipe β ω :=
  if c.offered.isSome then c.sentPacket c.queue.tail else c

/-- The host sends data, which ends an OUT request's data stage, or a handshake. -/
def send (c : ControlPipe β ω) : ControlPipe β ω :=
  match c.stage with
  | .dataOut => c.sendHandshake
  | .statusOut => c.finish
  | .setup | .dataIn | .statusIn | .stalled => c

/-- The host sends early: it has had enough, or is out of step. -/
def overflow (c : ControlPipe β ω) : ControlPipe β ω :=
  match c.stage with
  | .dataIn => { c with stage := .statusOut }
  | .statusIn => { c with halted := true }
  | .setup | .dataOut | .statusOut | .stalled => c

/-- The host polls early: it has no more data, or is out of step. -/
def underflow (c : ControlPipe β ω) : ControlPipe β ω :=
  match c.stage with
  | .dataOut => c.sendHandshake
  | .statusOut => { c with halted := true }
  | .setup | .dataIn | .statusIn | .stalled => c

/-- The bus is reset. -/
def reset (value : ω) (c : ControlPipe β ω) : ControlPipe β ω :=
  { c with
    stage := .setup, queue := [], halted := false, attached := true, deferred := none
    value := value }

/-- The effect of an event. -/
def next (m : ℕ) (c : ControlPipe β ω) : Event β ω → ControlPipe β ω
  | .keep => c
  | .setup a => c.interrupt.answer m a
  | .poll => c.poll
  | .send => c.send
  | .overflow => c.overflow
  | .underflow => c.underflow
  | .unhalt => { c with halted := false }
  | .reset value => c.reset value

/-- Control pipes with packets of at most `m` items. -/
def machine (m : ℕ) : Machine (ControlPipe β ω) (Event β ω) Empty where
  step c e := .ok (c.next m e)

/-- The packet the host gets in a step. -/
def received (t : Machine.Transition (ControlPipe β ω) (Event β ω)) : Option (List β) :=
  match t.event with
  | .poll => t.pre.offered
  | _ => none

/-- The packets the host gets in a run. -/
def packetsSent (m : ℕ) (c : ControlPipe β ω) (es : List (Event β ω)) : List (List β) :=
  ((machine m).transitions c es).filterMap received

variable {m : ℕ} {c : ControlPipe β ω}

/-- The value once the request has been broken off -/
def settled (c : ControlPipe β ω) : ω :=
  if c.stage = .statusIn ∨ c.stage = .statusOut then c.deferred.getD c.value else c.value

theorem interrupt_eq (c : ControlPipe β ω) :
    c.interrupt = ⟨.setup, [], c.halted, c.attached, none, c.settled⟩ := by
  rw [interrupt, settled]
  split <;> rfl

/-- **Resynchronisation**: after a SETUP packet nothing is left of the request before it,
but the halt and the value. -/
theorem next_setup (c : ControlPipe β ω) (a : Answer β ω) :
    c.next m (.setup a) = answer m a ⟨.setup, [], c.halted, c.attached, none, c.settled⟩ := by
  rw [next, interrupt_eq]

/-- What was waiting makes no difference once it has gone. -/
theorem sentPacket_queue (c : ControlPipe β ω) (queue rest : List (List β)) :
    { c with queue := queue }.sentPacket rest = c.sentPacket rest := by
  rw [sentPacket, sentPacket]
  rcases c.stage with _ | _ | _ | _ | _ | _ <;> rfl

/-- The last packet of a reply -/
theorem sentPacket_nil (h : c.stage = .dataIn ∨ c.stage = .statusOut) :
    c.sentPacket [] = { c with stage := .statusOut, queue := [] } := by
  rw [sentPacket]
  rcases h with h | h
  · rw [h]
    rfl
  · rw [h]

/-- Another packet of a reply -/
theorem sentPacket_of_ne_nil (h : c.stage = .dataIn ∨ c.stage = .statusOut) {rest : List (List β)}
    (hrest : rest ≠ []) : c.sentPacket rest = { c with queue := rest } := by
  have hempty : rest.isEmpty = false := by simpa using hrest
  rw [sentPacket]
  rcases h with h | h
  · rw [h, hempty]
    rfl
  · rw [h]

@[simp] theorem machine_step (c : ControlPipe β ω) (e : Event β ω) :
    (machine m).step c e = .ok (c.next m e) := rfl

@[simp] theorem packetsSent_nil (c : ControlPipe β ω) : packetsSent m c [] = [] := rfl

theorem packetsSent_cons (c : ControlPipe β ω) (e : Event β ω) (es : List (Event β ω)) :
    packetsSent m c (e :: es) =
      (received ⟨c, e, c.next m e⟩).toList ++ packetsSent m (c.next m e) es := by
  rw [packetsSent, Machine.transitions_cons_of_ok (machine_step c e), List.filterMap_cons]
  cases received ⟨c, e, c.next m e⟩ <;> rfl

/-- Runs do not fault. -/
theorem run_eq_ok (c : ControlPipe β ω) (es : List (Event β ω)) :
    ∃ c', (machine m).run c es = .ok c' := by
  induction es generalizing c with
  | nil => exact ⟨c, rfl⟩
  | cons e es ih =>
    rw [Machine.run_cons_of_ok (machine_step c e)]
    exact ih (c.next m e)

/-- What is offered is the first packet waiting. -/
theorem offered_eq_some {p : List β} (h : c.offered = some p) : c.queue = p :: c.queue.tail := by
  rw [offered] at h
  split at h
  · exact (List.eq_cons_of_mem_head? h)
  · cases h

/-- An observation of single steps, along a run: `P ps c` says that `c` is a state in which
the host has been sent `ps`. -/
theorem run_invariant {P : List (List β) → ControlPipe β ω → Prop}
    (hP : ∀ ps c e, e.isStage → P ps c → P (ps ++ (received ⟨c, e, c.next m e⟩).toList) (c.next m e))
    {es : List (Event β ω)} (hes : ∀ e ∈ es, e.isStage) {ps : List (List β)} {c c' : ControlPipe β ω}
    (h : P ps c) (hrun : (machine m).run c es = .ok c') : P (ps ++ packetsSent m c es) c' := by
  induction es generalizing ps c with
  | nil =>
    obtain rfl : c = c' := by simpa using hrun
    rwa [packetsSent_nil, List.append_nil]
  | cons e es ih =>
    rw [Machine.run_cons_of_ok (machine_step c e)] at hrun
    rw [packetsSent_cons, ← List.append_assoc]
    have hnext := hP ps c e (hes e List.mem_cons_self) h
    exact ih (fun e' he' => hes e' (List.mem_cons_of_mem e he')) hnext hrun

/-! ## Replies -/

/-- The reply consists of the packets `all`, and the host has been sent `ps`. -/
inductive Progress (all ps : List (List β)) (c : ControlPipe β ω) : Prop where
  /-- the rest is waiting for the host, which may have sent its handshake early -/
  | underway : c.stage = .dataIn ∨ c.stage = .statusOut → ps ++ c.queue = all → Progress all ps c
  /-- the host has ended the request -/
  | ended : c.stage = .setup → c.queue = [] → ps <+: all → Progress all ps c

namespace Progress

variable {all ps : List (List β)}

/-- **Prefix safety**: the host has been sent the beginning of the reply. -/
theorem isPrefix (h : Progress all ps c) : ps <+: all := by
  cases h with
  | underway _ hqueue => exact ⟨c.queue, hqueue⟩
  | ended _ _ hprefix => exact hprefix

/-- Polling sends the next packet. -/
theorem poll (h : Progress all ps c) :
    Progress all (ps ++ (received ⟨c, .poll, c.next m .poll⟩).toList) (c.next m .poll) := by
  have hreceived : received ⟨c, .poll, c.next m .poll⟩ = c.offered := rfl
  have hnext : c.next m .poll = c.poll := rfl
  rw [hreceived, hnext, ControlPipe.poll]
  rcases hoff : c.offered with _ | p
  · simpa using h
  · have hqueue := offered_eq_some hoff
    rw [Option.isSome_some, if_pos rfl, Option.toList_some]
    cases h with
    | ended _ hnil _ =>
      rw [hnil] at hqueue
      cases hqueue
    | underway hstage hall =>
      have hall' : (ps ++ [p]) ++ c.queue.tail = all := by
        rw [List.append_assoc, List.singleton_append, ← hqueue, hall]
      rcases hstage with hstage | hstage
      · refine .underway ?_ ?_
        · simp only [sentPacket, hstage]
          split
          · exact Or.inr rfl
          · exact Or.inl rfl
        · simp only [sentPacket, hstage]
          exact hall'
      · refine .underway (Or.inr ?_) ?_
        · simp only [sentPacket, hstage]
        · simp only [sentPacket, hstage]
          exact hall'

/-- Every stage of the request keeps to the reply. -/
theorem step (h : Progress all ps c) (e : Event β ω) (he : e.isStage) :
    Progress all (ps ++ (received ⟨c, e, c.next m e⟩).toList) (c.next m e) := by
  have hto {e : Event β ω} {c' : ControlPipe β ω} (heq : c.next m e = c')
      (h' : Progress all ps c') : Progress all (ps ++ []) (c.next m e) := by
    rwa [List.append_nil, heq]
  cases e with
  | poll => exact h.poll
  | setup _ => exact he.elim
  | reset _ => exact he.elim
  | keep => exact hto rfl h
  | unhalt =>
    refine hto rfl ?_
    cases h with
    | underway hstage hall => exact .underway hstage hall
    | ended hstage hnil hprefix => exact .ended hstage hnil hprefix
  | send =>
    cases h with
    | ended hstage hnil hprefix =>
      exact hto (by simp only [next, send, hstage]) (.ended hstage hnil hprefix)
    | underway hstage hall =>
      rcases hstage with hstage | hstage
      · exact hto (by simp only [next, send, hstage]) (.underway (Or.inl hstage) hall)
      · -- the handshake ends the request, whatever is still waiting
        have hfinish : c.next m .send = c.finish := by simp only [next, send, hstage]
        exact hto hfinish (.ended rfl rfl ⟨c.queue, hall⟩)
  | overflow =>
    cases h with
    | ended hstage hnil hprefix =>
      exact hto (by simp only [next, overflow, hstage]) (.ended hstage hnil hprefix)
    | underway hstage hall =>
      rcases hstage with hstage | hstage
      · have hstop : c.next m .overflow = { c with stage := .statusOut } := by
          simp only [next, overflow, hstage]
        exact hto hstop (.underway (Or.inr rfl) hall)
      · exact hto (by simp only [next, overflow, hstage]) (.underway (Or.inr hstage) hall)
  | underflow =>
    cases h with
    | ended hstage hnil hprefix =>
      exact hto (by simp only [next, underflow, hstage]) (.ended hstage hnil hprefix)
    | underway hstage hall =>
      rcases hstage with hstage | hstage
      · exact hto (by simp only [next, underflow, hstage]) (.underway (Or.inl hstage) hall)
      · have hhalt : c.next m .underflow = { c with halted := true } := by
          simp only [next, underflow, hstage]
        exact hto hhalt (.underway (Or.inr hstage) hall)

/-- **The run lemma**: what has been sent and what is waiting stay the reply. -/
theorem run (h : Progress all ps c) {es : List (Event β ω)} (hes : ∀ e ∈ es, e.isStage)
    {c' : ControlPipe β ω} (hrun : (machine m).run c es = .ok c') :
    Progress all (ps ++ packetsSent m c es) c' :=
  run_invariant (fun _ _ e he h => h.step e he) hes h hrun

end Progress

/-- The pipe right after a reply was announced -/
theorem progress_reply (c : ControlPipe β ω) (room : ℕ) (data : List β) :
    Progress (packets m room data) [] (c.next m (.setup (.reply room data))) :=
  .underway (Or.inl rfl) rfl

/-- The host polls. -/
def Event.isPoll : Event β ω → Bool
  | .poll => true
  | _ => false

/-- **A host that polls gets the reply**: each poll gets the next packet, and what else
happens on the device makes no difference. -/
theorem packetsSent_poll {es : List (Event β ω)} (hes : ∀ e ∈ es, e = .poll ∨ e = .keep)
    (hattached : c.attached = true) (hhalted : c.halted = false)
    (hstage : c.stage = .dataIn ∨ c.stage = .statusOut) :
    packetsSent m c es = c.queue.take (es.countP Event.isPoll) := by
  induction es generalizing c with
  | nil => rw [packetsSent_nil, List.countP_nil, List.take_zero]
  | cons e es ih =>
    have hes' : ∀ e ∈ es, e = .poll ∨ e = .keep := fun e he => hes e (List.mem_cons_of_mem _ he)
    have hoff : c.offered = c.queue.head? := by
      rw [offered, hattached, hhalted]
      rfl
    rw [packetsSent_cons]
    rcases hes e List.mem_cons_self with rfl | rfl
    · have hreceived : received ⟨c, .poll, c.next m .poll⟩ = c.queue.head? := hoff
      rw [hreceived, List.countP_cons_of_pos rfl]
      rcases hqueue : c.queue with _ | ⟨p, rest⟩
      · -- there is nothing left to poll for
        have hsame : c.next m .poll = c := by
          change c.poll = c
          rw [ControlPipe.poll, hoff, hqueue]
          rfl
        rw [hsame, ih hes' hattached hhalted hstage, hqueue]
        simp
      · have hnext : c.next m .poll = c.sentPacket rest := by
          change c.poll = _
          rw [ControlPipe.poll, hoff, hqueue]
          rfl
        have hsent : (c.sentPacket rest).attached = true ∧ (c.sentPacket rest).halted = false ∧
            ((c.sentPacket rest).stage = .dataIn ∨ (c.sentPacket rest).stage = .statusOut) ∧
            (c.sentPacket rest).queue = rest := by
          rcases hstage with hstage | hstage
          · simp only [sentPacket, hstage]
            refine ⟨hattached, hhalted, ?_, trivial⟩
            split
            · exact Or.inr rfl
            · exact Or.inl rfl
          · simp only [sentPacket, hstage]
            exact ⟨hattached, hhalted, Or.inr trivial, trivial⟩
        obtain ⟨hatt, hhalt, hst, hrest⟩ := hsent
        rw [hnext, ih hes' hatt hhalt hst, hrest]
        rfl
    · rw [List.countP_cons_of_neg Bool.false_ne_true]
      exact ih hes' hattached hhalted hstage

/-- A refused request gets nothing, whatever the host does about it. -/
theorem packetsSent_refuse (c : ControlPipe β ω) {es : List (Event β ω)}
    (hes : ∀ e ∈ es, e.isStage) : packetsSent m (c.next m (.setup .refuse)) es = [] := by
  obtain ⟨c', hrun⟩ := run_eq_ok (m := m) (c.next m (.setup .refuse)) es
  have hnothing := run_invariant (m := m)
    (P := fun ps c => ps = [] ∧ c.stage = .stalled ∧ c.queue = []) ?_ hes ⟨rfl, rfl, ?_⟩ hrun
  · exact hnothing.1
  · rintro _ c e he ⟨rfl, hstage, hqueue⟩
    have hoff : c.offered = none := by
      rw [offered, hqueue]
      split <;> rfl
    cases e with
    | setup _ | reset _ => exact he.elim
    | poll =>
      have hsame : c.next m .poll = c := by
        simp only [next, ControlPipe.poll, hoff, Option.isSome_none, Bool.false_eq_true, if_false]
      have hreceived : received ⟨c, .poll, c.next m .poll⟩ = none := hoff
      rw [hreceived, hsame]
      exact ⟨rfl, hstage, hqueue⟩
    | keep | unhalt => exact ⟨rfl, hstage, hqueue⟩
    | send => exact ⟨rfl, by simp only [next, send, hstage], by simp only [next, send, hstage, hqueue]⟩
    | overflow =>
      exact ⟨rfl, by simp only [next, overflow, hstage], by simp only [next, overflow, hstage, hqueue]⟩
    | underflow =>
      exact ⟨rfl, by simp only [next, underflow, hstage],
        by simp only [next, underflow, hstage, hqueue]⟩
  · rw [next_setup]
    rfl

/-! ## Deferred changes -/

/-- The request defers the change `deferred` to the value `value`, and the host has been
sent `ps`. -/
inductive Settling (deferred : Option ω) (value : ω) (ps : List (List β)) (c : ControlPipe β ω) :
    Prop where
  /-- the handshake is waiting for the host -/
  | waiting : c.stage = .statusIn → c.queue = [[]] → c.deferred = deferred → c.value = value →
    ps = [] → Settling deferred value ps c
  /-- the change has been made, with the handshake -/
  | settled : c.stage = .setup → c.queue = [] → c.value = deferred.getD value → ps = [[]] →
    Settling deferred value ps c

namespace Settling

variable {deferred : Option ω} {value : ω} {ps : List (List β)}

theorem step (h : Settling deferred value ps c) (e : Event β ω) (he : e.isStage) :
    Settling deferred value (ps ++ (received ⟨c, e, c.next m e⟩).toList) (c.next m e) := by
  have hto {e : Event β ω} {c' : ControlPipe β ω} (heq : c.next m e = c')
      (h' : Settling deferred value ps c') : Settling deferred value (ps ++ []) (c.next m e) := by
    rwa [List.append_nil, heq]
  cases h with
  | settled hstage hnil hvalue hps =>
    -- without a request nothing happens, but that the halt may end
    have h' : Settling deferred value ps c := .settled hstage hnil hvalue hps
    cases e with
    | setup _ => exact he.elim
    | reset _ => exact he.elim
    | keep => exact hto rfl h'
    | unhalt => exact hto rfl (.settled hstage hnil hvalue hps)
    | send => exact hto (by simp only [next, send, hstage]) h'
    | overflow => exact hto (by simp only [next, overflow, hstage]) h'
    | underflow => exact hto (by simp only [next, underflow, hstage]) h'
    | poll =>
      have hoff : c.offered = none := by
        rw [offered, hnil]
        split <;> rfl
      have hsame : c.next m .poll = c := by
        simp only [next, ControlPipe.poll, hoff, Option.isSome_none, Bool.false_eq_true, if_false]
      have hreceived : received ⟨c, .poll, c.next m .poll⟩ = none := hoff
      rw [hreceived]
      exact hto hsame h'
  | waiting hstage hqueue hdeferred hvalue hps =>
    have h' : Settling deferred value ps c := .waiting hstage hqueue hdeferred hvalue hps
    cases e with
    | setup _ => exact he.elim
    | reset _ => exact he.elim
    | keep => exact hto rfl h'
    | unhalt => exact hto rfl (.waiting hstage hqueue hdeferred hvalue hps)
    | send => exact hto (by simp only [next, send, hstage]) h'
    | overflow =>
      have hhalt : c.next m .overflow = { c with halted := true } := by
        simp only [next, overflow, hstage]
      exact hto hhalt (.waiting hstage hqueue hdeferred hvalue hps)
    | underflow => exact hto (by simp only [next, underflow, hstage]) h'
    | poll =>
      have hreceived : received ⟨c, .poll, c.next m .poll⟩ = c.offered := rfl
      rw [hreceived]
      rcases hoff : c.offered with _ | p
      · refine hto ?_ h'
        simp only [next, ControlPipe.poll, hoff, Option.isSome_none, Bool.false_eq_true, if_false]
      · -- the handshake goes to the host, and the change is made
        have hp : p = [] := by
          have hcons := offered_eq_some hoff
          rw [hqueue] at hcons
          exact (List.cons.inj hcons).1.symm
        have hfinish : c.next m .poll = c.finish := by
          simp only [next, ControlPipe.poll, hoff, Option.isSome_some, if_true, sentPacket, hstage]
        rw [hfinish, hps, hp]
        refine .settled rfl rfl ?_ rfl
        rw [← hdeferred, ← hvalue]
        rfl

/-- **The run lemma**: the change is made with the handshake, and once. -/
theorem run (h : Settling deferred value ps c) {es : List (Event β ω)} (hes : ∀ e ∈ es, e.isStage)
    {c' : ControlPipe β ω} (hrun : (machine m).run c es = .ok c') :
    Settling deferred value (ps ++ packetsSent m c es) c' :=
  run_invariant (fun _ _ e he h => h.step e he) hes h hrun

end Settling

/-! ## Who changes the value -/

/-- Changes are deferred to the handshake only. -/
def Orderly (c : ControlPipe β ω) : Prop := c.deferred ≠ none → c.stage = .statusIn

theorem Orderly.of_none (h : c.deferred = none) : c.Orderly := fun hne => absurd h hne

/-- Only an accepted request defers a change. -/
theorem Orderly.next (h : c.Orderly) (e : Event β ω) : (c.next m e).Orderly := by
  have hnone (hstage : c.stage ≠ .statusIn) : c.deferred = none :=
    not_not.mp fun hne => hstage (h hne)
  have hif (hstage : c.stage ≠ .statusIn) {c' : ControlPipe β ω} (hd : c'.deferred = c.deferred) :
      c'.Orderly := .of_none (hd.trans (hnone hstage))
  cases e with
  | keep => exact h
  | unhalt => exact h
  | reset v => exact .of_none rfl
  | setup a =>
    rw [next_setup]
    cases a with
    | refuse => exact .of_none rfl
    | reply room data => exact .of_none rfl
    | accept deferred => exact fun _ => rfl
    | receive => exact .of_none rfl
  | poll =>
    rw [ControlPipe.next, poll]
    split
    · rw [sentPacket]
      split
      · exact .of_none rfl
      · next hstage => exact hif (by rw [hstage]; decide) rfl
      · exact h
      · exact h
      · exact h
      · exact h
    · exact h
  | send =>
    rw [ControlPipe.next, send]
    split
    · exact fun _ => rfl
    · exact .of_none rfl
    all_goals exact h
  | overflow =>
    rw [ControlPipe.next, overflow]
    split
    · next hstage => exact hif (by rw [hstage]; decide) rfl
    all_goals exact h
  | underflow =>
    rw [ControlPipe.next, underflow]
    split
    · exact fun _ => rfl
    all_goals exact h

/-- **Only the end of a handshake changes the value**, and a reset: the host has got the
handshake, or goes on as if it had. -/
theorem Orderly.value_next (h : c.Orderly) {e : Event β ω} (hne : (c.next m e).value ≠ c.value) :
    (∃ v, e = .reset v ∧ (c.next m e).value = v) ∨
      c.stage = .statusIn ∧ c.deferred = some (c.next m e).value ∧
        (e = .poll ∧ c.offered.isSome = true ∨ ∃ a, e = .setup a) := by
  have hdeferred (hset : c.deferred.getD c.value ≠ c.value) :
      c.stage = .statusIn ∧ c.deferred = some (c.deferred.getD c.value) := by
    rcases hd : c.deferred with _ | v
    · rw [hd] at hset
      exact absurd rfl hset
    · exact ⟨h (by rw [hd]; exact Option.some_ne_none v), rfl⟩
  cases e with
  | keep => exact absurd rfl hne
  | unhalt => exact absurd rfl hne
  | reset v => exact Or.inl ⟨v, rfl, rfl⟩
  | setup a =>
    have hvalue : (c.next m (.setup a)).value = c.settled := by
      rw [next_setup]
      cases a <;> rfl
    rw [hvalue] at hne ⊢
    rw [settled] at hne ⊢
    split at hne
    · next hstage =>
      rw [if_pos hstage]
      exact Or.inr ⟨(hdeferred hne).1, (hdeferred hne).2, Or.inr ⟨a, rfl⟩⟩
    · exact absurd rfl hne
  | poll =>
    rw [ControlPipe.next, poll] at hne ⊢
    split at hne
    · next hsome =>
      rw [if_pos hsome]
      rw [sentPacket] at hne ⊢
      split at hne
      · next hstage =>
        rw [hstage]
        exact Or.inr ⟨rfl, (hdeferred hne).2, Or.inl ⟨rfl, hsome⟩⟩
      all_goals exact absurd rfl hne
    · exact absurd rfl hne
  | send =>
    rw [ControlPipe.next, send] at hne
    split at hne
    · exact absurd rfl hne
    · -- nothing is deferred after a reply
      next hstage =>
      have hwait := (hdeferred hne).1
      rw [hstage] at hwait
      cases hwait
    all_goals exact absurd rfl hne
  | overflow =>
    rw [ControlPipe.next, overflow] at hne
    split at hne
    all_goals exact absurd rfl hne
  | underflow =>
    rw [ControlPipe.next, underflow] at hne
    split at hne
    all_goals exact absurd rfl hne

end ControlPipe
