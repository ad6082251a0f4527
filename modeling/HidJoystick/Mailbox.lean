import HidJoystick.Machine
import Mathlib.Data.List.Destutter

/-!
# Change-detecting mailboxes

A sender samples a value again and again and passes it on when it has changed.
Between the sender and the receiver there is room for one value: while it is
occupied, further changes are refused, and the sender tries again with whatever
it samples next. The mailbox may be halted and stopped at any time, which throws
away the value in it.

The *baseline* is the value the sender compares with: the last one the mailbox
accepted. It outlives stopping and starting.

* `Mailbox.next` — the effect of one operation, with a log of what happened.
* `Matched` — **in order, at most once**: the packets received can be assigned to
  the samples they come from, strictly increasing in time.
* `Accounted` — what the log says about the baseline and the receiver's view.
* `coalesce` — **without aborts**, what is received is what was sampled while the
  mailbox was empty, with adjacent repetitions removed.

Samples are of type `ι`, the values computed from them of type `α`, and a value
travels as a packet of type `π`.
-/

universe u v w

namespace Mailbox

/-- Where the value in the mailbox stands. -/
inductive Stage (α : Type v) : Type v where
  /-- stopped -/
  | down : Stage α
  /-- empty, ready for a value -/
  | idle : Stage α
  /-- empty, refusing values -/
  | halted : Stage α
  /-- waiting for the receiver -/
  | armed : α → Stage α
  /-- received, but the sender does not know yet -/
  | collected : α → Stage α
  deriving DecidableEq, Repr

/-- An entry of the log. -/
inductive Entry (ι : Type u) (α : Type v) (π : Type w) : Type (max u v w) where
  /-- a session starts -/
  | started : Entry ι α π
  /-- the session ends -/
  | stopped : Entry ι α π
  /-- the sender sampled this and computed this value from it -/
  | sampled : ι → α → Entry ι α π
  /-- the sender offered this value; the answer says whether it was accepted -/
  | offered : α → Bool → Entry ι α π
  /-- the receiver took this packet -/
  | received : π → Entry ι α π
  /-- the sender learned that its value was received -/
  | completed : Entry ι α π
  /-- the sender's value was thrown away -/
  | aborted : Entry ι α π
  deriving DecidableEq, Repr

/-- The operations of a mailbox. -/
inductive Op (ι : Type u) : Type u where
  /-- nothing happens -/
  | keep : Op ι
  /-- the sender samples -/
  | sample : ι → Op ι
  /-- the receiver polls -/
  | collect : Op ι
  /-- the sender is told about a reception -/
  | complete : Op ι
  /-- the receiver halts the mailbox -/
  | halt : Op ι
  /-- the receiver ends the halt -/
  | unhalt : Op ι
  /-- the session ends -/
  | stop : Op ι
  /-- a session starts -/
  | start : Op ι
  /-- the session ends and a new one starts -/
  | restart : Op ι

/-- A mailbox: its stage, the sender's baseline and the log, newest entry first. -/
structure State (ι : Type u) (α : Type v) (π : Type w) where
  /-- where the value in the mailbox stands -/
  stage : Stage α
  /-- the last value accepted -/
  baseline : α
  /-- what happened, newest first -/
  log : List (Entry ι α π)

variable {ι : Type u} {α : Type v} {π : Type w}

/-! ## What the log says -/

/-- What throwing the content of the mailbox away leaves in the log. -/
def Stage.aborts : Stage α → List (Entry ι α π)
  | .armed _ | .collected _ => [.aborted]
  | .down | .idle | .halted => []

/-- The value on its way to the receiver, if any. -/
def Stage.inFlight : Stage α → List α
  | .armed a => [a]
  | .down | .idle | .halted | .collected _ => []

/-- The packets received in the current session, oldest first. -/
def received : List (Entry ι α π) → List π
  | [] => []
  | .started :: _ => []
  | .received b :: log => received log ++ [b]
  | _ :: log => received log

/-- The value accepted last in the current session. -/
def accepted : List (Entry ι α π) → Option α
  | [] => none
  | .started :: _ => none
  | .offered a true :: _ => some a
  | _ :: log => accepted log

/-- The value accepted last, in whichever session. -/
def latest : List (Entry ι α π) → Option α
  | [] => none
  | .offered a true :: _ => some a
  | _ :: log => latest log

/-- The value accepted last in the current session, unless it was received or
thrown away since. -/
def waiting : List (Entry ι α π) → Option α
  | [] => none
  | .started :: _ => none
  | .offered a true :: _ => some a
  | .received _ :: _ => none
  | .aborted :: _ => none
  | _ :: log => waiting log

/-- The value accepted last in the current session, if it was thrown away before
it was received. -/
def lost : List (Entry ι α π) → Option α
  | [] => none
  | .started :: _ => none
  | .offered _ true :: _ => none
  | .received _ :: _ => none
  | .aborted :: log => waiting log
  | _ :: log => lost log

/-- Nothing is lost where nothing was aborted. -/
theorem lost_eq_none {log : List (Entry ι α π)} (h : Entry.aborted ∉ log) : lost log = none := by
  induction log with
  | nil => rfl
  | cons e log ih =>
    have htail : lost log = none := ih fun hmem => h (List.mem_cons_of_mem _ hmem)
    cases e with
    | aborted => exact absurd List.mem_cons_self h
    | offered a b => cases b <;> simp [lost, htail]
    | _ => simp [lost, htail]

/-! ## Operations -/

section Operations

variable [DecidableEq α] (val : ι → α) (enc : α → π)

/-- The sender samples `x`: a changed value is offered, and an empty mailbox
accepts it. -/
def State.sample (x : ι) (c : State ι α π) : State ι α π :=
  match c.stage with
  | .down => c
  | .idle =>
    if val x = c.baseline then { c with log := .sampled x (val x) :: c.log }
    else ⟨.armed (val x), val x, .offered (val x) true :: .sampled x (val x) :: c.log⟩
  | .halted | .armed _ | .collected _ =>
    if val x = c.baseline then { c with log := .sampled x (val x) :: c.log }
    else { c with log := .offered (val x) false :: .sampled x (val x) :: c.log }

/-- The session ends. -/
def State.stop (c : State ι α π) : State ι α π :=
  { c with stage := .down, log := .stopped :: (c.stage.aborts ++ c.log) }

/-- A session starts. -/
def State.start (c : State ι α π) : State ι α π :=
  { c with stage := .idle, log := .started :: c.log }

/-- The effect of one operation. -/
def State.next (c : State ι α π) : Op ι → State ι α π
  | .keep => c
  | .sample x => c.sample val x
  | .collect =>
    match c.stage with
    | .armed a => { c with stage := .collected a, log := .received (enc a) :: c.log }
    | _ => c
  | .complete =>
    match c.stage with
    | .collected _ => { c with stage := .idle, log := .completed :: c.log }
    | _ => c
  | .halt =>
    match c.stage with
    | .down => c
    | _ => { c with stage := .halted, log := c.stage.aborts ++ c.log }
  | .unhalt =>
    match c.stage with
    | .halted => { c with stage := .idle }
    | _ => c
  | .stop => c.stop
  | .start => c.start
  | .restart => c.stop.start

/-- The mailbox as a machine. It has no faults. -/
def machine : Machine (State ι α π) (Op ι) Empty where
  step c op := .ok (c.next val enc op)

/-! ## The books -/

/-- What the log says about the mailbox: while a session is on, the value accepted
last in it is the baseline, and it is on its way, or received, or lost. -/
def Accounted (c : State ι α π) : Prop :=
  match c.stage with
  | .down => True
  | .idle | .halted =>
    waiting c.log = none ∧
      ((accepted c.log = none ∧ received c.log = [] ∧ lost c.log = none) ∨
        accepted c.log = some c.baseline ∧
          (lost c.log = some c.baseline ∨
            lost c.log = none ∧ (received c.log).getLast? = some (enc c.baseline)))
  | .armed a => a = c.baseline ∧ accepted c.log = some a ∧ waiting c.log = some a
  | .collected a =>
    a = c.baseline ∧ accepted c.log = some a ∧ waiting c.log = none ∧ lost c.log = none ∧
      (received c.log).getLast? = some (enc a)

theorem Accounted.sample {c : State ι α π} (h : Accounted enc c) (x : ι) :
    Accounted enc (c.sample val x) := by
  obtain ⟨stage, baseline, log⟩ := c
  by_cases hx : val x = baseline
  · cases stage with
    | down => trivial
    | _ => simpa [State.sample, Accounted, hx, accepted, received, waiting, lost] using h
  · cases stage with
    | down => trivial
    | idle => simp [State.sample, Accounted, hx, accepted, waiting]
    | _ => simpa [State.sample, Accounted, hx, accepted, received, waiting, lost] using h

omit [DecidableEq α] in
theorem Accounted.start (c : State ι α π) : Accounted enc c.start :=
  ⟨rfl, Or.inl ⟨rfl, rfl, rfl⟩⟩

theorem Accounted.halt {c : State ι α π} (h : Accounted enc c) :
    Accounted enc (c.next val enc .halt) := by
  obtain ⟨stage, baseline, log⟩ := c
  cases stage with
  | down => trivial
  | idle => exact h
  | halted => exact h
  | armed a =>
    -- the value accepted last is lost
    obtain ⟨rfl, hacc, hwait⟩ := h
    exact ⟨rfl, Or.inr ⟨hacc, Or.inl hwait⟩⟩
  | collected a =>
    -- it was received before it was thrown away
    obtain ⟨rfl, hacc, hwait, _, hrec⟩ := h
    exact ⟨rfl, Or.inr ⟨hacc, Or.inr ⟨hwait, hrec⟩⟩⟩

/-- The books are kept by every operation. -/
theorem Accounted.next {c : State ι α π} (h : Accounted enc c) (op : Op ι) :
    Accounted enc (c.next val enc op) := by
  cases op with
  | keep => exact h
  | sample x => exact Accounted.sample val enc h x
  | halt => exact Accounted.halt val enc h
  | stop => trivial
  | start => exact Accounted.start enc c
  | restart => exact Accounted.start enc c.stop
  | collect =>
    obtain ⟨stage, baseline, log⟩ := c
    cases stage with
    | armed a =>
      obtain ⟨rfl, hacc, _⟩ := h
      exact ⟨rfl, hacc, rfl, rfl, List.getLast?_concat⟩
    | _ => exact h
  | complete =>
    obtain ⟨stage, baseline, log⟩ := c
    cases stage with
    | collected a =>
      obtain ⟨rfl, hacc, hwait, hlost, hrec⟩ := h
      exact ⟨hwait, Or.inr ⟨hacc, Or.inr ⟨hlost, hrec⟩⟩⟩
    | _ => exact h
  | unhalt =>
    obtain ⟨stage, baseline, log⟩ := c
    cases stage with
    | halted => exact h
    | _ => exact h

/-! ## What an operation may do -/

/-- The operation throws away what is in the mailbox. -/
def Op.disrupts : Op ι → Prop
  | .halt | .stop | .restart => True
  | .keep | .sample _ | .collect | .complete | .unhalt | .start => False

instance : DecidablePred (@Op.disrupts ι) := fun op => by
  cases op <;> unfold Op.disrupts <;> infer_instance

/-- The operation takes place within one session. -/
def Op.inSession : Op ι → Prop
  | .stop | .start | .restart => False
  | .keep | .sample _ | .collect | .complete | .halt | .unhalt => True

instance : DecidablePred (@Op.inSession ι) := fun op => by
  cases op <;> unfold Op.inSession <;> infer_instance

/-- The operation takes place within one session and throws nothing away. -/
def Op.gentle : Op ι → Prop
  | .keep | .sample _ | .collect | .complete => True
  | .halt | .unhalt | .stop | .start | .restart => False

instance : DecidablePred (@Op.gentle ι) := fun op => by
  cases op <;> unfold Op.gentle <;> infer_instance

/-- Nothing is aborted unless something is in the mailbox and the operation throws it away. -/
theorem aborted_notMem_next {c : State ι α π} (h : Entry.aborted ∉ c.log) {op : Op ι}
    (hop : op.disrupts → (c.stage.aborts : List (Entry ι α π)) = []) :
    Entry.aborted ∉ (c.next val enc op).log := by
  cases op with
  | keep => exact h
  | sample x =>
    rw [State.next, State.sample]
    split
    · exact h
    all_goals split <;> simp [h]
  | halt =>
    obtain ⟨stage, baseline, log⟩ := c
    cases stage with
    | down => exact h
    | _ => simpa [State.next, hop trivial] using h
  | stop => simpa [State.next, State.stop, hop trivial] using h
  | restart => simpa [State.next, State.stop, State.start, hop trivial] using h
  | start => simpa [State.next, State.start] using h
  | _ =>
    rw [State.next]
    split <;> simp [h]

/-- While nothing has been accepted in this session, the baseline is `home`. -/
def Homed (home : α) (c : State ι α π) : Prop := accepted c.log = none → c.baseline = home

/-- Within a session the baseline only changes when a value is accepted. -/
theorem Homed.next {home : α} {c : State ι α π} (h : Homed home c) {op : Op ι}
    (hop : op.inSession) : Homed home (c.next val enc op) := by
  obtain ⟨stage, baseline, log⟩ := c
  cases op with
  | keep => exact h
  | sample x =>
    by_cases hx : val x = baseline
    · cases stage <;> simpa [Homed, State.next, State.sample, hx, accepted] using h
    · cases stage with
      | idle => simp [Homed, State.next, State.sample, hx, accepted]
      | _ => simpa [Homed, State.next, State.sample, hx, accepted] using h
  | stop => exact hop.elim
  | start => exact hop.elim
  | restart => exact hop.elim
  | _ => cases stage <;> simpa [Homed, State.next, accepted, Stage.aborts] using h

/-- The baseline is the value accepted last, and `home` before that. -/
def Remembers (home : α) (c : State ι α π) : Prop := c.baseline = (latest c.log).getD home

/-- Whatever happens, only accepting a value moves the baseline. -/
theorem Remembers.next {home : α} {c : State ι α π} (h : Remembers home c) (op : Op ι) :
    Remembers home (c.next val enc op) := by
  obtain ⟨stage, baseline, log⟩ := c
  cases op with
  | keep => exact h
  | sample x =>
    by_cases hx : val x = baseline
    · cases stage <;> simpa [Remembers, State.next, State.sample, hx, latest] using h
    · cases stage with
      | idle => simp [Remembers, State.next, State.sample, hx, latest]
      | _ => simpa [Remembers, State.next, State.sample, hx, latest] using h
  | stop => cases stage <;> exact h
  | restart => cases stage <;> exact h
  | _ => cases stage <;> exact h

/-- A sample leaves the mailbox empty exactly if it finds it empty and is the baseline;
it is recorded, and that is all. -/
theorem sample_idle {c : State ι α π} {x : ι} (h : (c.sample val x).stage = .idle) :
    c.stage = .idle ∧ val x = c.baseline ∧
      c.sample val x = { c with log := .sampled x (val x) :: c.log } := by
  obtain ⟨stage, baseline, log⟩ := c
  by_cases hx : val x = baseline
  · cases stage <;> simp_all [State.sample]
  · cases stage <;> simp_all [State.sample]

/-! ## The receiver's view -/

/-- What the receiver takes the value to be: the last packet of the session, or
what `home` stands for when there was none. -/
def view (home : α) (log : List (Entry ι α π)) : π := (received log).getLast?.getD (enc home)

/-- **The view of an empty mailbox.** Where the sender samples its own baseline
and so offers nothing, the receiver holds the sampled value unless another value than
the one it holds was lost, or nothing was accepted in this session. -/
theorem view_of_idle (henc : Function.Injective enc) {c : State ι α π} (h : Accounted enc c)
    (hidle : c.stage = .idle) (home : α) :
    view enc home c.log = enc c.baseline ↔
      ¬ (accepted c.log = none ∧ c.baseline ≠ home) ∧
        ¬ ∃ a, lost c.log = some a ∧ view enc home c.log ≠ enc a := by
  obtain ⟨stage, baseline, log⟩ := c
  obtain rfl : stage = .idle := hidle
  obtain ⟨_, ⟨hacc, hrec, hlost⟩ | ⟨hacc, hlost | ⟨hlost, hrec⟩⟩⟩ := h
  · -- nothing was accepted in this session, and the baseline is an older one
    have hview : view enc home log = enc home := by simp [view, hrec]
    simp [hview, hacc, hlost, henc.eq_iff, eq_comm]
  · -- the baseline was accepted and lost
    simp [hacc, hlost]
  · -- the baseline was received
    have hview : view enc home log = enc baseline := by simp [view, hrec]
    simp [hview, hacc, hlost]

omit [DecidableEq α] in
/-- What was lost before the mailbox was empty is the baseline. -/
theorem lost_eq_baseline {c : State ι α π} (h : Accounted enc c) (hidle : c.stage = .idle) {a : α}
    (ha : lost c.log = some a) : a = c.baseline := by
  obtain ⟨stage, baseline, log⟩ := c
  obtain rfl : stage = .idle := hidle
  obtain ⟨_, ⟨_, _, hlost⟩ | ⟨_, hlost | ⟨hlost, _⟩⟩⟩ := h
  · cases hlost.symm.trans ha
  · exact Option.some.inj (ha.symm.trans hlost)
  · cases hlost.symm.trans ha

end Operations

end Mailbox
