import HidJoystick.Mailbox

/-!
# Runs of a mailbox

Two facts about whole runs.

* `Matched` — every packet received can be assigned the sample it was computed
  from, the one whose offer was accepted, and the assignment is strictly increasing
  in time: nothing is received twice or out of order, whatever is halted, stopped and
  started in between. The invariant keeps the position after which the next packet's
  sample is found.
* `coalesce` — while no operation throws a value away, the packets received and
  the value still on its way are the samples taken while the mailbox was empty,
  adjacent repetitions removed, starting from the baseline.
-/

universe u v w

namespace Mailbox

variable {ι : Type u} {α : Type v} {π : Type w}

/-! ## In order, at most once -/

section Matching

variable (val : ι → α) (enc : α → π)

/-- The entry of a reception. -/
def Entry.isReceived : Entry ι α π → Bool
  | .received _ => true
  | _ => false

/-- In the history `h`, oldest entry first, `producer` assigns to the place of
every reception the earlier place of the sample whose value was offered, accepted and
is what the packet carries, and later receptions get later samples. All samples
assigned are before `k`. -/
structure Matched (h : List (Entry ι α π)) (producer : ℕ → ℕ) (k : ℕ) : Prop where
  /-- the packet carries the value computed from the sample, which was offered and accepted -/
  carries : ∀ i b, h[i]? = some (.received b) →
    ∃ x, h[producer i]? = some (.sampled x (val x)) ∧
      h[producer i + 1]? = some (.offered (val x) true) ∧ b = enc (val x)
  /-- it is accepted before its packet is received -/
  earlier : ∀ i b, h[i]? = some (.received b) → producer i + 1 < i
  /-- no sample is received twice or out of order -/
  increasing : ∀ i j b b', h[i]? = some (.received b) → h[j]? = some (.received b') → i < j →
    producer i < producer j
  /-- what is received next comes from a sample at `k` or later -/
  below : ∀ i b, h[i]? = some (.received b) → producer i < k

variable {val} {enc} {h : List (Entry ι α π)} {producer : ℕ → ℕ} {k : ℕ}

theorem Matched.nil (k : ℕ) : Matched val enc ([] : List (Entry ι α π)) id k where
  carries i b hi := by simp at hi
  earlier i b hi := by simp at hi
  increasing i j b b' hi := by simp at hi
  below i b hi := by simp at hi

/-- The next sample may be looked for later. -/
theorem Matched.mono {k' : ℕ} (hm : Matched val enc h producer k) (hk : k ≤ k') :
    Matched val enc h producer k' where
  carries := hm.carries
  earlier := hm.earlier
  increasing := hm.increasing
  below i b hi := lt_of_lt_of_le (hm.below i b hi) hk

/-- A reception in a longer history is old, or among what was added. -/
theorem getElem?_append_received {es : List (Entry ι α π)} {i : ℕ} {b : π}
    (hi : (h ++ es)[i]? = some (.received b)) :
    h[i]? = some (.received b) ∨ h.length ≤ i ∧ Entry.received b ∈ es := by
  rcases Nat.lt_or_ge i h.length with hlt | hge
  · exact Or.inl (by rwa [List.getElem?_append_left hlt] at hi)
  · rw [List.getElem?_append_right hge] at hi
    exact Or.inr ⟨hge, List.mem_of_getElem? hi⟩

/-- What stood in the history stays where it is. -/
theorem getElem?_append_of_some {es : List (Entry ι α π)} {i : ℕ} {e : Entry ι α π}
    (hi : h[i]? = some e) : (h ++ es)[i]? = some e := by
  have hlt : i < h.length := (List.getElem?_eq_some_iff.mp hi).1
  rwa [List.getElem?_append_left hlt]

/-- Entries that are no receptions do not disturb the matching. -/
theorem Matched.append (hm : Matched val enc h producer k) {es : List (Entry ι α π)}
    (hes : ∀ e ∈ es, e.isReceived = false) : Matched val enc (h ++ es) producer k := by
  have hold : ∀ {i : ℕ} {b : π}, (h ++ es)[i]? = some (.received b) →
      h[i]? = some (.received b) := by
    intro i b hi
    rcases getElem?_append_received hi with hi | ⟨_, hmem⟩
    · exact hi
    · exact absurd (hes _ hmem) (by simp [Entry.isReceived])
  refine ⟨fun i b hi => ?_, fun i b hi => hm.earlier i b (hold hi),
    fun i j b b' hi hj => hm.increasing i j b b' (hold hi) (hold hj),
    fun i b hi => hm.below i b (hold hi)⟩
  obtain ⟨x, hx, hacc, hb⟩ := hm.carries i b (hold hi)
  exact ⟨x, getElem?_append_of_some hx, getElem?_append_of_some hacc, hb⟩

/-- A reception of the value sampled at `k`, and accepted, extends the matching. -/
theorem Matched.receive (hm : Matched val enc h producer k) {x : ι}
    (hk : h[k]? = some (.sampled x (val x))) (hacc : h[k + 1]? = some (.offered (val x) true)) :
    Matched val enc (h ++ [.received (enc (val x))]) (Function.update producer h.length k) (k + 1) := by
  have hlt : k + 1 < h.length := (List.getElem?_eq_some_iff.mp hacc).1
  -- a reception is old and keeps its sample, or it is the new one
  have hcases : ∀ {i : ℕ} {b : π}, (h ++ [.received (enc (val x))])[i]? = some (.received b) →
      (h[i]? = some (.received b) ∧ i < h.length ∧
        Function.update producer h.length k i = producer i) ∨ (i = h.length ∧ b = enc (val x)) := by
    intro i b hi
    rcases Nat.lt_trichotomy i h.length with hi' | rfl | hi'
    · rw [List.getElem?_append_left hi'] at hi
      exact Or.inl ⟨hi, hi', Function.update_of_ne (Nat.ne_of_lt hi') _ _⟩
    · rw [List.getElem?_concat_length] at hi
      exact Or.inr ⟨rfl, by simpa using hi.symm⟩
    · rw [List.getElem?_eq_none (by simp; omega)] at hi
      cases hi
  constructor
  · intro i b hi
    rcases hcases hi with ⟨hi, _, hup⟩ | ⟨rfl, rfl⟩
    · obtain ⟨x', hx', hacc', hb⟩ := hm.carries i b hi
      rw [hup]
      exact ⟨x', getElem?_append_of_some hx', getElem?_append_of_some hacc', hb⟩
    · rw [Function.update_self]
      exact ⟨x, getElem?_append_of_some hk, getElem?_append_of_some hacc, rfl⟩
  · intro i b hi
    rcases hcases hi with ⟨hi, _, hup⟩ | ⟨rfl, rfl⟩
    · rw [hup]
      exact hm.earlier i b hi
    · rwa [Function.update_self]
  · intro i j b b' hi hj hij
    rcases hcases hi with ⟨hi, _, hup⟩ | ⟨rfl, _⟩
    · rcases hcases hj with ⟨hj, _, hup'⟩ | ⟨rfl, _⟩
      · rw [hup, hup']
        exact hm.increasing i j b b' hi hj hij
      · rw [hup, Function.update_self]
        exact hm.below i b hi
    · rcases hcases hj with ⟨_, hj, _⟩ | ⟨rfl, _⟩ <;> omega
  · intro i b hi
    rcases hcases hi with ⟨hi, _, hup⟩ | ⟨rfl, _⟩
    · rw [hup]
      exact Nat.lt_succ_of_lt (hm.below i b hi)
    · rw [Function.update_self]
      exact Nat.lt_succ_self k

end Matching

section Runs

variable [DecidableEq α] (val : ι → α) (enc : α → π)

/-- The log, oldest entry first. -/
def State.history (c : State ι α π) : List (Entry ι α π) := c.log.reverse

/-- The invariant behind `Matched`: a value in the mailbox comes from a sample later
than all that were received. -/
def Delivers (c : State ι α π) : Prop :=
  ∃ producer k, Matched val enc c.history producer k ∧ k ≤ c.history.length ∧
    ∀ a, c.stage = .armed a → ∃ x, a = val x ∧ c.history[k]? = some (.sampled x (val x)) ∧
      c.history[k + 1]? = some (.offered (val x) true)

omit [DecidableEq α] in
/-- An operation that adds no reception and puts nothing into the mailbox. -/
theorem Delivers.quiet {c c' : State ι α π} (h : Delivers val enc c) (es : List (Entry ι α π))
    (hlog : c'.log = es ++ c.log) (hes : ∀ e ∈ es, e.isReceived = false)
    (hstage : ∀ a, c'.stage = .armed a → c.stage = .armed a) : Delivers val enc c' := by
  obtain ⟨producer, k, hm, hk, harmed⟩ := h
  have hhist : c'.history = c.history ++ es.reverse := by
    rw [State.history, hlog, List.reverse_append, State.history]
  refine ⟨producer, k, ?_, ?_, fun a ha => ?_⟩
  · rw [hhist]
    exact hm.append fun e he => hes e (List.mem_reverse.mp he)
  · rw [hhist, List.length_append]
    omega
  · obtain ⟨x, hax, hx, hacc⟩ := harmed a (hstage a ha)
    rw [hhist]
    exact ⟨x, hax, getElem?_append_of_some hx, getElem?_append_of_some hacc⟩

omit [DecidableEq α] in
theorem aborts_isReceived (stage : Stage α) :
    ∀ e ∈ (stage.aborts : List (Entry ι α π)), e.isReceived = false := by
  cases stage <;> simp [Stage.aborts, Entry.isReceived]

theorem Delivers.sample {c : State ι α π} (h : Delivers val enc c) (x : ι) :
    Delivers val enc (c.sample val x) := by
  obtain ⟨stage, baseline, log⟩ := c
  by_cases hx : val x = baseline
  · cases stage with
    | down => exact h
    | _ =>
      refine h.quiet val enc [.sampled x (val x)] ?_ (by simp [Entry.isReceived]) ?_ <;>
        simp [State.sample, hx]
  · cases stage with
    | down => exact h
    | idle =>
      -- the new sample is the one the next packet comes from
      obtain ⟨producer, k, hm, hk, _⟩ := h
      have hhist : (State.sample val x ⟨.idle, baseline, log⟩ : State ι α π).history =
          log.reverse ++ [.sampled x (val x), .offered (val x) true] := by
        simp [State.sample, State.history, hx]
      refine ⟨producer, log.length, ?_, ?_, fun a ha => ⟨x, ?_, ?_, ?_⟩⟩
      · rw [hhist]
        refine (hm.append ?_).mono ?_
        · simp [Entry.isReceived]
        · simpa [State.history] using hk
      · simp [hhist]
      · simpa [State.sample, hx, eq_comm] using ha
      · rw [hhist]
        simp
      · rw [hhist]
        simp
    | _ =>
      refine h.quiet val enc [.offered (val x) false, .sampled x (val x)] ?_
        (by simp [Entry.isReceived]) ?_ <;> simp [State.sample, hx]

theorem Delivers.collect {c : State ι α π} (h : Delivers val enc c) :
    Delivers val enc (c.next val enc .collect) := by
  obtain ⟨stage, baseline, log⟩ := c
  cases stage with
  | armed a =>
    obtain ⟨producer, k, hm, hk, harmed⟩ := h
    obtain ⟨x, rfl, hx, hacc⟩ := harmed a rfl
    have hlt : k < log.reverse.length := (List.getElem?_eq_some_iff.mp hx).1
    have hhist : ((⟨.armed (val x), baseline, log⟩ : State ι α π).next val enc .collect).history =
        log.reverse ++ [.received (enc (val x))] := by
      simp [State.next, State.history]
    refine ⟨Function.update producer log.reverse.length k, k + 1, ?_, ?_, fun b hb => ?_⟩
    · rw [hhist]
      exact hm.receive hx hacc
    · rw [hhist, List.length_append]
      simp only [List.length_singleton]
      omega
    · cases hb
  | _ => exact h

/-- Every operation keeps the matching. -/
theorem Delivers.next {c : State ι α π} (h : Delivers val enc c) (op : Op ι) :
    Delivers val enc (c.next val enc op) := by
  cases op with
  | keep => exact h
  | sample x => exact Delivers.sample val enc h x
  | collect => exact Delivers.collect val enc h
  | complete =>
    obtain ⟨stage, baseline, log⟩ := c
    cases stage with
    | collected a => exact h.quiet val enc [.completed] rfl (by simp [Entry.isReceived]) (by simp [State.next])
    | _ => exact h
  | halt =>
    obtain ⟨stage, baseline, log⟩ := c
    cases stage with
    | down => exact h
    | idle => exact h.quiet val enc [] rfl (by simp) (by simp [State.next])
    | halted => exact h.quiet val enc [] rfl (by simp) (by simp [State.next])
    | armed a => exact h.quiet val enc [.aborted] rfl (by simp [Entry.isReceived]) (by simp [State.next])
    | collected a => exact h.quiet val enc [.aborted] rfl (by simp [Entry.isReceived]) (by simp [State.next])
  | unhalt =>
    obtain ⟨stage, baseline, log⟩ := c
    cases stage with
    | halted => exact h.quiet val enc [] rfl (by simp) (by simp [State.next])
    | _ => exact h
  | stop =>
    refine h.quiet val enc (.stopped :: c.stage.aborts) rfl ?_ (by simp [State.next, State.stop])
    simpa [Entry.isReceived] using aborts_isReceived c.stage
  | start =>
    exact h.quiet val enc [.started] rfl (by simp [Entry.isReceived]) (by simp [State.next, State.start])
  | restart =>
    refine h.quiet val enc (.started :: .stopped :: c.stage.aborts) rfl ?_
      (by simp [State.next, State.start])
    simpa [Entry.isReceived] using aborts_isReceived c.stage

/-! ## Coalescing -/

/-- The value sampled in a step that finds the mailbox empty. -/
def idleSample (t : Machine.Transition (State ι α π) (Op ι)) : Option α :=
  match t.pre.stage, t.event with
  | .idle, .sample x => some (val x)
  | _, _ => none

omit [DecidableEq α] in
theorem idleSample_of_not_sample {t : Machine.Transition (State ι α π) (Op ι)}
    (h : ∀ x, t.event ≠ .sample x) : idleSample val t = none := by
  rw [idleSample]
  split
  · next x _ hx => exact absurd hx (h x)
  · rfl

/-- The mailbox is up and not halted. -/
def Stage.running : Stage α → Prop
  | .down | .halted => False
  | .idle | .armed _ | .collected _ => True

/-- What was received and what is on its way. -/
def State.passed (c : State ι α π) : List π := received c.log ++ c.stage.inFlight.map enc

/-- Removing repetitions keeps the head. -/
theorem destutter_cons_eq (a : α) (l : List α) :
    (a :: l).destutter (· ≠ ·) = a :: ((a :: l).destutter (· ≠ ·)).tail := by
  simp only [List.destutter_cons']
  induction l with
  | nil => rfl
  | cons b l ih =>
    by_cases hab : a = b
    · rw [List.destutter'_cons_neg _ (by simpa using hab)]
      exact ih
    · rw [List.destutter'_cons_pos _ hab, List.tail_cons]

/-- What passes after the baseline `a` when `b` is sampled next. -/
theorem tail_destutter_cons_cons (a b : α) (l : List α) :
    ((a :: b :: l).destutter (· ≠ ·)).tail =
      if b = a then ((a :: l).destutter (· ≠ ·)).tail
      else b :: ((b :: l).destutter (· ≠ ·)).tail := by
  by_cases hab : b = a
  · subst hab
    simp [List.destutter_cons']
  · rw [if_neg hab, List.destutter_cons', List.destutter'_cons_pos _ (Ne.symm hab), List.tail_cons,
      ← List.destutter_cons', destutter_cons_eq, List.tail_cons]

/-- One step of `coalesce`. -/
theorem passed_next {c : State ι α π} (hrun : c.stage.running) {op : Op ι} (hop : op.gentle)
    (rest : List α) :
    (c.next val enc op).stage.running ∧
      (c.next val enc op).passed enc ++
          ((((c.next val enc op).baseline :: rest).destutter (· ≠ ·)).tail).map enc =
        c.passed enc ++
          (((c.baseline :: ((idleSample val ⟨c, op, c.next val enc op⟩).toList ++ rest)).destutter
            (· ≠ ·)).tail).map enc := by
  obtain ⟨stage, baseline, log⟩ := c
  cases op with
  | keep => exact ⟨hrun, by simp [State.next, idleSample]⟩
  | sample x =>
    cases stage with
    | down => exact hrun.elim
    | halted => exact hrun.elim
    | idle =>
      -- the value sampled passes exactly if it differs from the baseline
      by_cases hx : val x = baseline
      · simp [State.next, State.sample, State.passed, Stage.running, Stage.inFlight, received,
          idleSample, tail_destutter_cons_cons, hx]
      · simp [State.next, State.sample, State.passed, Stage.running, Stage.inFlight, received,
          idleSample, tail_destutter_cons_cons, hx]
    | armed a =>
      by_cases hx : val x = baseline <;>
        simp [State.next, State.sample, State.passed, Stage.running, Stage.inFlight, received,
          idleSample, hx]
    | collected a =>
      by_cases hx : val x = baseline <;>
        simp [State.next, State.sample, State.passed, Stage.running, Stage.inFlight, received,
          idleSample, hx]
  | collect =>
    cases stage <;>
      simp_all [State.next, State.passed, Stage.running, Stage.inFlight, received, idleSample]
  | complete =>
    cases stage <;>
      simp_all [State.next, State.passed, Stage.running, Stage.inFlight, received, idleSample]
  | _ => exact hop.elim

/-- **Coalescing.** In a run that throws nothing away, what is received and what is
still on its way is the list of values sampled while the mailbox was empty, with
the baseline put in front, adjacent repetitions removed and the head dropped. -/
theorem coalesce {ops : List (Op ι)} :
    ∀ {c c' : State ι α π}, c.stage.running → (∀ op ∈ ops, op.gentle) →
      (machine val enc).run c ops = .ok c' →
      c'.passed enc = c.passed enc ++
        (((c.baseline :: ((machine val enc).transitions c ops).filterMap (idleSample val)).destutter
          (· ≠ ·)).tail).map enc := by
  induction ops with
  | nil =>
    intro c c' _ _ hc
    obtain rfl : c = c' := by simpa using hc
    simp
  | cons op ops ih =>
    intro c c' hrun hops hc
    have hstep : (machine val enc).step c op = .ok (c.next val enc op) := rfl
    rw [Machine.run_cons_of_ok hstep] at hc
    rw [Machine.transitions_cons_of_ok hstep]
    obtain ⟨hrun', hpassed⟩ := passed_next val enc hrun (hops op List.mem_cons_self)
      (((machine val enc).transitions (c.next val enc op) ops).filterMap (idleSample val))
    rw [ih hrun' (fun op' hmem => hops op' (List.mem_cons_of_mem _ hmem)) hc, hpassed]
    rcases hi : idleSample val ⟨c, op, c.next val enc op⟩ with _ | a <;>
      simp only [List.filterMap_cons, hi, Option.toList_none, Option.toList_some, List.nil_append,
        List.singleton_append]

end Runs

end Mailbox
