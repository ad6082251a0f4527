import Mathlib.Data.List.Forall2

/-!
# Faulting machines and their runs

A general account of event-driven programs that may run into undefined
behaviour. A `Machine` takes one event at a time and either moves to a next
state or stops with a *fault*; a fault ends the run, because nothing is known
about what the program does after it.

* `run` / `transitions` — the state a run ends in, and the list of steps it took.
* `Admits G` — every event of the run is taken in a state where the environment
  may offer it (`G` is the environment's side of the contract).
* `Preserves I` and `Sound G I` — the two invariant rules. `Preserves` speaks of
  the steps that succeed; `Sound` also says that under `G` none fails.
* `Confines F I` — the rule for runs that may fault: every step from `I` leads to `I`
  or to a fault of the kind `F`. It speaks of outcomes (`Except.Ends`), and holds on
  through faults the program survives (`Resumes`).
* `get_run` — a register holds what was written to it last.
* `Sound.balance` — what a quantity has gained and lost along a run.
* `observe_run` — what has been observed along a run.
* `script_run` — what a script of events leads to, whatever else happens in between.
* `Simulates` — every step of one machine is a step of another, for states
  related by `R`. What the second machine does in its runs then carries over,
  step by step (`Simulates.transitions`).
* `Hides` — noninterference: what an observer is not meant to see does not change what it
  does see, in two runs of any length (`Hides.transitions`, `Hides.run`).
-/

universe u v w u' v' w'

/-! ## Outcomes -/

namespace Except

section Outcomes

variable {φ : Type u} {α β : Type v} {F : φ → Prop} {P Q : α → Prop} {R : β → Prop}

/-- The computation ends in a value of which `P` holds, or in a fault of the kind `F`. -/
def Ends (r : Except φ α) (F : φ → Prop) (P : α → Prop) : Prop :=
  match r with
  | .ok a => P a
  | .error f => F f

theorem Ends.of_ok {r : Except φ α} {a : α} (hr : r = .ok a) (h : P a) : r.Ends F P := by
  rw [hr]
  exact h

theorem Ends.value {r : Except φ α} {a : α} (h : r.Ends F P) (hr : r = .ok a) : P a := by
  rw [hr] at h
  exact h

theorem Ends.fault {r : Except φ α} {f : φ} (h : r.Ends F P) (hr : r = .error f) : F f := by
  rw [hr] at h
  exact h

/-- The postcondition may be weakened. -/
theorem Ends.mono {r : Except φ α} (h : r.Ends F P) (hPQ : ∀ a, P a → Q a) : r.Ends F Q := by
  cases r with
  | ok a => exact hPQ a h
  | error f => exact h

/-- The rule of sequencing. -/
theorem Ends.bind {r : Except φ α} {g : α → Except φ β} (h : r.Ends F P)
    (hg : ∀ a, P a → (g a).Ends F R) : (r >>= g).Ends F R := by
  cases r with
  | ok a => exact hg a h
  | error f => exact h

/-- A sequence that succeeds, step by step -/
theorem bind_eq_ok {r : Except φ α} {g : α → Except φ β} {b : β} (h : (r >>= g) = .ok b) :
    ∃ a, r = .ok a ∧ g a = .ok b := by
  cases r with
  | ok a => exact ⟨a, rfl, h⟩
  | error f => cases h

/-- Sequences of computations that commute with a change of values -/
theorem map_bind_comm {α' β' : Type v} {r : Except φ α} {k : α → α'} {l : β → β'}
    {g : α → Except φ β} {g' : α' → Except φ β'} (h : ∀ a, g' (k a) = (g a).map l) :
    (r.map k >>= g') = (r >>= g).map l := by
  cases r with
  | ok a => exact h a
  | error f => rfl

end Outcomes

end Except

/-- A deterministic machine over states `σ` and events `ε`; a step either
succeeds or stops with a fault in `φ`. -/
structure Machine (σ : Type u) (ε : Type v) (φ : Type w) where
  /-- the effect of one event -/
  step : σ → ε → Except φ σ

namespace Machine

variable {σ : Type u} {ε : Type v} {φ : Type w}

/-- One successful step, with the states around it. -/
structure Transition (σ : Type u) (ε : Type v) where
  /-- the state the event is taken in -/
  pre : σ
  /-- the event -/
  event : ε
  /-- the state it leads to -/
  post : σ

section Runs

variable (M : Machine σ ε φ)

/-- Run a list of events, oldest first. -/
def run : σ → List ε → Except φ σ
  | s, [] => .ok s
  | s, e :: es =>
    match M.step s e with
    | .ok s' => run s' es
    | .error f => .error f

/-- The steps a run takes, up to its end or its first fault. -/
def transitions : σ → List ε → List (Transition σ ε)
  | _, [] => []
  | s, e :: es =>
    match M.step s e with
    | .ok s' => ⟨s, e, s'⟩ :: transitions s' es
    | .error _ => []

/-- Every event of the run is offered in a state where `G` allows it. -/
def Admits (G : σ → ε → Prop) : σ → List ε → Prop
  | _, [] => True
  | s, e :: es =>
    G s e ∧
      match M.step s e with
      | .ok s' => Admits G s' es
      | .error _ => True

instance Admits.decidable (G : σ → ε → Prop) [∀ s e, Decidable (G s e)] :
    ∀ s es, Decidable (M.Admits G s es)
  | _, [] => .isTrue trivial
  | s, e :: es =>
    have : Decidable (match M.step s e with | .ok s' => M.Admits G s' es | .error _ => True) :=
      match M.step s e with
      | .ok s' => Admits.decidable G s' es
      | .error _ => .isTrue trivial
    inferInstanceAs (Decidable (_ ∧ _))

/-- The events may lead from `s` to `t` if the program goes on after a fault. It does so
in any state of `J`: nothing else is known about what a fault leaves behind. -/
inductive Resumes (J : σ → Prop) : σ → List ε → σ → Prop where
  | nil {s : σ} : Resumes J s [] s
  | ok {s s' t : σ} {e : ε} {es : List ε} :
    M.step s e = .ok s' → Resumes J s' es t → Resumes J s (e :: es) t
  | fault {s s' t : σ} {e : ε} {es : List ε} {f : φ} :
    M.step s e = .error f → J s' → Resumes J s' es t → Resumes J s (e :: es) t

/-- Every step that succeeds leads from `I` to `I`. -/
def Preserves (I : σ → Prop) : Prop :=
  ∀ s e s', I s → M.step s e = .ok s' → I s'

/-- Every step from `I` leads to `I`, or to a fault of the kind `F`. -/
def Confines (F : φ → Prop) (I : σ → Prop) : Prop :=
  ∀ s e, I s → (M.step s e).Ends F I

/-- `I` is sound for the environment `G`: an allowed event taken in `I` does not
fault and leads to `I` again. -/
def Sound (G : σ → ε → Prop) (I : σ → Prop) : Prop :=
  ∀ s e, I s → G s e → ∃ s', M.step s e = .ok s' ∧ I s'

end Runs

variable {M : Machine σ ε φ} {G : σ → ε → Prop} {I : σ → Prop}

@[simp] theorem run_nil (s : σ) : M.run s [] = .ok s := rfl

theorem run_cons_of_ok {s s' : σ} {e : ε} {es : List ε} (h : M.step s e = .ok s') :
    M.run s (e :: es) = M.run s' es := by
  simp only [run, h]

@[simp] theorem transitions_nil (s : σ) : M.transitions s [] = [] := rfl

theorem transitions_cons_of_ok {s s' : σ} {e : ε} {es : List ε} (h : M.step s e = .ok s') :
    M.transitions s (e :: es) = ⟨s, e, s'⟩ :: M.transitions s' es := by
  simp only [transitions, h]

theorem admits_cons_of_ok {s s' : σ} {e : ε} {es : List ε} (h : M.step s e = .ok s') :
    M.Admits G s (e :: es) ↔ G s e ∧ M.Admits G s' es := by
  simp only [Admits, h]

/-- Inversion for a nonempty run. -/
theorem run_cons_eq_ok {s t : σ} {e : ε} {es : List ε} (h : M.run s (e :: es) = .ok t) :
    ∃ s', M.step s e = .ok s' ∧ M.run s' es = .ok t := by
  rcases hs : M.step s e with f | s'
  · simp only [run, hs] at h
    cases h
  · exact ⟨s', rfl, by rwa [run_cons_of_ok hs] at h⟩

/-- Runs compose. -/
theorem run_append {s t : σ} {es fs : List ε} (h : M.run s es = .ok t) :
    M.run s (es ++ fs) = M.run t fs := by
  induction es generalizing s with
  | nil =>
    obtain rfl : s = t := by simpa using h
    rfl
  | cons e es ih =>
    obtain ⟨s', hs, hr⟩ := run_cons_eq_ok h
    rw [List.cons_append, run_cons_of_ok hs]
    exact ih hr

/-- The beginning of an admitted run -/
theorem Admits.left {es fs : List ε} :
    ∀ {s : σ}, M.Admits G s (es ++ fs) → M.Admits G s es := by
  induction es with
  | nil => exact fun _ => trivial
  | cons e es ih =>
    intro s h
    refine ⟨h.1, ?_⟩
    have hrest := h.2
    rcases hs : M.step s e with f | s'
    · trivial
    · rw [hs] at hrest
      exact ih hrest

/-- The environment allowed every step of an admitted run. -/
theorem Admits.mem_transitions :
    ∀ {es : List ε} {s : σ}, M.Admits G s es → ∀ t ∈ M.transitions s es, G t.pre t.event := by
  intro es
  induction es with
  | nil => intro s _ t ht; cases ht
  | cons e es ih =>
    intro s h t ht
    rcases hs : M.step s e with f | s'
    · simp only [transitions, hs] at ht
      cases ht
    · rw [transitions_cons_of_ok hs] at ht
      rcases List.mem_cons.mp ht with rfl | ht
      · exact h.1
      · exact ih ((admits_cons_of_ok hs).mp h).2 t ht

/-- The events of a run that does not fault are those it was given. -/
theorem map_event_transitions :
    ∀ {es : List ε} {s t : σ}, M.run s es = .ok t →
      (M.transitions s es).map Transition.event = es := by
  intro es
  induction es with
  | nil => intro s t _; rfl
  | cons e es ih =>
    intro s t hr
    obtain ⟨s', hs, hr'⟩ := run_cons_eq_ok hr
    rw [transitions_cons_of_ok hs, List.map_cons, ih hr']

/-! ## The invariant rules -/

/-- **The rule of `Preserves`**: a run that does not fault keeps the invariant. -/
theorem Preserves.run (hI : M.Preserves I) :
    ∀ {es : List ε} {s t : σ}, I s → M.run s es = .ok t → I t := by
  intro es
  induction es with
  | nil =>
    intro s t hs hr
    obtain rfl : s = t := by simpa using hr
    exact hs
  | cons e es ih =>
    intro s t hs hr
    obtain ⟨s', hstep, hr'⟩ := run_cons_eq_ok hr
    exact ih (hI s e s' hs hstep) hr'

/-- **The rule of `Sound`**: an admitted run from a sound invariant does not fault
and ends in the invariant. -/
theorem Sound.run (hI : M.Sound G I) :
    ∀ {es : List ε} {s : σ}, I s → M.Admits G s es → ∃ t, M.run s es = .ok t ∧ I t := by
  intro es
  induction es with
  | nil => intro s hs _; exact ⟨s, rfl, hs⟩
  | cons e es ih =>
    intro s hs hadm
    obtain ⟨s', hstep, hs'⟩ := hI s e hs hadm.1
    rw [run_cons_of_ok hstep]
    exact ih hs' ((admits_cons_of_ok hstep).mp hadm).2

/-- **The rule of `Confines`**: the invariant survives faults, too, if it holds wherever
the program goes on. -/
theorem Confines.resumes {F : φ → Prop} {J : σ → Prop} (hI : M.Confines F I)
    (hJ : ∀ s, J s → I s) {es : List ε} {s t : σ} (hr : M.Resumes J s es t) (hs : I s) : I t := by
  induction hr with
  | nil => exact hs
  | ok hstep _ ih => exact ih ((hI _ _ hs).value hstep)
  | fault _ hs' _ ih => exact ih (hJ _ hs')

/-- A run that does not fault -/
theorem Resumes.of_run {J : σ → Prop} :
    ∀ {es : List ε} {s t : σ}, M.run s es = .ok t → M.Resumes J s es t := by
  intro es
  induction es with
  | nil =>
    intro s t hr
    obtain rfl : s = t := by simpa using hr
    exact .nil
  | cons e es ih =>
    intro s t hr
    obtain ⟨s', hstep, hr'⟩ := run_cons_eq_ok hr
    exact .ok hstep (ih hr')

/-- **A register holds what was written to it last**, or what it held at the start. -/
theorem get_run {β : Type*} {g : σ → β} {write : ε → Option β}
    (h : ∀ s e s', M.step s e = .ok s' → g s' = (write e).getD (g s)) {es : List ε} {s t : σ}
    (hr : M.run s es = .ok t) : g t = (es.filterMap write).getLast?.getD (g s) := by
  induction es generalizing s with
  | nil =>
    obtain rfl : s = t := by simpa using hr
    rfl
  | cons e es ih =>
    obtain ⟨s', hstep, hr'⟩ := run_cons_eq_ok hr
    rw [ih hr', h s e s' hstep, List.filterMap_cons]
    rcases write e with _ | v
    · rfl
    · rw [List.getLast?_cons]
      rfl

/-- **The rule of accounting**: what a quantity has gained and lost over a run of the allowed
events is what these events say. -/
theorem Sound.balance (hI : M.Sound G I) {μ : σ → ℕ} {gain loss : ε → Bool}
    (hstep : ∀ s e s', I s → G s e → M.step s e = .ok s' →
      μ s' + (if loss e then 1 else 0) = μ s + if gain e then 1 else 0) :
    ∀ {es : List ε} {s t : σ}, I s → M.Admits G s es → M.run s es = .ok t →
      μ t + es.countP loss = μ s + es.countP gain := by
  intro es
  induction es with
  | nil =>
    intro s t _ _ hrun
    obtain rfl : s = t := by simpa using hrun
    rfl
  | cons e es ih =>
    intro s t hs hadm hrun
    obtain ⟨s', hs', hI'⟩ := hI s e hs hadm.1
    have hone := hstep s e s' hs hadm.1 hs'
    have hrest := ih hI' ((admits_cons_of_ok hs').mp hadm).2 (by rwa [run_cons_of_ok hs'] at hrun)
    rw [List.countP_cons, List.countP_cons]
    omega

/-- **The observation rule**: `P seen s` says that `seen` has been observed when the program
comes to `s`. If each event of a kind leads on, a run of such events does. -/
theorem observe_run {ω : Type*} {P : List ω → σ → Prop} {Q : ε → Prop}
    {f : Transition σ ε → List ω}
    (hstep : ∀ seen s e, Q e → P seen s → ∃ s', M.step s e = .ok s' ∧ P (seen ++ f ⟨s, e, s'⟩) s')
    {es : List ε} (hes : ∀ e ∈ es, Q e) {s : σ} {seen : List ω} (h : P seen s) :
    ∃ s', M.run s es = .ok s' ∧ P (seen ++ (M.transitions s es).flatMap f) s' := by
  induction es generalizing s seen with
  | nil => exact ⟨s, rfl, by rwa [transitions_nil, List.flatMap_nil, List.append_nil]⟩
  | cons e es ih =>
    obtain ⟨s', hs, hP⟩ := hstep seen s e (hes e List.mem_cons_self) h
    obtain ⟨t, ht, hend⟩ := ih (fun e' he' => hes e' (List.mem_cons_of_mem e he')) hP
    refine ⟨t, by rw [run_cons_of_ok hs, ht], ?_⟩
    rw [transitions_cons_of_ok hs, List.flatMap_cons, ← List.append_assoc]
    exact hend

/-- **The script rule**: `P rest seen s` says that the events `rest` of the script, those `q`
holds of, are still to come, and that `seen` has been observed. If the other events leave it
so and the next event of the script leads on, every run of the script ends with nothing to
come, whatever else happens in between. -/
theorem script_run {ω : Type*} {P : List ε → List ω → σ → Prop} {q : ε → Bool}
    {f : Transition σ ε → Option ω}
    (hother : ∀ rest seen s e, q e = false → P rest seen s →
      ∃ s', M.step s e = .ok s' ∧ P rest (seen ++ (f ⟨s, e, s'⟩).toList) s')
    (hnext : ∀ rest seen s e, P (e :: rest) seen s →
      ∃ s', M.step s e = .ok s' ∧ P rest (seen ++ (f ⟨s, e, s'⟩).toList) s')
    {es : List ε} {s : σ} {seen : List ω} (h : P (es.filter q) seen s) :
    ∃ s', M.run s es = .ok s' ∧ P [] (seen ++ (M.transitions s es).filterMap f) s' := by
  induction es generalizing s seen with
  | nil => exact ⟨s, rfl, by simpa using h⟩
  | cons e es ih =>
    have hstep : ∃ s', M.step s e = .ok s' ∧
        P (es.filter q) (seen ++ (f ⟨s, e, s'⟩).toList) s' := by
      rcases hq : q e with _ | _
      · rw [List.filter_cons_of_neg (by simp [hq])] at h
        exact hother _ _ _ _ hq h
      · rw [List.filter_cons_of_pos hq] at h
        exact hnext _ _ _ _ h
    obtain ⟨s', hs, hP⟩ := hstep
    obtain ⟨t, ht, hend⟩ := ih hP
    refine ⟨t, by rw [run_cons_of_ok hs, ht], ?_⟩
    have hseen : seen ++ (M.transitions s (e :: es)).filterMap f =
        seen ++ (f ⟨s, e, s'⟩).toList ++ (M.transitions s' es).filterMap f := by
      rw [transitions_cons_of_ok hs, List.filterMap_cons, List.append_assoc]
      cases f ⟨s, e, s'⟩ <;> rfl
    rw [hseen]
    exact hend

/-! ## Simulation -/

section Simulation

variable {τ : Type u'} {η : Type v'} {ψ : Type w'} {N : Machine τ η ψ}
  {R : σ → τ → Prop} {lab : σ → ε → η}

/-- Every step of `M` the environment allows is a step of `N`: the event `e` taken
in `s` shows there as `lab s e`, and related states stay related. -/
def Simulates (M : Machine σ ε φ) (N : Machine τ η ψ) (G : σ → ε → Prop) (R : σ → τ → Prop)
    (lab : σ → ε → η) : Prop :=
  ∀ s c e, R s c → G s e →
    ∃ s' c', M.step s e = .ok s' ∧ N.step c (lab s e) = .ok c' ∧ R s' c'

/-- A step of `M` and the step of `N` it shows as. -/
def Shows (R : σ → τ → Prop) (lab : σ → ε → η) (t : Transition σ ε) (u : Transition τ η) : Prop :=
  R t.pre u.pre ∧ u.event = lab t.pre t.event ∧ R t.post u.post

/-- The events of `N` a run of `M` shows as. -/
def shown (M : Machine σ ε φ) (lab : σ → ε → η) (s : σ) (es : List ε) : List η :=
  (M.transitions s es).map fun t => lab t.pre t.event

/-- Every event of a run shows as one, -/
theorem mem_shown {s t : σ} {es : List ε} (hr : M.run s es = .ok t) {P : η → Prop}
    (hP : ∀ s, ∀ e ∈ es, P (lab s e)) : ∀ e ∈ M.shown lab s es, P e := by
  intro e he
  obtain ⟨u, hu, rfl⟩ := List.mem_map.mp he
  refine hP u.pre u.event ?_
  rw [← map_event_transitions hr]
  exact List.mem_map_of_mem hu

/-- and an event of a kind as one of that kind. -/
theorem countP_shown {s t : σ} {es : List ε} (hr : M.run s es = .ok t) {p : ε → Bool}
    {q : η → Bool} (hq : ∀ s, ∀ e ∈ es, q (lab s e) = p e) :
    (M.shown lab s es).countP q = es.countP p := by
  have hmem (u : Transition σ ε) (hu : u ∈ M.transitions s es) : u.event ∈ es := by
    rw [← map_event_transitions hr]
    exact List.mem_map_of_mem hu
  calc (M.shown lab s es).countP q
      = (M.transitions s es).countP fun u => q (lab u.pre u.event) := List.countP_map
    _ = (M.transitions s es).countP fun u => p u.event :=
        List.countP_congr fun u hu => by rw [hq u.pre u.event (hmem u hu)]
    _ = ((M.transitions s es).map Transition.event).countP p := List.countP_map.symm
    _ = es.countP p := by rw [map_event_transitions hr]

/-- **The simulation rule**: an admitted run of `M` does not fault, and shows as a
run of `N` that ends in a related state. -/
theorem Simulates.run (h : M.Simulates N G R lab) :
    ∀ {es : List ε} {s : σ} {c : τ}, R s c → M.Admits G s es →
      ∃ s' c', M.run s es = .ok s' ∧ N.run c (M.shown lab s es) = .ok c' ∧ R s' c' := by
  intro es
  induction es with
  | nil => intro s c hR _; exact ⟨s, c, rfl, rfl, hR⟩
  | cons e es ih =>
    intro s c hR hadm
    obtain ⟨s', c', hs, hc, hR'⟩ := h s c e hR hadm.1
    obtain ⟨s'', c'', hs', hc', hR''⟩ := ih hR' ((admits_cons_of_ok hs).mp hadm).2
    refine ⟨s'', c'', ?_, ?_, hR''⟩
    · rw [run_cons_of_ok hs, hs']
    · rw [shown, transitions_cons_of_ok hs, List.map_cons, run_cons_of_ok hc]
      exact hc'

/-- An invariant of the second machine becomes part of the relation. The environment may
be narrowed to make it one. -/
theorem Simulates.strengthen {G' : σ → ε → Prop} {J : τ → Prop} (h : M.Simulates N G R lab)
    (hG : ∀ s e, G' s e → G s e)
    (hJ : ∀ s c e c', R s c → J c → G' s e → N.step c (lab s e) = .ok c' → J c') :
    M.Simulates N G' (fun s c => R s c ∧ J c) lab := by
  intro s c e ⟨hR, hc⟩ hG'
  obtain ⟨s', c', hs, hstep, hR'⟩ := h s c e hR (hG s e hG')
  exact ⟨s', c', hs, hstep, hR', hJ s c e c' hR hc hG' hstep⟩

/-- The relation holds around every step of a simulated run. -/
theorem Simulates.mem_transitions (h : M.Simulates N G R lab) :
    ∀ {es : List ε} {s : σ} {c : τ}, R s c → M.Admits G s es →
      ∀ t ∈ M.transitions s es, ∃ c c', R t.pre c ∧ N.step c (lab t.pre t.event) = .ok c' ∧
        R t.post c' := by
  intro es
  induction es with
  | nil => intro s c _ _ t ht; cases ht
  | cons e es ih =>
    intro s c hR hadm t ht
    obtain ⟨s', c', hs, hstep, hR'⟩ := h s c e hR hadm.1
    rw [transitions_cons_of_ok hs] at ht
    rcases List.mem_cons.mp ht with rfl | ht
    · exact ⟨c, c', hR, hstep, hR'⟩
    · exact ih hR' ((admits_cons_of_ok hs).mp hadm).2 t ht

/-- The steps of a simulated run correspond one to one. -/
theorem Simulates.transitions (h : M.Simulates N G R lab) :
    ∀ {es : List ε} {s : σ} {c : τ}, R s c → M.Admits G s es →
      List.Forall₂ (Shows R lab) (M.transitions s es) (N.transitions c (M.shown lab s es)) := by
  intro es
  induction es with
  | nil => intro s c _ _; exact .nil
  | cons e es ih =>
    intro s c hR hadm
    obtain ⟨s', c', hs, hc, hR'⟩ := h s c e hR hadm.1
    have htail := ih hR' ((admits_cons_of_ok hs).mp hadm).2
    rw [shown, transitions_cons_of_ok hs, List.map_cons, transitions_cons_of_ok hc]
    exact .cons ⟨hR, rfl, hR'⟩ htail

/-- What is observed step by step in a simulated run can be observed in the run it
shows as. -/
theorem Simulates.filterMap_transitions {ω : Type*} (h : M.Simulates N G R lab)
    {f : Transition σ ε → Option ω} {g : Transition τ η → Option ω}
    (hfg : ∀ t u, Shows R lab t u → f t = g u) {es : List ε} {s : σ} {c : τ} (hR : R s c)
    (hadm : M.Admits G s es) :
    (M.transitions s es).filterMap f = (N.transitions c (M.shown lab s es)).filterMap g := by
  have hshows := h.transitions hR hadm
  generalize M.transitions s es = ts at hshows
  generalize N.transitions c (M.shown lab s es) = us at hshows
  induction hshows with
  | nil => rfl
  | cons hshows _ ih => rw [List.filterMap_cons, List.filterMap_cons, hfg _ _ hshows, ih]

end Simulation

/-! ## Two runs -/

section TwoRuns

variable {ω : Type u'} {K : ε → ε → Prop} {f : σ → ω}

/-- To an observer that sees `f`, corresponding events have the same effect. -/
def Hides (M : Machine σ ε φ) (K : ε → ε → Prop) (f : σ → ω) : Prop :=
  ∀ s s' e e', f s = f s' → K e e' → (M.step s e).map f = (M.step s' e').map f

/-- Two steps that look alike both fault, or lead to states that look alike. -/
theorem Hides.cases (h : M.Hides K f) {s s' : σ} {e e' : ε} (hs : f s = f s') (he : K e e') :
    (∃ t t', M.step s e = .ok t ∧ M.step s' e' = .ok t' ∧ f t = f t') ∨
      ∃ d, M.step s e = .error d ∧ M.step s' e' = .error d := by
  have hstep := h s s' e e' hs he
  rcases hr : M.step s e with d | t
  · rcases hr' : M.step s' e' with d' | t'
    · rw [hr, hr'] at hstep
      obtain rfl : d = d' := Except.error.inj hstep
      exact Or.inr ⟨d, rfl, rfl⟩
    · rw [hr, hr'] at hstep
      cases hstep
  · rcases hr' : M.step s' e' with d' | t'
    · rw [hr, hr'] at hstep
      cases hstep
    · rw [hr, hr'] at hstep
      exact Or.inl ⟨t, t', rfl, rfl, Except.ok.inj hstep⟩

/-- **The rule of noninterference.** Two runs on corresponding events, from states that look
alike, look alike after every step, -/
theorem Hides.transitions (h : M.Hides K f) {es es' : List ε} (hes : List.Forall₂ K es es') :
    ∀ {s s' : σ}, f s = f s' →
      List.Forall₂ (fun t t' => f t.post = f t'.post) (M.transitions s es) (M.transitions s' es') := by
  induction hes with
  | nil => exact fun _ => .nil
  | cons he _ ih =>
    intro s s' hs
    rcases h.cases hs he with ⟨t, t', ht, ht', hpost⟩ | ⟨d, hd, hd'⟩
    · rw [transitions_cons_of_ok ht, transitions_cons_of_ok ht']
      exact .cons hpost (ih hpost)
    · simp only [Machine.transitions, hd, hd']
      exact .nil

/-- and end alike, be it with a fault. -/
theorem Hides.run (h : M.Hides K f) {es es' : List ε} (hes : List.Forall₂ K es es') :
    ∀ {s s' : σ}, f s = f s' → (M.run s es).map f = (M.run s' es').map f := by
  induction hes with
  | nil => exact fun hs => congrArg Except.ok hs
  | cons he _ ih =>
    intro s s' hs
    rcases h.cases hs he with ⟨t, t', ht, ht', hpost⟩ | ⟨d, hd, hd'⟩
    · rw [run_cons_of_ok ht, run_cons_of_ok ht']
      exact ih hpost
    · simp only [Machine.run, hd, hd', Except.map]

end TwoRuns

end Machine
