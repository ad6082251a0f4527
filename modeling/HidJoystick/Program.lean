import Mathlib.Data.List.Basic

/-!
# Programs and their environment

A program is executed instruction by instruction. Each instruction is executed at once, but
between two of them the environment may act, which shares a part of the state with the program:
a controller that reads a buffer and its own registers, whenever they tell it to.

* `Program.exec` — the program alone.
* `Program.Released` — what the environment shares is left alone from here on, so that it does
  not matter when the environment acts (`Released.exec_env`).
* `Program.Guards` — until then, the environment is kept still (`Guards.cases`,
  `Guards.next`).
* `Program.Logs` — what is logged stays logged (`Logs.exec`).

So a program that guards its environment behaves, whenever the environment acts, as if it had
been executed at once, and the environment had acted afterwards or not at all.
-/

universe u v w

/-- A program: what follows an instruction may depend on the state it leaves. -/
inductive Program (σ : Type u) : Type u where
  /-- nothing is left to do -/
  | done : Program σ
  | instr (f : σ → σ) (rest : σ → Program σ) : Program σ

namespace Program

variable {σ : Type u} {β : Type v} {γ : Type w}

/-- The program is executed to its end. -/
def exec : Program σ → σ → σ
  | .done, s => s
  | .instr f rest, s => (rest (f s)).exec (f s)

/-- One instruction is executed. -/
def next : Program σ → σ → Program σ × σ
  | .done, s => (.done, s)
  | .instr f rest, s => (rest (f s), f s)

/-- Nothing is left to do. -/
def isDone : Program σ → Bool
  | .done => true
  | .instr _ _ => false

theorem eq_done {P : Program σ} (h : P.isDone = true) : P = .done := by
  cases P with
  | done => rfl
  | instr f rest => cases h

theorem exec_next (P : Program σ) (s : σ) : (P.next s).1.exec (P.next s).2 = P.exec s := by
  cases P with
  | done => rfl
  | instr f rest => rfl

/-! ## The log -/

section Log

variable (log : σ → List γ)

/-- No instruction takes anything out of the log, newest entry first. -/
def Logs : Program σ → Prop
  | .done => True
  | .instr f rest => (∀ s, log s <:+ log (f s)) ∧ ∀ s, (rest s).Logs

variable {log} {P : Program σ}

theorem Logs.next (h : P.Logs log) (s : σ) : (P.next s).1.Logs log := by
  cases P with
  | done => trivial
  | instr f rest => exact h.2 (f s)

theorem Logs.exec (h : P.Logs log) (s : σ) : log s <:+ log (P.exec s) := by
  induction P generalizing s with
  | done => exact List.suffix_rfl
  | instr f rest ih => exact (h.1 s).trans (ih (f s) (h.2 (f s)) (f s))

end Log

/-! ## The environment -/

section Environment

variable (env : σ → σ) (shared : σ → β) (still : σ → Prop)

/-- The environment may act at any time: the instructions left do not touch what it shares, and
it does not touch what they use. -/
def Released : Program σ → Prop
  | .done => True
  | .instr f rest => (∀ s, shared (f s) = shared s) ∧ (∀ s, f (env s) = env (f s)) ∧
      (∀ s, rest (env s) = rest s) ∧ ∀ s, (rest s).Released

/-- The environment is kept still, until it is released. -/
def Guards : Program σ → σ → Prop
  | .done, _ => True
  | .instr f rest, s =>
    (instr f rest).Released env shared ∨ still s ∧ (rest (f s)).Guards (f s)

variable {env shared still} {P : Program σ}

theorem Released.next (h : P.Released env shared) (s : σ) : (P.next s).1.Released env shared := by
  cases P with
  | done => trivial
  | instr f rest => exact h.2.2.2 (f s)

theorem Released.shared_next (h : P.Released env shared) (s : σ) :
    shared (P.next s).2 = shared s := by
  cases P with
  | done => rfl
  | instr f rest => exact h.1 s

theorem Released.shared_exec (h : P.Released env shared) (s : σ) :
    shared (P.exec s) = shared s := by
  induction P generalizing s with
  | done => rfl
  | instr f rest ih => exact (ih (f s) (h.2.2.2 (f s)) (f s)).trans (h.1 s)

/-- It does not matter when the environment acts. -/
theorem Released.exec_env (h : P.Released env shared) (s : σ) :
    P.exec (env s) = env (P.exec s) := by
  induction P generalizing s with
  | done => rfl
  | instr f rest ih =>
    obtain ⟨_, hf, hrest, hnext⟩ := h
    rw [exec, exec, hf, hrest]
    exact ih (f s) (hnext (f s)) (f s)

theorem Released.guards (h : P.Released env shared) (s : σ) : P.Guards env shared still s := by
  cases P with
  | done => trivial
  | instr f rest => exact Or.inl h

/-- An instruction that is executed while the environment is still -/
theorem Guards.instr {f : σ → σ} {rest : σ → Program σ} {s : σ} (hs : still s)
    (h : (rest (f s)).Guards env shared still (f s)) :
    (instr f rest).Guards env shared still s := Or.inr ⟨hs, h⟩

theorem Guards.cases {s : σ} (h : P.Guards env shared still s) :
    P.Released env shared ∨ still s := by
  cases P with
  | done => exact Or.inl trivial
  | instr f rest => exact h.imp id And.left

/-- **An instruction is executed.** -/
theorem Guards.next {s : σ} (h : P.Guards env shared still s) :
    (P.next s).1.Guards env shared still (P.next s).2 := by
  cases P with
  | done => trivial
  | instr f rest =>
    rcases h with hreleased | ⟨_, hnext⟩
    · exact (hreleased.next s).guards (f s)
    · exact hnext

end Environment

end Program
