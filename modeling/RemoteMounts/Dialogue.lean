/-!
# Dialogues

What the library does outside itself it does by questions: a dialogue ends with a result, or asks a
question and goes on with the answer, or is cut short because it has asked too often.  Whoever
answers is a `Party`, which keeps a state of its own and may leave a question unanswered.  A run of
a dialogue with a party is then a function, and runs follow the structure of dialogues
(`run_bind`, `run_bind_eq_some_iff`).
-/

namespace RemoteMounts

/-- A kind of questions and, for each of them, the kind of its answers. -/
structure Interface where
  Question : Type
  Answer : Question → Type

/-- A computation that asks questions. -/
inductive Dialogue (I : Interface) (α : Type) : Type
  | done (result : α)
  | ask (question : I.Question) (next : I.Answer question → Dialogue I α)
  | cut

/-- Someone who answers, or leaves a question unanswered, from a state. -/
abbrev Party (I : Interface) (σ : Type) : Type :=
  (question : I.Question) → σ → Option (I.Answer question × σ)

namespace Dialogue

variable {I J : Interface} {α β γ σ : Type}

def bind : Dialogue I α → (α → Dialogue I β) → Dialogue I β
  | done a, f => f a
  | ask q next, f => ask q fun a => bind (next a) f
  | cut, _ => cut

instance : Monad (Dialogue I) where
  pure := done
  bind := bind

def put (q : I.Question) : Dialogue I (I.Answer q) :=
  ask q done

/-- Each question of one interface replaced by a dialogue over another. -/
def relay (answer : (q : I.Question) → Dialogue J (I.Answer q)) : Dialogue I α → Dialogue J α
  | done a => done a
  | ask q next => bind (answer q) fun a => relay answer (next a)
  | cut => cut

/-- The result of a run, unless the dialogue is cut or a question stays unanswered, and the state
that the party is left in. -/
def run (party : Party I σ) : Dialogue I α → σ → Option α × σ
  | done a, s => (some a, s)
  | cut, s => (none, s)
  | ask q next, s =>
    match party q s with
    | some (a, s) => run party (next a) s
    | none => (none, s)

/-! ## Laws -/

@[simp] theorem done_bind (a : α) (f : α → Dialogue I β) : done a >>= f = f a := rfl

@[simp] theorem ask_bind (q : I.Question) (next : I.Answer q → Dialogue I α)
    (f : α → Dialogue I β) : ask q next >>= f = ask q fun a => next a >>= f := rfl

@[simp] theorem cut_bind (f : α → Dialogue I β) : (cut : Dialogue I α) >>= f = cut := rfl

@[simp] theorem pure_eq_done (a : α) : (pure a : Dialogue I α) = done a := rfl

theorem bind_done (d : Dialogue I α) : d >>= done = d := by
  induction d with
  | done a => rfl
  | ask q next ih => exact congrArg (ask q) (funext ih)
  | cut => rfl

theorem bind_assoc (d : Dialogue I α) (f : α → Dialogue I β) (g : β → Dialogue I γ) :
    d >>= f >>= g = d >>= fun a => f a >>= g := by
  induction d with
  | done a => rfl
  | ask q next ih => exact congrArg (ask q) (funext ih)
  | cut => rfl

instance : LawfulMonad (Dialogue I) :=
  LawfulMonad.mk' _ (fun d => bind_done d) (fun _ _ => rfl) bind_assoc

theorem run_bind (party : Party I σ) (d : Dialogue I α) (f : α → Dialogue I β) (s : σ) :
    run party (d >>= f) s =
      match run party d s with
      | (some a, s) => run party (f a) s
      | (none, s) => (none, s) := by
  induction d generalizing s with
  | done a => rfl
  | cut => rfl
  | ask q next ih =>
    simp only [ask_bind, run]
    cases party q s with
    | none => rfl
    | some answered => exact ih _ _

/-- A run that comes to a result has come to one in each of its two parts. -/
theorem run_bind_eq_some_iff {party : Party I σ} {d : Dialogue I α} {f : α → Dialogue I β}
    {s t : σ} {b : β} :
    run party (d >>= f) s = (some b, t) ↔
      ∃ a u, run party d s = (some a, u) ∧ run party (f a) u = (some b, t) := by
  rw [run_bind]
  cases run party d s with
  | mk result u =>
    cases result with
    | none => simp
    | some a =>
      constructor
      · intro h
        exact ⟨a, u, rfl, h⟩
      · rintro ⟨_, _, ⟨⟩, h⟩
        exact h

end Dialogue

end RemoteMounts
