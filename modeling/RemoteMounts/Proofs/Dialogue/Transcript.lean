import RemoteMounts.Outside

/-!
# Transcripts

Someone who always answers is a function from questions and states.  What is asked of it in a run,
with the answers, is the transcript of the run; it follows the structure of the dialogue
(`transcript_bind`).
-/

namespace RemoteMounts

/-- A question with the answer that it got. -/
structure Exchange (I : Interface) where
  question : I.Question
  answer : I.Answer question

/-- Someone who answers every question, from a state. -/
abbrev Respondent (I : Interface) (σ : Type) : Type :=
  (question : I.Question) → σ → I.Answer question × σ

def Respondent.party {I : Interface} {σ : Type} (r : Respondent I σ) : Party I σ :=
  fun q s => some (r q s)

/-- The respondent that leaves the questions of a kind to another one. -/
def Respondent.passing {I : Interface} {σ : Type} (r : Respondent I σ) (kind : I.Question → Bool)
    (other : Respondent I σ) : Respondent I σ :=
  fun q s => if kind q then other q s else r q s

namespace Dialogue

variable {I : Interface} {α β σ : Type} (r : Respondent I σ)

def transcript : Dialogue I α → σ → List (Exchange I)
  | done _, _ => []
  | cut, _ => []
  | ask q next, s => ⟨q, (r q s).1⟩ :: transcript (next (r q s).1) (r q s).2

@[simp] theorem transcript_done (a : α) (s : σ) : transcript r (done a) s = [] := rfl

theorem transcript_bind (d : Dialogue I α) (f : α → Dialogue I β) (s : σ) :
    transcript r (d >>= f) s =
      transcript r d s ++
        match run r.party d s with
        | (some a, t) => transcript r (f a) t
        | (none, _) => [] := by
  induction d generalizing s with
  | done a => rfl
  | cut => rfl
  | ask q next ih => exact congrArg (_ :: ·) (ih (r q s).1 (r q s).2)

/-- The exchanges of the first part, once it has come to a result, come before those of the
second. -/
theorem transcript_bind_of_run {d : Dialogue I α} {s t : σ} {a : α}
    (h : run r.party d s = (some a, t)) (f : α → Dialogue I β) :
    transcript r (d >>= f) s = transcript r d s ++ transcript r (f a) t := by
  rw [transcript_bind, h]

/-- What is only made of a result asks nothing. -/
theorem transcript_bind_done (d : Dialogue I α) (f : α → β) (s : σ) :
    transcript r (d >>= fun a => done (f a)) s = transcript r d s := by
  rw [transcript_bind]
  rcases run r.party d s with ⟨_ | a, t⟩
  · exact List.append_nil _
  · exact List.append_nil _

theorem run_bind_done (party : Party I σ) (d : Dialogue I α) (f : α → β) (s : σ) :
    run party (d >>= fun a => done (f a)) s = ((run party d s).1.map f, (run party d s).2) := by
  rw [run_bind]
  rcases run party d s with ⟨_ | a, t⟩
  · rfl
  · rfl

/-- Every answer was given from some state. -/
theorem answer_of_mem {d : Dialogue I α} {s : σ} {e : Exchange I} (he : e ∈ transcript r d s) :
    ∃ u, e.answer = (r e.question u).1 := by
  induction d generalizing s with
  | done a => exact nomatch he
  | cut => exact nomatch he
  | ask q next ih =>
    rcases List.mem_cons.mp he with rfl | he
    · exact ⟨s, rfl⟩
    · exact ih _ he

/-! ### What is left -/

/-- What is left of the dialogue after so many answers, and the state that the respondent is in
then. -/
def rest : Nat → Dialogue I α → σ → Dialogue I α × σ
  | 0, d, s => (d, s)
  | n + 1, ask q next, s => rest n (next (r q s).1) (r q s).2
  | _ + 1, d, s => (d, s)

/-! ### Kinds of questions -/

/-- Whatever is answered, every question of the dialogue is of the kind. -/
def Asks (kind : I.Question → Prop) : Dialogue I α → Prop
  | done _ => True
  | cut => True
  | ask q next => kind q ∧ ∀ a, Asks kind (next a)

variable {kind : I.Question → Prop}

theorem Asks.bind {d : Dialogue I α} {f : α → Dialogue I β} (hd : Asks kind d)
    (hf : ∀ a, Asks kind (f a)) : Asks kind (d >>= f) := by
  induction d with
  | done a => exact hf a
  | cut => trivial
  | ask q next ih => exact ⟨hd.1, fun a => ih a (hd.2 a)⟩

theorem Asks.mono {other : I.Question → Prop} {d : Dialogue I α} (h : d.Asks kind)
    (wider : ∀ q, kind q → other q) : d.Asks other := by
  induction d with
  | done a => trivial
  | cut => trivial
  | ask q next ih => exact ⟨wider q h.1, fun a => ih a (h.2 a)⟩

theorem Asks.kind_of_mem {d : Dialogue I α} (h : Asks kind d) {s : σ} {e : Exchange I}
    (he : e ∈ transcript r d s) : kind e.question := by
  induction d generalizing s with
  | done a => exact nomatch he
  | cut => exact nomatch he
  | ask q next ih =>
    rcases List.mem_cons.mp he with rfl | he
    · exact h.1
    · exact ih _ (h.2 _) he

/-- Whoever answers the questions of a kind does not matter to a dialogue that has none. -/
theorem run_passing {kind : I.Question → Bool} {d : Dialogue I α} (h : d.Asks (kind · = false))
    (other : Respondent I σ) (s : σ) :
    run (r.passing kind other).party d s = run r.party d s := by
  induction d generalizing s with
  | done a => rfl
  | cut => rfl
  | ask q next ih =>
    have same : r.passing kind other q s = r q s := by simp [Respondent.passing, h.1]
    simp only [run, Respondent.party, same]
    exact ih _ (h.2 _) _

/-! ### Kinds of results -/

/-- Whatever is answered, a result of the dialogue is of the kind. -/
def Yields (kind : α → Prop) : Dialogue I α → Prop
  | done a => kind a
  | cut => True
  | ask _ next => ∀ a, Yields kind (next a)

theorem yields_true (d : Dialogue I α) : d.Yields fun _ => True := by
  induction d with
  | done a => trivial
  | cut => trivial
  | ask q next ih => exact ih

theorem Yields.bind {first : α → Prop} {second : β → Prop} {d : Dialogue I α}
    {f : α → Dialogue I β} (hd : d.Yields first) (hf : ∀ a, first a → (f a).Yields second) :
    (d >>= f).Yields second := by
  induction d with
  | done a => exact hf a hd
  | cut => trivial
  | ask q next ih =>
    intro a
    exact ih a (hd a)

/-- Whoever is asked, also someone who leaves questions unanswered, a run comes to no other
result. -/
theorem Yields.of_run {kind : α → Prop} {d : Dialogue I α} (h : d.Yields kind)
    {party : Party I σ} {s t : σ} {a : α} (ran : run party d s = (some a, t)) : kind a := by
  induction d generalizing s with
  | done b =>
    cases ran
    exact h
  | cut => cases ran
  | ask q next ih =>
    rw [run] at ran
    split at ran
    · exact ih _ (h _) ran
    · cases ran

end Dialogue

namespace Errand

variable {β σ : Type} (r : Respondent Outside σ)

theorem transcript_call (c : Call) (next : c.Answer → Errand β) (s : σ) :
    Dialogue.transcript r (do let a ← call c; next a : Errand β) s =
      ⟨c, (r c s).1⟩ :: Dialogue.transcript r (next (r c s).1) (r c s).2 := rfl

theorem run_party_call (c : Call) (next : c.Answer → Errand β) (s : σ) :
    Dialogue.run r.party (do let a ← call c; next a : Errand β) s =
      Dialogue.run r.party (next (r c s).1) (r c s).2 :=
  run_call r.party c next s

theorem asks_call {kind : Call → Prop} {c : Call} {next : c.Answer → Errand β} (hc : kind c)
    (h : ∀ a, Dialogue.Asks kind (next a)) :
    Dialogue.Asks kind (do let a ← call c; next a : Errand β) :=
  ⟨hc, h⟩

theorem yields_call {kind : β → Prop} {c : Call} {next : c.Answer → Errand β}
    (h : ∀ a, Dialogue.Yields kind (next a)) :
    Dialogue.Yields kind (do let a ← call c; next a : Errand β) :=
  h

end Errand

end RemoteMounts
