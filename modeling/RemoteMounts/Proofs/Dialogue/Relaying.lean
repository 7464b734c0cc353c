import RemoteMounts.Proofs.Dialogue.Transcript

/-!
# Dialogues held through others

A dialogue that is relayed asks whatever is asked to answer its questions, in the order in which it
asks them (`relay_bind`), so of what kind its questions are (`asks_relay`) and whether it is ever cut
(`Ends.relay`) is known from the answers to single questions.
-/

namespace RemoteMounts.Dialogue

variable {I J : Interface} {α β σ : Type} {answer : (q : I.Question) → Dialogue J (I.Answer q)}

theorem relay_bind (d : Dialogue I α) (f : α → Dialogue I β) :
    (d >>= f).relay answer = d.relay answer >>= fun a => (f a).relay answer := by
  induction d with
  | done a => rfl
  | cut => rfl
  | ask q next ih =>
    have later : (fun a => relay answer (next a >>= f)) =
        fun a => relay answer (next a) >>= fun b => (f b).relay answer := funext ih
    calc relay answer (ask q next >>= f)
        = answer q >>= fun a => relay answer (next a >>= f) := rfl
      _ = answer q >>= fun a => relay answer (next a) >>= fun b => (f b).relay answer := by
          rw [later]
      _ = (ask q next).relay answer >>= fun b => (f b).relay answer := (bind_assoc _ _ _).symm

theorem asks_relay {kind : J.Question → Prop} (h : ∀ q, Asks kind (answer q))
    (d : Dialogue I α) : Asks kind (d.relay answer) := by
  induction d with
  | done a => trivial
  | cut => trivial
  | ask q next ih => exact (h q).bind ih

/-! ## Dialogues that are never cut -/

/-- Whatever is answered, the dialogue comes to a result. -/
def Ends : Dialogue I α → Prop
  | done _ => True
  | cut => False
  | ask _ next => ∀ a, Ends (next a)

theorem Ends.bind {d : Dialogue I α} {f : α → Dialogue I β} (hd : d.Ends)
    (hf : ∀ a, (f a).Ends) : (d >>= f).Ends := by
  induction d with
  | done a => exact hf a
  | cut => exact hd.elim
  | ask q next ih =>
    intro a
    exact ih a (hd a)

theorem Ends.relay (h : ∀ q, (answer q).Ends) {d : Dialogue I α} (hd : d.Ends) :
    (d.relay answer).Ends := by
  induction d with
  | done a => trivial
  | cut => exact hd.elim
  | ask q next ih =>
    apply (h q).bind
    intro a
    exact ih a (hd a)

/-- With someone who always answers, such a dialogue comes to its result. -/
theorem Ends.run {d : Dialogue I α} (h : d.Ends) (r : Respondent I σ) (s : σ) :
    ∃ a t, Dialogue.run r.party d s = (some a, t) := by
  induction d generalizing s with
  | done a => exact ⟨a, s, rfl⟩
  | cut => exact h.elim
  | ask q next ih => exact ih (r q s).1 (h _) (r q s).2

end RemoteMounts.Dialogue
