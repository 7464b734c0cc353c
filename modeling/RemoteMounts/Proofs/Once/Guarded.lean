import RemoteMounts.Proofs.Once.Errands

/-!
# A respondent with a record

A respondent that keeps the record of what is done once itself, whatever is in it, and leaves all
other calls to another respondent.  Where someone else holds an identity, that other one also says
what the holder leaves behind.  Whoever enters is told as `Entered` says, whatever was recorded
(`entered_guarded`), and nothing but entering and leaving touches the record
(`once_of_run_guarded`).
-/

namespace RemoteMounts

namespace Once

/-! ## Leaving -/

/-- To leave what is recorded changes nothing. -/
theorem leave_of_outcome? {o : Once} {identity : String} {outcome : Bool}
    (h : o.outcome? identity = some outcome) : o.leave identity outcome = o := by
  have entry : o.entry identity = ⟨false, some outcome⟩ := by
    unfold outcome? at h
    split at h
    · cases h
    · rename_i known found
      rw [found, h]
  exact Keyed.insert_of_get? (Scene.get?_of_entry entry nofun)

theorem leave_abandon (o : Once) (identity : String) (outcome : Bool) :
    (o.abandon identity).leave identity outcome = o.leave identity outcome :=
  Keyed.insert_insert ..

/-- Whether someone has entered before does not matter to what is left. -/
theorem leave_enter (o : Once) (identity : String) (outcome : Bool) :
    (o.enter identity).2.leave identity outcome = o.leave identity outcome := by
  unfold enter
  split
  · rfl
  · rfl
  · exact Keyed.insert_insert ..

/-- What comes of entering: the recorded outcome is told, someone else is waited for, or one goes on
oneself. -/
theorem enter_cases (o : Once) (identity : String) :
    (∃ outcome, o.enter identity = (.recorded outcome, o) ∧ o.outcome? identity = some outcome) ∨
      (o.enter identity = (.wait, o) ∧ o.outcome? identity = none) ∨
      ∃ after, o.enter identity = (.go, after) ∧ o.outcome? identity = none := by
  unfold enter outcome?
  cases o.entry identity with
  | mk held outcome =>
    cases held with
    | true => exact .inr (.inl ⟨rfl, rfl⟩)
    | false =>
      cases outcome with
      | none => exact .inr (.inr ⟨_, rfl, rfl⟩)
      | some outcome => exact .inl ⟨outcome, rfl, rfl⟩

end Once

/-! ## Keeping the record -/

/-- The respondent that keeps the record itself.  Who has to wait is told what the other respondent
says that the holder leaves, and goes on if that is nothing. -/
def Respondent.guarded {σ : Type} (r : Respondent Outside σ) : Respondent Outside (σ × Once)
  | .enter identity, (s, o) =>
    match o.enter identity with
    | (.recorded outcome, o) => (some outcome, (s, o))
    | (.go, o) => (none, (s, o))
    | (.wait, o) =>
      match r (.enter identity) s with
      | (some outcome, s) => (some outcome, (s, o.leave identity outcome))
      | (none, s) => (none, (s, ((o.abandon identity).enter identity).2))
  | .leave identity outcome, (s, o) => ((), (s, o.leave identity outcome))
  | q, (s, o) => ((r q s).1, ((r q s).2, o))

section

variable {α σ : Type} {r : Respondent Outside σ} {s : σ} {o : Once}

/-- What is not about the record does not touch it. -/
theorem guarded_of_plain {q : Call} (plain : q.plain) :
    r.guarded q (s, o) = ((r q s).1, ((r q s).2, o)) := by
  cases q with
  | enter => exact plain.elim
  | leave => exact plain.elim
  | _ => rfl

theorem once_of_run_guarded {d : Errand α} (plain : d.Asks Call.plain) :
    (Dialogue.run r.guarded.party d (s, o)).2.2 = o := by
  induction d generalizing s with
  | done a => rfl
  | cut => rfl
  | ask q next ih =>
    simp only [Dialogue.run, Respondent.party, guarded_of_plain plain.1]
    exact ih _ (plain.2 _)

/-- What someone who enters is told, and the record then.  Nobody is told to go on who could have
been told an outcome. -/
inductive Entered (o : Once) (identity : String) : Option Bool → Once → Prop
  | recorded {outcome : Bool} :
    o.outcome? identity = some outcome → Entered o identity (some outcome) o
  | leftByOther {outcome : Bool} :
    (o.enter identity).1 = .wait → Entered o identity (some outcome) (o.leave identity outcome)
  | goes {after : Once} :
    o.outcome? identity = none →
    (∀ outcome, after.leave identity outcome = o.leave identity outcome) →
    Entered o identity none after

/-- Whoever enters is told something. -/
theorem entered_guarded (identity : String) :
    ∃ known u after, r.guarded (.enter identity) (s, o) = (known, (u, after)) ∧
      Entered o identity known after := by
  simp only [Respondent.guarded]
  rcases o.enter_cases identity with
    ⟨outcome, told, known⟩ | ⟨told, unknown⟩ | ⟨after, told, unknown⟩
  · rw [told]
    exact ⟨_, _, _, rfl, .recorded known⟩
  · rw [told]
    dsimp only
    cases r (.enter identity) s with
    | mk left u =>
      cases left with
      | some outcome => exact ⟨_, _, _, rfl, .leftByOther (congrArg Prod.fst told)⟩
      | none =>
        refine ⟨_, _, _, rfl, .goes unknown fun outcome => ?_⟩
        rw [Once.leave_enter, Once.leave_abandon]
  · have left := o.leave_enter identity
    rw [told] at left ⊢
    exact ⟨_, _, _, rfl, .goes unknown left⟩

end

end RemoteMounts
