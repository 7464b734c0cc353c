import RemoteMounts.Proofs.Once.Turns

/-!
# Scenes of calls for many identities

Calls are made for any number of identities, any number of them for each, and take their turns in
any order.  A call touches only its own identity, so what is true of the calls for one identity is
true of each identity of a scene: what is done for it is done once (`later_initial_once`).

The steps of a guard are turns of such a call: to enter is to find the entry, to get hold of it and
to start the action or replay the outcome; to leave is to finish, to record and to let go; to
abandon is to be dropped.
-/

namespace RemoteMounts.Once

/-- The entries of all identities, and for each of them how far its calls have come and what they
have started and completed. -/
structure Scene where
  table : Once
  progress : String → Nat → Progress
  started : String → List Nat
  completed : String → List (Nat × Bool)

namespace Scene

/-- Nobody has entered for any identity. -/
def initial : Scene :=
  ⟨.empty, fun _ _ => .called, fun _ => [], fun _ => []⟩

def cell (s : Scene) (identity : String) : Cell :=
  ⟨s.table.entry identity, s.progress identity, s.started identity, s.completed identity⟩

def put (s : Scene) (identity : String) (c : Cell) : Scene where
  table := s.table.insert identity c.entry
  progress other := if other = identity then c.progress else s.progress other
  started other := if other = identity then c.started else s.started other
  completed other := if other = identity then c.completed else s.completed other

/-- A call for the identity takes a turn.  Its entry is put into the table if it is not there. -/
inductive Turn (s : Scene) (identity : String) (call : Nat) : Scene → Prop
  | take {c : Cell} : (s.cell identity).Turn call c → Turn s identity call (s.put identity c)

/-- Calls have taken turns, and one scene has come of another. -/
inductive Later (s : Scene) : Scene → Prop
  | refl : Later s s
  | turn {t u : Scene} {identity : String} {call : Nat} :
    Later s t → Turn t identity call u → Later s u

variable {s t : Scene} {identity other : String} {call : Nat}

theorem Later.trans {u : Scene} (h : Later s t) (l : Later t u) : Later s u := by
  induction l with
  | refl => exact h
  | turn _ taken ih => exact ih.turn taken

@[simp] theorem cell_put_self (s : Scene) (identity : String) (c : Cell) :
    (s.put identity c).cell identity = c := by
  simp [cell, put]

theorem cell_put_of_ne (s : Scene) (c : Cell) (h : other ≠ identity) :
    (s.put identity c).cell other = s.cell other := by
  simp [cell, put, h]

theorem get?_put_of_ne (s : Scene) (c : Cell) (h : other ≠ identity) :
    (s.put identity c).table.get? other = s.table.get? other := by
  simp [put, h]

/-- Whatever the turns, every identity is sound. -/
theorem sound_of_later (h : Later initial s) (identity : String) : (s.cell identity).Sound := by
  induction h with
  | refl => exact Cell.sound_fresh
  | @turn t u place call earlier taken ih =>
    obtain ⟨taken⟩ := taken
    by_cases hi : identity = place
    · rw [hi, cell_put_self]
      rw [hi] at ih
      exact ih.turn taken
    · rw [cell_put_of_ne _ _ hi]
      exact ih

/-- Once there is an outcome no turn of any call changes it or starts an action. -/
theorem later_of_recorded {outcome : Bool} (h : Later initial s) (l : Later s t)
    (known : (s.cell identity).entry.outcome = some outcome) :
    (t.cell identity).entry.outcome = some outcome ∧
      (t.cell identity).started = (s.cell identity).started := by
  induction l with
  | refl => exact ⟨known, rfl⟩
  | @turn t u place call earlier taken ih =>
    obtain ⟨taken⟩ := taken
    by_cases hi : identity = place
    · subst hi
      rw [cell_put_self]
      have sound := sound_of_later (h.trans earlier) identity
      have after := sound.turn_of_recorded taken ih.1
      exact ⟨after.1, after.2.trans ih.2⟩
    · rw [cell_put_of_ne _ _ hi]
      exact ih

/-! ### Entering and leaving in turns -/

theorem put_put (s : Scene) (identity : String) (c d : Cell) :
    (s.put identity c).put identity d = s.put identity d := by
  unfold put
  rw [Keyed.insert_insert]
  congr 1 <;> funext place <;> by_cases hi : place = identity <;> simp [hi]

theorem Later.first {c : Cell} (taken : (s.cell identity).Turn call c) :
    Later s (s.put identity c) :=
  .turn .refl (.take taken)

theorem Later.next {c d : Cell} (earlier : Later s (s.put identity c)) (taken : c.Turn call d) :
    Later s (s.put identity d) := by
  have again : Turn (s.put identity c) identity call ((s.put identity c).put identity d) :=
    .take (by rwa [cell_put_self])
  rw [put_put] at again
  exact earlier.turn again

/-- An entry that says something is in the table. -/
theorem get?_of_entry {o : Once} {e : Entry} (h : o.entry identity = e) (said : e ≠ ⟨false, none⟩) :
    o.get? identity = some e := by
  unfold entry at h
  cases hg : o.get? identity with
  | none =>
    rw [hg] at h
    exact absurd h.symm said
  | some known =>
    rw [hg] at h
    exact congrArg some h

/-- Someone who enters and is told to go on has found the entry, has got hold of it and has started
the action. -/
theorem later_enter_go (hp : s.progress identity call = .called)
    (go : (s.table.enter identity).1 = .go) :
    ∃ c : Cell, Later s (s.put identity c) ∧
      c.progress = ((s.cell identity).put call .acting).progress ∧
      (s.put identity c).table = (s.table.enter identity).2 := by
  unfold enter at go ⊢
  split at go
  · exact nomatch go
  · exact nomatch go
  · rename_i he
    have found := Later.first (.find (c := s.cell identity) hp)
    have locked := found.next (.lock (if_pos rfl) (congrArg Entry.held he))
    have started := locked.next (.start (if_pos rfl) (congrArg Entry.outcome he))
    refine ⟨_, started, ?_, ?_⟩
    · exact Cell.progress_put_again (Cell.progress_put_again rfl .admitted) .acting
    · exact congrArg (fun outcome => s.table.insert identity ⟨true, outcome⟩)
        (congrArg Entry.outcome he)

/-- Someone who enters and is told an outcome has found the entry, has got hold of it, has replayed
the outcome and has let go of the entry. -/
theorem later_enter_recorded {outcome : Bool} (hp : s.progress identity call = .called)
    (told : (s.table.enter identity).1 = .recorded outcome) :
    ∃ c : Cell, Later s (s.put identity c) ∧
      c.progress = ((s.cell identity).put call (.returned outcome)).progress ∧
      (s.put identity c).table = (s.table.enter identity).2 := by
  unfold enter at told ⊢
  split at told
  · exact nomatch told
  · rename_i he
    cases told
    have found := Later.first (.find (c := s.cell identity) hp)
    have locked := found.next (.lock (if_pos rfl) (congrArg Entry.held he))
    have replayed := locked.next (.replay (if_pos rfl) (congrArg Entry.outcome he))
    refine ⟨_, replayed.next (.release (if_pos rfl)), ?_, ?_⟩
    · refine Cell.progress_put_again (p := .settled outcome) ?_ (.returned outcome)
      refine Cell.progress_put_again (p := .admitted) ?_ (.settled outcome)
      exact Cell.progress_put_again rfl .admitted
    · have bound := get?_of_entry he nofun
      refine Eq.trans ?_ (Keyed.insert_of_get? bound)
      exact congrArg (fun outcome => s.table.insert identity ⟨false, outcome⟩)
        (congrArg Entry.outcome he)
  · exact nomatch told

/-- Someone who waits and is dropped has found the entry and has given up. -/
theorem later_giveUp (hp : s.progress identity call = .called)
    (wait : (s.table.enter identity).1 = .wait) :
    ∃ c : Cell, Later s (s.put identity c) ∧
      c.progress = ((s.cell identity).put call .dropped).progress ∧
      (s.put identity c).table = s.table := by
  unfold enter at wait
  split at wait
  · rename_i he
    have found := Later.first (.find (c := s.cell identity) hp)
    refine ⟨_, found.next (.giveUp (if_pos rfl)), ?_, ?_⟩
    · exact Cell.progress_put_again rfl .dropped
    · have bound := get?_of_entry he nofun
      refine Eq.trans ?_ (Keyed.insert_of_get? bound)
      exact congrArg (s.table.insert identity) he
  · exact nomatch wait
  · exact nomatch wait

/-- Someone who leaves has finished the action, has recorded its result and has let go of the
entry. -/
theorem later_leave (result : Bool) (hp : s.progress identity call = .acting) :
    ∃ c : Cell, Later s (s.put identity c) ∧
      c.progress = ((s.cell identity).put call (.returned result)).progress ∧
      (s.put identity c).table = s.table.leave identity result := by
  have finished := Later.first (.finish (c := s.cell identity) result hp)
  have recorded := finished.next (.record (if_pos rfl))
  refine ⟨_, recorded.next (.release (if_pos rfl)), ?_, rfl⟩
  exact Cell.progress_put_again (Cell.progress_put_again rfl (.settled result)) (.returned result)

/-- Someone who is dropped during the action abandons the entry. -/
theorem later_abandon (h : Later initial s) (hp : s.progress identity call = .acting) :
    ∃ c : Cell, Later s (s.put identity c) ∧
      c.progress = ((s.cell identity).put call .dropped).progress ∧
      (s.put identity c).table = s.table.abandon identity := by
  have unknown := (sound_of_later h identity).faithful.acting hp
  refine ⟨_, Later.first (.drop (c := s.cell identity) (.inr hp)), rfl, ?_⟩
  exact congrArg (fun outcome => s.table.insert identity ⟨false, outcome⟩) unknown

/-! ### What is done once -/

/-- The outcome that is told to someone who asks is the recorded one. -/
theorem outcome_of_outcome? {o : Once} {outcome : Bool} (h : o.outcome? identity = some outcome) :
    (o.entry identity).outcome = some outcome := by
  unfold outcome? at h
  split at h
  · exact nomatch h
  · rename_i known he
    rw [he]
    exact h

/-- In whatever order calls take their turns, and whichever of them are dropped: at most one action
for an identity is in flight; at most one is ever completed; whoever returns, returns its result;
once there is an outcome, it stays and no action is started; unless a call is dropped at most one
action is started; no call touches another identity; and only the recorded outcome is told. -/
theorem later_initial_once (h : Later initial s) (identity : String) :
    (∀ m n, s.progress identity m = .acting → s.progress identity n = .acting → m = n) ∧
    (s.completed identity).length ≤ 1 ∧
    (∀ n result, s.progress identity n = .returned result →
      ∃ m, s.completed identity = [(m, result)]) ∧
    (∀ t outcome, Later s t → (s.table.entry identity).outcome = some outcome →
      (t.table.entry identity).outcome = some outcome ∧ t.started identity = s.started identity) ∧
    ((∀ n, s.progress identity n ≠ .dropped) → (s.started identity).length ≤ 1) ∧
    (∀ t other call, Turn s other call t → other ≠ identity →
      t.table.get? identity = s.table.get? identity ∧
        t.table.outcome? identity = s.table.outcome? identity) ∧
    (∀ outcome, s.table.outcome? identity = some outcome →
      (s.table.entry identity).outcome = some outcome ∧
        ∃ m, s.completed identity = [(m, outcome)]) := by
  have sound := sound_of_later h identity
  refine ⟨?_, sound.completed_length_le, ?_, ?_, sound.started_length_le, ?_, ?_⟩
  · intro m n hm hn
    have holds {k : Nat} (hk : s.progress identity k = .acting) :
        ((s.cell identity).progress k).holds = true := congrArg Progress.holds hk
    exact sound.exclusive.eq (holds hm) (holds hn)
  · intro n result hn
    exact sound.faithful.recorded (sound.faithful.told (.inr hn))
  · intro t outcome l known
    exact later_of_recorded h l known
  · rintro t other call ⟨⟩ ne
    rename_i c taken
    have same := get?_put_of_ne s c ne.symm
    refine ⟨same, ?_⟩
    unfold outcome? entry
    rw [same]
  · intro outcome told
    have known := outcome_of_outcome? told
    exact ⟨known, sound.faithful.recorded known⟩

/-- One call has done what is to be done and another has replayed its outcome. -/
theorem later_initial_once_replayed :
    ∃ s, Later initial s ∧ s.progress "profile" 0 = .returned true ∧
      s.progress "profile" 1 = .returned true ∧
      (∀ n result, s.progress "profile" n = .returned result →
        ∃ m, s.completed "profile" = [(m, result)]) := by
  have found : Later initial _ :=
    (Later.first (.find rfl : Cell.Turn 0 (initial.cell "profile") _)).next
      (.find rfl : Cell.Turn 1 _ _)
  have acted : Later initial _ :=
    ((found.next (.lock rfl rfl : Cell.Turn 0 _ _)).next (.start rfl rfl : Cell.Turn 0 _ _)).next
      (.finish true rfl : Cell.Turn 0 _ _)
  have returned : Later initial _ :=
    (acted.next (.record rfl : Cell.Turn 0 _ _)).next (.release rfl : Cell.Turn 0 _ _)
  have told : Later initial _ :=
    (returned.next (.lock rfl rfl : Cell.Turn 1 _ _)).next (.replay rfl rfl : Cell.Turn 1 _ _)
  have replayed : Later initial _ := told.next (.release rfl : Cell.Turn 1 _ _)
  exact ⟨_, replayed, rfl, rfl, (later_initial_once replayed "profile").2.2.1⟩

end Scene

end RemoteMounts.Once
