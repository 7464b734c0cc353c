import RemoteMounts.Mount.Workflow
import RemoteMounts.Proofs.Dialogue.Transcript
import RemoteMounts.Proofs.Once.Scenes
import RemoteMounts.Simulated.Stage

/-!
# Errands that do something once

Errands that do something once are held side by side on one stage.  Their questions are answered one
at a time, in any order, and an errand may be dropped while it waits for its identity and while its
action is in flight.  Whatever comes of it is what comes of calls that take turns: the table of the
stage is that of a scene in which each call has come as far as its errand (`scene_of_reaches`).  So
errands for one identity end with one outcome.
-/

namespace RemoteMounts

open Simulated

/-- Whether the call is about something else than what is done once. -/
def Call.plain : Call → Prop
  | enter _ | leave _ _ => False
  | _ => True

/-- An answer to any other call leaves what is known of identities as it is. -/
theorem once_of_answer {call : Call} {a : call.Answer} {s t : Stage} (plain : call.plain)
    (h : Stage.answer call s = some (a, t)) : t.once = s.once := by
  cases call with
  | enter => exact plain.elim
  | leave => exact plain.elim
  | addProfile arn =>
    have ht : (s.addProfile arn).2 = t := congrArg Prod.snd (Option.some.inj h)
    rw [← ht, Stage.addProfile_snd]
  | _ =>
    cases h
    rfl

namespace Once

/-- What an errand does when its action is over. -/
def close (identity : String) (outcome : Bool) : Errand OnceVerdict := do
  Errand.call (.leave identity outcome)
  return ⟨true, outcome⟩

theorem once_eq (identity : String) (action : Errand Bool) :
    once identity action =
      .ask (.enter identity) fun known =>
        known.elim (action >>= close identity) fun outcome => .done ⟨false, outcome⟩ := by
  refine congrArg (Dialogue.ask (I := Outside) (Call.enter identity)) ?_
  funext known
  cases known <;> rfl

theorem bind_close_ne_done (rest : Errand Bool) (identity : String) (verdict : OnceVerdict) :
    rest >>= close identity ≠ .done verdict := by
  cases rest <;> exact nofun

/-- An errand that has not entered is not one whose action is in flight. -/
theorem once_ne_bind_close (identity : String) (action rest : Errand Bool) :
    once identity action ≠ rest >>= close identity := by
  rw [once_eq]
  intro same
  cases rest with
  | done outcome => exact nomatch same
  | cut => exact nomatch same
  | ask question next =>
    obtain ⟨rfl, nexts⟩ := Dialogue.ask.inj same
    have ended := congrFun (eq_of_heq nexts) (some true)
    exact bind_close_ne_done _ _ _ ended.symm

/-- How far an errand has come, seen from what is left of it. -/
inductive Stands (identity : String) : Option (Errand OnceVerdict) → Progress → Prop
  | called {action : Errand Bool} :
    action.Asks Call.plain → Stands identity (some (once identity action)) .called
  | acting {rest : Errand Bool} :
    rest.Asks Call.plain → Stands identity (some (rest >>= close identity)) .acting
  | returned {verdict : OnceVerdict} :
    Stands identity (some (.done verdict)) (.returned verdict.outcome)
  | dropped : Stands identity none .dropped

/-- Errands on a stage, any number of them for each identity; none is left of one that was
dropped. -/
structure Gathering where
  stage : Stage
  errands : String → Nat → Option (Errand OnceVerdict)

namespace Gathering

def put (g : Gathering) (identity : String) (call : Nat) (rest : Option (Errand OnceVerdict))
    (stage : Stage) : Gathering where
  stage := stage
  errands place n := if place = identity ∧ n = call then rest else g.errands place n

/-- What may happen to an errand. -/
inductive Step (g : Gathering) (identity : String) (call : Nat) : Gathering → Prop
  | answered {question : Call} {next : question.Answer → Errand OnceVerdict}
    {a : question.Answer} {stage : Stage} :
    g.errands identity call = some (.ask question next) →
    Stage.answer question g.stage = some (a, stage) →
    Step g identity call (g.put identity call (some (next a)) stage)
  /-- It is dropped while it waits. -/
  | givenUp {next : Option Bool → Errand OnceVerdict} :
    g.errands identity call = some (.ask (.enter identity) next) →
    Stage.answer (.enter identity) g.stage = none →
    Step g identity call (g.put identity call none g.stage)
  /-- It is dropped while its action is in flight, which abandons the identity. -/
  | dropped {rest : Errand Bool} :
    g.errands identity call = some (rest >>= close identity) →
    Step g identity call
      (g.put identity call none { g.stage with once := g.stage.once.abandon identity })

/-- What comes of a gathering. -/
inductive Reaches (g : Gathering) : Gathering → Prop
  | refl : Reaches g g
  | step {h k : Gathering} {identity : String} {call : Nat} :
    Reaches g h → Step h identity call k → Reaches g k

/-- A scene that looks like the gathering. -/
structure Shows (s : Scene) (g : Gathering) : Prop where
  later : Scene.Later .initial s
  table : s.table = g.stage.once
  stands : ∀ identity call, Stands identity (g.errands identity call) (s.progress identity call)

variable {s : Scene} {g : Gathering} {identity : String} {call : Nat}

/-- A call that has come further in the scene, as its errand has. -/
theorem Shows.move (h : Shows s g) {c : Cell} {p : Progress} {rest : Option (Errand OnceVerdict)}
    {stage : Stage} (later : Scene.Later s (s.put identity c))
    (moved : c.progress = ((s.cell identity).put call p).progress)
    (table : (s.put identity c).table = stage.once) (stands : Stands identity rest p) :
    Shows (s.put identity c) (g.put identity call rest stage) where
  later := h.later.trans later
  table := table
  stands := by
    intro place n
    simp only [put, Scene.put]
    by_cases hp : place = identity
    · subst hp
      rw [if_pos rfl, moved]
      rcases Cell.progress_put (s.cell place) call p n with ⟨hn, now⟩ | ⟨hn, now⟩
      · rw [now, if_pos ⟨rfl, hn⟩]
        exact stands
      · rw [now, if_neg fun both => hn both.2]
        exact h.stands place n
    · rw [if_neg hp, if_neg fun both => hp both.1]
      exact h.stands place n

/-- What is left of an errand changes, and its call has come no further. -/
theorem Shows.stay (h : Shows s g) {rest : Option (Errand OnceVerdict)} {stage : Stage}
    (once : stage.once = g.stage.once)
    (stands : Stands identity rest (s.progress identity call)) :
    Shows s (g.put identity call rest stage) where
  later := h.later
  table := h.table.trans once.symm
  stands := by
    intro place n
    by_cases hp : place = identity ∧ n = call
    · obtain ⟨rfl, rfl⟩ := hp
      simpa [put] using stands
    · simpa [put, hp] using h.stands place n

/-- An answered question is no turn, or a few turns, of the call. -/
theorem shows_answered (h : Shows s g) {question : Call}
    {next : question.Answer → Errand OnceVerdict} {a : question.Answer} {stage : Stage}
    (asks : g.errands identity call = some (.ask question next))
    (ha : Stage.answer question g.stage = some (a, stage)) :
    ∃ t, Shows t (g.put identity call (some (next a)) stage) := by
  have stands := h.stands identity call
  rw [asks] at stands
  generalize hd : (some (.ask question next) : Option (Errand OnceVerdict)) = errand at stands
  generalize hp : s.progress identity call = p at stands
  cases stands with
  | @called action plain =>
    rw [once_eq] at hd
    cases hd
    simp only [Stage.answer] at ha
    split at ha
    · exact nomatch ha
    · rename_i after he
      cases ha
      have told := congrArg Prod.fst he
      rw [← h.table] at told he
      obtain ⟨c, later, moved, table⟩ := Scene.later_enter_go hp told
      exact ⟨_, h.move later moved (table.trans (congrArg Prod.snd he)) (.acting plain)⟩
    · rename_i outcome after he
      cases ha
      have told := congrArg Prod.fst he
      rw [← h.table] at told
      obtain ⟨c, later, moved, table⟩ := Scene.later_enter_recorded hp told
      have same : (s.table.enter identity).2 = s.table := by
        unfold enter at told ⊢
        split at told <;> first | rfl | exact nomatch told
      exact ⟨_, h.move later moved (table.trans (same.trans h.table)) .returned⟩
  | @acting rest plain =>
    cases rest with
    | cut => exact nomatch hd
    | done outcome =>
      cases hd
      cases ha
      obtain ⟨c, later, moved, table⟩ := Scene.later_leave outcome hp
      rw [h.table] at table
      exact ⟨_, h.move later moved table .returned⟩
    | ask asked rest =>
      cases hd
      have once := once_of_answer plain.1 ha
      exact ⟨s, h.stay once (hp ▸ .acting (plain.2 a))⟩
  | returned => exact nomatch hd
  | dropped => exact nomatch hd

theorem shows_givenUp (h : Shows s g) {next : Option Bool → Errand OnceVerdict}
    (asks : g.errands identity call = some (.ask (.enter identity) next))
    (ha : Stage.answer (.enter identity) g.stage = none) :
    ∃ t, Shows t (g.put identity call none g.stage) := by
  have stands := h.stands identity call
  rw [asks] at stands
  generalize hd : (some (.ask (.enter identity) next) : Option (Errand OnceVerdict)) = errand
    at stands
  generalize hp : s.progress identity call = p at stands
  cases stands with
  | called =>
    have wait : (s.table.enter identity).1 = .wait := by
      rw [h.table]
      simp only [Stage.answer] at ha
      split at ha
      · rename_i he
        exact congrArg Prod.fst he
      · exact nomatch ha
      · exact nomatch ha
    obtain ⟨c, later, moved, table⟩ := Scene.later_giveUp hp wait
    exact ⟨_, h.move later moved (table.trans h.table) .dropped⟩
  | @acting rest plain =>
    cases rest with
    | cut => exact nomatch hd
    | done outcome => exact nomatch hd
    | ask asked rest =>
      cases hd
      exact plain.1.elim
  | returned => exact nomatch hd
  | dropped => exact nomatch hd

theorem shows_dropped (h : Shows s g) {rest : Errand Bool}
    (asks : g.errands identity call = some (rest >>= close identity)) :
    ∃ t, Shows t
      (g.put identity call none { g.stage with once := g.stage.once.abandon identity }) := by
  have stands := h.stands identity call
  rw [asks] at stands
  generalize hd : some (rest >>= close identity) = errand at stands
  generalize hp : s.progress identity call = p at stands
  cases stands with
  | called => exact absurd (Option.some.inj hd).symm (once_ne_bind_close _ _ _)
  | acting plain =>
    obtain ⟨c, later, moved, table⟩ := Scene.later_abandon h.later hp
    rw [h.table] at table
    exact ⟨_, h.move later moved table .dropped⟩
  | returned => exact absurd (Option.some.inj hd) (bind_close_ne_done _ _ _)
  | dropped => exact nomatch hd

theorem shows_step {k : Gathering} (h : Shows s g) (step : Step g identity call k) :
    ∃ t, Shows t k := by
  cases step with
  | answered asks ha => exact shows_answered h asks ha
  | givenUp asks ha => exact shows_givenUp h asks ha
  | dropped asks => exact shows_dropped h asks

/-- Errands that do something once, before any of them has asked anything. -/
def beginning (stage : Stage) (actions : String → Nat → Errand Bool) : Gathering :=
  ⟨stage, fun identity call => some (once identity (actions identity call))⟩

/-- Whatever comes of errands whose actions do nothing else once, some scene looks like it. -/
theorem scene_of_reaches {stage : Stage} {actions : String → Nat → Errand Bool}
    (empty : stage.once = .empty)
    (plain : ∀ identity call, (actions identity call).Asks Call.plain)
    (h : Reaches (beginning stage actions) g) : ∃ s, Shows s g := by
  induction h with
  | refl =>
    refine ⟨.initial, .refl, empty.symm, fun identity call => ?_⟩
    exact .called (plain identity call)
  | step _ taken ih =>
    obtain ⟨s, hs⟩ := ih
    exact shows_step hs taken

/-- Errands for one identity that come to an end come to the same outcome. -/
theorem outcome_eq_of_reaches {stage : Stage} {actions : String → Nat → Errand Bool}
    (empty : stage.once = .empty)
    (plain : ∀ identity call, (actions identity call).Asks Call.plain)
    (h : Reaches (beginning stage actions) g) {m n : Nat} {first second : OnceVerdict}
    (hm : g.errands identity m = some (.done first))
    (hn : g.errands identity n = some (.done second)) : first.outcome = second.outcome := by
  obtain ⟨s, hs⟩ := scene_of_reaches empty plain h
  have told {k : Nat} {verdict : OnceVerdict}
      (hk : g.errands identity k = some (.done verdict)) :
      (s.table.entry identity).outcome = some verdict.outcome := by
    have stands := hs.stands identity k
    rw [hk] at stands
    generalize hd : (some (.done verdict) : Option (Errand OnceVerdict)) = errand at stands
    generalize hp : s.progress identity k = p at stands
    cases stands with
    | called =>
      rw [once_eq] at hd
      exact nomatch hd
    | acting => exact absurd (Option.some.inj hd).symm (bind_close_ne_done _ _ _)
    | returned =>
      cases hd
      exact (Scene.sound_of_later hs.later identity).faithful.told (.inr hp)
    | dropped => exact nomatch hd
  exact Option.some.inj ((told hm).symm.trans (told hn))

end Gathering

end Once

end RemoteMounts
