import RemoteMounts.Dialogue

/-!
# Dialogues side by side

Several dialogues are held with one party, each going on as far as it can before the next one is
looked at.  A question may take time before it is answered; meanwhile the others go on.  A question
that the party leaves unanswered is put again later, when another dialogue may have made an answer
possible.  Time moves on only when no dialogue can.
-/

namespace RemoteMounts

/-- How far a dialogue among others has come. -/
inductive Strand (I : Interface) (α : Type) : Type
  /-- It may go on. -/
  | ready (rest : Dialogue I α)
  /-- The question it has put is answered at this time. -/
  | asleep (time : Nat) (rest : Dialogue I α)
  | ended (result : Option α)

namespace Strand

variable {I : Interface} {α σ : Type}

/-- How someone answers several dialogues at once: the time that a question takes, and the answer
then. -/
structure Host (I : Interface) (σ : Type) where
  delay : I.Question → σ → Nat
  answer : Party I σ

/-- Goes on with a dialogue as far as possible.  Whether anything has changed comes with it;
`rested` says that the time of the first question has passed. -/
def advance (host : Host I σ) (time : Nat) :
    (rested : Bool) → Dialogue I α → σ → Strand I α × σ × Bool
  | _, .done a, s => (.ended (some a), s, true)
  | _, .cut, s => (.ended none, s, true)
  | rested, .ask q next, s =>
    if rested = false ∧ 0 < host.delay q s then
      (.asleep (time + host.delay q s) (.ask q next), s, true)
    else
      match host.answer q s with
      | none => (.ready (.ask q next), s, false)
      | some (a, s) =>
        let (strand, s, _) := advance host time false (next a) s
        (strand, s, true)

def visit (host : Host I σ) (time : Nat) : Strand I α → σ → Strand I α × σ × Bool
  | .ready d, s => advance host time false d s
  | .asleep wake d, s =>
    if wake ≤ time then advance host time true d s else (.asleep wake d, s, false)
  | .ended r, s => (.ended r, s, false)

def round (host : Host I σ) (time : Nat) : List (Strand I α) → σ → List (Strand I α) × σ × Bool
  | [], s => ([], s, false)
  | strand :: rest, s =>
    let (strand, s, moved) := visit host time strand s
    let (rest, s, movedLater) := round host time rest s
    (strand :: rest, s, moved || movedLater)

/-- When the next sleeping dialogue is answered. -/
def nextWake? : List (Strand I α) → Option Nat
  | [] => none
  | .asleep wake _ :: rest => some ((nextWake? rest).elim wake (min wake))
  | _ :: rest => nextWake? rest

def result? : Strand I α → Option α
  | .ended r => r
  | _ => none

/-- Rounds until nothing can change any more, for at most so many rounds. -/
def rounds (host : Host I σ) :
    (patience time : Nat) → List (Strand I α) → σ → List (Option α) × σ
  | 0, _, strands, s => (strands.map result?, s)
  | patience + 1, time, strands, s =>
    match round host time strands s with
    | (strands, s, true) => rounds host patience time strands s
    | (strands, s, false) =>
      match nextWake? strands with
      | some wake => rounds host patience wake strands s
      | none => (strands.map result?, s)

end Strand

/-- Holds the dialogues side by side, and gives their results in order. -/
def Dialogue.runAll {I : Interface} {α σ : Type} (host : Strand.Host I σ) (patience : Nat)
    (dialogues : List (Dialogue I α)) (s : σ) : List (Option α) × σ :=
  Strand.rounds host patience 0 (dialogues.map .ready) s

end RemoteMounts
