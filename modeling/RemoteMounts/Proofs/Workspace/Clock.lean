import RemoteMounts.Proofs.Dialogue.Transcript
import RemoteMounts.Time
import RemoteMounts.Workspace.Wire

/-!
# Clocks on the wire

Someone who answers the questions of a client keeps a time of its own.  What it shows and how long it
pauses fits a clock that never goes back (`timely_transcript`), and that clock goes on by all pauses
at least (`Timely.add_pausedNanos_le`).
-/

namespace RemoteMounts

namespace Wire

/-! ## Clocks -/

/-- The respondent keeps this time: no question turns it back, a reading shows the time at which the
clock is read, and a pause takes its span or longer. -/
structure KeepsTime {σ : Type} (r : Respondent Wire σ) (time : σ → Nat) : Prop where
  asked : ∀ q s, time s ≤ time (r q s).2
  shown : ∀ s, time s ≤ (r .now s).1.nanos
  read : ∀ s, (r .now s).1.nanos ≤ time (r .now s).2
  paused : ∀ span s, time s + span.nanos ≤ time (r (.pause span) s).2

/-- The readings and the pauses among the exchanges fit a clock that shows so many nanoseconds before
them. -/
def Timely : Nat → List (Exchange Wire) → Prop
  | _, [] => True
  | time, ⟨.now, seen⟩ :: rest => time ≤ seen.nanos ∧ Timely seen.nanos rest
  | time, ⟨.pause span, _⟩ :: rest => Timely (time + span.nanos) rest
  | time, _ :: rest => Timely time rest

/-- What the clock shows at least after the exchanges. -/
def timeAfter : Nat → List (Exchange Wire) → Nat
  | time, [] => time
  | _, ⟨.now, seen⟩ :: rest => timeAfter seen.nanos rest
  | time, ⟨.pause span, _⟩ :: rest => timeAfter (time + span.nanos) rest
  | time, _ :: rest => timeAfter time rest

variable {time : Nat} {xs ys : List (Exchange Wire)}

theorem Timely.mono {earlier : Nat} (h : Timely time xs) (le : earlier ≤ time) :
    Timely earlier xs := by
  induction xs generalizing time earlier with
  | nil => trivial
  | cons e rest ih =>
    obtain ⟨question, answer⟩ := e
    cases question with
    | now => exact ⟨Nat.le_trans le h.1, h.2⟩
    | pause span => exact ih h (Nat.add_le_add_right le _)
    | _ => exact ih h le

theorem timely_append : Timely time (xs ++ ys) ↔ Timely time xs ∧ Timely (timeAfter time xs) ys := by
  induction xs generalizing time with
  | nil => simp [Timely, timeAfter]
  | cons e rest ih =>
    obtain ⟨question, answer⟩ := e
    cases question with
    | now => exact (and_congr_right fun _ => ih).trans and_assoc.symm
    | _ => exact ih

theorem timeAfter_mono {earlier : Nat} (le : earlier ≤ time) :
    timeAfter earlier xs ≤ timeAfter time xs := by
  induction xs generalizing time earlier with
  | nil => exact le
  | cons e rest ih =>
    obtain ⟨question, answer⟩ := e
    cases question with
    | now => exact Nat.le_refl _
    | pause span => exact ih (Nat.add_le_add_right le _)
    | _ => exact ih le

section

variable {α σ : Type} {r : Respondent Wire σ} {time : σ → Nat} (clock : KeepsTime r time)
include clock

theorem timely_transcript (d : Dialogue Wire α) (s : σ) :
    Timely (time s) (Dialogue.transcript r d s) := by
  induction d generalizing s with
  | done a => trivial
  | cut => trivial
  | ask question next ih =>
    have after := ih (r question s).1 (r question s).2
    cases question with
    | now => exact ⟨clock.shown s, after.mono (clock.read s)⟩
    | pause span => exact after.mono (clock.paused span s)
    | _ => exact after.mono (clock.asked _ s)

theorem timeAfter_transcript (d : Dialogue Wire α) (s : σ) :
    timeAfter (time s) (Dialogue.transcript r d s) ≤ time (Dialogue.run r.party d s).2 := by
  induction d generalizing s with
  | done a => exact Nat.le_refl _
  | cut => exact Nat.le_refl _
  | ask question next ih =>
    refine Nat.le_trans ?_ (ih (r question s).1 (r question s).2)
    cases question with
    | now => exact timeAfter_mono (clock.read s)
    | pause span => exact timeAfter_mono (clock.paused span s)
    | _ => exact timeAfter_mono (clock.asked _ s)

end

/-! ## Pauses and looks -/

def span? : Exchange Wire → Option Duration
  | ⟨.pause span, _⟩ => some span
  | _ => none

def pausedNanos (exchanges : List (Exchange Wire)) : Nat :=
  (exchanges.filterMap span?).foldr (fun span rest => span.nanos + rest) 0

/-- Whether the exchange is a look at something: a message that asks for it. -/
def isLook : Exchange Wire → Bool
  | ⟨.send message, _⟩ => message.verb = .get
  | _ => false

def lookCount (exchanges : List (Exchange Wire)) : Nat :=
  exchanges.countP isLook

section

variable (xs ys rest : List (Exchange Wire))

@[simp] theorem pausedNanos_nil : pausedNanos [] = 0 := rfl

@[simp] theorem pausedNanos_letter (message : Message) (reply : Except String Reply) :
    pausedNanos (⟨.send message, reply⟩ :: rest) = pausedNanos rest := rfl

@[simp] theorem pausedNanos_reading (seen : Instant) :
    pausedNanos (⟨.now, seen⟩ :: rest) = pausedNanos rest := rfl

@[simp] theorem pausedNanos_pause (span : Duration) (answer : Unit) :
    pausedNanos (⟨.pause span, answer⟩ :: rest) = span.nanos + pausedNanos rest := rfl

@[simp] theorem pausedNanos_append : pausedNanos (xs ++ ys) = pausedNanos xs + pausedNanos ys := by
  induction xs with
  | nil => exact (Nat.zero_add _).symm
  | cons e rest ih =>
    obtain ⟨question, answer⟩ := e
    cases question with
    | pause span =>
      rw [List.cons_append, pausedNanos_pause, pausedNanos_pause, ih, Nat.add_assoc]
    | _ => exact ih

@[simp] theorem lookCount_nil : lookCount [] = 0 := rfl

@[simp] theorem lookCount_append : lookCount (xs ++ ys) = lookCount xs + lookCount ys :=
  List.countP_append

theorem lookCount_letter (message : Message) (reply : Except String Reply) :
    lookCount (⟨.send message, reply⟩ :: rest) =
      lookCount rest + if message.verb = .get then 1 else 0 := by
  simp [lookCount, List.countP_cons, isLook]

@[simp] theorem lookCount_reading (seen : Instant) :
    lookCount (⟨.now, seen⟩ :: rest) = lookCount rest := rfl

@[simp] theorem lookCount_pause (span : Duration) (answer : Unit) :
    lookCount (⟨.pause span, answer⟩ :: rest) = lookCount rest := rfl

end

/-- A clock goes on by all pauses at least. -/
theorem Timely.add_pausedNanos_le {time : Nat} {xs : List (Exchange Wire)} (h : Timely time xs) :
    time + pausedNanos xs ≤ timeAfter time xs := by
  induction xs generalizing time with
  | nil => exact Nat.le_refl _
  | cons e rest ih =>
    obtain ⟨question, answer⟩ := e
    cases question with
    | now => exact Nat.le_trans (Nat.add_le_add_right h.1 _) (ih h.2)
    | pause span =>
      rw [pausedNanos_pause, ← Nat.add_assoc]
      exact ih h
    | _ => exact ih h

end Wire

end RemoteMounts
