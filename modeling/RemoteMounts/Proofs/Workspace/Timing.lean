import Mathlib.Algebra.Order.Floor.Div
import RemoteMounts.Proofs.Cluster.Pacing
import RemoteMounts.Proofs.Workspace.Clock
import RemoteMounts.Proofs.Workspace.Endings

/-!
# How long a script takes

The time that a script may take is fixed before its context is made, and the wait for the context and
the wait for the command share it: the second wait has only the intervals that the first has not used
up (`Polled.within`, `TimedIn.within`).  So the looks can be counted beforehand, no pause is empty,
longer than the interval or longer than the time left, and all pauses together are not longer than
the limit (`script_in_time`).
-/

namespace RemoteMounts.Client

/-! ## Pauses -/

/-- Every pause is positive, not longer than the interval, and asked for right after a reading of the
clock that leaves time for it. -/
def Paced (c : Client) (deadline : Option Instant) (exchanges : List (Exchange Wire)) : Prop :=
  ∀ before span after, exchanges = before ++ ⟨.pause span, ()⟩ :: after →
    0 < span.nanos ∧ span.nanos ≤ c.commandInterval.nanos ∧
      ∃ earlier seen, before = earlier ++ [⟨.now, seen⟩] ∧
        ∀ limit, deadline = some limit → seen.nanos + span.nanos ≤ limit.nanos

section

variable {c : Client} {deadline : Option Instant} {xs ys : List (Exchange Wire)}

theorem Paced.nil : c.Paced deadline [] := by
  intro before span after split
  simp at split

theorem Paced.append (hx : c.Paced deadline xs) (hy : c.Paced deadline ys) :
    c.Paced deadline (xs ++ ys) := by
  intro before span after split
  rcases List.append_eq_append_iff.mp split with ⟨gap, rfl, rest⟩ | ⟨gap, rfl, rest⟩
  · obtain ⟨some, most, earlier, seen, rfl, fits⟩ := hy gap span after rest
    exact ⟨some, most, xs ++ earlier, seen, by rw [List.append_assoc], fits⟩
  · cases gap with
    | nil =>
      -- The pause would be the first of the later exchanges, with no reading before it.
      obtain ⟨-, -, earlier, seen, none, -⟩ := hy [] span after rest.symm
      simp at none
    | cons e gap =>
      obtain ⟨rfl, -⟩ := List.cons_eq_cons.mp rest
      exact hx before span gap rfl

theorem Paced.letter (message : Message) (reply : Except String Reply) :
    c.Paced deadline [⟨.send message, reply⟩] := by
  intro before span after split
  rcases before with _ | ⟨_, _ | _⟩ <;> simp at split

theorem Paced.reading (seen : Instant) : c.Paced deadline [⟨.now, seen⟩] := by
  intro before span after split
  rcases before with _ | ⟨_, _ | _⟩ <;> simp at split

theorem nanos_rest_pos (positive : 0 < c.commandInterval.nanos) {seen : Instant}
    (left : Instant.leftUntil deadline seen ≠ Duration.zero) :
    0 < (c.commandInterval.shorter (Instant.leftUntil deadline seen)).nanos := by
  cases deadline with
  | none =>
    have long := c.commandInterval.bounded
    rw [Duration.nanos_shorter]
    simp only [Instant.leftUntil, Duration.longest, Duration.nanos_ofNanos]
    omega
  | some limit =>
    have early := Instant.lt_of_leftUntil_ne_zero left
    rw [nanos_rest]
    omega

theorem Paced.rest (positive : 0 < c.commandInterval.nanos) {seen : Instant}
    (left : Instant.leftUntil deadline seen ≠ Duration.zero) :
    c.Paced deadline
      [⟨.now, seen⟩,
        ⟨.pause (c.commandInterval.shorter (Instant.leftUntil deadline seen)), ()⟩] := by
  intro before span after split
  rcases before with _ | ⟨reading, _ | ⟨pause, before⟩⟩
  · simp at split
  · obtain ⟨shown, same, -⟩ : _ ∧ c.commandInterval.shorter _ = span ∧ _ := by simpa using split
    subst same
    refine ⟨nanos_rest_pos positive left, ?_, [], seen, by rw [← shown]; rfl, ?_⟩
    · rw [Duration.nanos_shorter]
      omega
    · rintro limit rfl
      have early := Instant.lt_of_leftUntil_ne_zero left
      rw [nanos_rest]
      omega
  · simp at split

variable {α : Type} {what endpoint : String} {parameters : List (String × String)}
  {ended : Remote.Status → Option (Except ScriptFault α)} {patience : Nat}
  {cluster context script : String} {started : Instant}

theorem Polled.paced {outcome : Option (Except ScriptFault α)}
    (h : c.Polled deadline what endpoint parameters ended patience xs outcome)
    (positive : 0 < c.commandInterval.nanos) : c.Paced deadline xs := by
  induction h with
  | unfinished => exact .nil
  | unread => exact .letter _ _
  | ended => exact .letter _ _
  | overdue => exact (Paced.letter _ _).append (.reading _)
  | again _ _ left _ ih => exact ((Paced.letter _ _).append (.rest positive left)).append ih

theorem TimedIn.paced {outcome : Option (Except ScriptFault String)}
    (h : c.TimedIn deadline cluster context script xs outcome)
    (positive : 0 < c.commandInterval.nanos) : c.Paced deadline xs := by
  cases h with
  | notRunning _ looked => exact looked.paced positive
  | refused looked _ => exact (looked.paced positive).append (.letter _ _)
  | accepted looked _ later =>
    exact (looked.paced positive).append ((Paced.letter _ _).append (later.paced positive))

theorem Timed.paced {outcome : Option (Except ScriptFault String)}
    (h : c.Timed cluster script started xs outcome) (positive : 0 < c.commandInterval.nanos) :
    c.Paced (started.after? c.commandLimit) xs := by
  cases h with
  | noContext => exact (Paced.reading _).append (.letter _ _)
  | unfinished _ inside =>
    exact (Paced.reading _).append ((Paced.letter _ _).append (inside.paced positive))
  | destroyed _ inside =>
    exact (Paced.reading _).append
      ((Paced.letter _ _).append ((inside.paced positive).append (.letter _ _)))

end

/-! ## One budget for both waits -/

@[simp] theorem lookCount_asking (c : Client) (endpoint : String)
    (parameters : List (String × String)) (reply : Except String Reply)
    (rest : List (Exchange Wire)) :
    Wire.lookCount (⟨.send (c.asking endpoint parameters), reply⟩ :: rest) =
      Wire.lookCount rest + 1 :=
  Wire.lookCount_letter ..

@[simp] theorem lookCount_posting (c : Client) (endpoint : String) (body : Datum)
    (reply : Except String Reply) (rest : List (Exchange Wire)) :
    Wire.lookCount (⟨.send (c.posting endpoint body), reply⟩ :: rest) = Wire.lookCount rest :=
  Wire.lookCount_letter ..

section

variable {c : Client} {limit : Instant} {now : Nat} {exchanges : List (Exchange Wire)}

/-- A wait does not pause for longer than the time left. -/
theorem Polled.pausedNanos_le {α : Type} {what endpoint : String}
    {parameters : List (String × String)} {ended : Remote.Status → Option (Except ScriptFault α)}
    {patience : Nat} {outcome : Option (Except ScriptFault α)}
    (h : c.Polled (some limit) what endpoint parameters ended patience exchanges outcome)
    (timely : Wire.Timely now exchanges) : Wire.pausedNanos exchanges ≤ limit.nanos - now := by
  induction h generalizing now with
  | unfinished => simp
  | unread => simp
  | ended => simp
  | overdue => simp
  | @again patience reply status seen later outcome _ _ left _ ih =>
    obtain ⟨since, later⟩ : now ≤ seen.nanos ∧ Wire.Timely _ later := timely
    have rest := ih later
    rw [nanos_rest] at rest
    simp only [Wire.pausedNanos_letter, Wire.pausedNanos_reading, Wire.pausedNanos_pause, nanos_rest]
    omega

/-- If so many intervals fill the time left, a wait takes one look more at most, and whoever may
look once more comes to an outcome.  Those intervals that its looks have not used up fill the time
that is left after it. -/
theorem Polled.within {α : Type} {what endpoint : String} {parameters : List (String × String)}
    {ended : Remote.Status → Option (Except ScriptFault α)} {patience : Nat}
    {outcome : Option (Except ScriptFault α)}
    (h : c.Polled (some limit) what endpoint parameters ended patience exchanges outcome)
    (timely : Wire.Timely now exchanges) {k : Nat}
    (fills : limit.nanos ≤ now + k * c.commandInterval.nanos) :
    (k < patience → ∃ result, outcome = some result) ∧
      ∃ j ≤ k, Wire.lookCount exchanges + j ≤ k + 1 ∧
        limit.nanos ≤ Wire.timeAfter now exchanges + j * c.commandInterval.nanos := by
  induction h generalizing now k with
  | unfinished => exact ⟨nofun, k, Nat.le_refl k, by simp, fills⟩
  | unread => exact ⟨fun _ => ⟨_, rfl⟩, k, Nat.le_refl k, by simp [Nat.add_comm], fills⟩
  | ended => exact ⟨fun _ => ⟨_, rfl⟩, k, Nat.le_refl k, by simp [Nat.add_comm], fills⟩
  | @overdue _ _ _ seen =>
    have since : now ≤ seen.nanos := timely.1
    exact ⟨fun _ => ⟨_, rfl⟩, k, Nat.le_refl k, by simp [Nat.add_comm],
      Nat.le_trans fills (Nat.add_le_add_right since _)⟩
  | @again patience reply status seen later outcome _ _ left _ ih =>
    obtain ⟨since, later⟩ : now ≤ seen.nanos ∧ Wire.Timely _ later := timely
    have early := Instant.lt_of_leftUntil_ne_zero left
    cases k with
    | zero => omega
    | succ k =>
      rw [Nat.succ_mul] at fills
      have rest := nanos_rest c.commandInterval limit seen
      obtain ⟨ends, j, fewer, length, after⟩ := ih later (k := k) (by omega)
      refine ⟨fun patient => ends (Nat.lt_of_succ_lt_succ patient), j, by omega, ?_, after⟩
      simp only [lookCount_asking, Wire.lookCount_reading, Wire.lookCount_pause]
      omega

variable {cluster context script : String} {started : Instant}
  {outcome : Option (Except ScriptFault String)}

/-- Both waits together do not pause for longer than the time left. -/
theorem TimedIn.pausedNanos_le
    (h : c.TimedIn (some limit) cluster context script exchanges outcome)
    (timely : Wire.Timely now exchanges) : Wire.pausedNanos exchanges ≤ limit.nanos - now := by
  cases h with
  | notRunning _ looked => exact looked.pausedNanos_le timely
  | refused looked _ =>
    have first := looked.pausedNanos_le (Wire.timely_append.mp timely).1
    simpa using first
  | accepted looked _ more =>
    obtain ⟨before, after⟩ := Wire.timely_append.mp timely
    have first := looked.pausedNanos_le before
    have second := more.pausedNanos_le after
    have passed := before.add_pausedNanos_le
    simp only [Wire.pausedNanos_append, Wire.pausedNanos_letter]
    omega

/-- The second wait has only the intervals that the first has not used up. -/
theorem TimedIn.within (h : c.TimedIn (some limit) cluster context script exchanges outcome)
    (timely : Wire.Timely now exchanges) {k : Nat}
    (fills : limit.nanos ≤ now + k * c.commandInterval.nanos) :
    (k < c.patience → ∃ result, outcome = some result) ∧ Wire.lookCount exchanges ≤ k + 2 := by
  cases h with
  | notRunning fault looked =>
    obtain ⟨ends, j, -, length, -⟩ := looked.within timely fills
    refine ⟨fun patient => ?_, by omega⟩
    obtain ⟨result, told⟩ := ends patient
    cases fault with
    | none => cases told
    | some fault => exact ⟨_, rfl⟩
  | refused looked _ =>
    obtain ⟨-, j, -, length, -⟩ := looked.within (Wire.timely_append.mp timely).1 fills
    refine ⟨fun _ => ⟨_, rfl⟩, ?_⟩
    simp only [Wire.lookCount_append, submission, lookCount_posting, Wire.lookCount_nil]
    omega
  | accepted looked _ more =>
    obtain ⟨before, after⟩ := Wire.timely_append.mp timely
    obtain ⟨-, j, fewer, first, rest⟩ := looked.within before fills
    obtain ⟨ends, i, -, second, -⟩ := more.within after rest
    refine ⟨fun patient => ends (by omega), ?_⟩
    simp only [Wire.lookCount_append, submission, lookCount_posting]
    omega

end

/-! ## A script with a limit -/

section

variable {c : Client} {cluster script : String} {started limit : Instant}
  {exchanges : List (Exchange Wire)} {outcome : Option (Except ScriptFault String)}

theorem Timed.begins (h : c.Timed cluster script started exchanges outcome) :
    ∃ reply later,
      exchanges = ⟨.now, started⟩ :: ⟨.send (c.contextMaking cluster), reply⟩ :: later := by
  cases h with
  | noContext => exact ⟨_, _, rfl⟩
  | unfinished => exact ⟨_, _, rfl⟩
  | destroyed => exact ⟨_, _, rfl⟩

/-- With a deadline the pauses fit the limit, and the looks can be counted beforehand. -/
theorem Timed.bounded (h : c.Timed cluster script started exchanges outcome)
    (known : started.after? c.commandLimit = some limit) (positive : 0 < c.commandInterval.nanos)
    {time : Nat} (timely : Wire.Timely time exchanges) :
    Wire.pausedNanos exchanges ≤ c.commandLimit.nanos ∧
      Wire.lookCount exchanges ≤ c.commandLimit.nanos ⌈/⌉ c.commandInterval.nanos + 2 ∧
      (c.commandLimit.nanos ⌈/⌉ c.commandInterval.nanos < c.patience →
        ∃ result, outcome = some result) := by
  have due := Instant.nanos_of_after? known
  have fills : limit.nanos ≤ started.nanos +
      c.commandLimit.nanos ⌈/⌉ c.commandInterval.nanos * c.commandInterval.nanos := by
    have enough := le_smul_ceilDiv (b := c.commandLimit.nanos) positive
    rw [smul_eq_mul, Nat.mul_comm] at enough
    omega
  cases h with
  | noContext => exact ⟨by simp, by simp [contextMaking], fun _ => ⟨_, rfl⟩⟩
  | @unfinished _ _ inner _ inside =>
    rw [known] at inside
    have within : Wire.Timely started.nanos inner := timely.2
    have paused := inside.pausedNanos_le within
    obtain ⟨ends, looked⟩ := inside.within within fills
    refine ⟨?_, ?_, ends⟩
    · simp only [Wire.pausedNanos_reading, Wire.pausedNanos_letter]
      omega
    · simpa [contextMaking] using looked
  | @destroyed _ last context inner _ _ inside =>
    rw [known] at inside
    have within : Wire.Timely started.nanos
        (inner ++ [⟨.send (c.contextDestroying cluster context), last⟩]) := timely.2
    obtain ⟨before, -⟩ := Wire.timely_append.mp within
    have paused := inside.pausedNanos_le before
    obtain ⟨-, looked⟩ := inside.within before fills
    refine ⟨?_, ?_, fun _ => ⟨_, rfl⟩⟩
    · simp only [Wire.pausedNanos_reading, Wire.pausedNanos_letter, Wire.pausedNanos_append,
        Wire.pausedNanos_nil]
      omega
    · simpa [contextMaking, contextDestroying] using looked

end

/-- A clock that is still short of the last time that it can show has not gone on for a limit that it
cannot show. -/
theorem Timed.pausedNanos_le_of_unbounded {c : Client} {cluster script : String} {started : Instant}
    {exchanges : List (Exchange Wire)} {outcome : Option (Except ScriptFault String)}
    (h : c.Timed cluster script started exchanges outcome)
    (unbounded : started.after? c.commandLimit = none) {time : Nat}
    (timely : Wire.Timely time exchanges)
    (shown : Wire.timeAfter time exchanges < Instant.horizon) :
    Wire.pausedNanos exchanges ≤ c.commandLimit.nanos := by
  have beyond : Instant.horizon ≤ started.nanos + c.commandLimit.nanos := by
    unfold Instant.after? at unbounded
    split at unbounded
    · cases unbounded
    · omega
  obtain ⟨reply, later, rfl⟩ := h.begins
  have within : Wire.Timely started.nanos later := timely.2
  have passed := within.add_pausedNanos_le
  have same : Wire.timeAfter time
      (⟨.now, started⟩ :: ⟨.send (c.contextMaking cluster), reply⟩ :: later) =
    Wire.timeAfter started.nanos later := rfl
  simp only [Wire.pausedNanos_reading, Wire.pausedNanos_letter]
  omega

/-- Where a clock goes on at least by every pause, the wait for a context and the wait for its
command share one limit, which is fixed before the context is asked for.  Every pause is positive,
not longer than the interval, and not longer than the time left at the reading before it; all pauses
together are not longer than the limit, as long as the clock can show what time it is.  A script
ends with a reply that decides it, or it gives up after a look that has decided nothing and a
reading that shows the deadline or a later time; so whoever says that the time is over has given up,
or passes on what a reply has said, and where no clock can show the deadline no script gives up.
With a deadline a script takes two looks more than intervals fill the limit at most, whatever the
replies are, and a greater patience does not matter. -/
theorem script_in_time {σ : Type} {r : Respondent Wire σ} {time : σ → Nat}
    (clock : Wire.KeepsTime r time) {c : Client} (positive : 0 < c.commandInterval.nanos)
    (cluster script : String) (s : σ) :
    let exchanges := Dialogue.transcript r (c.runScript cluster script) s
    let outcome := (Dialogue.run r.party (c.runScript cluster script) s).1
    let started : Instant := (r .now s).1
    let deadline := started.after? c.commandLimit
    (∃ reply later,
        exchanges = ⟨.now, started⟩ :: ⟨.send (c.contextMaking cluster), reply⟩ :: later) ∧
      (∀ before span after, exchanges = before ++ ⟨.pause span, ()⟩ :: after →
        0 < span.nanos ∧ span.nanos ≤ c.commandInterval.nanos ∧
          ∃ earlier seen, before = earlier ++ [⟨.now, seen⟩] ∧
            ∀ limit, deadline = some limit → seen.nanos + span.nanos ≤ limit.nanos) ∧
      ((deadline = none →
          time (Dialogue.run r.party (c.runScript cluster script) s).2 < Instant.horizon) →
        Wire.pausedNanos exchanges ≤ c.commandLimit.nanos) ∧
      (∀ result, outcome = some result →
        c.Settled cluster script exchanges result ∨
          c.GaveUp cluster deadline exchanges result) ∧
      (∀ what, outcome = some (.error (c.lateness what)) →
        c.GaveUp cluster deadline exchanges (.error (c.lateness what)) ∨
          ∃ letter ∈ mail exchanges, c.Quotes letter.reply (c.lateness what).message) ∧
      (deadline = none → ∀ result, outcome = some result →
        c.Settled cluster script exchanges result) ∧
      ∀ limit, deadline = some limit →
        Wire.lookCount exchanges ≤ c.commandLimit.nanos ⌈/⌉ c.commandInterval.nanos + 2 ∧
          (c.commandLimit.nanos ⌈/⌉ c.commandInterval.nanos < c.patience →
            ∃ result, outcome = some result) := by
  intro exchanges outcome started deadline
  have timed : c.Timed cluster script started exchanges outcome :=
    runScript_timed r c cluster script s
  have timely : Wire.Timely (time s) exchanges :=
    Wire.timely_transcript clock (c.runScript cluster script) s
  have ends (result : Except ScriptFault String) (told : outcome = some result) :
      c.Settled cluster script exchanges result ∨ c.GaveUp cluster deadline exchanges result := by
    rw [told] at timed
    exact timed.ends
  refine ⟨timed.begins, timed.paced positive, ?_, ends, ?_, ?_, ?_⟩
  · intro shown
    cases known : deadline with
    | some limit => exact (timed.bounded known positive timely).1
    | none =>
      have passed := Wire.timeAfter_transcript clock (c.runScript cluster script) s
      exact timed.pausedNanos_le_of_unbounded known timely
        (Nat.lt_of_le_of_lt passed (shown known))
  · intro what told
    exact (ends _ told).symm.imp_right Settled.quoted
  · intro unbounded result told
    rcases ends result told with settled | gaveUp
    · exact settled
    · exact (gaveUp.known unbounded).elim
  · intro limit known
    exact (timed.bounded known positive timely).2

/-! ## A script that takes too long -/

/-- A client that waits for five seconds, and looks again after two. -/
def hasty : Client :=
  make "https://workspace" "token" (.ofSeconds 5) (.ofSeconds 2) 4

/-- A workspace whose contexts run after a second and a half, and whose commands never end.  Its
clock goes on by exactly every pause and by a tenth of a second for every message. -/
def crowded : Respondent Wire Nat
  | .send message, time =>
    let fields : List (String × Json) :=
      if message.verb = .post then [("id", .text "7")]
      else if message = hasty.contextLook "cluster" "7" ∧ 1500000000 ≤ time then
        [("status", .text "Running")]
      else [("status", .text "Queued")]
    (.ok (document fields), time + 100000000)
  | .now, time => (⟨time⟩, time)
  | .pause span, time => ((), time + span.nanos)
  | .enter _, time => (none, time)
  | .leave _ _, time => ((), time)

theorem keepsTime_crowded : Wire.KeepsTime crowded fun time => time where
  asked q time := by
    cases q with
    | send message => exact Nat.le_add_right _ _
    | pause span => exact Nat.le_add_right _ _
    | _ => exact Nat.le_refl _
  shown _ := Nat.le_refl _
  read _ := Nat.le_refl _
  paused _ _ := Nat.le_refl _

/-- With a limit of five seconds and an interval of two there are five looks, as many as there can be
at most, and the deadline cuts the last pause short. -/
theorem script_in_time_crowded :
    let exchanges := Dialogue.transcript crowded (hasty.runScript "cluster" "print(1)") 0
    let outcome := (Dialogue.run crowded.party (hasty.runScript "cluster" "print(1)") 0).1
    0 < hasty.commandInterval.nanos ∧
      Instant.after? (crowded .now 0).1 hasty.commandLimit = some ⟨5000000000⟩ ∧
      (exchanges.filterMap Wire.span?).map Duration.nanos = [2000000000, 2000000000, 400000000] ∧
      Wire.pausedNanos exchanges ≤ hasty.commandLimit.nanos ∧
      Wire.lookCount exchanges = 5 ∧
      Wire.lookCount exchanges ≤
        hasty.commandLimit.nanos ⌈/⌉ hasty.commandInterval.nanos + 2 ∧
      ∃ result, outcome = some result := by
  intro exchanges outcome
  have positive : 0 < hasty.commandInterval.nanos := by decide
  have known : Instant.after? (crowded .now 0).1 hasty.commandLimit = some ⟨5000000000⟩ := by
    decide
  obtain ⟨-, -, paused, -, -, -, limited⟩ :=
    script_in_time keepsTime_crowded positive "cluster" "print(1)" 0
  obtain ⟨most, ends⟩ := limited _ known
  refine ⟨positive, known, by decide +kernel, ?_, by decide +kernel, most, ends (by decide)⟩
  exact paused fun unbounded => absurd (unbounded.symm.trans known) nofun

end RemoteMounts.Client
