import Mathlib.Algebra.Group.Nat.Defs
import RemoteMounts.Proofs.Cluster.Pacing

/-!
# The intervals of a wait

Spans of time end somewhere, and doubling stops at the longest one; the intervals of a backoff do
not notice.  Since the longest interval is itself a span, the interval after `k` others is the first
one times `2 ^ k`, or the longest interval if that is less, in numbers without an end
(`nanos_intervalAt`).  What is left of a wait at each of its looks is the same loop with the interval
of this place (`rest_pollReady`), and no other interval is paused for (`Waited.span_of_pause`).
-/

namespace RemoteMounts

/-! ## Doubling a span -/

namespace Duration

/-- The span is known by its nanoseconds. -/
theorem eq_of_nanos {a b : Duration} (h : a.nanos = b.nanos) : a = b := by
  cases a
  cases b
  cases h
  rfl

/-- Twice the span, its seconds and its nanoseconds doubled apart: what the nanoseconds make in whole
seconds is carried over, and if 64 bits do not hold the seconds it is the longest span. -/
def doubledByParts (d : Duration) : Duration :=
  let rest := 2 * d.restNanos
  let whole := 2 * d.seconds + rest / nanosPerSecond
  if whole < 2 ^ 64 then ofNanos (whole * nanosPerSecond + rest % nanosPerSecond) else longest

theorem nanosPerSecond_eq : nanosPerSecond = 1000000000 := rfl

theorem maxNanos_eq : maxNanos = 18446744073709551616 * 1000000000 - 1 := rfl

/-- The carry loses nothing, and the seconds outgrow 64 bits exactly if the span outgrows the longest
one. -/
theorem double_eq_doubledByParts (d : Duration) : d.double = d.doubledByParts := by
  have parts : d.nanos = d.seconds * nanosPerSecond + d.restNanos :=
    (Nat.div_add_mod' d.nanos nanosPerSecond).symm
  have less : d.restNanos < nanosPerSecond := Nat.mod_lt _ (by decide)
  unfold doubledByParts
  apply eq_of_nanos
  by_cases fits : 2 * d.seconds + 2 * d.restNanos / nanosPerSecond < 2 ^ 64
  · rw [if_pos fits]
    simp only [nanos_double, nanos_ofNanos, nanosPerSecond_eq, maxNanos_eq] at *
    omega
  · rw [if_neg fits]
    simp only [nanos_double, longest, nanos_ofNanos, nanosPerSecond_eq, maxNanos_eq] at *
    omega

end Duration

/-! ## The intervals -/

namespace Backoff

variable (b : Backoff)

/-- Where doubling stops at the longest span, the longest interval has been reached before. -/
theorem nanos_next (interval : Duration) :
    (b.next interval).nanos = min (2 * interval.nanos) b.cap.nanos := by
  have long := b.cap.bounded
  simp only [next, Duration.nanos_shorter, Duration.nanos_double]
  omega

variable {b}

theorem nanos_intervalAt (clamped : b.first.nanos ≤ b.cap.nanos) (k : Nat) :
    (b.intervalAt k).nanos = min (b.first.nanos * 2 ^ k) b.cap.nanos := by
  induction k with
  | zero =>
    simp only [intervalAt]
    omega
  | succ k ih =>
    rw [intervalAt, nanos_next, ih, Nat.pow_succ, ← Nat.mul_assoc]
    omega

theorem nanos_intervalAt_le (clamped : b.first.nanos ≤ b.cap.nanos) (k : Nat) :
    (b.intervalAt k).nanos ≤ b.cap.nanos := by
  rw [nanos_intervalAt clamped]
  exact Nat.min_le_right _ _

theorem nanos_intervalAt_mono (clamped : b.first.nanos ≤ b.cap.nanos) {j k : Nat} (le : j ≤ k) :
    (b.intervalAt j).nanos ≤ (b.intervalAt k).nanos := by
  have grown : b.first.nanos * 2 ^ j ≤ b.first.nanos * 2 ^ k :=
    Nat.mul_le_mul_left _ (Nat.pow_le_pow_right (by decide) le)
  simp only [nanos_intervalAt clamped]
  omega

/-- The longest interval is not left again. -/
theorem intervalAt_eq_cap (clamped : b.first.nanos ≤ b.cap.nanos) {j k : Nat} (le : j ≤ k)
    (reached : b.intervalAt j = b.cap) : b.intervalAt k = b.cap := by
  have grown := nanos_intervalAt_mono clamped le
  have most := nanos_intervalAt_le clamped k
  rw [reached] at grown
  exact Duration.eq_of_nanos (Nat.le_antisymm most grown)

end Backoff

/-! ## The rounds of a wait -/

section

variable {σ : Type} (r : Respondent Outside σ) (b : Backoff) (id : String) (started : Instant)
  (deadline : Option Instant)

/-- A round of the loop, question by question. -/
theorem pollReady_succ (patience : Nat) (interval : Duration) :
    pollReady b id started deadline (patience + 1) interval =
      .ask (.getCluster id) fun answer =>
        match verdict? answer with
        | some verdict => .done verdict
        | none => .ask .now fun seen =>
          if Instant.leftUntil deadline seen = Duration.zero then
            .ask .now fun closing =>
              .done (.error (.stillWaiting id (started.since closing).seconds))
          else
            .ask (.pause (interval.shorter (Instant.leftUntil deadline seen))) fun _ =>
              pollReady b id started deadline patience (b.next interval) := rfl

/-- A round begins with a look.  Either nothing is looked at or paused for after it, or the clock is
read and the pause of this round follows, and then what is left is the loop with the next interval. -/
theorem pollReady_round (patience : Nat) (interval : Duration) (s : σ) :
    let d := pollReady b id started deadline (patience + 1) interval
    let next := pollReady b id started deadline patience (b.next interval)
    ∃ answer later, Dialogue.transcript r d s = ⟨.getCluster id, answer⟩ :: later ∧
      ((looks later = [] ∧ pauses later = []) ∨
        ∃ seen t, (∀ n, Dialogue.rest r (n + 3) d s = Dialogue.rest r n next t) ∧
          later = ⟨.now, seen⟩ :: ⟨.pause (interval.shorter (Instant.leftUntil deadline seen)), ()⟩ ::
            Dialogue.transcript r next t) := by
  intro d next
  rw [show d = _ from pollReady_succ ..]
  refine ⟨(r (.getCluster id) s).1, _, rfl, ?_⟩
  simp only [Dialogue.rest]
  cases verdict? (r (.getCluster id) s).1 with
  | some verdict => exact .inl ⟨rfl, rfl⟩
  | none =>
    by_cases late :
        Instant.leftUntil deadline (r .now (r (.getCluster id) s).2).1 = Duration.zero
    · left
      simp only [Dialogue.transcript, if_pos late]
      exact ⟨rfl, rfl⟩
    · right
      simp only [Dialogue.transcript, Dialogue.rest, if_neg late]
      exact ⟨_, _, fun _ => rfl, rfl⟩

variable {r b id started deadline}

/-- At a look, after so many pauses, what is left of the loop is the loop with the interval of this
place. -/
theorem rest_pollReady {patience k : Nat} {s : σ} {front later : List (Exchange Outside)}
    {answer : Except ClusterFault Cluster}
    (split : Dialogue.transcript r (pollReady b id started deadline patience (b.intervalAt k)) s =
      front ++ ⟨.getCluster id, answer⟩ :: later) :
    (Dialogue.rest r front.length
        (pollReady b id started deadline patience (b.intervalAt k)) s).1 =
      pollReady b id started deadline (patience - (pauses front).length)
        (b.intervalAt (k + (pauses front).length)) := by
  induction patience generalizing k s front with
  | zero => simp [pollReady, Dialogue.transcript] at split
  | succ patience ih =>
    obtain ⟨first, others, begun, kind⟩ :=
      pollReady_round r b id started deadline patience (b.intervalAt k) s
    rw [begun] at split
    rcases front with _ | ⟨look, front⟩
    · rfl
    · obtain ⟨rfl, same⟩ : _ ∧ others = front ++ ⟨.getCluster id, answer⟩ :: later := by
        simpa using split
      rcases kind with ⟨last, -⟩ | ⟨seen, t, left, shown⟩
      · -- There is another look, so this was not the last round.
        rw [same, looks_append] at last
        simp at last
      · rw [shown] at same
        rcases front with _ | ⟨reading, _ | ⟨pause, front⟩⟩
        · simp at same
        · simp at same
        · obtain ⟨rfl, rfl, further⟩ : _ = reading ∧ _ = pause ∧
              Dialogue.transcript r _ t = front ++ ⟨.getCluster id, answer⟩ :: later := by
            simpa using same
          have rest := ih (k := k + 1) further
          simp only [List.length_cons, left front.length, pauses_look, pauses_reading, pauses_pause,
            Nat.add_sub_add_right, ← Nat.add_assoc, Nat.add_right_comm k] at rest ⊢
          exact rest

end

/-- No pause is for another interval than that of its place, which the deadline may cut short. -/
theorem Waited.span_of_pause {b : Backoff} {id : String} {started : Instant}
    {deadline : Option Instant} {patience k : Nat} {exchanges before after : List (Exchange Outside)}
    {outcome : Option (Except ClusterFault Cluster)} {span : Duration}
    (h : Waited b id started deadline patience (b.intervalAt k) exchanges outcome)
    (split : exchanges = before ++ ⟨.pause span, ()⟩ :: after) :
    ∃ earlier seen, before = earlier ++ [⟨.now, seen⟩] ∧
      span = (b.intervalAt (k + (pauses before).length)).shorter
        (Instant.leftUntil deadline seen) := by
  generalize place : b.intervalAt k = interval at h
  induction h generalizing before k with
  | unfinished => simp at split
  | decided => rcases before with _ | ⟨_, _ | _⟩ <;> simp at split
  | overdue => rcases before with _ | ⟨_, _ | ⟨_, _ | ⟨_, _ | _⟩⟩⟩ <;> simp at split
  | @again patience interval answer seen later _ _ left _ ih =>
    rcases before with _ | ⟨look, _ | ⟨reading, _ | ⟨pause, before⟩⟩⟩
    · simp at split
    · simp at split
    · obtain ⟨rfl, rfl, rfl, -⟩ : _ = look ∧ _ = reading ∧ _ = span ∧ _ := by simpa using split
      exact ⟨[_], seen, rfl, by rw [← place]; rfl⟩
    · obtain ⟨rfl, rfl, rfl, rest⟩ :
          _ = look ∧ _ = reading ∧ _ = pause ∧ later = before ++ ⟨.pause span, ()⟩ :: after := by
        simpa using split
      obtain ⟨earlier, shown, ends, told⟩ := ih (k := k + 1) rest (by rw [← place]; rfl)
      refine ⟨_ :: _ :: _ :: earlier, shown, by rw [ends]; rfl, ?_⟩
      rw [told]
      simp only [pauses_look, pauses_reading, pauses_pause, List.length_cons, ← Nat.add_assoc,
        Nat.add_right_comm k]

section

variable {σ : Type} {r : Respondent Outside σ} {b : Backoff} {id : String} {patience : Nat} {s : σ}

theorem rest_awaitReady {front later : List (Exchange Outside)}
    {answer : Except ClusterFault Cluster}
    (split : Dialogue.transcript r (awaitReady b patience id) s =
      front ++ ⟨.getCluster id, answer⟩ :: later) :
    (Dialogue.rest r front.length (awaitReady b patience id) s).1 =
      pollReady b id (r .now s).1 ((r .now s).1.after? b.limit) (patience - (pauses front).length)
        (b.intervalAt (pauses front).length) := by
  rw [awaitReady, Errand.transcript_call] at split
  rcases front with _ | ⟨reading, front⟩
  · simp at split
  · obtain ⟨rfl, looked⟩ : _ = reading ∧
        Dialogue.transcript r (pollReady b id (r .now s).1 ((r .now s).1.after? b.limit) patience
          (b.intervalAt 0)) (r .now s).2 = front ++ ⟨.getCluster id, answer⟩ :: later := by
      simpa [Backoff.intervalAt] using split
    have left := rest_pollReady looked
    rw [Nat.zero_add] at left
    exact left

theorem awaitReady_span_of_pause {before after : List (Exchange Outside)} {span : Duration}
    (split : Dialogue.transcript r (awaitReady b patience id) s =
      before ++ ⟨.pause span, ()⟩ :: after) :
    ∃ earlier seen, before = earlier ++ [⟨.now, seen⟩] ∧
      span = (b.intervalAt (pauses before).length).shorter
        (Instant.leftUntil ((r .now s).1.after? b.limit) seen) := by
  obtain ⟨exchanges, begun, waited⟩ := awaitReady_waited r b id patience s
  rw [begun] at split
  rcases before with _ | ⟨reading, before⟩
  · simp at split
  · obtain ⟨rfl, rest⟩ : _ = reading ∧ exchanges = before ++ ⟨.pause span, ()⟩ :: after := by
      simpa using split
    obtain ⟨earlier, seen, ends, told⟩ := Waited.span_of_pause (k := 0) waited rest
    rw [Nat.zero_add] at told
    exact ⟨_ :: earlier, seen, by rw [ends]; rfl, told⟩

end

/-- A backoff of any three spans doubles exactly, in numbers without an end: the interval after `k`
others is the first one times `2 ^ k`, or the longest interval if that is less, although a span is
doubled by its parts and stops at the longest span.  So the intervals never become shorter, never
exceed the longest interval, and stay there once it is reached.  A wait that is still going on has no
other intervals: at a look after `k` pauses what is left of it is the loop with the interval after `k`
others, and its next pause is for this interval, or until the deadline if that comes first. -/
theorem intervals_double (limit first cap : Duration) :
    let b := Backoff.make limit first cap
    b.first = first ∧ b.cap.nanos = max cap.nanos first.nanos ∧
      (∀ k, (b.intervalAt k).nanos = min (first.nanos * 2 ^ k) b.cap.nanos) ∧
      (∀ k, b.intervalAt (k + 1) = (b.intervalAt k).doubledByParts.shorter b.cap) ∧
      (∀ j k, j ≤ k → (b.intervalAt j).nanos ≤ (b.intervalAt k).nanos) ∧
      (∀ k, (b.intervalAt k).nanos ≤ b.cap.nanos) ∧
      (∀ j k, j ≤ k → b.intervalAt j = b.cap → b.intervalAt k = b.cap) ∧
      ∀ (σ : Type) (r : Respondent Outside σ) (id : String) (patience : Nat) (s : σ),
        let exchanges := Dialogue.transcript r (awaitReady b patience id) s
        let started : Instant := (r .now s).1
        let deadline := started.after? limit
        (∀ front answer later, exchanges = front ++ ⟨.getCluster id, answer⟩ :: later →
          (Dialogue.rest r front.length (awaitReady b patience id) s).1 =
            pollReady b id started deadline (patience - (pauses front).length)
              (b.intervalAt (pauses front).length)) ∧
        ∀ before span after, exchanges = before ++ ⟨.pause span, ()⟩ :: after →
          ∃ earlier seen, before = earlier ++ [⟨.now, seen⟩] ∧
            span = (b.intervalAt (pauses before).length).shorter
              (Instant.leftUntil deadline seen) := by
  intro b
  have clamped : b.first.nanos ≤ b.cap.nanos := Backoff.first_le_cap_make limit first cap
  refine ⟨rfl, Duration.nanos_longer cap first, Backoff.nanos_intervalAt clamped, ?_,
    fun j k le => Backoff.nanos_intervalAt_mono clamped le, Backoff.nanos_intervalAt_le clamped,
    fun j k le => Backoff.intervalAt_eq_cap clamped le, ?_⟩
  · intro k
    rw [Backoff.intervalAt, Backoff.next, Duration.double_eq_doubledByParts]
  · intro σ r id patience s exchanges started deadline
    exact ⟨fun front answer later split => rest_awaitReady split,
      fun before span after split => awaitReady_span_of_pause split⟩

-- At the end of what a span can be, doubling stops and the longest interval is reached all the same.
example :
    let b := Backoff.make .zero (.ofNanos (Nat.pow 2 62 * nanosPerSecond + 1)) .longest
    (List.range 4).map (fun k => ((b.intervalAt k).seconds, (b.intervalAt k).restNanos)) =
      [(Nat.pow 2 62, 1), (Nat.pow 2 63, 2), (Nat.pow 2 64 - 1, 999999999),
        (Nat.pow 2 64 - 1, 999999999)] := by
  decide +kernel

end RemoteMounts
