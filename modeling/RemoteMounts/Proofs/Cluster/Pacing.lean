import RemoteMounts.Proofs.Cluster.Waits

/-!
# How long a wait takes

Where a clock goes on, at least by every pause that is asked for, a wait with a deadline comes to an
end: each pause is as long as the first interval or lasts until the deadline, so the looks at the
cluster can be counted beforehand (`Backoff.firstsInLimit`).  No pause is asked for that is empty,
longer than the longest interval or longer than the time left, all pauses together are not longer
than the limit, and a wait that gives up has lasted for the limit (`wait_in_time`).
-/

namespace RemoteMounts

/-! ## Clocks -/

/-- The respondent keeps this time: a reading shows the time at which the clock is read, no time is
taken back by a look at a cluster or by a reading, and a pause takes its span or longer. -/
structure KeepsTime {σ : Type} (r : Respondent Outside σ) (time : σ → Nat) : Prop where
  looked : ∀ id s, time s ≤ time (r (.getCluster id) s).2
  shown : ∀ s, time s ≤ (r .now s).1.nanos
  read : ∀ s, (r .now s).1.nanos ≤ time (r .now s).2
  paused : ∀ span s, time s + span.nanos ≤ time (r (.pause span) s).2

/-- The readings and the pauses among the exchanges fit a clock that shows so many nanoseconds before
them. -/
def Timely : Nat → List (Exchange Outside) → Prop
  | _, [] => True
  | time, ⟨.now, seen⟩ :: rest => time ≤ seen.nanos ∧ Timely seen.nanos rest
  | time, ⟨.pause span, _⟩ :: rest => Timely (time + span.nanos) rest
  | time, _ :: rest => Timely time rest

theorem Timely.mono {time earlier : Nat} {exchanges : List (Exchange Outside)}
    (h : Timely time exchanges) (le : earlier ≤ time) : Timely earlier exchanges := by
  induction exchanges generalizing time earlier with
  | nil => trivial
  | cons e rest ih =>
    obtain ⟨question, answer⟩ := e
    cases question with
    | now => exact ⟨Nat.le_trans le h.1, h.2⟩
    | pause span => exact ih h (Nat.add_le_add_right le _)
    | _ => exact ih h le

/-- What comes later fits a clock that shows a later time. -/
theorem Timely.later {time : Nat} {front exchanges : List (Exchange Outside)}
    (h : Timely time (front ++ exchanges)) : Timely time exchanges := by
  induction front generalizing time with
  | nil => exact h
  | cons e rest ih =>
    obtain ⟨question, answer⟩ := e
    cases question with
    | now => exact (ih h.2).mono h.1
    | pause span => exact (ih h).mono (Nat.le_add_right _ _)
    | _ => exact ih h

/-- Whoever keeps time is asked for nothing but clusters and the time in a timely manner. -/
theorem timely_transcript {α σ : Type} {r : Respondent Outside σ} {time : σ → Nat}
    (clock : KeepsTime r time) {id : String} (d : Errand α) (s : σ)
    (asked : ∀ e ∈ Dialogue.transcript r d s,
      e.question = .getCluster id ∨ e.question.asksClock = true) :
    Timely (time s) (Dialogue.transcript r d s) := by
  induction d generalizing s with
  | done a => trivial
  | cut => trivial
  | ask question next ih =>
    obtain ⟨kind, rest⟩ := List.forall_mem_cons.mp asked
    have after := ih _ _ rest
    cases question with
    | getCluster other => exact Timely.mono after (clock.looked other s)
    | now => exact ⟨clock.shown s, Timely.mono after (clock.read s)⟩
    | pause span =>
      show Timely (time s + span.nanos) _
      exact Timely.mono after (clock.paused span s)
    | _ => simp [Call.asksClock] at kind

/-! ## Pauses -/

def Exchange.pause? : Exchange Outside → Option Duration
  | ⟨.pause span, _⟩ => some span
  | _ => none

def pauses (exchanges : List (Exchange Outside)) : List Duration :=
  exchanges.filterMap Exchange.pause?

@[simp] theorem pauses_look (id : String) (answer : Except ClusterFault Cluster)
    (rest : List (Exchange Outside)) : pauses (⟨.getCluster id, answer⟩ :: rest) = pauses rest := rfl

@[simp] theorem pauses_reading (time : Instant) (rest : List (Exchange Outside)) :
    pauses (⟨.now, time⟩ :: rest) = pauses rest := rfl

@[simp] theorem pauses_pause (span : Duration) (rest : List (Exchange Outside)) :
    pauses (⟨.pause span, ()⟩ :: rest) = span :: pauses rest := rfl

def pausedNanos (exchanges : List (Exchange Outside)) : Nat :=
  (pauses exchanges).foldr (fun span rest => span.nanos + rest) 0

@[simp] theorem pausedNanos_nil : pausedNanos [] = 0 := rfl

@[simp] theorem pausedNanos_look (id : String) (answer : Except ClusterFault Cluster)
    (rest : List (Exchange Outside)) :
    pausedNanos (⟨.getCluster id, answer⟩ :: rest) = pausedNanos rest := rfl

@[simp] theorem pausedNanos_reading (time : Instant) (rest : List (Exchange Outside)) :
    pausedNanos (⟨.now, time⟩ :: rest) = pausedNanos rest := rfl

@[simp] theorem pausedNanos_pause (span : Duration) (rest : List (Exchange Outside)) :
    pausedNanos (⟨.pause span, ()⟩ :: rest) = span.nanos + pausedNanos rest := rfl

/-- A pause is cut short by the deadline and by nothing else. -/
theorem nanos_rest (interval : Duration) (limit seen : Instant) :
    (interval.shorter (Instant.leftUntil (some limit) seen)).nanos =
      min interval.nanos (limit.nanos - seen.nanos) := by
  have long := interval.bounded
  simp only [Duration.nanos_shorter, Instant.leftUntil, Duration.nanos_ofNanos]
  omega

/-- As long as something is left the deadline has not come. -/
theorem Instant.lt_of_leftUntil_ne_zero {limit seen : Instant}
    (h : leftUntil (some limit) seen ≠ Duration.zero) : seen.nanos < limit.nanos := by
  rw [Ne, leftUntil_eq_zero_iff] at h
  simpa using h

/-! ## Intervals -/

namespace Backoff

/-- The interval is one that can come up. -/
structure Allows (b : Backoff) (interval : Duration) : Prop where
  first_le : b.first.nanos ≤ interval.nanos
  le_cap : interval.nanos ≤ b.cap.nanos

variable {b : Backoff}

theorem first_le_cap_make (limit first cap : Duration) :
    (make limit first cap).first.nanos ≤ (make limit first cap).cap.nanos := by
  simp only [make, Duration.nanos_longer]
  omega

theorem Allows.next {interval : Duration} (h : b.Allows interval) : b.Allows (b.next interval) := by
  have long := b.first.bounded
  obtain ⟨least, most⟩ := h
  constructor
  · simp only [Backoff.next, Duration.nanos_shorter, Duration.nanos_double]
    omega
  · simp only [Backoff.next, Duration.nanos_shorter]
    omega

/-- How many first intervals it takes to fill the limit. -/
def firstsInLimit (b : Backoff) : Nat :=
  (b.limit.nanos + b.first.nanos - 1) / b.first.nanos

/-- So many first intervals fill the limit, and no fewer do. -/
theorem firstsInLimit_le_iff (positive : 0 < b.first.nanos) (k : Nat) :
    b.firstsInLimit ≤ k ↔ b.limit.nanos ≤ k * b.first.nanos := by
  rw [firstsInLimit, Nat.div_le_iff_le_mul_add_pred positive, Nat.mul_comm]
  omega

end Backoff

/-! ## A wait with a deadline -/

namespace Waited

variable {b : Backoff} {id : String} {started limit : Instant} {patience now : Nat}
  {interval : Duration} {exchanges : List (Exchange Outside)}
  {outcome : Option (Except ClusterFault Cluster)}

/-- Every pause is positive, not longer than the longest interval, and asked for right after a
reading of the clock that leaves time for it. -/
theorem pause (h : Waited b id started (some limit) patience interval exchanges outcome)
    (positive : 0 < b.first.nanos) (allowed : b.Allows interval)
    {before after : List (Exchange Outside)} {span : Duration}
    (split : exchanges = before ++ ⟨.pause span, ()⟩ :: after) :
    0 < span.nanos ∧ span.nanos ≤ b.cap.nanos ∧
      ∃ earlier seen, before = earlier ++ [⟨.now, seen⟩] ∧
        seen.nanos + span.nanos ≤ limit.nanos := by
  induction h generalizing before with
  | unfinished => simp at split
  | decided => rcases before with _ | ⟨_, _ | _⟩ <;> simp at split
  | overdue => rcases before with _ | ⟨_, _ | ⟨_, _ | ⟨_, _ | _⟩⟩⟩ <;> simp at split
  | @again patience interval answer seen later _ _ left _ ih =>
    rcases before with _ | ⟨look, _ | ⟨reading, _ | ⟨rest, before⟩⟩⟩
    · simp at split
    · simp at split
    · obtain ⟨-, shown, same, -⟩ : _ ∧ ⟨.now, seen⟩ = reading ∧ _ ∧ _ := by simpa using split
      obtain ⟨least, most⟩ := allowed
      have early := Instant.lt_of_leftUntil_ne_zero left
      have nanos : span.nanos = min interval.nanos (limit.nanos - seen.nanos) := by
        rw [← same, nanos_rest]
      exact ⟨by omega, by omega, [look], seen, by rw [shown]; rfl, by omega⟩
    · obtain ⟨-, -, -, rest⟩ : _ ∧ _ ∧ _ ∧ later = before ++ ⟨.pause span, ()⟩ :: after := by
        simpa using split
      obtain ⟨some, most, earlier, seen, ends, fits⟩ := ih allowed.next rest
      exact ⟨some, most, look :: reading :: _ :: earlier, seen, by rw [ends]; rfl, fits⟩

/-- A pause fills at least one first interval of the time left, or all of it. -/
theorem filled {seen k : Nat} (allowed : b.Allows interval) (early : seen < limit.nanos)
    (since : now ≤ seen) (fills : limit.nanos ≤ now + k * b.first.nanos) :
    ∃ j, k = j + 1 ∧
      limit.nanos ≤ seen + min interval.nanos (limit.nanos - seen) + j * b.first.nanos := by
  cases k with
  | zero => omega
  | succ j =>
    have least := allowed.first_le
    rw [Nat.succ_mul] at fills
    exact ⟨j, rfl, by omega⟩

/-- If so many first intervals fill the time left, there is one look more at most, and whoever may
look once more comes to an outcome. -/
theorem within (h : Waited b id started (some limit) patience interval exchanges outcome)
    (allowed : b.Allows interval) (timely : Timely now exchanges) {k : Nat}
    (fills : limit.nanos ≤ now + k * b.first.nanos) :
    (looks exchanges).length ≤ k + 1 ∧ (k < patience → ∃ result, outcome = some result) := by
  induction h generalizing now k with
  | unfinished => simp
  | decided => simp
  | overdue => simp
  | @again patience interval answer seen later _ _ left _ ih =>
    obtain ⟨since, later⟩ : now ≤ seen.nanos ∧ Timely _ later := timely
    have early := Instant.lt_of_leftUntil_ne_zero left
    obtain ⟨j, rfl, rest⟩ := filled allowed early since fills
    rw [← nanos_rest] at rest
    obtain ⟨length, ends⟩ := ih allowed.next later rest
    refine ⟨?_, fun patient => ends (Nat.lt_of_succ_lt_succ patient)⟩
    simpa using length

/-- All pauses together are not longer than the time left. -/
theorem pausedNanos_le (h : Waited b id started (some limit) patience interval exchanges outcome)
    (timely : Timely now exchanges) : pausedNanos exchanges ≤ limit.nanos - now := by
  induction h generalizing now with
  | unfinished => simp
  | decided => simp
  | overdue => simp
  | @again patience interval answer seen later _ _ left _ ih =>
    obtain ⟨since, later⟩ : now ≤ seen.nanos ∧ Timely _ later := timely
    have rest := ih later
    rw [nanos_rest] at rest
    simp only [pausedNanos_look, pausedNanos_reading, pausedNanos_pause, nanos_rest]
    omega

end Waited

theorem Instant.nanos_of_after? {start last : Instant} {span : Duration}
    (h : start.after? span = some last) : last.nanos = start.nanos + span.nanos := by
  unfold after? at h
  split at h
  · rw [← Option.some.inj h]
  · cases h

/-- A wait that gives up has lasted for the limit. -/
theorem GaveUp.lasted {id : String} {b : Backoff} {started limit : Instant}
    {exchanges : List (Exchange Outside)} {time : Nat} {outcome : Except ClusterFault Cluster}
    (h : GaveUp id started (some limit) exchanges outcome) (timely : Timely time exchanges)
    (bounded : started.after? b.limit = some limit) :
    ∃ seconds, outcome = .error (.stillWaiting id seconds) ∧ b.limit.seconds ≤ seconds := by
  obtain ⟨-, deadline, before, last, seen, closing, same, rfl, passed, told⟩ := h
  obtain rfl := Option.some.inj same
  obtain ⟨-, shown, -⟩ : _ ≤ seen.nanos ∧ seen.nanos ≤ closing.nanos ∧ True := timely.later
  have due := Instant.nanos_of_after? bounded
  have long := b.limit.bounded
  refine ⟨_, told, Nat.div_le_div_right ?_⟩
  simp only [Instant.since, Duration.nanos_ofNanos]
  omega

/-- Where a clock goes on at least by every pause, a wait with a positive first interval, a longest
interval that is not shorter, and a deadline that a clock can show comes to an end.  It looks at the
cluster once more than first intervals fill the limit at most, so a greater patience does not matter;
every pause is positive, not longer than the longest interval, and not longer than the time left at
the reading before it; all pauses together are not longer than the limit; and if no look has decided
anything it says that it is still waiting, and for how many seconds, which are not fewer than those
of the limit. -/
theorem wait_in_time {σ : Type} {r : Respondent Outside σ} {time : σ → Nat}
    (clock : KeepsTime r time) {b : Backoff} (positive : 0 < b.first.nanos)
    (clamped : b.first.nanos ≤ b.cap.nanos) (id : String) (patience : Nat) {s : σ} {limit : Instant}
    (bounded : Instant.after? (r .now s).1 b.limit = some limit) :
    let exchanges := Dialogue.transcript r (awaitReady b patience id) s
    let outcome := (Dialogue.run r.party (awaitReady b patience id) s).1
    (looks exchanges).length ≤ b.firstsInLimit + 1 ∧
      (b.firstsInLimit < patience → ∃ result, outcome = some result ∧
        ((∀ answer ∈ looks exchanges, Undecided answer) →
          ∃ seconds, result = .error (.stillWaiting id seconds) ∧ b.limit.seconds ≤ seconds)) ∧
      (∀ before span after, exchanges = before ++ ⟨.pause span, ()⟩ :: after →
        0 < span.nanos ∧ span.nanos ≤ b.cap.nanos ∧
          ∃ earlier seen, before = earlier ++ [⟨.now, seen⟩] ∧
            seen.nanos + span.nanos ≤ limit.nanos) ∧
      pausedNanos exchanges ≤ b.limit.nanos := by
  intro exchanges outcome
  obtain ⟨later, split, waited⟩ := awaitReady_waited r b id patience s
  rw [bounded] at waited
  have allowed : b.Allows b.first := ⟨Nat.le_refl _, clamped⟩
  have timely : Timely (time s) exchanges :=
    timely_transcript clock _ s (awaitReady_asks r b id patience s)
  have timelyLater : Timely (r .now s).1.nanos later := by
    rw [show exchanges = _ from split] at timely
    exact timely.2
  have due := Instant.nanos_of_after? bounded
  have fills : limit.nanos ≤ (r .now s).1.nanos + b.firstsInLimit * b.first.nanos := by
    have enough := (Backoff.firstsInLimit_le_iff positive _).mp (Nat.le_refl _)
    omega
  obtain ⟨length, ends⟩ := waited.within allowed timelyLater fills
  refine ⟨?_, ?_, ?_, ?_⟩
  · rw [show exchanges = _ from split, looks_reading]
    exact length
  · intro enough
    obtain ⟨result, told⟩ := ends enough
    refine ⟨result, told, fun undecided => ?_⟩
    rcases awaitReady_ends r b id patience s told with ⟨earlier, last, found, -, decides⟩ | gaveUp
    · have member : last ∈ looks exchanges := by simp [exchanges, found]
      exact (decides.not_undecided (undecided last member)).elim
    · rw [bounded] at gaveUp
      exact gaveUp.lasted timely bounded
  · intro before span after found
    rw [show exchanges = _ from split] at found
    rcases before with _ | ⟨reading, before⟩
    · simp at found
    · obtain ⟨-, rest⟩ := List.cons_eq_cons.mp found
      obtain ⟨some, most, earlier, seen, last, fits⟩ := waited.pause positive allowed rest
      exact ⟨some, most, reading :: earlier, seen, by rw [last]; rfl, fits⟩
  · have paused := waited.pausedNanos_le timelyLater
    have same : pausedNanos exchanges = pausedNanos later := by
      rw [show exchanges = _ from split, pausedNanos_reading]
    show pausedNanos exchanges ≤ b.limit.nanos
    omega

/-! ## A wait in vain -/

/-- A cluster that never becomes ready, and a clock that goes on by exactly every pause and by a tenth
of a second for every look. -/
def starting : Respondent Outside Nat
  | .getCluster id, time => (.ok ⟨id, "lake", .pending, "", none⟩, time + 100000000)
  | .now, time => (⟨time⟩, time)
  | .pause span, time => ((), time + span.nanos)
  | .listClusters, time => (.ok [], time)
  | .createCluster _, time => (.error (.refused "full"), time)
  | .startCluster _, time => (.ok (), time)
  | .deleteCluster _, time => (.ok (), time)
  | .addProfile _, time => (.ok (), time)
  | .removeProfile _, time => (.ok (), time)
  | .runScript _ _, time => (.ok "", time)
  | .enter _, time => (some true, time)
  | .leave _ _, time => ((), time)

theorem keepsTime_starting : KeepsTime starting fun time => time where
  looked id time := by
    show time ≤ time + 100000000
    omega
  shown _ := Nat.le_refl _
  read _ := Nat.le_refl _
  paused _ _ := Nat.le_refl _

/-- Nothing is ever decided by a look at it. -/
theorem undecided_starting {α : Type} (d : Errand α) (time : Nat) :
    ∀ answer ∈ looks (Dialogue.transcript starting d time), Undecided answer := by
  intro answer member
  obtain ⟨⟨question, given⟩, asked, look⟩ := List.mem_filterMap.mp member
  obtain ⟨u, same⟩ := Dialogue.answer_of_mem starting asked
  cases question with
  | getCluster id =>
    obtain rfl := Option.some.inj look
    exact ⟨_, same, rfl, rfl⟩
  | _ => cases look

/-- With a limit of twenty-five seconds and a first interval of ten there are three looks, of at most
four, and a pause that the deadline cuts short. -/
theorem wait_in_time_starting :
    let b := Backoff.make (.ofSeconds 25) (.ofSeconds 10) (.ofSeconds 60)
    let exchanges := Dialogue.transcript starting (awaitReady b 4 "c1") 0
    let outcome := (Dialogue.run starting.party (awaitReady b 4 "c1") 0).1
    0 < b.first.nanos ∧ b.first.nanos ≤ b.cap.nanos ∧
      Instant.after? (starting .now 0).1 b.limit = some ⟨25000000000⟩ ∧
      (pauses exchanges).map Duration.nanos = [10000000000, 14800000000] ∧
      (looks exchanges).length = 3 ∧ (looks exchanges).length ≤ b.firstsInLimit + 1 ∧
      ∃ seconds, outcome = some (.error (.stillWaiting "c1" seconds)) ∧ 25 ≤ seconds := by
  intro b exchanges outcome
  have positive : 0 < b.first.nanos := by decide
  have clamped : b.first.nanos ≤ b.cap.nanos := Backoff.first_le_cap_make ..
  have bounded : Instant.after? (starting .now 0).1 b.limit = some ⟨25000000000⟩ := by decide
  obtain ⟨most, ends, -, -⟩ := wait_in_time keepsTime_starting positive clamped "c1" 4 bounded
  obtain ⟨result, told, waits⟩ := ends (by decide)
  obtain ⟨seconds, rfl, enough⟩ := waits (undecided_starting _ _)
  have whole : b.limit.seconds = 25 := by decide
  exact ⟨positive, clamped, bounded, by decide +kernel, by decide +kernel, most, seconds, told,
    whole ▸ enough⟩

end RemoteMounts
