import RemoteMounts.Once

/-!
# Calls that take turns

Any number of calls may be made for an identity.  A call finds the entry of the identity and waits
until nobody holds it.  Then it holds the entry itself, and either replays the outcome that is
recorded there, or starts its action, finishes it and records the result; at last it lets go of the
entry.  It may be dropped while it waits for the entry, when it has just got hold of it, and while
its action is in flight.  The calls take their turns in any order.

Whatever the order, the entry is held by one call at a time (`Exclusive`), the first result that is
recorded stays and everyone comes away with it (`Faithful`), and what was started is accounted for
(`Counted`).
-/

namespace RemoteMounts.Once

inductive Progress
  | called
  /-- It has found the entry of its identity. -/
  | waiting
  /-- It holds the entry and has not looked at the outcome. -/
  | admitted
  /-- Its action is in flight. -/
  | acting
  /-- Its action has this result, which is not recorded. -/
  | finished (result : Bool)
  /-- It has replayed or recorded this outcome and still holds the entry. -/
  | settled (outcome : Bool)
  | returned (outcome : Bool)
  | dropped
deriving DecidableEq, Inhabited, Repr

/-- Whether a call that has come so far holds the entry. -/
def Progress.holds : Progress → Bool
  | admitted | acting | finished _ | settled _ => true
  | called | waiting | returned _ | dropped => false

/-- Whether a call that has come so far has neither started an action nor ended. -/
def Progress.early : Progress → Bool
  | called | waiting | admitted => true
  | acting | finished _ | settled _ | returned _ | dropped => false

/-- The entry of one identity, how far its calls have come, and what has been done for it: the calls
that have started their action, and those that have finished it, with the result. -/
structure Cell where
  entry : Entry
  progress : Nat → Progress
  started : List Nat
  completed : List (Nat × Bool)

namespace Cell

def put (c : Cell) (call : Nat) (p : Progress) : Cell :=
  { c with progress := fun other => if other = call then p else c.progress other }

/-- What a call may do when it is its turn. -/
inductive Turn (call : Nat) (c : Cell) : Cell → Prop
  | find :
    c.progress call = .called → Turn call c (c.put call .waiting)
  | lock :
    c.progress call = .waiting → c.entry.held = false →
    Turn call c { c.put call .admitted with entry := ⟨true, c.entry.outcome⟩ }
  | replay {outcome : Bool} :
    c.progress call = .admitted → c.entry.outcome = some outcome →
    Turn call c (c.put call (.settled outcome))
  | start :
    c.progress call = .admitted → c.entry.outcome = none →
    Turn call c { c.put call .acting with started := c.started ++ [call] }
  | finish (result : Bool) :
    c.progress call = .acting →
    Turn call c { c.put call (.finished result) with completed := c.completed ++ [(call, result)] }
  | record {result : Bool} :
    c.progress call = .finished result →
    Turn call c { c.put call (.settled result) with entry := ⟨c.entry.held, some result⟩ }
  | release {outcome : Bool} :
    c.progress call = .settled outcome →
    Turn call c { c.put call (.returned outcome) with entry := ⟨false, c.entry.outcome⟩ }
  /-- A call that waits is dropped. -/
  | giveUp :
    c.progress call = .waiting → Turn call c (c.put call .dropped)
  /-- A call that holds the entry is dropped, which lets go of it. -/
  | drop :
    c.progress call = .admitted ∨ c.progress call = .acting →
    Turn call c { c.put call .dropped with entry := ⟨false, c.entry.outcome⟩ }

variable {c d : Cell} {call : Nat} {p : Progress}

/-- Only the call itself has come further. -/
theorem progress_put (c : Cell) (call : Nat) (p : Progress) (other : Nat) :
    (other = call ∧ (c.put call p).progress other = p) ∨
      (other ≠ call ∧ (c.put call p).progress other = c.progress other) := by
  by_cases hc : other = call
  · exact .inl ⟨hc, if_pos hc⟩
  · exact .inr ⟨hc, if_neg hc⟩

theorem progress_of_put (h : d.progress = (c.put call p).progress) (other : Nat) :
    (other = call ∧ d.progress other = p) ∨
      (other ≠ call ∧ d.progress other = c.progress other) := by
  rw [h]
  exact progress_put c call p other

/-- A call that has moved on twice is where it has come last. -/
theorem progress_put_again (moved : d.progress = (c.put call p).progress) (q : Progress) :
    (d.put call q).progress = (c.put call q).progress := by
  funext other
  simp only [put, moved]
  by_cases hc : other = call
  · rw [if_pos hc, if_pos hc]
  · rw [if_neg hc, if_neg hc, if_neg hc]

/-! ### One holder at a time -/

/-- Whoever holds the entry holds it alone, and the entry says so. -/
def Exclusive (c : Cell) : Prop :=
  ∀ call, (c.progress call).holds = true →
    c.entry.held = true ∧ ∀ other, (c.progress other).holds = true → other = call

/-- A call that neither gets hold of the entry nor lets go of it leaves the holder as it is. -/
theorem Exclusive.keep (h : c.Exclusive) (moved : d.progress = (c.put call p).progress)
    (held : d.entry.held = c.entry.held) (same : p.holds = (c.progress call).holds) :
    d.Exclusive := by
  have holders (other : Nat) : (d.progress other).holds = (c.progress other).holds := by
    rcases progress_of_put moved other with ⟨rfl, now⟩ | ⟨-, now⟩
    · rw [now, same]
    · rw [now]
  intro other ho
  rw [holders] at ho
  obtain ⟨isHeld, alone⟩ := h other ho
  refine ⟨held.trans isHeld, fun third ht => ?_⟩
  rw [holders] at ht
  exact alone third ht

/-- An entry that nobody holds is got hold of by one call. -/
theorem Exclusive.take (h : c.Exclusive) (free : c.entry.held = false)
    (moved : d.progress = (c.put call p).progress) (held : d.entry.held = true) :
    d.Exclusive := by
  have holder (other : Nat) (ho : (d.progress other).holds = true) : other = call := by
    rcases progress_of_put moved other with ⟨same, -⟩ | ⟨-, now⟩
    · exact same
    · rw [now] at ho
      have isHeld := (h other ho).1
      rw [free] at isHeld
      exact nomatch isHeld
  intro other ho
  refine ⟨held, fun third ht => ?_⟩
  rw [holder third ht, holder other ho]

/-- When its holder lets go of it, nobody holds the entry. -/
theorem Exclusive.letGo (h : c.Exclusive) (moved : d.progress = (c.put call p).progress)
    (holds : (c.progress call).holds = true) (done : p.holds = false) : d.Exclusive := by
  intro other ho
  rcases progress_of_put moved other with ⟨-, now⟩ | ⟨hc, now⟩
  · rw [now, done] at ho
    exact nomatch ho
  · rw [now] at ho
    exact absurd ((h call holds).2 other ho) hc

theorem Exclusive.turn (h : c.Exclusive) (t : c.Turn call d) : d.Exclusive := by
  cases t with
  | find hp => exact h.keep rfl rfl (by rw [hp]; rfl)
  | lock hp free => exact h.take free rfl rfl
  | replay hp known => exact h.keep rfl rfl (by rw [hp]; rfl)
  | start hp unknown => exact h.keep (p := .acting) rfl rfl (by rw [hp]; rfl)
  | finish result hp => exact h.keep (p := .finished result) rfl rfl (by rw [hp]; rfl)
  | @record result hp => exact h.keep (p := .settled result) rfl rfl (by rw [hp]; rfl)
  | @release outcome hp => exact h.letGo (p := .returned outcome) rfl (by rw [hp]; rfl) rfl
  | giveUp hp => exact h.keep rfl rfl (by rw [hp]; rfl)
  | drop hp =>
    refine h.letGo (p := .dropped) rfl ?_ rfl
    rcases hp with hp | hp <;> rw [hp] <;> rfl

/-- Two calls that hold the entry are one. -/
theorem Exclusive.eq {m n : Nat} (h : c.Exclusive) (hm : (c.progress m).holds = true)
    (hn : (c.progress n).holds = true) : m = n :=
  (h n hn).2 m hm

/-! ### One result -/

/-- The recorded outcome is the result of the only action that was completed, and it is what calls
come away with.  An action is in flight, or completed and not recorded, only while there is no
outcome. -/
structure Faithful (c : Cell) : Prop where
  recorded : ∀ {outcome}, c.entry.outcome = some outcome → ∃ n, c.completed = [(n, outcome)]
  unrecorded : c.entry.outcome = none →
    c.completed = [] ∨ ∃ n result, c.progress n = .finished result
  acting : ∀ {n}, c.progress n = .acting → c.entry.outcome = none
  finished : ∀ {n result}, c.progress n = .finished result →
    c.entry.outcome = none ∧ c.completed = [(n, result)]
  told : ∀ {n outcome}, c.progress n = .settled outcome ∨ c.progress n = .returned outcome →
    c.entry.outcome = some outcome

/-- A turn that neither completes an action nor records a result. -/
theorem Faithful.keep (h : c.Faithful) (moved : d.progress = (c.put call p).progress)
    (outcome : d.entry.outcome = c.entry.outcome) (completed : d.completed = c.completed)
    (before : ∀ result, c.progress call ≠ .finished result)
    (acting : p = .acting → c.entry.outcome = none) (finished : ∀ result, p ≠ .finished result)
    (told : ∀ b, p = .settled b ∨ p = .returned b → c.entry.outcome = some b) :
    d.Faithful where
  recorded := by
    rw [outcome, completed]
    exact h.recorded
  unrecorded := by
    intro unknown
    rw [outcome] at unknown
    rw [completed]
    rcases h.unrecorded unknown with none | ⟨n, result, hn⟩
    · exact .inl none
    · right
      refine ⟨n, result, ?_⟩
      rcases progress_of_put moved n with ⟨rfl, -⟩ | ⟨-, now⟩
      · exact absurd hn (before result)
      · rw [now, hn]
  acting := by
    intro n hn
    rw [outcome]
    rcases progress_of_put moved n with ⟨-, now⟩ | ⟨-, now⟩
    · exact acting (now.symm.trans hn)
    · exact h.acting (now.symm.trans hn)
  finished := by
    intro n result hn
    rw [outcome, completed]
    rcases progress_of_put moved n with ⟨-, now⟩ | ⟨-, now⟩
    · exact absurd (now.symm.trans hn) (finished result)
    · exact h.finished (now.symm.trans hn)
  told := by
    intro n b hn
    rw [outcome]
    rcases progress_of_put moved n with ⟨-, now⟩ | ⟨-, now⟩ <;> rw [now] at hn
    · exact told b hn
    · exact h.told hn

/-- While an action is in flight none has been completed. -/
theorem Faithful.completed_of_acting (h : c.Faithful) (alone : c.Exclusive)
    (hp : c.progress call = .acting) : c.completed = [] := by
  rcases h.unrecorded (h.acting hp) with none | ⟨n, result, hn⟩
  · exact none
  · have same : n = call := alone.eq (by rw [hn]; rfl) (by rw [hp]; rfl)
    rw [same, hp] at hn
    exact nomatch hn

theorem Faithful.finish (h : c.Faithful) (alone : c.Exclusive) (hp : c.progress call = .acting)
    (result : Bool) :
    Faithful
      { c.put call (.finished result) with completed := c.completed ++ [(call, result)] } := by
  have unknown : c.entry.outcome = none := h.acting hp
  have first : c.completed ++ [(call, result)] = [(call, result)] := by
    rw [h.completed_of_acting alone hp, List.nil_append]
  have holds : (c.progress call).holds = true := by rw [hp]; rfl
  rw [first]
  constructor
  · intro b known
    exact absurd (unknown.symm.trans known) nofun
  · intro _
    exact .inr ⟨call, result, if_pos rfl⟩
  · intro n _
    exact unknown
  · intro n b hn
    refine ⟨unknown, ?_⟩
    rcases progress_put c call (.finished result) n with ⟨rfl, now⟩ | ⟨hc, now⟩
    · cases now.symm.trans hn
      rfl
    · exact absurd (alone.eq (by rw [now.symm.trans hn]; rfl) holds) hc
  · intro n b hn
    rcases progress_put c call (.finished result) n with ⟨-, now⟩ | ⟨-, now⟩
    · rcases hn with hn | hn <;> exact absurd (now.symm.trans hn) nofun
    · exact h.told (hn.imp now.symm.trans now.symm.trans)

theorem Faithful.record {result : Bool} (h : c.Faithful) (alone : c.Exclusive)
    (hp : c.progress call = .finished result) :
    Faithful { c.put call (.settled result) with entry := ⟨c.entry.held, some result⟩ } := by
  obtain ⟨unknown, only⟩ := h.finished hp
  have holds : (c.progress call).holds = true := by rw [hp]; rfl
  constructor
  · rintro b ⟨⟩
    exact ⟨call, only⟩
  · exact nofun
  · intro n hn
    rcases progress_put c call (.settled result) n with ⟨-, now⟩ | ⟨hc, now⟩
    · exact absurd (now.symm.trans hn) nofun
    · exact absurd (alone.eq (by rw [now.symm.trans hn]; rfl) holds) hc
  · intro n b hn
    rcases progress_put c call (.settled result) n with ⟨-, now⟩ | ⟨hc, now⟩
    · exact absurd (now.symm.trans hn) nofun
    · exact absurd (alone.eq (by rw [now.symm.trans hn]; rfl) holds) hc
  · intro n b hn
    rcases progress_put c call (.settled result) n with ⟨-, now⟩ | ⟨-, now⟩
    · rcases hn with hn | hn <;> cases now.symm.trans hn
      rfl
    · have known := h.told (hn.imp now.symm.trans now.symm.trans)
      exact absurd (unknown.symm.trans known) nofun

theorem Faithful.turn (h : c.Faithful) (alone : c.Exclusive) (t : c.Turn call d) :
    d.Faithful := by
  cases t with
  | find hp => exact h.keep rfl rfl rfl (by simp [hp]) nofun nofun nofun
  | lock hp free => exact h.keep (p := .admitted) rfl rfl rfl (by simp [hp]) nofun nofun nofun
  | replay hp known =>
    exact h.keep rfl rfl rfl (by simp [hp]) nofun nofun (by simp [known])
  | start hp unknown =>
    exact h.keep (p := .acting) rfl rfl rfl (by simp [hp]) (fun _ => unknown) nofun nofun
  | finish result hp => exact h.finish alone hp result
  | record hp => exact h.record alone hp
  | @release outcome hp =>
    have known := h.told (.inl hp)
    exact h.keep (p := .returned outcome) rfl rfl rfl (by simp [hp]) nofun nofun (by simp [known])
  | giveUp hp => exact h.keep rfl rfl rfl (by simp [hp]) nofun nofun nofun
  | drop hp =>
    refine h.keep (p := .dropped) rfl rfl rfl ?_ nofun nofun nofun
    rcases hp with hp | hp <;> simp [hp]

/-! ### Actions that are started -/

/-- An action that was started is in flight, or its call was dropped, or it is completed.  No action
is started twice. -/
structure Counted (c : Cell) : Prop where
  begun : ∀ {n}, n ∈ c.started →
    c.progress n = .acting ∨ c.progress n = .dropped ∨ ∃ result, (n, result) ∈ c.completed
  ended : ∀ {n result}, (n, result) ∈ c.completed →
    c.progress n = .finished result ∨ c.progress n = .settled result ∨
      c.progress n = .returned result
  distinct : c.started.Nodup

/-- A call that has not come to its action has started and completed none. -/
theorem Counted.not_begun (h : c.Counted) (hp : (c.progress call).early = true) :
    call ∉ c.started ∧ ∀ result, (call, result) ∉ c.completed := by
  have notDone (result : Bool) : (call, result) ∉ c.completed := by
    intro done
    rcases h.ended done with now | now | now <;> rw [now] at hp <;> exact nomatch hp
  refine ⟨fun begun => ?_, notDone⟩
  rcases h.begun begun with now | now | ⟨result, done⟩
  · rw [now] at hp
    exact nomatch hp
  · rw [now] at hp
    exact nomatch hp
  · exact notDone result done

/-- A turn that neither starts nor completes an action. -/
theorem Counted.keep (h : c.Counted) (moved : d.progress = (c.put call p).progress)
    (started : d.started = c.started) (completed : d.completed = c.completed)
    (begun : call ∈ c.started → p = .acting ∨ p = .dropped ∨ ∃ result, (call, result) ∈ c.completed)
    (ended : ∀ result, (call, result) ∈ c.completed →
      p = .finished result ∨ p = .settled result ∨ p = .returned result) : d.Counted where
  begun := by
    intro n hn
    rw [started] at hn
    rw [completed]
    rcases progress_of_put moved n with ⟨rfl, now⟩ | ⟨-, now⟩ <;> rw [now]
    · exact begun hn
    · exact h.begun hn
  ended := by
    intro n result hn
    rw [completed] at hn
    rcases progress_of_put moved n with ⟨rfl, now⟩ | ⟨-, now⟩ <;> rw [now]
    · exact ended result hn
    · exact h.ended hn
  distinct := by
    rw [started]
    exact h.distinct

/-- An early call moves on without having started or completed anything. -/
theorem Counted.keepEarly (h : c.Counted) (moved : d.progress = (c.put call p).progress)
    (started : d.started = c.started) (completed : d.completed = c.completed)
    (hp : (c.progress call).early = true) : d.Counted := by
  obtain ⟨notBegun, notDone⟩ := h.not_begun hp
  exact h.keep moved started completed (fun begun => absurd begun notBegun)
    (fun result done => absurd done (notDone result))

/-- What is left to show of a call with a result when it moves on. -/
theorem Counted.keepEnded {result : Bool} (h : c.Counted)
    (moved : d.progress = (c.put call p).progress) (started : d.started = c.started)
    (completed : d.completed = c.completed)
    (hp : c.progress call = .finished result ∨ c.progress call = .settled result)
    (after : p = .settled result ∨ p = .returned result) : d.Counted := by
  refine h.keep moved started completed (fun begun => ?_) (fun b done => ?_)
  · rcases h.begun begun with now | now | done
    · rcases hp with hp | hp <;> exact absurd (hp.symm.trans now) nofun
    · rcases hp with hp | hp <;> exact absurd (hp.symm.trans now) nofun
    · exact .inr (.inr done)
  · have same : b = result := by
      rcases h.ended done with now | now | now <;> rcases hp with hp | hp <;>
        cases hp.symm.trans now
      · rfl
      · rfl
    rw [same]
    exact .inr after

theorem Counted.start (h : c.Counted) (hp : c.progress call = .admitted) :
    Counted { c.put call .acting with started := c.started ++ [call] } := by
  obtain ⟨notBegun, notDone⟩ := h.not_begun (by rw [hp]; rfl)
  constructor
  · intro n hn
    rcases progress_put c call .acting n with ⟨-, now⟩ | ⟨hc, now⟩
    · exact .inl now
    · rcases List.mem_append.mp hn with old | new
      · rw [now]
        exact h.begun old
      · exact absurd (List.mem_singleton.mp new) hc
  · intro n result hn
    rcases progress_put c call .acting n with ⟨rfl, -⟩ | ⟨-, now⟩
    · exact absurd hn (notDone result)
    · rw [now]
      exact h.ended hn
  · refine List.nodup_append.mpr ⟨h.distinct, by simp, fun m hm n hn same => ?_⟩
    rw [List.mem_singleton.mp hn] at same
    exact notBegun (same ▸ hm)

theorem Counted.finish (h : c.Counted) (hp : c.progress call = .acting) (result : Bool) :
    Counted
      { c.put call (.finished result) with completed := c.completed ++ [(call, result)] } := by
  constructor
  · intro n hn
    rcases progress_put c call (.finished result) n with ⟨hc, -⟩ | ⟨-, now⟩
    · exact .inr (.inr ⟨result, List.mem_append_right _ (List.mem_singleton.mpr (hc ▸ rfl))⟩)
    · rw [now]
      exact (h.begun hn).imp_right (Or.imp_right fun ⟨b, done⟩ => ⟨b, List.mem_append_left _ done⟩)
  · intro n b hn
    rcases List.mem_append.mp hn with old | new
    · rcases progress_put c call (.finished result) n with ⟨rfl, -⟩ | ⟨-, now⟩
      · rcases h.ended old with now | now | now <;> exact absurd (hp.symm.trans now) nofun
      · rw [now]
        exact h.ended old
    · cases List.mem_singleton.mp new
      exact .inl (if_pos rfl)
  · exact h.distinct

theorem Counted.turn (h : c.Counted) (t : c.Turn call d) : d.Counted := by
  cases t with
  | find hp => exact h.keepEarly rfl rfl rfl (by rw [hp]; rfl)
  | lock hp free => exact h.keepEarly (p := .admitted) rfl rfl rfl (by rw [hp]; rfl)
  | replay hp known => exact h.keepEarly rfl rfl rfl (by rw [hp]; rfl)
  | start hp unknown => exact h.start hp
  | finish result hp => exact h.finish hp result
  | @record result hp =>
    exact h.keepEnded (p := .settled result) rfl rfl rfl (.inl hp) (.inl rfl)
  | @release outcome hp =>
    exact h.keepEnded (p := .returned outcome) rfl rfl rfl (.inr hp) (.inr rfl)
  | giveUp hp => exact h.keepEarly rfl rfl rfl (by rw [hp]; rfl)
  | drop hp =>
    refine h.keep (p := .dropped) rfl rfl rfl (fun _ => .inr (.inl rfl)) fun result done => ?_
    rcases h.ended done with now | now | now <;> rcases hp with hp | hp <;>
      exact absurd (hp.symm.trans now) nofun

/-! ### What a cell keeps -/

/-- What is true of a cell whatever turns its calls take. -/
structure Sound (c : Cell) : Prop where
  exclusive : c.Exclusive
  faithful : c.Faithful
  counted : c.Counted

def fresh : Cell :=
  ⟨⟨false, none⟩, fun _ => .called, [], []⟩

theorem sound_fresh : fresh.Sound := by
  refine ⟨?_, ?_, ?_⟩
  · intro call ho
    exact nomatch ho
  · refine ⟨nofun, fun _ => .inl rfl, nofun, nofun, fun hn => ?_⟩
    rcases hn with hn | hn <;> exact nomatch hn
  · exact ⟨nofun, nofun, List.nodup_nil⟩

theorem Sound.turn (h : c.Sound) (t : c.Turn call d) : d.Sound :=
  ⟨h.exclusive.turn t, h.faithful.turn h.exclusive t, h.counted.turn t⟩

/-- At most one action is completed. -/
theorem Sound.completed_length_le (h : c.Sound) : c.completed.length ≤ 1 := by
  cases known : c.entry.outcome with
  | some outcome =>
    obtain ⟨n, only⟩ := h.faithful.recorded known
    rw [only]
    exact Nat.le_refl 1
  | none =>
    rcases h.faithful.unrecorded known with none | ⟨n, result, hn⟩
    · rw [none]
      exact Nat.zero_le 1
    · rw [(h.faithful.finished hn).2]
      exact Nat.le_refl 1

/-- If no call was dropped, two actions that were started are one: they cannot both be in flight,
nor can one be in flight when the other is completed, and only one is completed. -/
theorem Sound.started_unique (h : c.Sound) (kept : ∀ n, c.progress n ≠ .dropped) {m n : Nat}
    (hm : m ∈ c.started) (hn : n ∈ c.started) : m = n := by
  have actingOrDone {k : Nat} (hk : k ∈ c.started) :
      c.progress k = .acting ∨ ∃ result, (k, result) ∈ c.completed := by
    rcases h.counted.begun hk with acting | dropped | done
    · exact .inl acting
    · exact absurd dropped (kept k)
    · exact .inr done
  have apart {k l : Nat} {result : Bool} (hk : c.progress k = .acting)
      (hl : (l, result) ∈ c.completed) : False := by
    rw [h.faithful.completed_of_acting h.exclusive hk] at hl
    exact nomatch hl
  rcases actingOrDone hm with hm | ⟨b, hm⟩ <;> rcases actingOrDone hn with hn | ⟨b', hn⟩
  · exact h.exclusive.eq (by rw [hm]; rfl) (by rw [hn]; rfl)
  · exact (apart hm hn).elim
  · exact (apart hn hm).elim
  · have few := h.completed_length_le
    match hc : c.completed with
    | [] =>
      rw [hc] at hm
      exact nomatch hm
    | [only] =>
      rw [hc] at hm hn
      exact congrArg Prod.fst ((List.mem_singleton.mp hm).trans (List.mem_singleton.mp hn).symm)
    | _ :: _ :: _ =>
      rw [hc] at few
      simp at few

theorem Sound.started_length_le (h : c.Sound) (kept : ∀ n, c.progress n ≠ .dropped) :
    c.started.length ≤ 1 := by
  have unique := @Sound.started_unique c h kept
  have distinct := h.counted.distinct
  match hs : c.started with
  | [] => exact Nat.zero_le 1
  | [_] => exact Nat.le_refl 1
  | m :: n :: rest =>
    rw [hs] at unique distinct
    have same : m = n := unique (by simp) (by simp)
    rw [same] at distinct
    simp at distinct

/-- Once there is an outcome no turn changes it or starts an action. -/
theorem Sound.turn_of_recorded {outcome : Bool} (h : c.Sound) (t : c.Turn call d)
    (known : c.entry.outcome = some outcome) :
    d.entry.outcome = some outcome ∧ d.started = c.started := by
  cases t with
  | start hp unknown => exact absurd (unknown.symm.trans known) nofun
  | record hp => exact absurd ((h.faithful.finished hp).1.symm.trans known) nofun
  | _ => exact ⟨known, rfl⟩

end Cell

end RemoteMounts.Once
