import Mathlib.Data.List.Basic
import RemoteMounts.Proofs.Simulated.Board

/-!
# What one script changes

Any text may be run on the simulated mounts, not only the scripts of a mount point.  Whatever it
is, it is recorded, it uses up the failure that comes next, and without one it binds or clears one
path of its own cluster, or changes nothing (`run_changes`).  What a text does is known from its
deed, and a deed changes what is mounted in one place at most (`Performs.changes`).
-/

namespace RemoteMounts.Simulated

/-! ## Scripts that mount -/

namespace Deed

/-- A script with the mounting function in front, whose first line that begins as the call goes on
with the items of a JSON list, these two texts first, and a closing bracket. -/
structure Calls (script path source : String) : Prop where
  begins : "def safe_mount".toList <+: script.toList
  called : ∃ before arguments after further,
    Text.lines script.toList =
        before ++ (Script.callFront.toList ++ (arguments ++ [')'])) :: after ∧
      (∀ line ∈ before, ¬ Script.callFront.toList <+: line) ∧
      (Json.parse? ('[' :: (arguments ++ [']']))).bind Json.datum? =
        some (.list (.text path :: .text source :: further))

/-- What follows the front is found on the first line that begins with it. -/
theorem lineAfter?_eq_some_iff {front script : String} {rest : List Char} :
    lineAfter? front script = some rest ↔
      ∃ before after, Text.lines script.toList = before ++ (front.toList ++ rest) :: after ∧
        ∀ line ∈ before, ¬ front.toList <+: line := by
  rw [lineAfter?, List.findSome?_eq_some_iff]
  constructor
  · rintro ⟨before, line, after, split, found, others⟩
    rw [Text.stripFront?_eq_some_iff] at found
    subst found
    exact ⟨before, after, split, fun line mem => Text.stripFront?_eq_none_iff.mp (others line mem)⟩
  · rintro ⟨before, after, split, others⟩
    exact ⟨before, _, after, split, Text.stripFront?_append _ _,
      fun line mem => Text.stripFront?_eq_none_iff.mpr (others line mem)⟩

theorem listItems?_eq_some_iff {text : List Char} {items : List Datum} :
    listItems? text = some items ↔ (Json.parse? text).bind Json.datum? = some (.list items) := by
  unfold listItems?
  split
  · next there read => simp [read]
  · next other =>
    constructor
    · intro h
      cases h
    · intro read
      exact absurd read (other items)

theorem ofCall_eq_ok_iff {script : String} {deed : Deed} :
    ofCall script = .ok deed ↔
      ∃ path source arguments further, deed = .bind path source ∧
        lineAfter? Script.callFront script = some (arguments ++ [')']) ∧
        listItems? ('[' :: (arguments ++ [']'])) =
          some (.text path :: .text source :: further) := by
  constructor
  · intro read
    unfold ofCall at read
    cases call : (lineAfter? Script.callFront script).bind (Text.stripLast? ')') with
    | none =>
      rw [call] at read
      cases read
    | some arguments =>
      obtain ⟨rest, line, closed⟩ := Option.bind_eq_some_iff.mp call
      rw [Text.stripLast?_eq_some_iff] at closed
      subst closed
      simp only [call] at read
      split at read
      · cases read
      · next path source further items =>
        exact ⟨path, source, arguments, further, (Except.ok.inj read).symm, line, items⟩
      · cases read
  · rintro ⟨path, source, arguments, further, rfl, line, items⟩
    have closed : Text.stripLast? ')' (arguments ++ [')']) = some arguments :=
      Text.stripLast?_eq_some_iff.mpr rfl
    simp only [ofCall, line, Option.bind_some, closed, items]

theorem ofScript_of_begins {script : String} (begins : "def safe_mount".toList <+: script.toList) :
    ofScript script = ofCall script := by
  obtain ⟨rest, split⟩ := begins
  have front : Text.stripFront? "def safe_mount".toList script.toList = some rest :=
    Text.stripFront?_eq_some_iff.mpr split.symm
  rw [ofScript, front, Option.isSome_some, if_pos rfl]

/-- A script with the mounting function in front does nothing but mount. -/
theorem calls_of_begins {script : String} {deed : Deed}
    (begins : "def safe_mount".toList <+: script.toList) (read : ofScript script = .ok deed) :
    ∃ path source, deed = .bind path source ∧ Calls script path source := by
  rw [ofScript_of_begins begins, ofCall_eq_ok_iff] at read
  obtain ⟨path, source, arguments, further, rfl, line, items⟩ := read
  obtain ⟨before, after, split, others⟩ := lineAfter?_eq_some_iff.mp line
  exact ⟨path, source, rfl, begins, before, arguments, after, further, split, others,
    listItems?_eq_some_iff.mp items⟩

end Deed

/-! ## Changes -/

/-- What is bound where differs in one place of the cluster at most, which was free and is bound or
was bound and is free. -/
inductive Changes (cluster : String) (old new : String → String → Option String) : Prop
  | nothing (same : new = old)
  | bound (path source : String) (free : old cluster path = none)
      (now : new cluster path = some source)
      (others : ∀ c p, ¬ (c = cluster ∧ p = path) → new c p = old c p)
  | freed (path source : String) (bound : old cluster path = some source)
      (now : new cluster path = none)
      (others : ∀ c p, ¬ (c = cluster ∧ p = path) → new c p = old c p)

/-- A change never puts one source where another was. -/
theorem Changes.kept {cluster : String} {old new : String → String → Option String}
    (h : Changes cluster old new) {c path source : String} (was : old c path = some source) :
    new c path = some source ∨ new c path = none := by
  cases h with
  | nothing same => exact .inl (same ▸ was)
  | bound place other free now others =>
    by_cases here : c = cluster ∧ path = place
    · obtain ⟨rfl, rfl⟩ := here
      rw [free] at was
      cases was
    · exact .inl ((others c path here).trans was)
  | freed place other bound now others =>
    by_cases here : c = cluster ∧ path = place
    · obtain ⟨rfl, rfl⟩ := here
      exact .inr now
    · exact .inl ((others c path here).trans was)

namespace Mounts

theorem changes_insert {m : Mounts} {cluster path : String} (free : m.source? cluster path = none)
    (source : String) : Changes cluster m.source? (m.insert cluster path source).source? := by
  refine .bound path source free ?_ fun c p other => ?_
  · rw [source?_insert, if_pos ⟨rfl, rfl⟩]
  · rw [source?_insert, if_neg other]

/-- To clear a path that is free changes nothing. -/
theorem changes_erase (m : Mounts) (cluster path : String) :
    Changes cluster m.source? (m.erase cluster path).source? := by
  cases there : m.source? cluster path with
  | none =>
    refine .nothing (funext fun c => funext fun p => ?_)
    rw [source?_erase]
    by_cases here : c = cluster ∧ p = path
    · rw [if_pos here, here.1, here.2, there]
    · rw [if_neg here]
  | some source =>
    refine .freed path source there ?_ fun c p other => ?_
    · rw [source?_erase, if_pos ⟨rfl, rfl⟩]
    · rw [source?_erase, if_neg other]

/-! ## What a deed does -/

/-- What comes of a deed: what it tells, and the mounts that it leaves. -/
inductive Performs (m : Mounts) (cluster : String) :
    Deed → Except ScriptFault String × Mounts → Prop
  | binds (path source : String) (free : m.source? cluster path = none) :
      Performs m cluster (.bind path source) (.ok source, m.insert cluster path source)
  | finds (path source there : String) (bound : m.source? cluster path = some there) :
      Performs m cluster (.bind path source) (.ok there, m)
  | clears (path : String) :
      Performs m cluster (.clear path) (.ok Script.success, m.erase cluster path)
  | sees (path there : String) (bound : m.source? cluster path = some there) :
      Performs m cluster (.look path) (.ok there, m)
  | misses (path : String) (free : m.source? cluster path = none) :
      Performs m cluster (.look path) (.error ⟨"Exception: " ++ Script.notMounted⟩, m)

theorem performs_perform (m : Mounts) (cluster : String) (deed : Deed) :
    Performs m cluster deed (m.perform cluster deed) := by
  cases deed with
  | bind path source =>
    cases there : m.source? cluster path with
    | none => simpa only [perform, there] using .binds path source there
    | some bound => simpa only [perform, there] using .finds path source bound there
  | clear path => exact .clears path
  | look path =>
    cases there : m.source? cluster path with
    | none => simpa only [perform, there] using .misses path there
    | some bound => simpa only [perform, there] using .sees path bound there

section
variable {m : Mounts} {cluster : String} {deed : Deed} {done : Except ScriptFault String × Mounts}

/-- A deed binds a free path of its cluster or frees a bound one, and touches nothing else. -/
theorem Performs.changes (h : m.Performs cluster deed done) :
    Changes cluster m.source? done.2.source? := by
  cases h with
  | binds path source free => exact changes_insert free source
  | clears path => exact changes_erase m cluster path
  | finds | sees | misses => exact .nothing rfl

/-- A deed neither runs a script nor uses up a failure. -/
theorem Performs.keeps (h : m.Performs cluster deed done) :
    done.2.runs = m.runs ∧ done.2.failures = m.failures := by
  cases h with
  | binds | finds | clears | sees | misses => exact ⟨rfl, rfl⟩

/-- A deed that fails has changed nothing. -/
theorem Performs.of_error (h : m.Performs cluster deed done) {fault : ScriptFault}
    (failed : done.1 = .error fault) : done.2 = m := by
  cases h with
  | misses => rfl
  | binds | finds | clears | sees => cases failed

/-- Mounting tells what is bound from then on: what was there before, or the source. -/
theorem Performs.bound {path source : String} (h : m.Performs cluster (.bind path source) done) :
    done.1 = .ok ((m.source? cluster path).getD source) ∧
      done.2.source? cluster path = some ((m.source? cluster path).getD source) := by
  cases h with
  | binds path source free => simp [free]
  | finds path source there bound => simp [bound]

end

/-! ## What a run does -/

/-- A script that meets no failure and is not understood changes nothing but the record. -/
theorem run_of_misreading {m : Mounts} {script : String} {misread : Misreading}
    (unread : Deed.ofScript script = .error misread) (calm : m.failures = []) (cluster : String) :
    m.run cluster script =
      (.error ⟨misread.message m.scribe⟩, { m with runs := m.runs ++ [(cluster, script)] }) := by
  simp only [run, calm, unread]

/-- Whatever text is run on a cluster in whatever state, the run is recorded, with the cluster and
the text, at the end of the record.  If a failure is due, it is what the text meets, it is used up
and nothing else changes; if none is, none is due afterwards either, and the mounts differ in one
place of the cluster at most, where a free path has been bound or a bound path freed.  No bound path
has got another source, an error has changed nothing that is mounted, and a script that mounts has
told what is bound to its path from then on: what was bound there before, or its source. -/
theorem run_changes (m : Mounts) (cluster script : String) :
    (m.run cluster script).2.runs = m.runs ++ [(cluster, script)] ∧
    (match m.failures with
      | message :: later =>
        (m.run cluster script).1 = .error ⟨message⟩ ∧
          (m.run cluster script).2.failures = later ∧
          (m.run cluster script).2.source? = m.source?
      | [] =>
        (m.run cluster script).2.failures = [] ∧
          Changes cluster m.source? (m.run cluster script).2.source?) ∧
    (∀ c path source, m.source? c path = some source →
      (m.run cluster script).2.source? c path = some source ∨
        (m.run cluster script).2.source? c path = none) ∧
    (∀ fault, (m.run cluster script).1 = .error fault →
      (m.run cluster script).2.source? = m.source?) ∧
    ∀ told, (m.run cluster script).1 = .ok told → "def safe_mount".toList <+: script.toList →
      ∃ path source, Deed.Calls script path source ∧
        told = (m.source? cluster path).getD source ∧
        (m.run cluster script).2.source? cluster path = some told := by
  cases due : m.failures with
  | cons message later =>
    rw [run_of_failure due]
    refine ⟨rfl, ⟨rfl, rfl, rfl⟩, fun c path source was => .inl was, fun _ _ => rfl, ?_⟩
    intro told ok
    cases ok
  | nil =>
    cases read : Deed.ofScript script with
    | error misread =>
      rw [run_of_misreading read due]
      refine ⟨rfl, ⟨due, .nothing rfl⟩, fun c path source was => .inl was, fun _ _ => rfl, ?_⟩
      intro told ok
      cases ok
    | ok deed =>
      rw [run_of_deed read due]
      -- The deed meets the mounts as they are, with one run more on record.
      generalize recorded : { m with runs := m.runs ++ [(cluster, script)] } = r
      have runs : r.runs = m.runs ++ [(cluster, script)] := by rw [← recorded]
      have calm : r.failures = [] := by rw [← recorded, due]
      have sources : r.source? = m.source? := by rw [← recorded]; rfl
      have performs := performs_perform r cluster deed
      generalize r.perform cluster deed = done at performs
      obtain ⟨keptRuns, keptFailures⟩ := performs.keeps
      rw [← sources]
      refine ⟨keptRuns.trans runs, ⟨keptFailures.trans calm, performs.changes⟩,
        fun c path source was => performs.changes.kept was, fun fault failed => ?_, ?_⟩
      · rw [performs.of_error failed]
      · intro told ok begins
        obtain ⟨path, source, rfl, calls⟩ := Deed.calls_of_begins begins read
        obtain ⟨tells, bound⟩ := performs.bound
        have same : told = (r.source? cluster path).getD source :=
          Except.ok.inj (ok.symm.trans tells)
        exact ⟨path, source, calls, same, by rw [bound, same]⟩

/-- A script that mounts, with an argument behind the texts that is no text. -/
def bareCall : String :=
  "def safe_mount\nmount_source = safe_mount(\"/mnt/a\", \"s3a://new\", 1)"

def oneMount : Mounts :=
  insert {} "c" "/mnt/a" "s3a://old"

theorem run_changes_bound :
    (oneMount.run "c" bareCall).2.runs = [("c", bareCall)] ∧
      ((oneMount.run "c" bareCall).2.source? "c" "/mnt/a" = some "s3a://old" ∨
        (oneMount.run "c" bareCall).2.source? "c" "/mnt/a" = none) ∧
      (∃ path source, Deed.Calls bareCall path source ∧
        "s3a://old" = (oneMount.source? "c" path).getD source ∧
        (oneMount.run "c" bareCall).2.source? "c" path = some "s3a://old") ∧
      (oneMount.run "c" "pass").2.source? = oneMount.source? := by
  have was : oneMount.source? "c" "/mnt/a" = some "s3a://old" := by decide +kernel
  have told : (oneMount.run "c" bareCall).1 = .ok "s3a://old" := by decide +kernel
  have unread : (oneMount.run "c" "pass").1 = .error ⟨"SyntaxError: unrecognised script"⟩ := by
    decide +kernel
  obtain ⟨recorded, -, kept, -, tells⟩ := run_changes oneMount "c" bareCall
  obtain ⟨-, -, -, failed, -⟩ := run_changes oneMount "c" "pass"
  exact ⟨recorded, kept _ _ _ was, tells _ told (by decide +kernel), failed _ unread⟩

end Mounts

end RemoteMounts.Simulated
