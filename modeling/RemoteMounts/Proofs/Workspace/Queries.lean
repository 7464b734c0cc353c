import RemoteMounts.Json.Literal
import RemoteMounts.Proofs.Workspace.Mail

/-!
# Queries

A query is read by cutting it at each `&`, each parameter at its first `=`, and by reading the bytes
of a name and of a value: a plus sign is a space, a percent sign stands before the digits of a byte,
and any other character is its own byte.  A query that was written gives its parameters back
(`parameters?_query`), and so does a message that asks an endpoint (`Client.asked?_asking`).
-/

namespace RemoteMounts

namespace Form

/-! ## Reading a query -/

def readBytes : List Char → Option (List UInt8)
  | [] => some []
  | '+' :: cs => (readBytes cs).map (32 :: ·)
  | '%' :: a :: b :: cs => do
    let high ← Json.hexValue? a
    let low ← Json.hexValue? b
    let bytes ← readBytes cs
    return UInt8.ofNat (high * 16 + low) :: bytes
  | c :: cs => if c = '%' then none else (readBytes cs).map (UInt8.ofNat c.toNat :: ·)

def decode? (cs : List Char) : Option String :=
  (readBytes cs).bind fun bytes => String.fromUTF8? ⟨bytes.toArray⟩

def parameter? (cs : List Char) : Option (String × String) := do
  let (name, value) ← Text.cut? '=' cs
  return (← decode? name, ← decode? value)

def parameters? (cs : List Char) : Option (List (String × String)) :=
  if cs = [] then some [] else (Text.pieces '&' cs).mapM parameter?

/-! ## Bytes -/

theorem plain_byte : ∀ n < 128,
    ((Char.ofNat n).isAlphanum || Char.ofNat n = '*' || Char.ofNat n = '-' || Char.ofNat n = '.' ||
      Char.ofNat n = '_') = true →
    Char.ofNat n ∉ ['&', '=', '+', '%'] ∧ (Char.ofNat n).toNat = n := by
  decide +kernel

theorem hex_digit : ∀ n < 16,
    hexDigit n ∉ ['&', '='] ∧ Json.hexValue? (hexDigit n) = some n := by
  decide +kernel

/-- A byte that stands for itself is no mark. -/
theorem of_isPlain {b : UInt8} (h : isPlain b = true) :
    Char.ofNat b.toNat ∉ ['&', '=', '+', '%'] ∧ (Char.ofNat b.toNat).toNat = b.toNat := by
  simp only [isPlain, Bool.and_eq_true, decide_eq_true_eq, UInt8.lt_iff_toNat_lt] at h
  exact plain_byte b.toNat h.1 h.2

theorem readBytes_byteChars (b : UInt8) (cs : List Char) :
    readBytes (byteChars b ++ cs) = (readBytes cs).map (b :: ·) := by
  unfold byteChars
  split
  next plain =>
    obtain ⟨other, same⟩ := of_isPlain plain
    generalize Char.ofNat b.toNat = c at other same
    simp only [List.mem_cons, List.not_mem_nil, or_false, not_or] at other
    obtain ⟨-, -, plus, percent⟩ := other
    have value : UInt8.ofNat c.toNat = b := by rw [same, UInt8.ofNat_toNat]
    simp [readBytes, percent, value]
  next =>
    split
    next space => simp [readBytes, space]
    next =>
      have high := (hex_digit (b.toNat / 16) (by have := b.toNat_lt; omega)).2
      have low := (hex_digit (b.toNat % 16) (by omega)).2
      have value : UInt8.ofNat (b.toNat / 16 * 16 + b.toNat % 16) = b := by
        rw [Nat.div_add_mod', UInt8.ofNat_toNat]
      simp only [List.cons_append, List.nil_append, readBytes, high, low, Option.bind_eq_bind,
        Option.bind_some, value]
      cases readBytes cs <;> rfl

theorem readBytes_flatMap (bytes : List UInt8) :
    readBytes (bytes.flatMap byteChars) = some bytes := by
  induction bytes with
  | nil => rfl
  | cons b bytes ih => rw [List.flatMap_cons, readBytes_byteChars, ih, Option.map_some]

/-- What is encoded holds no mark of a query. -/
theorem not_mem_encode {mark : Char} (h : mark ∈ ['&', '=']) (s : String) :
    mark ∉ (encode s).toList := by
  rw [encode, String.toList_ofList]
  intro mem
  obtain ⟨b, -, mem⟩ := List.mem_flatMap.mp mem
  unfold byteChars at mem
  split at mem
  next plain =>
    obtain rfl := List.mem_singleton.mp mem
    exact (of_isPlain plain).1 (List.mem_append_left ['+', '%'] h)
  next =>
    split at mem
    next =>
      obtain rfl := List.mem_singleton.mp mem
      exact absurd h (by decide)
    next =>
      have high := (hex_digit (b.toNat / 16) (by have := b.toNat_lt; omega)).1
      have low := (hex_digit (b.toNat % 16) (by omega)).1
      simp only [List.mem_cons, List.not_mem_nil, or_false] at mem
      rcases mem with rfl | rfl | rfl
      · exact absurd h (by decide)
      · exact high h
      · exact low h

/-! ## Reading what was written -/

theorem decode?_encode (s : String) : decode? (encode s).toList = some s := by
  rw [decode?, encode, String.toList_ofList, readBytes_flatMap, Option.bind_some]
  exact dif_pos s.isValidUTF8

theorem parameter?_parameter (p : String × String) :
    parameter? (parameter p).toList = some p := by
  have cut : Text.cut? '=' (parameter p).toList =
      some ((encode p.1).toList, (encode p.2).toList) :=
    Text.cut?_eq_some_iff.mpr ⟨not_mem_encode (by decide) p.1, by simp [parameter]⟩
  rw [parameter?, cut]
  simp only [Option.bind_eq_bind, Option.bind_some, decode?_encode]
  rfl

theorem mapM_parameter? :
    ∀ parameters : List (String × String),
      (parameters.map fun p => (parameter p).toList).mapM parameter? = some parameters
  | [] => rfl
  | p :: rest => by
    rw [List.map_cons, List.mapM_cons, parameter?_parameter, mapM_parameter? rest]
    rfl

theorem not_mem_parameter (p : String × String) : '&' ∉ (parameter p).toList := by
  have name : '&' ∉ (encode p.1).toList := not_mem_encode (by decide) p.1
  have value : '&' ∉ (encode p.2).toList := not_mem_encode (by decide) p.2
  simp [parameter, name, value]

theorem toList_query (p : String × String) (rest : List (String × String)) :
    (query (p :: rest)).toList =
      (parameter p).toList ++ (rest.map fun q => (parameter q).toList).flatMap ('&' :: ·) := by
  induction rest generalizing p with
  | nil => simp [query]
  | cons q rest ih =>
    have later := ih q
    rw [query, List.map_cons] at later
    rw [query, List.map_cons, List.map_cons, String.intercalate_cons_cons, String.toList_append,
      String.toList_append, later, List.map_cons, List.flatMap_cons]
    simp

/-- A query that was written is read as its parameters. -/
theorem parameters?_query (parameters : List (String × String)) :
    parameters? (query parameters).toList = some parameters := by
  cases parameters with
  | nil => rfl
  | cons p rest =>
    have filled : (query (p :: rest)).toList ≠ [] := by simp [toList_query, parameter]
    have unmarked : ∀ piece ∈ (p :: rest).map fun q => (parameter q).toList, '&' ∉ piece := by
      intro piece mem
      obtain ⟨q, -, rfl⟩ := List.mem_map.mp mem
      exact not_mem_parameter q
    rw [parameters?, if_neg filled, toList_query, Text.pieces_marked unmarked]
    exact mapM_parameter? (p :: rest)

end Form

/-! ## What a message asks -/

/-- The endpoint of a message and the parameters of its query, if these can be read. -/
def Message.asked? (m : Message) : Option (String × List (String × String)) :=
  match Text.cut? '?' m.target.toList with
  | none => some (m.target, [])
  | some (endpoint, query) => (Form.parameters? query).map (String.ofList endpoint, ·)

/-- A message that asks an endpoint asks it with the parameters that it was given. -/
theorem Client.asked?_asking (c : Client) {endpoint : String} (bare : '?' ∉ endpoint.toList)
    (parameters : List (String × String)) :
    (c.asking endpoint parameters).asked? = some (endpoint, parameters) := by
  unfold Message.asked? asking
  by_cases none : parameters = []
  · have uncut : Text.cut? '?' endpoint.toList = Option.none := Text.cut?_eq_none_iff.mpr bare
    simp [none, uncut]
  · have cut : Text.cut? '?' (endpoint ++ ("?" ++ Form.query parameters)).toList =
        some (endpoint.toList, (Form.query parameters).toList) :=
      Text.cut?_eq_some_iff.mpr ⟨bare, by simp⟩
    simp only [if_neg none, cut, Form.parameters?_query, Option.map_some, String.ofList_toList]

end RemoteMounts
