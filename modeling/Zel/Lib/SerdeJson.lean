import Mathlib.Data.List.DropRight
import Zel.Lib.Except
import Zel.Lib.JsonText

/-!
# Types that are written to JSON texts and read back

A type that `serde_json` handles writes its values and reads one value from the front of a text.
How it does either is its own affair; `SerdeType` has what any reader of JSON does: it skips blanks
in front of the value, no value begins with a closing bracket, and the comma or the closing bracket
behind a value is not part of it.

A tuple is an array of its elements.  Each array that is open takes one from the depth that is left,
and a reader gives up when the depth is gone.

## What is here

* `SerdeType`, `fromSlice` — a type, and the reading of a whole text.
* `tuple` — the type of the tuples of a list of types.
* `RoundTripsAt` — the type reads back what it wrote, at a depth.
* `RoundTripsAt.tuple` — **a tuple reads back what it wrote** if its elements do, one level deeper.
* `nested` — arrays in arrays, which use up the depth.
* `boolsText`, `readBools` — arrays of booleans, of any length.
-/

set_option autoImplicit false

namespace SerdeJson

/-! ## Texts -/

def comma : UInt8 := 0x2C

def opening : UInt8 := 0x5B

def closing : UInt8 := 0x5D

/-- A space, a tab or the end of a line. -/
def isBlank (b : UInt8) : Bool := b == 0x20 || b == 0x09 || b == 0x0A || b == 0x0D

def skipBlanks (text : Bytes) : Bytes := text.dropWhile isBlank

/-- What stands behind an element of an array. -/
def IsDelimiter (b : UInt8) : Prop := b = comma ∨ b = closing

/-- Blanks and a delimiter. -/
theorem skipBlanks_append {blanks : Bytes} (h : ∀ b ∈ blanks, isBlank b = true) {c : UInt8}
    (hc : isBlank c = false) (behind : Bytes) :
    skipBlanks (blanks ++ c :: behind) = c :: behind := by
  rw [skipBlanks, List.dropWhile_append_of_pos h, List.dropWhile_cons_of_neg (by simp [hc])]

/-- What is found behind the blanks is found there in a longer text, too. -/
theorem skipBlanks_append_of_cons {text rest : Bytes} {b : UInt8}
    (h : skipBlanks text = b :: rest) (behind : Bytes) :
    skipBlanks (text ++ behind) = b :: (rest ++ behind) := by
  induction text with
  | nil => cases h
  | cons a text ih =>
    rw [skipBlanks] at h ih ⊢
    by_cases ha : isBlank a = true
    · rw [List.dropWhile_cons_of_pos ha] at h
      rw [List.cons_append, List.dropWhile_cons_of_pos ha]
      exact ih h
    · rw [List.dropWhile_cons_of_neg ha, List.cons.injEq] at h
      rw [List.cons_append, List.dropWhile_cons_of_neg ha, h.1, h.2]

/-! ## Types -/

/-- A type that is written and read. -/
structure SerdeType where
  Value : Type
  /-- `to_vec` -/
  toVec : Value → Except String Bytes
  /-- Reads one value, with this depth left; what stands behind it is left over. -/
  read : Nat → Bytes → Except String (Value × Bytes)
  read_skipBlanks : ∀ depth text, read depth (skipBlanks text) = read depth text
  read_closing : ∀ depth text r, read depth (closing :: text) ≠ .ok r
  read_append : ∀ {depth : Nat} {text rest : Bytes} {v : Value} {c : UInt8} (behind : Bytes),
    IsDelimiter c → read depth text = .ok (v, rest) →
      read depth (text ++ c :: behind) = .ok (v, rest ++ c :: behind)

/-- `from_slice` -/
def SerdeType.fromSlice (t : SerdeType) (text : Bytes) : Except String t.Value := do
  let (v, rest) ← t.read Json.recursionLimit text
  if rest.all isBlank then return v else .error "trailing characters"

/-! ## Tuples -/

/-- One value of each type. -/
def Values : List SerdeType → Type
  | [] => Unit
  | t :: ts => t.Value × Values ts

/-- Elements behind the first one, each behind its comma. -/
def writeRest : (ts : List SerdeType) → Values ts → Except String Bytes
  | [], _ => .ok []
  | t :: ts, (v, vs) => do
    let text ← t.toVec v
    let rest ← writeRest ts vs
    return comma :: text ++ rest

def writeElements : (ts : List SerdeType) → Values ts → Except String Bytes
  | [], _ => .ok []
  | t :: ts, (v, vs) => do
    let text ← t.toVec v
    let rest ← writeRest ts vs
    return text ++ rest

def writeTuple (ts : List SerdeType) (vs : Values ts) : Except String Bytes := do
  let text ← writeElements ts vs
  return opening :: text ++ [closing]

/-- Elements behind the first one. -/
def readRest (depth : Nat) : (ts : List SerdeType) → Bytes → Except String (Values ts × Bytes)
  | [], text => .ok ((), text)
  | t :: ts, text =>
    match skipBlanks text with
    | [] => .error "EOF while parsing a list"
    | b :: text =>
      if b = comma then do
        let (v, text) ← t.read depth text
        let (vs, text) ← readRest depth ts text
        return ((v, vs), text)
      else .error "expected `,` or `]`"

def readElements (depth : Nat) :
    (ts : List SerdeType) → Bytes → Except String (Values ts × Bytes)
  | [], text => .ok ((), text)
  | t :: ts, text => do
    let (v, text) ← t.read depth text
    let (vs, text) ← readRest depth ts text
    return ((v, vs), text)

/-- The end of an array. -/
def readEnd (text : Bytes) : Except String Bytes :=
  match skipBlanks text with
  | [] => .error "EOF while parsing a list"
  | b :: text => if b = closing then .ok text else .error "trailing characters"

def readTuple (ts : List SerdeType) (depth : Nat) (text : Bytes) :
    Except String (Values ts × Bytes) :=
  match skipBlanks text with
  | [] => .error "EOF while parsing a value"
  | b :: text =>
    if b = opening then
      if depth ≤ 1 then .error "recursion limit exceeded"
      else do
        let (vs, text) ← readElements (depth - 1) ts text
        let text ← readEnd text
        return (vs, text)
    else .error "invalid type"

section Reading

variable {depth : Nat} {t : SerdeType} {ts : List SerdeType} {text rest : Bytes}

/-- Another element: a comma, the value, and the elements behind it. -/
theorem readRest_cons_eq_ok {vs : Values (t :: ts)} :
    readRest depth (t :: ts) text = .ok (vs, rest) ↔
      ∃ text₁ text₂, skipBlanks text = comma :: text₁ ∧ t.read depth text₁ = .ok (vs.1, text₂) ∧
        readRest depth ts text₂ = .ok (vs.2, rest) := by
  rw [readRest]
  rcases skipBlanks text with _ | ⟨b, text₁⟩
  · simp
  · by_cases hb : b = comma
    · subst hb
      simp only [if_true, Except.bind_eq_ok]
      constructor
      · rintro ⟨⟨v, text₂⟩, hv, ⟨vs', text₃⟩, hvs, h⟩
        cases h
        exact ⟨text₁, text₂, rfl, hv, hvs⟩
      · rintro ⟨_, text₂, hsame, hv, hvs⟩
        cases hsame
        exact ⟨(vs.1, text₂), hv, (vs.2, rest), hvs, rfl⟩
    · simp [hb]

theorem readElements_cons_eq_ok {vs : Values (t :: ts)} :
    readElements depth (t :: ts) text = .ok (vs, rest) ↔
      ∃ text₁, t.read depth text = .ok (vs.1, text₁) ∧
        readRest depth ts text₁ = .ok (vs.2, rest) := by
  rw [readElements, Except.bind_eq_ok]
  constructor
  · rintro ⟨⟨v, text₁⟩, hv, h⟩
    obtain ⟨⟨vs', text₂⟩, hvs, h⟩ := Except.bind_eq_ok.mp h
    cases h
    exact ⟨text₁, hv, hvs⟩
  · rintro ⟨text₁, hv, hvs⟩
    exact ⟨(vs.1, text₁), hv, Except.bind_eq_ok.mpr ⟨(vs.2, rest), hvs, rfl⟩⟩

theorem readEnd_eq_ok : readEnd text = .ok rest ↔ skipBlanks text = closing :: rest := by
  rw [readEnd]
  rcases skipBlanks text with _ | ⟨b, text'⟩
  · simp
  · by_cases hb : b = closing <;> simp [hb]

/-- A tuple: the opening bracket at some depth, the elements and the closing bracket. -/
theorem readTuple_eq_ok {vs : Values ts} :
    readTuple ts depth text = .ok (vs, rest) ↔
      ∃ text₁ text₂, skipBlanks text = opening :: text₁ ∧ 1 < depth ∧
        readElements (depth - 1) ts text₁ = .ok (vs, text₂) ∧
          skipBlanks text₂ = closing :: rest := by
  rw [readTuple]
  rcases skipBlanks text with _ | ⟨b, text₁⟩
  · simp
  · by_cases hb : b = opening
    · subst hb
      by_cases hdepth : depth ≤ 1
      · simp [hdepth, Nat.not_lt_of_le hdepth]
      · simp only [if_true, if_neg hdepth, Except.bind_eq_ok]
        constructor
        · rintro ⟨⟨vs', text₂⟩, hvs, text₃, hend, h⟩
          cases h
          exact ⟨text₁, text₂, rfl, Nat.lt_of_not_le hdepth, hvs, readEnd_eq_ok.mp hend⟩
        · rintro ⟨_, text₂, hsame, -, hvs, hend⟩
          cases hsame
          exact ⟨(vs, text₂), hvs, rest, readEnd_eq_ok.mpr hend, rfl⟩
    · simp [hb]

end Reading

/-! A tuple is itself a type: it does not look behind its closing bracket. -/

section Append

variable {depth : Nat} {ts : List SerdeType} {text rest : Bytes} {vs : Values ts} {c : UInt8}

theorem readRest_append (behind : Bytes) (hc : IsDelimiter c)
    (h : readRest depth ts text = .ok (vs, rest)) :
    readRest depth ts (text ++ c :: behind) = .ok (vs, rest ++ c :: behind) := by
  induction ts generalizing text with
  | nil =>
    cases h
    rfl
  | cons t ts ih =>
    obtain ⟨text₁, text₂, hskip, hv, hvs⟩ := readRest_cons_eq_ok.mp h
    exact readRest_cons_eq_ok.mpr ⟨text₁ ++ c :: behind, text₂ ++ c :: behind,
      skipBlanks_append_of_cons hskip _, t.read_append behind hc hv, ih hvs⟩

theorem readElements_append (behind : Bytes) (hc : IsDelimiter c)
    (h : readElements depth ts text = .ok (vs, rest)) :
    readElements depth ts (text ++ c :: behind) = .ok (vs, rest ++ c :: behind) := by
  rcases ts with _ | ⟨t, ts⟩
  · cases h
    rfl
  · obtain ⟨text₁, hv, hvs⟩ := readElements_cons_eq_ok.mp h
    exact readElements_cons_eq_ok.mpr
      ⟨text₁ ++ c :: behind, t.read_append behind hc hv, readRest_append behind hc hvs⟩

theorem readTuple_append (behind : Bytes) (hc : IsDelimiter c)
    (h : readTuple ts depth text = .ok (vs, rest)) :
    readTuple ts depth (text ++ c :: behind) = .ok (vs, rest ++ c :: behind) := by
  obtain ⟨text₁, text₂, hskip, hdepth, hvs, hend⟩ := readTuple_eq_ok.mp h
  exact readTuple_eq_ok.mpr ⟨text₁ ++ c :: behind, text₂ ++ c :: behind,
    skipBlanks_append_of_cons hskip _, hdepth, readElements_append behind hc hvs,
    skipBlanks_append_of_cons hend _⟩

end Append

theorem skipBlanks_idem (text : Bytes) : skipBlanks (skipBlanks text) = skipBlanks text :=
  List.dropWhile_idempotent ..

/-- The type of the tuples of some types. -/
def SerdeType.tuple (ts : List SerdeType) : SerdeType where
  Value := Values ts
  toVec := writeTuple ts
  read := readTuple ts
  read_skipBlanks depth text := by rw [readTuple, skipBlanks_idem, ← readTuple]
  read_closing depth text r h := by
    obtain ⟨text₁, text₂, hskip, -⟩ := readTuple_eq_ok.mp h
    cases hskip
  read_append behind hc h := readTuple_append behind hc h

/-! ## Round trips -/

/-- The type reads back what it wrote, with this depth left. -/
def SerdeType.RoundTripsAt (t : SerdeType) (depth : Nat) : Prop :=
  ∀ v, ∃ text rest, t.toVec v = .ok text ∧ t.read depth text = .ok (v, rest) ∧
    ∀ b ∈ rest, isBlank b = true

/-- The type round-trips through `serde_json`. -/
def SerdeType.RoundTrips (t : SerdeType) : Prop :=
  ∀ v, ∃ text, t.toVec v = .ok text ∧ t.fromSlice text = .ok v

theorem roundTrips_iff {t : SerdeType} : t.RoundTrips ↔ t.RoundTripsAt Json.recursionLimit := by
  refine forall_congr' fun v ↦ ⟨?_, ?_⟩
  · rintro ⟨text, hwrite, hread⟩
    obtain ⟨⟨v', rest⟩, hv, h⟩ := Except.bind_eq_ok.mp hread
    dsimp only at h
    split at h
    · rename_i hblank
      cases h
      exact ⟨text, rest, hwrite, hv, List.all_eq_true.mp hblank⟩
    · cases h
  · rintro ⟨text, rest, hwrite, hv, hblank⟩
    refine ⟨text, hwrite, Except.bind_eq_ok.mpr ⟨(v, rest), hv, ?_⟩⟩
    exact if_pos (List.all_eq_true.mpr hblank)

variable {depth : Nat} {ts : List SerdeType}

/-- What is written behind an element begins with a comma, or the array ends. -/
theorem writeRest_delimiter {vs : Values ts} {text : Bytes} (h : writeRest ts vs = .ok text)
    (behind : Bytes) : ∃ c rest, text ++ closing :: behind = c :: rest ∧ IsDelimiter c := by
  rcases ts with _ | ⟨t, ts⟩
  · cases h
    exact ⟨closing, behind, rfl, .inr rfl⟩
  · obtain ⟨text₁, -, h⟩ := Except.bind_eq_ok.mp h
    obtain ⟨text₂, -, h⟩ := Except.bind_eq_ok.mp h
    cases h
    exact ⟨comma, text₁ ++ text₂ ++ closing :: behind, rfl, .inl rfl⟩

/-- The elements behind the first one are read back, whatever blanks stand in front of them. -/
theorem readRest_writeRest (h : ∀ t ∈ ts, t.RoundTripsAt depth) (vs : Values ts) :
    ∃ text, writeRest ts vs = .ok text ∧ ∀ (blanks behind : Bytes),
      (∀ b ∈ blanks, isBlank b = true) → ∃ rest,
        readRest depth ts (blanks ++ (text ++ closing :: behind)) =
          .ok (vs, rest ++ closing :: behind) ∧ ∀ b ∈ rest, isBlank b = true := by
  induction ts with
  | nil => exact ⟨[], rfl, fun blanks behind hblanks ↦ ⟨blanks, rfl, hblanks⟩⟩
  | cons t ts ih =>
    obtain ⟨v, vs⟩ := vs
    obtain ⟨text₁, rest₁, hwrite, hread, hrest₁⟩ := h t List.mem_cons_self v
    obtain ⟨text₂, hwrite₂, hread₂⟩ := ih (fun t' ht' ↦ h t' (List.mem_cons_of_mem t ht')) vs
    refine ⟨comma :: text₁ ++ text₂, ?_, fun blanks behind hblanks ↦ ?_⟩
    · exact Except.bind_eq_ok.mpr ⟨text₁, hwrite, Except.bind_eq_ok.mpr ⟨text₂, hwrite₂, rfl⟩⟩
    · obtain ⟨rest, hrest, hblank⟩ := hread₂ rest₁ behind hrest₁
      obtain ⟨c, rest', hnext, hc⟩ := writeRest_delimiter hwrite₂ behind
      refine ⟨rest, readRest_cons_eq_ok.mpr ⟨text₁ ++ (text₂ ++ closing :: behind),
        rest₁ ++ (text₂ ++ closing :: behind), ?_, ?_, hrest⟩, hblank⟩
      · rw [List.cons_append, List.cons_append, List.append_assoc]
        exact skipBlanks_append hblanks (by decide) _
      · rw [hnext]
        exact t.read_append rest' hc hread

/-- **A tuple reads back what it wrote** if its elements do, one level deeper. -/
theorem SerdeType.RoundTripsAt.tuple (h : ∀ t ∈ ts, t.RoundTripsAt depth) (hdepth : 0 < depth) :
    (SerdeType.tuple ts).RoundTripsAt (depth + 1) := by
  intro vs
  have helements : ∃ text, writeElements ts vs = .ok text ∧ ∃ rest,
      readElements depth ts (text ++ [closing]) = .ok (vs, rest ++ [closing]) ∧
        ∀ b ∈ rest, isBlank b = true := by
    rcases ts with _ | ⟨t, ts⟩
    · exact ⟨[], rfl, [], rfl, nofun⟩
    · obtain ⟨v, vs⟩ := vs
      obtain ⟨text₁, rest₁, hwrite, hread, hrest₁⟩ := h t List.mem_cons_self v
      obtain ⟨text₂, hwrite₂, hread₂⟩ :=
        readRest_writeRest (fun t' ht' ↦ h t' (List.mem_cons_of_mem t ht')) vs
      obtain ⟨rest, hrest, hblank⟩ := hread₂ rest₁ [] hrest₁
      obtain ⟨c, rest', hnext, hc⟩ := writeRest_delimiter hwrite₂ []
      refine ⟨text₁ ++ text₂, ?_, rest, readElements_cons_eq_ok.mpr
        ⟨rest₁ ++ (text₂ ++ [closing]), ?_, hrest⟩, hblank⟩
      · exact Except.bind_eq_ok.mpr ⟨text₁, hwrite, Except.bind_eq_ok.mpr ⟨text₂, hwrite₂, rfl⟩⟩
      · rw [List.append_assoc, hnext]
        exact t.read_append rest' hc hread
  obtain ⟨text, hwrite, rest, hread, hblank⟩ := helements
  refine ⟨opening :: text ++ [closing], [], Except.bind_eq_ok.mpr ⟨text, hwrite, rfl⟩, ?_, nofun⟩
  have hopening : skipBlanks (opening :: text ++ [closing]) = opening :: (text ++ [closing]) :=
    @skipBlanks_append [] nofun opening (by decide) _
  show readTuple ts (depth + 1) (opening :: text ++ [closing]) = .ok (vs, [])
  exact readTuple_eq_ok.mpr ⟨text ++ [closing], rest ++ [closing], hopening,
    Nat.succ_lt_succ hdepth, hread, skipBlanks_append hblank (by decide) []⟩

/-! ## Arrays in arrays -/

/-- `null` -/
def nullText : Bytes := [0x6E, 0x75, 0x6C, 0x6C]

def readUnit (text : Bytes) : Except String (Unit × Bytes) :=
  if (skipBlanks text).take 4 = nullText then .ok ((), (skipBlanks text).drop 4)
  else .error "invalid type"

theorem readUnit_eq_ok {text rest : Bytes} {v : Unit} :
    readUnit text = .ok (v, rest) ↔ skipBlanks text = nullText ++ rest := by
  rw [readUnit]
  constructor
  · intro h
    split at h
    · rename_i htake
      cases h
      rw [← htake, List.take_append_drop]
    · cases h
  · intro h
    rw [h]
    exact if_pos (show (nullText ++ rest).take 4 = nullText from rfl)

/-- The unit type. -/
def SerdeType.unit : SerdeType where
  Value := Unit
  toVec _ := .ok nullText
  read _ := readUnit
  read_skipBlanks _ text := by rw [readUnit, skipBlanks_idem, ← readUnit]
  read_closing depth text r h := by
    obtain ⟨v, rest⟩ := r
    cases readUnit_eq_ok.mp h
  read_append behind _ h :=
    readUnit_eq_ok.mpr (skipBlanks_append_of_cons (readUnit_eq_ok.mp h) _)

/-- Arrays of one element, one in the other. -/
def nested : Nat → SerdeType
  | 0 => .unit
  | n + 1 => .tuple [nested n]

theorem unit_roundTripsAt (depth : Nat) : SerdeType.unit.RoundTripsAt depth :=
  fun _ ↦ ⟨nullText, [], rfl, rfl, nofun⟩

/-- What is nested less deeply than the depth that is left is read back. -/
theorem nested_roundTripsAt {n depth : Nat} (h : n < depth) : (nested n).RoundTripsAt depth := by
  induction n generalizing depth with
  | zero => exact unit_roundTripsAt depth
  | succ n ih =>
    obtain ⟨depth, rfl⟩ := Nat.exists_eq_succ_of_ne_zero (Nat.ne_zero_of_lt h)
    have hn : n < depth := Nat.lt_of_succ_lt_succ h
    refine SerdeType.RoundTripsAt.tuple (fun t ht ↦ ?_) (Nat.zero_lt_of_lt hn)
    rw [List.mem_singleton.mp ht]
    exact ih hn

/-- A tuple whose first element cannot be read cannot be read. -/
theorem readTuple_ne_ok {t : SerdeType} {v : t.Value} {vs : Values ts} {text first : Bytes}
    (hwrite : writeTuple (t :: ts) (v, vs) = .ok text) (hv : t.toVec v = .ok first)
    (hread : ∀ behind r, t.read (depth - 1) (first ++ behind) ≠ .ok r) (behind : Bytes)
    (r : Values (t :: ts) × Bytes) : readTuple (t :: ts) depth (text ++ behind) ≠ .ok r := by
  intro h
  obtain ⟨elements, helements, htext⟩ := Except.bind_eq_ok.mp hwrite
  obtain ⟨first', hv', helements⟩ := Except.bind_eq_ok.mp helements
  obtain ⟨others, -, helements⟩ := Except.bind_eq_ok.mp helements
  cases htext
  cases helements
  cases hv.symm.trans hv'
  obtain ⟨vs', rest⟩ := r
  obtain ⟨text₁, text₂, hskip, -, hvs, -⟩ := readTuple_eq_ok.mp h
  obtain ⟨text₃, hfirst, -⟩ := readElements_cons_eq_ok.mp hvs
  have hopening : skipBlanks (opening :: (first ++ others) ++ [closing] ++ behind) =
      opening :: (first ++ others ++ [closing] ++ behind) :=
    @skipBlanks_append [] nofun opening (by decide) _
  rw [hopening, List.cons.injEq] at hskip
  have htext : text₁ = first ++ (others ++ [closing] ++ behind) := by simpa using hskip.2.symm
  rw [htext] at hfirst
  exact hread _ _ hfirst

/-- What is nested more deeply is not. -/
theorem nested_read_ne_ok {n depth : Nat} (hpos : 0 < n) (h : depth ≤ n) {v : (nested n).Value}
    {text : Bytes} (hwrite : (nested n).toVec v = .ok text) (behind : Bytes)
    (r : (nested n).Value × Bytes) : (nested n).read depth (text ++ behind) ≠ .ok r := by
  induction n generalizing depth text behind with
  | zero => cases hpos
  | succ n ih =>
    obtain ⟨v, u⟩ := v
    by_cases hdepth : 1 < depth
    · obtain ⟨elements, helements, -⟩ := Except.bind_eq_ok.mp hwrite
      obtain ⟨first, hv, -⟩ := Except.bind_eq_ok.mp helements
      exact readTuple_ne_ok hwrite hv (ih (by omega) (by omega) hv) behind r
    · intro hread
      obtain ⟨vs, rest⟩ := r
      replace hread : readTuple [nested n] depth (text ++ behind) = .ok (vs, rest) := hread
      obtain ⟨text₁, text₂, -, hlt, -⟩ := readTuple_eq_ok.mp hread
      exact hdepth hlt

/-- The only value of a nested array. -/
def nestedValue : (n : Nat) → (nested n).Value
  | 0 => ()
  | n + 1 => (nestedValue n, ())

/-! ## Arrays of booleans -/

/-- `true` or `false` -/
def boolText : Bool → Bytes
  | true => [0x74, 0x72, 0x75, 0x65]
  | false => [0x66, 0x61, 0x6C, 0x73, 0x65]

/-- The elements behind the first one, and the end. -/
def boolsRest : List Bool → Bytes
  | [] => [closing]
  | v :: vs => comma :: boolText v ++ boolsRest vs

/-- `to_vec` of a `Vec<bool>`. -/
def boolsText : List Bool → Bytes
  | [] => [opening, closing]
  | v :: vs => opening :: boolText v ++ boolsRest vs

/-- Where the reader of a `Vec<bool>` stands. -/
inductive Expects where
  | array
  | firstElement
  | element
  | delimiter
  | nothing

/-- The elements that are read from here on. -/
def readBools : Expects → Bytes → Option (List Bool)
  | e, 0x20 :: text | e, 0x09 :: text | e, 0x0A :: text | e, 0x0D :: text => readBools e text
  | .array, 0x5B :: text => readBools .firstElement text
  | .firstElement, 0x5D :: text | .delimiter, 0x5D :: text => readBools .nothing text
  | .firstElement, 0x74 :: 0x72 :: 0x75 :: 0x65 :: text
  | .element, 0x74 :: 0x72 :: 0x75 :: 0x65 :: text => (readBools .delimiter text).map (true :: ·)
  | .firstElement, 0x66 :: 0x61 :: 0x6C :: 0x73 :: 0x65 :: text
  | .element, 0x66 :: 0x61 :: 0x6C :: 0x73 :: 0x65 :: text =>
    (readBools .delimiter text).map (false :: ·)
  | .delimiter, 0x2C :: text => readBools .element text
  | .nothing, [] => some []
  | _, _ => none

theorem readBools_boolsRest (vs : List Bool) : readBools .delimiter (boolsRest vs) = some vs := by
  induction vs with
  | nil => rfl
  | cons v vs ih =>
    have helement : readBools .delimiter (boolsRest (v :: vs)) =
        (readBools .delimiter (boolsRest vs)).map (v :: ·) := by
      cases v <;> rfl
    rw [helement, ih]
    rfl

/-- An array of booleans is read back as it was written. -/
theorem readBools_boolsText (vs : List Bool) : readBools .array (boolsText vs) = some vs := by
  rcases vs with _ | ⟨v, vs⟩
  · rfl
  · have helement : readBools .array (boolsText (v :: vs)) =
        (readBools .delimiter (boolsRest vs)).map (v :: ·) := by
      cases v <;> rfl
    rw [helement, readBools_boolsRest]
    rfl

theorem length_le_boolsText (vs : List Bool) : vs.length ≤ (boolsText vs).length := by
  have hrest : ∀ vs : List Bool, vs.length ≤ (boolsRest vs).length := by
    intro vs
    induction vs with
    | nil => exact Nat.zero_le _
    | cons v vs ih => simp only [boolsRest, List.length_append, List.length_cons]; omega
  rcases vs with _ | ⟨v, vs⟩
  · exact Nat.zero_le _
  · have := hrest vs
    simp only [boolsText, List.length_append, List.length_cons]
    omega

end SerdeJson
