import Mathlib.Algebra.Ring.Nat
import Zel.Lib.Json

/-!
# JSON texts: their length and their nesting

The text that `serde_json` writes for a tree is compact: no blanks, the shortest escapes, numbers in
decimal.  Two things about it matter to those who send it in frames of bounded length and read it
back with a bounded stack: how many bytes it has and how deeply its arrays and objects are nested.

## What is here

* `Json.print` — the text, `Json.textLength` — its length in UTF-8.
* `Json.nesting` — the number of arrays and objects around the innermost value.
* `Json.asValue` — reading a value back as it is, which the reader's recursion limit can prevent.
* `le_textLength_ofBytes`, `textLength_ofBytes_le` — a byte string takes between two and four bytes
  for each of its own.
-/

set_option autoImplicit false

namespace Json

/-! ## The text -/

/-- One of the sixteen hexadecimal digits. -/
def hexDigit (n : Nat) : Char := Char.ofNat (if n < 10 then 48 + n else 87 + n)

/-- A character of a string. -/
def escape (c : Char) : List Char :=
  match c.toNat with
  | 8 => ['\\', 'b']
  | 9 => ['\\', 't']
  | 10 => ['\\', 'n']
  | 12 => ['\\', 'f']
  | 13 => ['\\', 'r']
  | 34 => ['\\', Char.ofNat 34]
  | 92 => ['\\', '\\']
  | n => if n < 32 then ['\\', 'u', '0', '0', hexDigit (n / 16), hexDigit (n % 16)] else [c]

/-- A string in quotes. -/
def quote (s : String) : List Char :=
  Char.ofNat 34 :: s.toList.flatMap escape ++ [Char.ofNat 34]

mutual

/-- The compact text of a value. -/
def print : Json → List Char
  | .null => ['n', 'u', 'l', 'l']
  | .bool true => ['t', 'r', 'u', 'e']
  | .bool false => ['f', 'a', 'l', 's', 'e']
  | .number n => (toString n).toList
  | .string s => quote s
  | .array xs => '[' :: printElements xs ++ [']']
  | .object fields => '{' :: printFields fields ++ ['}']

/-- The elements of an array, with commas in between. -/
def printElements : List Json → List Char
  | [] => []
  | [x] => print x
  | x :: y :: xs => print x ++ ',' :: printElements (y :: xs)

/-- The fields of an object, with commas in between. -/
def printFields : List (String × Json) → List Char
  | [] => []
  | [(name, v)] => quote name ++ ':' :: print v
  | (name, v) :: f :: fs => quote name ++ ':' :: print v ++ ',' :: printFields (f :: fs)

end

/-- The number of bytes of a text. -/
def byteLength (text : List Char) : Nat := (text.map Char.utf8Size).sum

/-- The number of bytes that the value takes. -/
def textLength (j : Json) : Nat := byteLength j.print

mutual

/-- How many arrays and objects lie around the innermost value. -/
def nesting : Json → Nat
  | .array xs => nestingElements xs + 1
  | .object fields => nestingFields fields + 1
  | _ => 0

/-- The deepest element. -/
def nestingElements : List Json → Nat
  | [] => 0
  | x :: xs => max x.nesting (nestingElements xs)

/-- The deepest field. -/
def nestingFields : List (String × Json) → Nat
  | [] => 0
  | (_, v) :: fs => max v.nesting (nestingFields fs)

end

/-- The reader gives up on the 128th array or object that is open at a time. -/
def recursionLimit : Nat := 128

/-- A `Value` is read back as it is, behind `depth` open arrays and objects.  Its objects have each
key once, so none of their fields is overwritten. -/
def asValue (depth : Nat) (v : Json) : Option Json :=
  if depth + v.nesting < recursionLimit then some v else none

/-- An `Option<Value>`: `null` is `None`, whatever was meant by it. -/
def asOptionalValue (depth : Nat) : Json → Option (Option Json)
  | .null => some none
  | v => (asValue depth v).map some

/-! ## Byte strings -/

@[simp] theorem byteLength_append (a b : List Char) :
    byteLength (a ++ b) = byteLength a + byteLength b := by
  simp [byteLength]

@[simp] theorem byteLength_cons (c : Char) (a : List Char) :
    byteLength (c :: a) = c.utf8Size + byteLength a := by
  simp [byteLength]

@[simp] theorem byteLength_nil : byteLength [] = 0 := rfl

theorem textLength_array (xs : List Json) :
    (Json.array xs).textLength = byteLength (printElements xs) + 2 := by
  simp only [textLength, print, List.cons_append, byteLength_cons, byteLength_append,
    byteLength_nil]
  have hopen : '['.utf8Size = 1 := by decide
  have hclose : ']'.utf8Size = 1 := by decide
  omega

/-- An object with one field: the key, the value, a colon and the braces. -/
theorem textLength_field (name : String) (v : Json) :
    (Json.object [(name, v)]).textLength = byteLength (quote name) + v.textLength + 3 := by
  have hopen : '{'.utf8Size = 1 := by decide
  have hclose : '}'.utf8Size = 1 := by decide
  have hcolon : ':'.utf8Size = 1 := by decide
  simp only [textLength, print, printFields, List.cons_append, byteLength_cons,
    byteLength_append, byteLength_nil]
  omega

/-- A byte has one digit, two or three. -/
theorem textLength_byte (x : UInt8) :
    1 ≤ (Json.number x.toNat).textLength ∧ (Json.number x.toNat).textLength ≤ 3 := by
  have key : ∀ n : Fin 256, 1 ≤ (Json.number (n.val : Nat)).textLength ∧
      (Json.number (n.val : Nat)).textLength ≤ 3 := by decide +kernel
  exact key ⟨x.toNat, x.toNat_lt⟩

theorem byteLength_printElements_bytes (x : UInt8) (b : Bytes) :
    2 * b.length + 1 ≤ byteLength (printElements ((x :: b).map fun x ↦ .number x.toNat)) ∧
      byteLength (printElements ((x :: b).map fun x ↦ .number x.toNat)) ≤ 4 * b.length + 3 := by
  obtain ⟨h1, h3⟩ := textLength_byte x
  rw [textLength] at h1 h3
  induction b generalizing x with
  | nil => exact ⟨h1, h3⟩
  | cons y b ih =>
    obtain ⟨hy1, hy3⟩ := textLength_byte y
    obtain ⟨ihl, ihu⟩ := ih y hy1 hy3
    have hcomma : ','.utf8Size = 1 := by decide
    simp only [List.map_cons, printElements, byteLength_append, byteLength_cons,
      List.length_cons] at ihl ihu ⊢
    omega

/-- A byte string takes at least two bytes for each of its own. -/
theorem le_textLength_ofBytes (b : Bytes) : 2 * b.length + 1 ≤ (ofBytes b).textLength := by
  rw [ofBytes, textLength_array]
  cases b with
  | nil => simp [printElements]
  | cons x b =>
    have h := (byteLength_printElements_bytes x b).1
    rw [List.length_cons]
    omega

/-- A byte string takes at most four bytes for each of its own, and the brackets. -/
theorem textLength_ofBytes_le (b : Bytes) : (ofBytes b).textLength ≤ 4 * b.length + 2 := by
  rw [ofBytes, textLength_array]
  cases b with
  | nil => simp [printElements]
  | cons x b =>
    have h := (byteLength_printElements_bytes x b).2
    rw [List.length_cons]
    omega

example : (Json.object [("a", .array [.number 10, .string "x"])]).textLength = 14 := by decide

end Json
