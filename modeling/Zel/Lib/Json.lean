import Mathlib.Data.List.Basic

/-!
# JSON values, and what serde's derive makes of them

`Json` is the tree that a JSON text stands for.  Numbers are integers.  The helpers below read a
tree the way the `Deserialize` implementations that serde derives do: a unit variant is its name, a
newtype or struct variant is an object with the variant's name as its only key, a struct is an
object that has each field once and possibly others, or an array of the fields in order.
-/

set_option autoImplicit false

/-- A JSON value. -/
inductive Json where
  | null
  | bool (b : Bool)
  | number (n : Int)
  | string (s : String)
  | array (xs : List Json)
  | object (fields : List (String × Json))

/-- A byte string, `bytes::Bytes` in Rust. -/
abbrev Bytes := List UInt8

namespace Json

/-- A string, and nothing else. -/
def asString : Json → Option String
  | .string s => some s
  | _ => none

/-- A number that fits a byte. -/
def asByte : Json → Option UInt8
  | .number n => if 0 ≤ n ∧ n < 256 then some (UInt8.ofNat n.toNat) else none
  | _ => none

/-- `Bytes` are written as an array of numbers. -/
def ofBytes (b : Bytes) : Json := .array (b.map fun x ↦ .number x.toNat)

/-- `Bytes` are read from an array of numbers, or from a string as its UTF-8 bytes. -/
def asBytes : Json → Option Bytes
  | .array xs => xs.mapM asByte
  | .string s => some s.toUTF8.toList
  | _ => none

/-- The value of a field, if the object has it exactly once. -/
def field (name : String) (fields : List (String × Json)) : Option Json :=
  match fields.filter fun f ↦ f.1 == name with
  | [f] => some f.2
  | _ => none

/-- The value of a field that may be missing; it must not be there twice. -/
def optionalField (name : String) (fields : List (String × Json)) : Option (Option Json) :=
  match fields.filter fun f ↦ f.1 == name with
  | [] => some none
  | [f] => some (some f.2)
  | _ => none

/-- The only field of a struct, read from an object by name or from an array by position. -/
def fields₁ (a : String) : Json → Option Json
  | .object fs => field a fs
  | .array [x] => some x
  | _ => none

/-- The two fields of a struct, read from an object by name or from an array by position. -/
def fields₂ (a b : String) : Json → Option (Json × Json)
  | .object fs => (field a fs).bind fun x ↦ (field b fs).map fun y ↦ (x, y)
  | .array [x, y] => some (x, y)
  | _ => none

/-- The three fields of a struct, read from an object by name or from an array by position. -/
def fields₃ (a b c : String) : Json → Option (Json × Json × Json)
  | .object fs => (field a fs).bind fun x ↦ (field b fs).bind fun y ↦
      (field c fs).map fun z ↦ (x, y, z)
  | .array [x, y, z] => some (x, y, z)
  | _ => none

@[simp] theorem asString_string (s : String) : (Json.string s).asString = some s := rfl

theorem asByte_number (x : UInt8) : (Json.number x.toNat).asByte = some x := by
  have h := x.toNat_lt
  rw [asByte, if_pos ⟨by omega, by omega⟩]
  simp

@[simp] theorem asBytes_ofBytes (b : Bytes) : (ofBytes b).asBytes = some b := by
  rw [ofBytes, asBytes]
  induction b with
  | nil => rfl
  | cons x b ih => simp [List.mapM_cons, asByte_number, ih]

end Json
