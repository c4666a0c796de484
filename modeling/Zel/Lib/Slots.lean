import Mathlib.Algebra.Ring.Nat
import Mathlib.Data.List.Basic

/-!
# Lists as tables of slots

The parties of a machine are kept in lists: a new party is appended, a step of party `i` sets slot
`i`, and nobody is ever removed, so an index names a party for good.  These are the facts about one
slot after such an update, about the number of slots with a given property, and about the sum of a
quantity over the slots.
-/

set_option autoImplicit false

namespace List

variable {α : Type*} {l : List α} {i j : Nat} {a b : α}

/-- After setting slot `i`, a slot is the new one or an old one. -/
theorem getElem?_set_cases (h : (l.set i a)[j]? = some b) :
    (j = i ∧ b = a) ∨ (j ≠ i ∧ l[j]? = some b) := by
  by_cases hij : i = j
  · subst hij
    have hi : i < l.length := by
      have := (List.getElem?_eq_some_iff.mp h).1
      simpa using this
    rw [List.getElem?_set_self hi, Option.some_inj] at h
    exact Or.inl ⟨rfl, h.symm⟩
  · rw [List.getElem?_set_ne hij] at h
    exact Or.inr ⟨Ne.symm hij, h⟩

/-- After appending a party, a slot is the new one or an old one. -/
theorem getElem?_concat_cases (h : (l ++ [a])[j]? = some b) :
    (j = l.length ∧ b = a) ∨ l[j]? = some b := by
  rcases Nat.lt_or_ge j l.length with hj | hj
  · rw [List.getElem?_append_left hj] at h
    exact Or.inr h
  · have hlen := (List.getElem?_eq_some_iff.mp h).1
    have hj' : j = l.length := by simp at hlen; omega
    subst hj'
    rw [List.getElem?_concat_length, Option.some_inj] at h
    exact Or.inl ⟨rfl, h.symm⟩

/-- The slot that a step sets is the one it was taken for. -/
theorem getElem?_set_of_some (h : l[i]? = some b) : (l.set i a)[i]? = some a :=
  List.getElem?_set_self (List.getElem?_eq_some_iff.mp h).1

/-- Setting one slot leaves a slot alone that has something else in it. -/
theorem getElem?_set_other {c : α} (hi : l[i]? = some b) (hj : l[j]? = some c) (hne : c ≠ b) :
    (l.set j a)[i]? = some b := by
  have hji : j ≠ i := by
    rintro rfl
    exact hne (Option.some.inj (hj.symm.trans hi))
  exact (List.getElem?_set_ne hji).trans hi

/-- Setting a slot within a property keeps the property of every slot. -/
theorem exists_getElem?_set {P : α → Prop} (h : l[j]? = some b) (hb : P b) (ha : P a) :
    ∃ c, (l.set i a)[j]? = some c ∧ P c := by
  by_cases hij : i = j
  · subst hij
    exact ⟨a, getElem?_set_of_some h, ha⟩
  · exact ⟨b, (List.getElem?_set_ne hij).trans h, hb⟩

/-- An old slot survives an append. -/
theorem getElem?_concat_of_some (h : l[i]? = some b) : (l ++ [a])[i]? = some b := by
  rw [List.getElem?_append_left (List.getElem?_eq_some_iff.mp h).1, h]

/-- What a slot counts for is replaced by what the new one counts for. -/
theorem countP_set_add {p : α → Bool} (h : l[i]? = some b) :
    (l.set i a).countP p + (p b).toNat = l.countP p + (p a).toNat := by
  obtain ⟨hi, hget⟩ := List.getElem?_eq_some_iff.mp h
  rw [List.countP_set hi, hget]
  cases hb : p b with
  | false => cases p a <;> rfl
  | true =>
    have hpos : 0 < l.countP p := List.countP_pos_iff.mpr ⟨b, hget ▸ List.getElem_mem hi, hb⟩
    cases p a <;> simp only [if_true, Bool.false_eq_true, if_false, Bool.toNat_true,
      Bool.toNat_false] <;> omega

/-- A sum over the slots, after one of them is set. -/
theorem sum_map_set_add (h : l[i]? = some b) (f : α → Nat) :
    ((l.set i a).map f).sum + f b = (l.map f).sum + f a := by
  induction l generalizing i with
  | nil => cases h
  | cons c l ih =>
    cases i with
    | zero =>
      obtain rfl : c = b := Option.some_inj.mp h
      simp only [List.set_cons_zero, List.map_cons, List.sum_cons]
      omega
    | succ i =>
      have hrest := ih (i := i) (by simpa using h)
      simp only [List.set_cons_succ, List.map_cons, List.sum_cons]
      omega

/-- Where a quantity exceeds another one by one for each slot with a property. -/
theorem sum_map_eq_add_countP {f g : α → Nat} {p : α → Bool}
    (h : ∀ a ∈ l, f a = g a + (p a).toNat) : (l.map f).sum = (l.map g).sum + l.countP p := by
  induction l with
  | nil => rfl
  | cons a l ih =>
    have hrest := ih fun b hb ↦ h b (List.mem_cons_of_mem a hb)
    have ha := h a List.mem_cons_self
    rw [List.map_cons, List.map_cons, List.sum_cons, List.sum_cons, List.countP_cons, ha, hrest]
    cases p a <;> simp <;> omega

/-- Where a quantity exceeds another one by at most `c` for each slot. -/
theorem sum_map_le_add {f g : α → Nat} {c : Nat} (h : ∀ a ∈ l, f a ≤ g a + c) :
    (l.map f).sum ≤ (l.map g).sum + c * l.length := by
  induction l with
  | nil => exact Nat.zero_le _
  | cons a l ih =>
    have hrest := ih fun b hb ↦ h b (List.mem_cons_of_mem a hb)
    have ha := h a List.mem_cons_self
    rw [List.map_cons, List.map_cons, List.sum_cons, List.sum_cons, List.length_cons,
      Nat.mul_succ]
    omega

/-- Moving slot `i` away from a property takes one from its count. -/
theorem countP_set_of_pos_neg {p : α → Bool} (h : l[i]? = some b) (hb : p b = true)
    (ha : p a = false) : (l.set i a).countP p + 1 = l.countP p := by
  simpa [hb, ha] using countP_set_add (p := p) (a := a) h

/-- Moving slot `i` within the complement of a property keeps its count. -/
theorem countP_set_of_neg_neg {p : α → Bool} (h : l[i]? = some b) (hb : p b = false)
    (ha : p a = false) : (l.set i a).countP p = l.countP p := by
  simpa [hb, ha] using countP_set_add (p := p) (a := a) h

/-- No slot has a property whose count is zero. -/
theorem countP_eq_zero_getElem? {p : α → Bool} (h : l.countP p = 0) (hi : l[i]? = some b) :
    p b = false := by
  have := List.countP_eq_zero.mp h b (List.mem_of_getElem? hi)
  simpa using this

/-- Two lists that agree on a property slot by slot have it equally often. -/
theorem countP_congr_getElem? {β : Type*} {p : α → Bool} {q : β → Bool} {m : List β}
    (hlen : l.length = m.length)
    (h : ∀ (i : Nat) (a : α) (b : β), l[i]? = some a → m[i]? = some b → p a = q b) :
    l.countP p = m.countP q := by
  induction l generalizing m with
  | nil =>
    obtain rfl : m = [] := List.length_eq_zero_iff.mp hlen.symm
    rfl
  | cons a l ih =>
    cases m with
    | nil => cases hlen
    | cons b m =>
      have hrest := ih (Nat.succ.inj hlen) fun i a' b' hi hi' ↦ h (i + 1) a' b' hi hi'
      rw [countP_cons, countP_cons, hrest, h 0 a b rfl rfl]

end List
