import Mathlib.Data.List.Nodup
import Mathlib.Data.List.Infix

/-!
# Names made of words

Names that are put together from parts can be told apart when the parts can be found again: at the
letters with which a word starts, or by an ending that no other kind of name has.
-/

set_option autoImplicit false

namespace UniqueDecoding

variable {α : Type*}

/-- A word whose first letter, and no other, is one with which words start. -/
def Hump (starts : α → Bool) : List α → Prop
  | [] => False
  | c :: cs => starts c = true ∧ ∀ x ∈ cs, starts x = false

variable {starts : α → Bool}

/-- Behind the first letter of a hump comes its rest, up to the next hump. -/
theorem takeWhile_flatten {cs : List α} {ws : List (List α)} (hcs : ∀ x ∈ cs, starts x = false)
    (hws : ∀ w ∈ ws, Hump starts w) :
    (cs ++ ws.flatten).takeWhile (fun x ↦ !starts x) = cs ∧
      (cs ++ ws.flatten).dropWhile (fun x ↦ !starts x) = ws.flatten := by
  induction cs with
  | nil =>
    rcases ws with _ | ⟨_ | ⟨c, cs⟩, ws⟩
    · exact ⟨rfl, rfl⟩
    · exact (hws _ List.mem_cons_self).elim
    · obtain ⟨hc, -⟩ := hws _ List.mem_cons_self
      simp [hc]
  | cons c cs ih =>
    have hc := hcs c List.mem_cons_self
    obtain ⟨htake, hdrop⟩ := ih fun x hx ↦ hcs x (List.mem_cons_of_mem c hx)
    simp [hc, htake, hdrop]

/-- **Words are found again** at their first letters. -/
theorem flatten_injective {ws ws' : List (List α)} (h : ∀ w ∈ ws, Hump starts w)
    (h' : ∀ w ∈ ws', Hump starts w) (he : ws.flatten = ws'.flatten) : ws = ws' := by
  induction ws generalizing ws' with
  | nil =>
    rcases ws' with _ | ⟨_ | ⟨c, cs⟩, ws'⟩
    · rfl
    · exact (h' _ List.mem_cons_self).elim
    · cases he
  | cons w ws ih =>
    rcases w with _ | ⟨c, cs⟩
    · exact (h _ List.mem_cons_self).elim
    rcases ws' with _ | ⟨_ | ⟨c', cs'⟩, ws'⟩
    · cases he
    · exact (h' _ List.mem_cons_self).elim
    obtain ⟨-, hcs⟩ := h _ List.mem_cons_self
    obtain ⟨-, hcs'⟩ := h' _ List.mem_cons_self
    obtain ⟨rfl, hrest⟩ := List.cons_eq_cons.mp he
    obtain ⟨htake, hdrop⟩ := takeWhile_flatten hcs fun w hw ↦ h w (List.mem_cons_of_mem _ hw)
    obtain ⟨htake', hdrop'⟩ := takeWhile_flatten hcs' fun w hw ↦ h' w (List.mem_cons_of_mem _ hw)
    replace hrest : cs ++ ws.flatten = cs' ++ ws'.flatten := hrest
    rw [hrest] at htake hdrop
    rw [htake.symm.trans htake', ih (fun w hw ↦ h w (List.mem_cons_of_mem _ hw))
      (fun w hw ↦ h' w (List.mem_cons_of_mem _ hw)) (hdrop.symm.trans hdrop')]

/-- Neither of two endings ends with the other one. -/
def Incomparable (s t : List α) : Prop := ¬ s <:+ t ∧ ¬ t <:+ s

instance [DecidableEq α] : DecidableRel (Incomparable (α := α)) :=
  fun _ _ ↦ inferInstanceAs (Decidable (_ ∧ _))

/-- **Kinds of names are told apart by their endings.**  Each kind has an ending and a list of
names. -/
theorem nodup_endings_iff {kinds : List (List α × List (List α))}
    (h : kinds.Pairwise fun k l ↦ Incomparable k.1 l.1) :
    (kinds.flatMap fun k ↦ k.2.map (· ++ k.1)).Nodup ↔ ∀ k ∈ kinds, k.2.Nodup := by
  rw [List.nodup_flatMap]
  have hmap : ∀ k : List α × List (List α), (k.2.map (· ++ k.1)).Nodup ↔ k.2.Nodup := fun k ↦
    List.nodup_map_iff fun a b hab ↦ List.append_cancel_right hab
  simp only [hmap]
  refine and_iff_left (h.imp fun hne a ha hb ↦ ?_)
  obtain ⟨b, -, rfl⟩ := List.mem_map.mp ha
  obtain ⟨c, -, hc⟩ := List.mem_map.mp hb
  rcases List.suffix_or_suffix_of_suffix ⟨b, rfl⟩ ⟨c, hc⟩ with hs | hs
  · exact hne.1 hs
  · exact hne.2 hs

end UniqueDecoding
