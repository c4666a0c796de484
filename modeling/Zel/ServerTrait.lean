import Zel.TypeNames

/-!
# The functions of the server trait

The generated server trait has the functions of the user's trait with more inputs: a context, and
the handles of the kind of the function (`render_server_trait` in `render/server.rs`).  They are put
in by position, the context as the second input, whatever the first one is; and the macro panics
if there is none.

## What is here

* `Description.serverInputs` — the inputs of a rendered function.
* `ServiceDescription.renderServerTrait` — those of all functions.
* `serverInputs_isSome_iff`, `renderServerTrait_isSome_iff` — **when the macro does not panic.**
-/

set_option autoImplicit false

namespace Zel

/-- `Punctuated::insert`, which panics if the index is too large. -/
def insertInput (i : Nat) (arg : FnArg) (inputs : List FnArg) : Option (List FnArg) :=
  if i ≤ inputs.length then some (inputs.insertIdx i arg) else none

/-- `ctx: zel_core::protocol::RequestContext` -/
def ctxParam : FnArg :=
  .typed (.ident "ctx") (.path ["zel_core", "protocol"] "RequestContext" .none)

/-- `send: iroh::endpoint::SendStream` -/
def sendParam : FnArg := .typed (.ident "send") (.path ["iroh", "endpoint"] "SendStream" .none)

/-- `recv: iroh::endpoint::RecvStream` -/
def recvParam : FnArg := .typed (.ident "recv") (.path ["iroh", "endpoint"] "RecvStream" .none)

section ServerTrait

variable (toUppercase : Char → List Char) (traitIdent : String)

/-- `sink: #sink_type` -/
def sinkParam (ident : String) : FnArg :=
  .typed (.ident "sink") (.name (generateTypedName toUppercase traitIdent ident "Sink"))

/-- `receiver: #receiver_type` -/
def receiverParam (ident : String) : FnArg :=
  .typed (.ident "receiver") (.name (generateTypedName toUppercase traitIdent ident "Receiver"))

/-- The inputs of the function in the server trait. -/
def Description.serverInputs : Description → Option (List FnArg)
  | .method m => insertInput 1 ctxParam m.signature.sig.inputs
  | .subscription s =>
    (insertInput 1 ctxParam s.signature.sig.inputs).bind
      (insertInput 2 (sinkParam toUppercase traitIdent s.signature.sig.ident))
  | .notification n =>
    (insertInput 1 ctxParam n.signature.sig.inputs).bind
      (insertInput 2 (receiverParam toUppercase traitIdent n.signature.sig.ident))
  | .stream s =>
    ((insertInput 1 ctxParam s.signature.sig.inputs).bind (insertInput 2 sendParam)).bind
      (insertInput 3 recvParam)

/-- `render_server_trait`, as far as the inputs go. -/
def ServiceDescription.renderServerTrait (d : ServiceDescription) : Option (List (List FnArg)) :=
  d.descriptions.mapM (Description.serverInputs toUppercase d.traitIdent)

/-- Only a function without inputs is in the way. -/
theorem serverInputs_isSome_iff (e : Description) :
    (e.serverInputs toUppercase traitIdent).isSome = true ↔ e.signature.sig.inputs ≠ [] := by
  rcases e with m | s | n | s <;> simp only [Description.serverInputs, Description.signature]
  · rcases m.signature.sig.inputs with _ | ⟨a, rest⟩ <;> simp [insertInput]
  · rcases s.signature.sig.inputs with _ | ⟨a, rest⟩ <;> simp [insertInput]
  · rcases n.signature.sig.inputs with _ | ⟨a, rest⟩ <;> simp [insertInput]
  · rcases s.signature.sig.inputs with _ | ⟨a, rest⟩ <;> simp [insertInput]

/-- **When the macro does not panic.** -/
theorem renderServerTrait_isSome_iff (d : ServiceDescription) :
    (d.renderServerTrait toUppercase).isSome = true ↔
      ∀ e ∈ d.descriptions, e.signature.sig.inputs ≠ [] := by
  simp only [← serverInputs_isSome_iff toUppercase d.traitIdent]
  rw [ServiceDescription.renderServerTrait]
  induction d.descriptions with
  | nil => simp
  | cons e es ih =>
    rw [List.mapM_cons, List.forall_mem_cons, ← ih]
    rcases e.serverInputs toUppercase d.traitIdent with _ | inputs
    · simp
    · rcases es.mapM (Description.serverInputs toUppercase d.traitIdent) with _ | rest <;> simp

end ServerTrait

end Zel
