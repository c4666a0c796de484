import Zel.Syntax

/-!
# The return type of a method

The generated server peels the declared return type with the `?` operator, so what it sends is a
value of the success type that Rust finds behind the declared type.  The generated client decodes
what `extract_return_type` (`helpers.rs`) makes of the tokens: the first argument of a last segment
that is called `Result`, and the declared type itself in every other case.  Rust resolves aliases,
the macro does not.

## What is here

* `Ty`, `Env`, `SynType.resolve` — what a written type means, given the meaning of its names.
* `Alias`, `Env.ofAliases` — the meanings that type aliases give to names.
* `extractReturnType` — what the client decodes.
* `client_decodes_success_iff` — **when the client decodes what the server sends.**
-/

set_option autoImplicit false

namespace Zel

/-! ## What a written type means -/

/-- A type after name resolution. -/
inductive Ty where
  /-- The standard library's `Result`. -/
  | result (success error : Ty)
  /-- Any other type constructor, or a lifetime or a constant, by its name. -/
  | con (head : List String) (args : List Ty)

/-- The meaning of every name: the type it stands for, given its arguments.  There is none where
Rust reports an error. -/
abbrev Env := List String → String → List Ty → Option Ty

mutual

/-- The type that is written. -/
def SynType.resolve (env : Env) : SynType → Option Ty
  | .path qualifier ident arguments => (arguments.resolve env).bind (env qualifier ident)
  | .paren elem | .group elem => elem.resolve env
  | .other form elems => (SynType.resolveAll env elems).map (.con [form])

def SynType.resolveAll (env : Env) : List SynType → Option (List Ty)
  | [] => some []
  | t :: ts => (t.resolve env).bind fun ty ↦ (SynType.resolveAll env ts).map (ty :: ·)

def PathArguments.resolve (env : Env) : PathArguments → Option (List Ty)
  | .none => some []
  | .angleBracketed args => GenericArgument.resolveAll env args
  | .parenthesized inputs output =>
    (SynType.resolveAll env inputs).bind fun tys ↦
      (output.resolve env).map fun ty ↦ [.con ["()"] tys, ty]

def GenericArgument.resolve (env : Env) : GenericArgument → Option Ty
  | .lifetime name => env [] name []
  | .type ty => ty.resolve env
  | .other text => some (.con [text] [])

def GenericArgument.resolveAll (env : Env) : List GenericArgument → Option (List Ty)
  | [] => some []
  | a :: as => (a.resolve env).bind fun ty ↦ (GenericArgument.resolveAll env as).map (ty :: ·)

end

/-! ## Aliases -/

/-- `type ident<params> = body;` -/
structure Alias where
  qualifier : List String
  ident : String
  /-- The generic parameters, some with a default. -/
  params : List (String × Option SynType)
  body : SynType

namespace Env

/-- The paths of the standard library's `Result`. -/
def stdResult : List (List String × String) :=
  [([], "Result"), (["std", "result"], "Result"), (["core", "result"], "Result")]

/-- Without any alias a name stands for itself. -/
def std : Env := fun qualifier ident args ↦
  if (qualifier, ident) ∈ stdResult then
    match args with
    | [success, error] => some (.result success error)
    | _ => none
  else some (.con (qualifier ++ [ident]) args)

/-- Inside an alias its parameters stand for the arguments. -/
def withBindings (env : Env) (bindings : List (String × Ty)) : Env := fun qualifier ident args ↦
  match qualifier, args, bindings.lookup ident with
  | [], [], some ty => some ty
  | _, _, _ => env qualifier ident args

/-- The parameters get the arguments, and then their defaults. -/
def bindParams (env : Env) : List (String × Option SynType) → List Ty → List (String × Ty) →
    Option (List (String × Ty))
  | [], [], bindings => some bindings
  | [], _ :: _, _ => none
  | (param, _) :: params, ty :: args, bindings =>
    env.bindParams params args ((param, ty) :: bindings)
  | (param, some default) :: params, [], bindings =>
    (default.resolve (env.withBindings bindings)).bind fun ty ↦
      env.bindParams params [] ((param, ty) :: bindings)
  | (_, none) :: _, [], _ => none

/-- One more alias, whose body uses the names that exist already. -/
def withAlias (env : Env) (a : Alias) : Env := fun qualifier ident args ↦
  if (qualifier, ident) = (a.qualifier, a.ident) then
    (env.bindParams a.params args []).bind fun bindings ↦ a.body.resolve (env.withBindings bindings)
  else env qualifier ident args

/-- The names of a program with these aliases, each after those that its body uses. -/
def ofAliases (aliases : List Alias) : Env := aliases.foldl withAlias std

end Env

/-! ## Both sides -/

/-- `extract_return_type` -/
def extractReturnType (sig : Signature) : Option SynType :=
  match sig.output with
  | none => none
  | some ty =>
    match ty with
    | .path _ ident arguments =>
      if ident = "Result" then
        match arguments with
        | .angleBracketed (.type inner :: _) => some inner
        | _ => some ty
      else some ty
    | _ => some ty

namespace Signature

/-- The type of the value that the function returns. -/
def declaredType (sig : Signature) : SynType := sig.output.getD .unit

/-- The type that the generated client decodes a response as (`render_client_method`). -/
def clientDecodes (sig : Signature) : SynType := (extractReturnType sig).getD .unit

/-- The type of the value that the generated server sends: what `?` leaves of the declared type
(`render_method_registration`).  There is none if the generated code does not compile. -/
def serverSends (env : Env) (sig : Signature) : Option Ty :=
  match sig.declaredType.resolve env with
  | some (.result success _) => some success
  | _ => none

end Signature

/-! ## When they agree -/

/-- The return type is written `Result<X, ..>`, behind any path, and `X` is the success type. -/
def SynType.WritesOut (env : Env) (declared : SynType) (success : Ty) : Prop :=
  ∃ qualifier inner rest,
    declared = .path qualifier "Result" (.angleBracketed (.type inner :: rest)) ∧
      inner.resolve env = some success

/-- A result is larger than its success type. -/
theorem Ty.result_ne (success error : Ty) : Ty.result success error ≠ success := by
  intro h
  have hsize := congrArg sizeOf h
  rw [Ty.result.sizeOf_spec] at hsize
  omega

/-- The client decodes the written success type, or else the declared type as it is. -/
theorem clientDecodes_cases (sig : Signature) :
    (∃ qualifier inner rest,
      sig.declaredType = .path qualifier "Result" (.angleBracketed (.type inner :: rest)) ∧
        sig.clientDecodes = inner) ∨
      sig.clientDecodes = sig.declaredType := by
  rw [Signature.clientDecodes, Signature.declaredType, extractReturnType]
  rcases sig.output with _ | ty
  · exact .inr rfl
  rcases ty with ⟨qualifier, ident, arguments⟩ | _ | _ | _
  · by_cases hident : ident = "Result"
    · subst hident
      rcases arguments with _ | (_ | ⟨_ | inner | _, rest⟩) | _
      · exact .inr rfl
      · exact .inr rfl
      · exact .inr rfl
      · exact .inl ⟨qualifier, inner, rest, rfl, rfl⟩
      · exact .inr rfl
      · exact .inr rfl
    · refine .inr ?_
      simp only [if_neg hident]
  · exact .inr rfl
  · exact .inr rfl
  · exact .inr rfl

/-- What a return type that is written out decodes to. -/
theorem clientDecodes_of_writesOut {env : Env} {sig : Signature} {success : Ty}
    (h : sig.declaredType.WritesOut env success) :
    sig.clientDecodes.resolve env = some success := by
  obtain ⟨qualifier, inner, rest, hdeclared, hinner⟩ := h
  obtain ⟨ident, asyncness, inputs, _ | ty⟩ := sig
  · cases hdeclared
  · rw [Signature.declaredType, Option.getD_some] at hdeclared
    subst hdeclared
    exact hinner

theorem serverSends_of_resolve {env : Env} {sig : Signature} {success error : Ty}
    (h : sig.declaredType.resolve env = some (.result success error)) :
    sig.serverSends env = some success := by
  rw [Signature.serverSends, h]

/-- The standard library's `Result`, with both arguments, is written out. -/
theorem writesOut_result {env : Env} {qualifier : List String} {inner e : SynType}
    {success error : Ty}
    (hstd : ∀ args, env qualifier "Result" args = Env.std qualifier "Result" args)
    (hq : (qualifier, "Result") ∈ Env.stdResult)
    (h : (SynType.path qualifier "Result" (.angleBracketed [.type inner, .type e])).resolve env =
      some (.result success error)) :
    (SynType.path qualifier "Result" (.angleBracketed [.type inner, .type e])).WritesOut env
      success := by
  refine ⟨qualifier, inner, [.type e], rfl, ?_⟩
  simp only [SynType.resolve, PathArguments.resolve, GenericArgument.resolveAll,
    GenericArgument.resolve, Option.bind_eq_some_iff, Option.map_eq_some_iff] at h
  obtain ⟨_, ⟨ty, hty, _, ⟨ty', -, _, hnil, rfl⟩, rfl⟩, hresult⟩ := h
  cases hnil
  rw [hstd, Env.std, if_pos hq, Option.some_inj, Ty.result.injEq] at hresult
  rw [hty, hresult.1]

/-- What the client decodes is the success type exactly if that is written out. -/
theorem clientDecodes_eq_iff {env : Env} {sig : Signature} {success error : Ty}
    (h : sig.declaredType.resolve env = some (.result success error)) :
    sig.clientDecodes.resolve env = some success ↔ sig.declaredType.WritesOut env success := by
  refine ⟨fun hdecodes ↦ ?_, clientDecodes_of_writesOut⟩
  rcases clientDecodes_cases sig with ⟨qualifier, inner, rest, hdeclared, hinner⟩ | hsame
  · exact ⟨qualifier, inner, rest, hdeclared, hinner ▸ hdecodes⟩
  · rw [hsame, h, Option.some_inj] at hdecodes
    exact absurd hdecodes (Ty.result_ne success error)

/-- **When the client decodes what the server sends.**  For a method whose declared type means a
`Result`, the client decodes what the server sends if and only if the return type is written out as
a path whose last segment is `Result<X, ..>`, in angle brackets, and `X` is the success type. -/
theorem client_decodes_success_iff (env : Env) (sig : Signature) (success error : Ty)
    (h : sig.declaredType.resolve env = some (.result success error)) :
    sig.clientDecodes.resolve env = sig.serverSends env ↔
      sig.declaredType.WritesOut env success := by
  rw [serverSends_of_resolve h]
  exact clientDecodes_eq_iff h

/-- `Result<i32, ResourceError>` -/
def i32Result : SynType :=
  .path [] "Result" (.angleBracketed [.type (.name "i32"), .type (.name "ResourceError")])

/-- `async fn get(&self) -> Result<i32, ResourceError>` -/
def getWritten : Signature := ⟨"get", true, [.receiver], some i32Result⟩

theorem client_decodes_written :
    getWritten.clientDecodes.resolve .std = getWritten.serverSends .std :=
  (client_decodes_success_iff .std getWritten (.con ["i32"] []) (.con ["ResourceError"] []) rfl).mpr
    (writesOut_result (fun _ ↦ rfl) (by decide) rfl)

/-- `type Reply = Result<i32, ResourceError>;` -/
def reply : Alias := ⟨[], "Reply", [], i32Result⟩

/-- `async fn get(&self) -> Reply` -/
def getReply : Signature := ⟨"get", true, [.receiver], some (.name "Reply")⟩

/-- **Behind an alias the client decodes the whole `Result`**, and the server sends a number. -/
theorem alias_decoded_whole :
    getReply.declaredType.resolve (.ofAliases [reply]) =
        some (.result (.con ["i32"] []) (.con ["ResourceError"] [])) ∧
      getReply.serverSends (.ofAliases [reply]) = some (.con ["i32"] []) ∧
      getReply.clientDecodes.resolve (.ofAliases [reply]) =
        some (.result (.con ["i32"] []) (.con ["ResourceError"] [])) ∧
      getReply.clientDecodes.resolve (.ofAliases [reply]) ≠
        getReply.serverSends (.ofAliases [reply]) := by
  have hdeclared : getReply.declaredType.resolve (.ofAliases [reply]) =
      some (.result (.con ["i32"] []) (.con ["ResourceError"] [])) := rfl
  have hsends := serverSends_of_resolve hdeclared
  refine ⟨hdeclared, hsends, rfl, fun h ↦ ?_⟩
  rw [hsends] at h
  exact Ty.noConfusion (Option.some_inj.mp h)

end Zel
