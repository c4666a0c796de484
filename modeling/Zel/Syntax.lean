/-!
# Rust syntax

What `zel_macros` reads of a service trait, after `syn` has parsed it: types, attributes with the
tokens between their parentheses, and the items of a trait.  The names are `syn`'s.

A path is kept as its last segment and the segments in front of it, as they are written; nothing in
the macros looks at the latter.  Raw identifiers (`r#type`) are left out.
-/

set_option autoImplicit false

namespace Zel

/-! ## Types -/

mutual

/-- `syn::Type` -/
inductive SynType where
  /-- `Type::Path`: what is in front of the last segment, and the last segment. -/
  | path (qualifier : List String) (ident : String) (arguments : PathArguments)
  | paren (elem : SynType)
  /-- A type between invisible delimiters, as a macro hands it on. -/
  | group (elem : SynType)
  /-- Any other form (a tuple, a reference, a slice and so on), with the types in it. -/
  | other (form : String) (elems : List SynType)

/-- `syn::PathArguments` -/
inductive PathArguments where
  | none
  | angleBracketed (args : List GenericArgument)
  /-- `(A, B) -> C`; the output is the empty tuple if it is not written. -/
  | parenthesized (inputs : List SynType) (output : SynType)

/-- `syn::GenericArgument` -/
inductive GenericArgument where
  | lifetime (name : String)
  | type (ty : SynType)
  /-- A constant, an associated type or a constraint. -/
  | other (text : String)

end

namespace SynType

/-- `()` -/
def unit : SynType := .other "()" []

/-- A name without generic arguments. -/
def name (ident : String) : SynType := .path [] ident .none

end SynType

/-! ## Signatures -/

/-- `syn::Pat` -/
inductive Pat where
  | ident (name : String)
  | other (text : String)

/-- `syn::FnArg` -/
inductive FnArg where
  | receiver
  | typed (pat : Pat) (ty : SynType)

/-- `syn::Signature` -/
structure Signature where
  ident : String
  asyncness : Bool
  inputs : List FnArg
  /-- `ReturnType`; `none` is `ReturnType::Default`. -/
  output : Option SynType

/-! ## Attributes -/

/-- `syn::Lit` -/
inductive Lit where
  | str (value : String)
  | other (text : String)
  deriving DecidableEq

/-- A token of an attribute.  The keywords `true` and `false` are literals. -/
inductive Token where
  | ident (name : String)
  | keyword (name : String)
  | eq
  | comma
  | lit (value : Lit)
  | other (text : String)
  deriving DecidableEq

/-- `syn::Path` of an attribute, which has no generic arguments. -/
structure AttributePath where
  leadingColon : Bool
  segments : List String
  deriving DecidableEq

/-- `Path::is_ident` -/
def AttributePath.isIdent (p : AttributePath) (ident : String) : Bool :=
  !p.leadingColon && p.segments == [ident]

/-- `syn::Meta`, without its path. -/
inductive AttributeMeta where
  | path
  | list (tokens : List Token)
  | nameValue (text : String)
  deriving DecidableEq

/-- `syn::Attribute` -/
structure Attribute where
  path : AttributePath
  content : AttributeMeta
  deriving DecidableEq

/-! ## Traits -/

/-- `syn::TraitItemFn` -/
structure TraitItemFn where
  attrs : List Attribute
  sig : Signature

/-- `syn::TraitItem` -/
inductive TraitItem where
  | const (ident : String)
  | fn (method : TraitItemFn)
  | type (ident : String)
  /-- `Macro` and `Verbatim`. -/
  | other (text : String)

/-- The function, if the item is one. -/
def TraitItem.fn? : TraitItem → Option TraitItemFn
  | .fn method => some method
  | _ => none

/-- `syn::ItemTrait`, of a trait that Rust accepts. -/
structure ItemTrait where
  ident : String
  items : List TraitItem
  /-- No two functions of a trait have the same name. -/
  nodup : ((items.filterMap TraitItem.fn?).map fun f ↦ f.sig.ident).Nodup

/-- The functions of the trait. -/
def ItemTrait.functions (t : ItemTrait) : List TraitItemFn := t.items.filterMap TraitItem.fn?

/-! ## Errors -/

/-- `syn::Error`, by its text. -/
inductive SynError where
  | message (text : String)
  deriving DecidableEq

/-- `ParseStream::error` and the parsers of `syn`, in front of these tokens: the end of the input is
mentioned. -/
def SynError.newAt (tokens : List Token) (text : String) : SynError :=
  if tokens.isEmpty then .message ("unexpected end of input, " ++ text) else .message text

end Zel
