import Zel.Syntax

/-!
# The attributes of a service trait

`#[zel_service(..)]` stands on the trait, and one of `#[method(..)]`, `#[subscription(..)]`,
`#[notification(..)]` and `#[stream(..)]` on each of its functions (`attributes.rs`).  All five hold
pairs `key = value`, with commas that may as well be left out.  They differ in the keys for which
they read a value at all: where a key is unknown to `subscription` and `notification`, the value is
left standing, and is read as the next key.
-/

set_option autoImplicit false

namespace Zel

/-! ## Pairs -/

/-- What `Ident::parse` says of a token that is none. -/
def Token.notIdent : Token → String
  | .keyword name => "expected identifier, found keyword `" ++ name ++ "`"
  | .lit (.other text) =>
    if text ∈ ["true", "false"] then "expected identifier, found keyword `" ++ text ++ "`"
    else "expected identifier"
  | _ => "expected identifier"

/-- The loop of the five parsers.  `read key` says what becomes of the value that follows the key,
if a value is read for it. -/
def parsePairs {α : Type} (read : String → Option (α → Lit → Except SynError α)) (a : α) :
    List Token → Except SynError α
  | [] => .ok a
  | .ident key :: .eq :: rest =>
    match read key, rest with
    | none, .comma :: rest => parsePairs read a rest
    | none, rest => parsePairs read a rest
    | some f, .lit value :: .comma :: rest => (f a value).bind fun a ↦ parsePairs read a rest
    | some f, .lit value :: rest => (f a value).bind fun a ↦ parsePairs read a rest
    | some _, rest => .error (.newAt rest "expected literal")
  | .ident _ :: rest => .error (.newAt rest "expected `=`")
  | token :: _ => .error (.message token.notIdent)

/-- `name.ok_or_else(..)`, at the end of the input. -/
def requireName (name : Option String) : Except SynError String :=
  match name with
  | some name => .ok name
  | none => .error (.newAt [] "Missing 'name' attribute")

/-- A string, or else what was there before. -/
def Lit.orElse : Lit → Option String → Option String
  | .str value, _ => some value
  | .other _, before => before

/-! ## The service -/

/-- `ServiceAttr` -/
structure ServiceAttr where
  name : String

/-- `ServiceAttr::parse` -/
def ServiceAttr.parse (tokens : List Token) : Except SynError ServiceAttr := do
  let name ← parsePairs (fun key ↦ some fun name value ↦
    if key = "name" then
      match value with
      | .str s => .ok (some s)
      | .other _ => .error (.message "Expected string literal for name")
    else .ok name) none tokens
  return ⟨← requireName name⟩

/-! ## The functions -/

/-- The parsers that want a name only. -/
def parseName (tokens : List Token) : Except SynError String := do
  let name ← parsePairs (fun key ↦ some fun name value ↦
    .ok (if key = "name" then value.orElse name else name)) none tokens
  requireName name

/-- The parsers that want a name and maybe the type of an item, which `syn::parse_str` reads. -/
def parseNameAndItem (parseType : String → Except SynError SynType) (tokens : List Token) :
    Except SynError (String × Option SynType) := do
  let (name, item) ← parsePairs (fun key ↦
    if key = "name" then some fun (name, item) value ↦ .ok (value.orElse name, item)
    else if key = "item" then some fun (name, item) value ↦
      match value with
      | .str s => (parseType s).map fun ty ↦ (name, some ty)
      | .other _ => .ok (name, item)
    else none) (none, none) tokens
  return (← requireName name, item)

/-- `MethodAttr` -/
structure MethodAttr where
  name : String

/-- `SubscriptionAttr` -/
structure SubscriptionAttr where
  name : String
  item : Option SynType

/-- `NotificationAttr` -/
structure NotificationAttr where
  name : String
  item : Option SynType

/-- `StreamAttr` -/
structure StreamAttr where
  name : String

/-- `MethodAttrParser::parse` -/
def MethodAttr.parse (tokens : List Token) : Except SynError MethodAttr :=
  (parseName tokens).map MethodAttr.mk

/-- `SubscriptionAttrParser::parse` -/
def SubscriptionAttr.parse (parseType : String → Except SynError SynType) (tokens : List Token) :
    Except SynError SubscriptionAttr :=
  (parseNameAndItem parseType tokens).map fun (name, item) ↦ ⟨name, item⟩

/-- `NotificationAttrParser::parse` -/
def NotificationAttr.parse (parseType : String → Except SynError SynType) (tokens : List Token) :
    Except SynError NotificationAttr :=
  (parseNameAndItem parseType tokens).map fun (name, item) ↦ ⟨name, item⟩

/-- `StreamAttrParser::parse` -/
def StreamAttr.parse (tokens : List Token) : Except SynError StreamAttr :=
  (parseName tokens).map StreamAttr.mk

/-! ## Looking for an attribute -/

/-- An outer attribute with this path, as the errors show it. -/
def AttributePath.display (p : AttributePath) : String :=
  "#[" ++ (if p.leadingColon then "::" else "") ++ "::".intercalate p.segments ++ "(...)]"

/-- `Attribute::parse_args` -/
def Attribute.parseArgs {α : Type} (parse : List Token → Except SynError α) (attr : Attribute) :
    Except SynError α :=
  match attr.content with
  | .list tokens => parse tokens
  | .path =>
    .error (.message ("expected attribute arguments in parentheses: " ++ attr.path.display))
  | .nameValue _ => .error (.message ("expected parentheses: " ++ attr.path.display))

/-- The first attribute of this name. -/
def parseAttr {α : Type} (ident : String) (parse : List Token → Except SynError α) :
    List Attribute → Except SynError (Option α)
  | [] => .ok none
  | attr :: attrs =>
    if attr.path.isIdent ident then (attr.parseArgs parse).map some
    else parseAttr ident parse attrs

/-- `parse_method_attr` -/
def parseMethodAttr (attrs : List Attribute) : Except SynError (Option MethodAttr) :=
  parseAttr "method" MethodAttr.parse attrs

/-- `parse_subscription_attr` -/
def parseSubscriptionAttr (parseType : String → Except SynError SynType) (attrs : List Attribute) :
    Except SynError (Option SubscriptionAttr) :=
  parseAttr "subscription" (SubscriptionAttr.parse parseType) attrs

/-- `parse_notification_attr` -/
def parseNotificationAttr (parseType : String → Except SynError SynType) (attrs : List Attribute) :
    Except SynError (Option NotificationAttr) :=
  parseAttr "notification" (NotificationAttr.parse parseType) attrs

/-- `parse_stream_attr` -/
def parseStreamAttr (attrs : List Attribute) : Except SynError (Option StreamAttr) :=
  parseAttr "stream" StreamAttr.parse attrs

/-- `#[ident(name = "rpc_name")]` -/
def Attribute.named (ident rpcName : String) : Attribute :=
  ⟨⟨false, [ident]⟩, .list [.ident "name", .eq, .lit (.str rpcName)]⟩

end Zel
