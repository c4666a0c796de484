import Zel.Lib.Except
import Zel.ServerTrait

/-!
# What the service macro accepts

The parsers of the attributes (`attributes.rs`) are loops over the tokens between the parentheses,
and `ServiceDescription::from_item` (`service.rs`) is a loop over the items of the trait.  This
module says which attributes and which traits get through, without a word about the loops.  A trait
that gets through both can still make the macro panic: `render` puts inputs behind the first one of
each function, and there may be none.

A list of pairs `key = value` may have a comma behind each pair and needs none.  Of several values
for one key the last string counts, and other literals are passed over; only the attribute of the
trait insists on a string.  `subscription` and `notification` take a value for two keys, and a key
that they do not know must stand without one.

## What is here

* `Pair`, `parsePairs_eq_ok_iff` — the grammar of the pairs, for any of the parsers.
* `MarkerKind`, `Announces` — what an attribute of a function says.
* `Describes` — what the macro makes of a function.
* `zelService_eq_ok_iff` — **which traits the macro accepts**, and what it makes of them.
-/

set_option autoImplicit false

namespace Zel

/-! ## Pairs -/

/-- `key = value`, or a key for which no value is read, and perhaps a comma. -/
structure Pair where
  key : String
  value : Option Lit
  comma : Bool

namespace Pair

def tokens (p : Pair) : List Token :=
  .ident p.key :: .eq :: ((p.value.map Token.lit).toList ++ if p.comma then [.comma] else [])

variable {α : Type} (read : String → Option (α → Lit → Except SynError α))

/-- There is a value exactly if one is read. -/
def Fits (p : Pair) : Prop := p.value.isSome = (read p.key).isSome

/-- What the pair does. -/
def apply (a : α) (p : Pair) : Except SynError α :=
  match read p.key, p.value with
  | some f, some value => f a value
  | _, _ => .ok a

end Pair

variable {α : Type} {read : String → Option (α → Lit → Except SynError α)}

/-- A list of pairs does not begin with a comma. -/
theorem flatMap_tokens_ne_comma (ps : List Pair) (rest : List Token) :
    ps.flatMap Pair.tokens ≠ .comma :: rest := by
  cases ps with
  | nil => simp
  | cons p ps => simp [Pair.tokens]

/-- **One pair is read**, and the comma behind it. -/
theorem parsePairs_pair {p : Pair} (hp : p.Fits read) (a : α) (rest : List Token)
    (hrest : p.comma = false → ∀ rest', rest ≠ .comma :: rest') :
    parsePairs read a (p.tokens ++ rest) =
      (p.apply read a).bind fun a ↦ parsePairs read a rest := by
  obtain ⟨key, value, comma⟩ := p
  rw [Pair.Fits] at hp
  show parsePairs read a (.ident key :: .eq :: _) = _
  rw [parsePairs.eq_def]
  rcases hread : read key with _ | f <;> rcases value with _ | value <;> simp [hread] at hp
  · rcases comma with _ | _
    · simp only [Pair.apply, hread]
      rcases rest with _ | ⟨t, rest⟩
      · rfl
      · cases t with
        | comma => exact absurd rfl (hrest rfl rest)
        | _ => rfl
    · simp only [Pair.apply, hread]
      rfl
  · rcases comma with _ | _
    · simp only [Pair.apply, hread]
      rcases rest with _ | ⟨t, rest⟩
      · rfl
      · cases t with
        | comma => exact absurd rfl (hrest rfl rest)
        | _ => rfl
    · simp only [Pair.apply, hread]
      rfl

/-- Pairs are read one after the other. -/
theorem parsePairs_tokens (ps : List Pair) (hps : ∀ p ∈ ps, p.Fits read) (a : α) :
    parsePairs read a (ps.flatMap Pair.tokens) = ps.foldlM (Pair.apply read) a := by
  induction ps generalizing a with
  | nil => rfl
  | cons p ps ih =>
    rw [List.flatMap_cons, List.foldlM_cons,
      parsePairs_pair (hps p List.mem_cons_self) a _ fun _ ↦ flatMap_tokens_ne_comma ps]
    exact congrArg (Except.bind _) (funext (ih fun q hq ↦ hps q (List.mem_cons_of_mem p hq)))

/-- A first pair, and the pairs behind it. -/
theorem exists_pairs_cons {p : Pair} {rest : List Token} (hp : p.Fits read)
    (hps : ∃ ps : List Pair, (∀ p ∈ ps, p.Fits read) ∧ rest = ps.flatMap Pair.tokens) :
    ∃ ps : List Pair, (∀ p ∈ ps, p.Fits read) ∧ p.tokens ++ rest = ps.flatMap Pair.tokens := by
  obtain ⟨ps, hps, rfl⟩ := hps
  exact ⟨p :: ps, List.forall_mem_cons.mpr ⟨hp, hps⟩, rfl⟩

/-- A key without a value leaves everything as it was. -/
theorem Pair.apply_of_none {p : Pair} (h : p.value = none) (a : α) : p.apply read a = .ok a := by
  rw [apply, h]
  cases read p.key <;> rfl

/-- What is read is a list of pairs. -/
theorem exists_pairs {a b : α} {tokens : List Token} (h : parsePairs read a tokens = .ok b) :
    ∃ ps : List Pair, (∀ p ∈ ps, p.Fits read) ∧ tokens = ps.flatMap Pair.tokens := by
  induction a, tokens using parsePairs.induct read with
  | case1 => exact ⟨[], by simp, rfl⟩
  | case2 a key rest hread ih =>
    have hp : Pair.Fits read ⟨key, none, true⟩ := by simp [Pair.Fits, hread]
    have hrest := (parsePairs_pair hp a rest (by simp)).symm.trans h
    rw [Pair.apply_of_none rfl] at hrest
    exact exists_pairs_cons hp (ih hrest)
  | case3 a key rest hne hread ih =>
    have hp : Pair.Fits read ⟨key, none, false⟩ := by simp [Pair.Fits, hread]
    have hrest := (parsePairs_pair hp a rest fun _ rest' ↦ hne rest').symm.trans h
    rw [Pair.apply_of_none rfl] at hrest
    exact exists_pairs_cons hp (ih hrest)
  | case4 a key f value rest hread ih =>
    have hp : Pair.Fits read ⟨key, some value, true⟩ := by simp [Pair.Fits, hread]
    obtain ⟨c, -, hrest⟩ := Except.bind_eq_ok.mp
      ((parsePairs_pair hp a rest (by simp)).symm.trans h)
    exact exists_pairs_cons hp (ih c hrest)
  | case5 a key f value rest hne hread ih =>
    have hp : Pair.Fits read ⟨key, some value, false⟩ := by simp [Pair.Fits, hread]
    obtain ⟨c, -, hrest⟩ := Except.bind_eq_ok.mp
      ((parsePairs_pair hp a rest fun _ rest' ↦ hne rest').symm.trans h)
    exact exists_pairs_cons hp (ih c hrest)
  | case6 a key f rest _ hne hread =>
    -- no literal follows a key that wants one
    rw [parsePairs.eq_def] at h
    simp only [hread] at h
    rcases rest with _ | ⟨t, rest⟩
    · cases h
    · cases t with
      | lit value => exact absurd rfl (hne value rest)
      | _ => cases h
  | case7 a name tail hne =>
    -- the key is not followed by its sign
    rcases tail with _ | ⟨t, tail⟩
    · cases h
    · cases t with
      | eq => exact absurd rfl (hne tail)
      | _ => cases h
  | case8 a head tail _ hno =>
    cases head with
    | ident name => exact absurd rfl (hno name)
    | _ => cases h

/-- **The grammar of the pairs**, and what the loop makes of them. -/
theorem parsePairs_eq_ok_iff {a b : α} {tokens : List Token} :
    parsePairs read a tokens = .ok b ↔ ∃ ps : List Pair, (∀ p ∈ ps, p.Fits read) ∧
      tokens = ps.flatMap Pair.tokens ∧ ps.foldlM (Pair.apply read) a = .ok b := by
  constructor
  · intro h
    obtain ⟨ps, hps, rfl⟩ := exists_pairs h
    exact ⟨ps, hps, rfl, parsePairs_tokens ps hps a ▸ h⟩
  · rintro ⟨ps, hps, rfl, hfold⟩
    rw [parsePairs_tokens ps hps a, hfold]

/-! ## Names and items -/

/-- `LitStr::value`, of a string. -/
def Lit.str? : Lit → Option String
  | .str value => some value
  | .other _ => none

/-- The string under a key. -/
def Pair.string (key : String) (p : Pair) : Option String :=
  if p.key = key then p.value.bind Lit.str? else none

/-- The strings under a key, in order. -/
def strings (key : String) (ps : List Pair) : List String := ps.filterMap (Pair.string key)

theorem strings_cons (key : String) (p : Pair) (ps : List Pair) :
    strings key (p :: ps) = (p.string key).toList ++ strings key ps := by
  rw [strings, List.filterMap_cons]
  cases p.string key <;> rfl

/-- The last of a list, or else what was there before. -/
theorem getLast?_append_or {β : Type} (a : Option β) (l : List β) (before : Option β) :
    (a.toList ++ l).getLast?.or before = l.getLast?.or (a.or before) := by
  rw [List.getLast?_append]
  cases a with
  | none => rw [Option.toList_none, List.getLast?_nil, Option.or_none, Option.none_or]
  | some b => cases l.getLast? <;> rfl

theorem orElse_eq (value : Lit) (before : Option String) :
    value.orElse before = value.str?.or before := by
  cases value <;> rfl

/-- A reader of every pair that keeps the last string under `name`. -/
def readName (key : String) : Option (Option String → Lit → Except SynError (Option String)) :=
  some fun name value ↦ .ok (if key = "name" then value.orElse name else name)

/-- A reader of two keys. -/
def readNameAndItem (parseType : String → Except SynError SynType) (key : String) :
    Option (Option String × Option SynType → Lit →
      Except SynError (Option String × Option SynType)) :=
  if key = "name" then some fun (name, item) value ↦ .ok (value.orElse name, item)
  else if key = "item" then some fun (name, item) value ↦
    match value with
    | .str s => (parseType s).map fun ty ↦ (name, some ty)
    | .other _ => .ok (name, item)
  else none

theorem apply_readName {p : Pair} (hp : p.value.isSome = true) (name : Option String) :
    p.apply readName name = .ok ((p.string "name").or name) := by
  obtain ⟨key, _ | value, comma⟩ := p
  · cases hp
  · by_cases h : key = "name" <;> simp [Pair.apply, readName, Pair.string, h, orElse_eq]

theorem foldlM_readName {ps : List Pair} (hps : ∀ p ∈ ps, p.value.isSome = true)
    (name : Option String) :
    ps.foldlM (Pair.apply readName) name = .ok ((strings "name" ps).getLast?.or name) := by
  induction ps generalizing name with
  | nil => rfl
  | cons p ps ih =>
    rw [List.foldlM_cons, apply_readName (hps p List.mem_cons_self), strings_cons,
      getLast?_append_or]
    exact ih (fun q hq ↦ hps q (List.mem_cons_of_mem p hq)) _

variable {parseType : String → Except SynError SynType}

/-- A pair without an item keeps what there is, and sets the name. -/
theorem apply_of_item_none {p : Pair} (hp : p.Fits (readNameAndItem parseType))
    (h : p.string "item" = none) (name : Option String) (item : Option SynType) :
    p.apply (readNameAndItem parseType) (name, item) = .ok ((p.string "name").or name, item) := by
  obtain ⟨key, value, comma⟩ := p
  by_cases hname : key = "name"
  · subst hname
    rcases value with _ | value
    · rfl
    · simp [Pair.apply, readNameAndItem, Pair.string, orElse_eq]
  · by_cases hitem : key = "item"
    · subst hitem
      rcases value with _ | value | value
      · rfl
      · cases h
      · rfl
    · rw [Pair.Fits] at hp
      simp only [readNameAndItem, hname, hitem, if_false] at hp
      simp [Pair.apply, readNameAndItem, Pair.string, hname, hitem]

/-- A pair with an item sets it, if it is a type. -/
theorem apply_of_item_some {p : Pair} {s : String} (h : p.string "item" = some s)
    (name : Option String) (item : Option SynType) :
    p.string "name" = none ∧ p.apply (readNameAndItem parseType) (name, item) =
      (parseType s).map fun ty ↦ (name, some ty) := by
  obtain ⟨key, _ | value | value, comma⟩ := p
  · simp [Pair.string] at h
  · rw [Pair.string] at h
    split at h
    · rename_i hkey
      cases hkey
      cases h
      exact ⟨rfl, rfl⟩
    · cases h
  · simp [Pair.string, Lit.str?] at h

theorem foldlM_readNameAndItem {ps : List Pair}
    (hps : ∀ p ∈ ps, p.Fits (readNameAndItem parseType)) {r : Option String × Option SynType}
    {name : Option String} {item : Option SynType} :
    ps.foldlM (Pair.apply (readNameAndItem parseType)) (name, item) = .ok r ↔
      ∃ tys, List.Forall₂ (fun s ty ↦ parseType s = .ok ty) (strings "item" ps) tys ∧
        r = ((strings "name" ps).getLast?.or name, tys.getLast?.or item) := by
  induction ps generalizing name item with
  | nil =>
    constructor
    · intro h
      cases h
      exact ⟨[], .nil, rfl⟩
    · rintro ⟨tys, htys, rfl⟩
      cases htys
      rfl
  | cons p ps ih =>
    have hp := hps p List.mem_cons_self
    replace ih := @ih fun q hq ↦ hps q (List.mem_cons_of_mem p hq)
    rw [List.foldlM_cons, strings_cons "name", strings_cons "item", getLast?_append_or]
    rcases hitem : p.string "item" with _ | s
    · rw [apply_of_item_none hp hitem]
      exact ih
    · obtain ⟨hname, happly⟩ := @apply_of_item_some parseType p s hitem name item
      rw [happly, hname, Option.none_or]
      constructor
      · intro h
        obtain ⟨r', hr', hrest⟩ := Except.bind_eq_ok.mp h
        obtain ⟨ty, hty, rfl⟩ := Except.map_eq_ok.mp hr'
        obtain ⟨tys, htys, rfl⟩ := ih.mp hrest
        refine ⟨ty :: tys, .cons hty htys, ?_⟩
        rw [← List.singleton_append, ← Option.toList_some, getLast?_append_or]
        rfl
      · rintro ⟨_, htys, rfl⟩
        cases htys with
        | @cons _ ty _ tys hty htys =>
          rw [hty]
          refine ih.mpr ⟨tys, htys, ?_⟩
          rw [← List.singleton_append, ← Option.toList_some, getLast?_append_or]
          rfl

/-! ## The attribute of a function -/

/-- The four attributes, in the order in which `from_item` looks for them. -/
inductive MarkerKind where
  | method
  | subscription
  | notification
  | stream
  deriving DecidableEq

namespace MarkerKind

def ident : MarkerKind → String
  | .method => "method"
  | .subscription => "subscription"
  | .notification => "notification"
  | .stream => "stream"

/-- Whether the attribute may name the type of an item. -/
def takesItem : MarkerKind → Bool
  | .method | .stream => false
  | .subscription | .notification => true

/-- A pair of this attribute: every key has a value, or the two known ones and no other. -/
def Takes (kind : MarkerKind) (p : Pair) : Prop :=
  p.value.isSome = (!kind.takesItem || decide (p.key = "name") || decide (p.key = "item"))

/-- What `from_item` finds between the parentheses. -/
def parse (parseType : String → Except SynError SynType) (kind : MarkerKind)
    (tokens : List Token) : Except SynError (String × Option SynType) :=
  match kind with
  | .method => (MethodAttr.parse tokens).map fun a ↦ (a.name, none)
  | .subscription => (SubscriptionAttr.parse parseType tokens).map fun a ↦ (a.name, a.item)
  | .notification => (NotificationAttr.parse parseType tokens).map fun a ↦ (a.name, a.item)
  | .stream => (StreamAttr.parse tokens).map fun a ↦ (a.name, none)

end MarkerKind

/-- **What an attribute says**: the last string under `name` is the name, all strings under `item`
are types, and the last of them is the item. -/
def Announces (parseType : String → Except SynError SynType) (kind : MarkerKind)
    (tokens : List Token) (name : String) (item : Option SynType) : Prop :=
  ∃ ps : List Pair, tokens = ps.flatMap Pair.tokens ∧ (∀ p ∈ ps, kind.Takes p) ∧
    (strings "name" ps).getLast? = some name ∧
      if kind.takesItem then ∃ tys, List.Forall₂ (fun s ty ↦ parseType s = .ok ty)
        (strings "item" ps) tys ∧ item = tys.getLast?
      else item = none

theorem requireName_eq_ok {name : Option String} {s : String} :
    requireName name = .ok s ↔ name = some s := by
  cases name <;> simp [requireName]

theorem parseName_eq_ok_iff {tokens : List Token} {name : String} :
    parseName tokens = .ok name ↔ ∃ ps : List Pair, tokens = ps.flatMap Pair.tokens ∧
      (∀ p ∈ ps, p.value.isSome = true) ∧ (strings "name" ps).getLast? = some name := by
  have hparse : parseName tokens = parsePairs readName none tokens >>= requireName := rfl
  rw [hparse, Except.bind_eq_ok]
  constructor
  · rintro ⟨r, hr, hname⟩
    obtain ⟨ps, hps, rfl, hfold⟩ := parsePairs_eq_ok_iff.mp hr
    refine ⟨ps, rfl, hps, ?_⟩
    rw [foldlM_readName hps, Option.or_none] at hfold
    cases hfold
    exact requireName_eq_ok.mp hname
  · rintro ⟨ps, rfl, hps, hname⟩
    refine ⟨some name, parsePairs_eq_ok_iff.mpr ⟨ps, hps, rfl, ?_⟩, rfl⟩
    rw [foldlM_readName hps, Option.or_none, hname]

theorem parseNameAndItem_eq_ok_iff {tokens : List Token} {name : String}
    {item : Option SynType} :
    parseNameAndItem parseType tokens = .ok (name, item) ↔
      ∃ ps : List Pair, tokens = ps.flatMap Pair.tokens ∧
        (∀ p ∈ ps, p.Fits (readNameAndItem parseType)) ∧
        (strings "name" ps).getLast? = some name ∧
        ∃ tys, List.Forall₂ (fun s ty ↦ parseType s = .ok ty) (strings "item" ps) tys ∧
          item = tys.getLast? := by
  have hparse : parseNameAndItem parseType tokens =
      parsePairs (readNameAndItem parseType) (none, none) tokens >>= fun r ↦
        requireName r.1 >>= fun name ↦ .ok (name, r.2) := rfl
  rw [hparse, Except.bind_eq_ok]
  constructor
  · rintro ⟨r, hr, hrest⟩
    obtain ⟨ps, hps, rfl, hfold⟩ := parsePairs_eq_ok_iff.mp hr
    obtain ⟨tys, htys, rfl⟩ := (foldlM_readNameAndItem hps).mp hfold
    obtain ⟨s, hs, heq⟩ := Except.bind_eq_ok.mp hrest
    cases heq
    rw [Option.or_none] at hs
    exact ⟨ps, rfl, hps, requireName_eq_ok.mp hs, tys, htys, Option.or_none⟩
  · rintro ⟨ps, rfl, hps, hname, tys, htys, rfl⟩
    refine ⟨(some name, tys.getLast?), parsePairs_eq_ok_iff.mpr ⟨ps, hps, rfl, ?_⟩, rfl⟩
    refine (foldlM_readNameAndItem hps).mpr ⟨tys, htys, ?_⟩
    rw [hname, Option.or_none, Option.or_none]

/-- The pairs of `subscription` and `notification`. -/
theorem fits_readNameAndItem {p : Pair} {kind : MarkerKind} (h : kind.takesItem = true) :
    p.Fits (readNameAndItem parseType) ↔ kind.Takes p := by
  rw [Pair.Fits, MarkerKind.Takes, h, readNameAndItem]
  by_cases hname : p.key = "name"
  · simp [hname]
  · by_cases hitem : p.key = "item" <;> simp [hname, hitem]

/-- The pairs of `method` and `stream`. -/
theorem isSome_iff_takes {p : Pair} {kind : MarkerKind} (h : kind.takesItem = false) :
    p.value.isSome = true ↔ kind.Takes p := by
  rw [MarkerKind.Takes, h]
  simp

/-- **What the parsers accept** is what the attribute says. -/
theorem MarkerKind.parse_eq_ok_iff {kind : MarkerKind} {tokens : List Token} {name : String}
    {item : Option SynType} :
    kind.parse parseType tokens = .ok (name, item) ↔
      Announces parseType kind tokens name item := by
  have plain : ∀ kind : MarkerKind, kind.takesItem = false →
      (((parseName tokens).map fun n ↦ (n, none)) = .ok (name, item) ↔
        Announces parseType kind tokens name item) := by
    intro kind hkind
    rw [Except.map_eq_ok, Announces, hkind]
    simp only [parseName_eq_ok_iff, isSome_iff_takes hkind, Bool.false_eq_true, if_false]
    constructor
    · rintro ⟨n, ⟨ps, htokens, hps, hname⟩, heq⟩
      cases heq
      exact ⟨ps, htokens, hps, hname, rfl⟩
    · rintro ⟨ps, htokens, hps, hname, rfl⟩
      exact ⟨name, ⟨ps, htokens, hps, hname⟩, rfl⟩
  have withItem : ∀ kind : MarkerKind, kind.takesItem = true →
      (parseNameAndItem parseType tokens = .ok (name, item) ↔
        Announces parseType kind tokens name item) := by
    intro kind hkind
    rw [parseNameAndItem_eq_ok_iff, Announces, hkind]
    simp only [fits_readNameAndItem hkind, if_true]
  cases kind with
  | method =>
    rw [← plain .method rfl, parse, MethodAttr.parse]
    cases parseName tokens <;> rfl
  | subscription =>
    rw [← withItem .subscription rfl, parse, SubscriptionAttr.parse]
    cases parseNameAndItem parseType tokens <;> rfl
  | notification =>
    rw [← withItem .notification rfl, parse, NotificationAttr.parse]
    cases parseNameAndItem parseType tokens <;> rfl
  | stream =>
    rw [← plain .stream rfl, parse, StreamAttr.parse]
    cases parseName tokens <;> rfl

/-! ## Looking for the attribute -/

/-- The first attribute of this name, with what its parser makes of it. -/
def FirstAttr {β : Type} (ident : String) (parse : List Token → Except SynError β)
    (attrs : List Attribute) (b : β) : Prop :=
  ∃ front attr back tokens, attrs = front ++ attr :: back ∧
    (∀ a ∈ front, a.path.isIdent ident = false) ∧ attr.path.isIdent ident = true ∧
    attr.content = .list tokens ∧ parse tokens = .ok b

theorem parseAttr_eq_none_iff {β : Type} {ident : String}
    {parse : List Token → Except SynError β} {attrs : List Attribute} :
    parseAttr ident parse attrs = .ok none ↔ ∀ a ∈ attrs, a.path.isIdent ident = false := by
  induction attrs with
  | nil => simp [parseAttr]
  | cons attr attrs ih =>
    rw [parseAttr]
    cases h : attr.path.isIdent ident with
    | true =>
      rw [if_pos rfl]
      cases attr.parseArgs parse <;> simp [Except.map, h]
    | false => simp [h, ih]

theorem parseAttr_eq_some_iff {β : Type} {ident : String}
    {parse : List Token → Except SynError β} {attrs : List Attribute} {b : β} :
    parseAttr ident parse attrs = .ok (some b) ↔ FirstAttr ident parse attrs b := by
  induction attrs with
  | nil => simp [parseAttr, FirstAttr]
  | cons attr attrs ih =>
    rw [parseAttr]
    cases h : attr.path.isIdent ident with
    | true =>
      rw [if_pos rfl]
      constructor
      · intro hparse
        obtain ⟨b', hb', heq⟩ := Except.map_eq_ok.mp hparse
        cases heq
        rw [Attribute.parseArgs] at hb'
        split at hb'
        · rename_i tokens hcontent
          exact ⟨[], attr, attrs, tokens, rfl, by simp, h, hcontent, hb'⟩
        · cases hb'
        · cases hb'
      · rintro ⟨front, attr', back, tokens, heq, hfront, h', hcontent, hb⟩
        rcases front with _ | ⟨c, front⟩
        · rw [List.nil_append, List.cons.injEq] at heq
          obtain ⟨rfl, rfl⟩ := heq
          rw [Attribute.parseArgs, hcontent]
          exact congrArg (Except.map some) hb
        · rw [List.cons_append, List.cons.injEq] at heq
          rw [heq.1, hfront c List.mem_cons_self] at h
          cases h
    | false =>
      rw [if_neg Bool.false_ne_true, ih]
      constructor
      · rintro ⟨front, attr', back, tokens, rfl, hfront, hrest⟩
        exact ⟨attr :: front, attr', back, tokens, rfl, List.forall_mem_cons.mpr ⟨h, hfront⟩, hrest⟩
      · rintro ⟨front, attr', back, tokens, heq, hfront, h', hrest⟩
        rcases front with _ | ⟨c, front⟩
        · rw [List.nil_append, List.cons.injEq] at heq
          rw [← heq.1, h] at h'
          cases h'
        · rw [List.cons_append, List.cons.injEq] at heq
          exact ⟨front, attr', back, tokens, heq.2,
            fun a ha ↦ hfront a (List.mem_cons_of_mem c ha), h', hrest⟩

/-- The first attribute of this kind, read. -/
def MarkerKind.look (parseType : String → Except SynError SynType) (kind : MarkerKind)
    (attrs : List Attribute) : Except SynError (Option (String × Option SynType)) :=
  parseAttr kind.ident (kind.parse parseType) attrs

/-- The parser of an attribute and what is taken of its result. -/
theorem parseAttr_map {β γ : Type} (g : β → γ) (ident : String)
    (parse : List Token → Except SynError β) (attrs : List Attribute) :
    parseAttr ident (fun tokens ↦ (parse tokens).map g) attrs =
      (parseAttr ident parse attrs).map (Option.map g) := by
  induction attrs with
  | nil => rfl
  | cons attr attrs ih =>
    rw [parseAttr, parseAttr]
    split
    · rw [Attribute.parseArgs, Attribute.parseArgs]
      cases attr.content with
      | list tokens => cases h : parse tokens <;> simp [h, Except.map]
      | path => rfl
      | nameValue => rfl
    · exact ih

/-- Where the attribute stands in the order of `from_item`. -/
def MarkerKind.rank : MarkerKind → Nat
  | .method => 0
  | .subscription => 1
  | .notification => 2
  | .stream => 3

/-- **The attribute that decides about a function**: there is none of an earlier kind, and of this
kind the first one says this. -/
structure Marked (parseType : String → Except SynError SynType) (attrs : List Attribute)
    (kind : MarkerKind) (name : String) (item : Option SynType) : Prop where
  first : ∀ earlier : MarkerKind, earlier.rank < kind.rank →
    ∀ a ∈ attrs, a.path.isIdent earlier.ident = false
  carries : ∃ front attr back tokens, attrs = front ++ attr :: back ∧
    (∀ a ∈ front, a.path.isIdent kind.ident = false) ∧ attr.path.isIdent kind.ident = true ∧
    attr.content = .list tokens ∧ Announces parseType kind tokens name item

theorem marked_iff {attrs : List Attribute} {kind : MarkerKind} {name : String}
    {item : Option SynType} :
    Marked parseType attrs kind name item ↔
      (∀ earlier : MarkerKind, earlier.rank < kind.rank →
        earlier.look parseType attrs = .ok none) ∧
      kind.look parseType attrs = .ok (some (name, item)) := by
  rw [MarkerKind.look, parseAttr_eq_some_iff]
  simp only [MarkerKind.look, parseAttr_eq_none_iff, FirstAttr, MarkerKind.parse_eq_ok_iff]
  exact ⟨fun h ↦ ⟨h.first, h.carries⟩, fun h ↦ ⟨h.1, h.2⟩⟩

/-! ## Functions -/

/-- The parameter, if it has a name. -/
def FnArg.param? : FnArg → Option ParamInfo
  | .typed (.ident name) ty => some ⟨name, ty⟩
  | _ => none

/-- All parameters but the receiver have names. -/
def Signature.Plain (sig : Signature) : Prop :=
  ∀ text ty, FnArg.typed (.other text) ty ∉ sig.inputs

/-- The function without the attributes of these names. -/
def TraitItemFn.without (f : TraitItemFn) (removed : List String) : TraitItemFn :=
  { f with attrs := f.attrs.filter fun a ↦ !removed.any a.path.isIdent }

/-- What the macro makes of a function with such an attribute.  Only the attributes of its own kind
and of some earlier ones are taken away. -/
def MarkerKind.description (kind : MarkerKind) (name : String) (item : Option SynType)
    (f : TraitItemFn) : Description :=
  let params := f.sig.inputs.filterMap FnArg.param?
  match kind with
  | .method =>
    .method ⟨name, f.without ["method", "subscription"], params, extractReturnType f.sig⟩
  | .subscription => .subscription ⟨name, f.without ["method", "subscription"], params, item⟩
  | .notification =>
    .notification ⟨name, f.without ["method", "subscription", "notification"], params, item⟩
  | .stream =>
    .stream ⟨name, f.without ["method", "subscription", "notification", "stream"], params⟩

/-- **What the macro makes of a function**: it is async, its parameters have names, and an attribute
decides what it is. -/
def Describes (parseType : String → Except SynError SynType) (f : TraitItemFn)
    (e : Description) : Prop :=
  f.sig.asyncness = true ∧ f.sig.Plain ∧ ∃ kind name item,
    Marked parseType f.attrs kind name item ∧ e = kind.description name item f

theorem extractParams_eq_ok_iff {inputs : List FnArg} {params : List ParamInfo} :
    extractParams inputs = .ok params ↔
      (∀ text ty, FnArg.typed (.other text) ty ∉ inputs) ∧
        params = inputs.filterMap FnArg.param? := by
  induction inputs generalizing params with
  | nil => simp [extractParams, eq_comm]
  | cons i inputs ih =>
    rcases i with _ | ⟨name | text, ty⟩
    · have hparams : (FnArg.receiver :: inputs).filterMap FnArg.param? =
          inputs.filterMap FnArg.param? := rfl
      rw [extractParams, ih, hparams]
      simp
    · have hparams : (FnArg.typed (.ident name) ty :: inputs).filterMap FnArg.param? =
          ⟨name, ty⟩ :: inputs.filterMap FnArg.param? := rfl
      rw [extractParams, Except.map_eq_ok, hparams]
      simp only [ih]
      constructor
      · rintro ⟨params, ⟨hplain, rfl⟩, rfl⟩
        exact ⟨by simpa using hplain, rfl⟩
      · rintro ⟨hplain, rfl⟩
        exact ⟨_, ⟨by simpa using hplain, rfl⟩, rfl⟩
    · rw [extractParams]
      refine ⟨by simp, fun h ↦ absurd List.mem_cons_self (h.1 text ty)⟩

theorem checkFn_eq_ok_iff {notAsync : String} {removed : List String} {f : TraitItemFn}
    {r : TraitItemFn × List ParamInfo} :
    checkFn notAsync removed f = .ok r ↔ f.sig.asyncness = true ∧ f.sig.Plain ∧
      r = (f.without removed, f.sig.inputs.filterMap FnArg.param?) := by
  rw [checkFn]
  cases f.sig.asyncness with
  | false => simp
  | true =>
    rw [if_pos rfl, Except.map_eq_ok]
    simp only [extractParams_eq_ok_iff]
    constructor
    · rintro ⟨params, ⟨hplain, rfl⟩, rfl⟩
      exact ⟨trivial, hplain, rfl⟩
    · rintro ⟨-, hplain, rfl⟩
      exact ⟨_, ⟨hplain, rfl⟩, rfl⟩

/-- The four `from_trait_fn`, as `from_item` calls them. -/
def MarkerKind.fromTraitFn (kind : MarkerKind) (name : String) (item : Option SynType)
    (f : TraitItemFn) : Except SynError Description :=
  match kind with
  | .method => (MethodDescription.fromTraitFn ⟨name⟩ f).map .method
  | .subscription => (SubscriptionDescription.fromTraitFn ⟨name, item⟩ f).map .subscription
  | .notification => (NotificationDescription.fromTraitFn ⟨name, item⟩ f).map .notification
  | .stream => (StreamDescription.fromTraitFn ⟨name⟩ f).map .stream

theorem MarkerKind.fromTraitFn_eq_ok_iff {kind : MarkerKind} {name : String}
    {item : Option SynType} {f : TraitItemFn} {e : Description} :
    kind.fromTraitFn name item f = .ok e ↔
      f.sig.asyncness = true ∧ f.sig.Plain ∧ e = kind.description name item f := by
  have checked : ∀ {notAsync : String} {removed : List String}
      (g : TraitItemFn × List ParamInfo → Description),
      (checkFn notAsync removed f).map g = .ok e ↔ f.sig.asyncness = true ∧ f.sig.Plain ∧
        e = g (f.without removed, f.sig.inputs.filterMap FnArg.param?) := by
    intro notAsync removed g
    rw [Except.map_eq_ok]
    simp only [checkFn_eq_ok_iff]
    constructor
    · rintro ⟨r, ⟨hasync, hplain, rfl⟩, rfl⟩
      exact ⟨hasync, hplain, rfl⟩
    · rintro ⟨hasync, hplain, rfl⟩
      exact ⟨_, ⟨hasync, hplain, rfl⟩, rfl⟩
  cases kind with
  | method =>
    rw [fromTraitFn, MethodDescription.fromTraitFn, Except.map_map]
    exact checked _
  | subscription =>
    rw [fromTraitFn, SubscriptionDescription.fromTraitFn, Except.map_map]
    exact checked _
  | notification =>
    rw [fromTraitFn, NotificationDescription.fromTraitFn, Except.map_map]
    exact checked _
  | stream =>
    rw [fromTraitFn, StreamDescription.fromTraitFn, Except.map_map]
    exact checked _

/-- The body of the loop, by the kinds. -/
theorem describe_eq (parseType : String → Except SynError SynType) (f : TraitItemFn) :
    describe parseType f =
      (MarkerKind.method.look parseType f.attrs).bind fun
        | some r => MarkerKind.method.fromTraitFn r.1 r.2 f
        | none => (MarkerKind.subscription.look parseType f.attrs).bind fun
          | some r => MarkerKind.subscription.fromTraitFn r.1 r.2 f
          | none => (MarkerKind.notification.look parseType f.attrs).bind fun
            | some r => MarkerKind.notification.fromTraitFn r.1 r.2 f
            | none => (MarkerKind.stream.look parseType f.attrs).bind fun
              | some r => MarkerKind.stream.fromTraitFn r.1 r.2 f
              | none => .error (.message ("Method must have #[method], #[subscription], " ++
                  "#[notification], or #[stream] attribute")) := by
  have hmethod : MarkerKind.method.look parseType f.attrs =
      (parseMethodAttr f.attrs).map (Option.map fun a ↦ (a.name, none)) :=
    parseAttr_map (fun a : MethodAttr ↦ (a.name, none)) "method" MethodAttr.parse f.attrs
  have hsubscription : MarkerKind.subscription.look parseType f.attrs =
      (parseSubscriptionAttr parseType f.attrs).map (Option.map fun a ↦ (a.name, a.item)) :=
    parseAttr_map (fun a : SubscriptionAttr ↦ (a.name, a.item)) "subscription"
      (SubscriptionAttr.parse parseType) f.attrs
  have hnotification : MarkerKind.notification.look parseType f.attrs =
      (parseNotificationAttr parseType f.attrs).map (Option.map fun a ↦ (a.name, a.item)) :=
    parseAttr_map (fun a : NotificationAttr ↦ (a.name, a.item)) "notification"
      (NotificationAttr.parse parseType) f.attrs
  have hstream : MarkerKind.stream.look parseType f.attrs =
      (parseStreamAttr f.attrs).map (Option.map fun a ↦ (a.name, none)) :=
    parseAttr_map (fun a : StreamAttr ↦ (a.name, none)) "stream" StreamAttr.parse f.attrs
  have ret : ∀ {β : Type} (x : Except SynError β) (g : β → Description),
      (x >>= fun b ↦ pure (g b)) = x.map g := by
    intro β x g
    cases x <;> rfl
  rw [hmethod, hsubscription, hnotification, hstream, describe]
  rcases parseMethodAttr f.attrs with _ | _ | a
  · rfl
  · rcases parseSubscriptionAttr parseType f.attrs with _ | _ | a
    · rfl
    · rcases parseNotificationAttr parseType f.attrs with _ | _ | a
      · rfl
      · rcases parseStreamAttr f.attrs with _ | _ | a
        · rfl
        · rfl
        · exact ret (StreamDescription.fromTraitFn ⟨a.name⟩ f) .stream
      · exact ret (NotificationDescription.fromTraitFn ⟨a.name, a.item⟩ f) .notification
    · exact ret (SubscriptionDescription.fromTraitFn ⟨a.name, a.item⟩ f) .subscription
  · exact ret (MethodDescription.fromTraitFn ⟨a.name⟩ f) .method

/-- **A function is described** exactly if it can be. -/
theorem describe_eq_ok_iff {f : TraitItemFn} {e : Description} :
    describe parseType f = .ok e ↔ Describes parseType f e := by
  rw [Describes]
  simp only [marked_iff]
  constructor
  · rw [describe_eq]
    intro h
    obtain ⟨r, hmethod, h⟩ := Except.bind_eq_ok.mp h
    rcases r with _ | ⟨name, item⟩
    · obtain ⟨r, hsubscription, h⟩ := Except.bind_eq_ok.mp h
      rcases r with _ | ⟨name, item⟩
      · obtain ⟨r, hnotification, h⟩ := Except.bind_eq_ok.mp h
        rcases r with _ | ⟨name, item⟩
        · obtain ⟨r, hstream, h⟩ := Except.bind_eq_ok.mp h
          rcases r with _ | ⟨name, item⟩
          · cases h
          · obtain ⟨hasync, hplain, he⟩ := MarkerKind.fromTraitFn_eq_ok_iff.mp h
            refine ⟨hasync, hplain, .stream, name, item, ⟨fun earlier hrank ↦ ?_, hstream⟩, he⟩
            cases earlier with
            | method => exact hmethod
            | subscription => exact hsubscription
            | notification => exact hnotification
            | stream => exact absurd hrank (by decide)
        · obtain ⟨hasync, hplain, he⟩ := MarkerKind.fromTraitFn_eq_ok_iff.mp h
          refine ⟨hasync, hplain, .notification, name, item, ⟨fun earlier hrank ↦ ?_,
            hnotification⟩, he⟩
          cases earlier with
          | method => exact hmethod
          | subscription => exact hsubscription
          | _ => exact absurd hrank (by decide)
      · obtain ⟨hasync, hplain, he⟩ := MarkerKind.fromTraitFn_eq_ok_iff.mp h
        refine ⟨hasync, hplain, .subscription, name, item, ⟨fun earlier hrank ↦ ?_,
          hsubscription⟩, he⟩
        cases earlier with
        | method => exact hmethod
        | _ => exact absurd hrank (by decide)
    · obtain ⟨hasync, hplain, he⟩ := MarkerKind.fromTraitFn_eq_ok_iff.mp h
      exact ⟨hasync, hplain, .method, name, item,
        ⟨fun earlier hrank ↦ absurd hrank (Nat.not_lt_zero _), hmethod⟩, he⟩
  · rintro ⟨hasync, hplain, kind, name, item, ⟨hearlier, hlook⟩, rfl⟩
    have hfn : kind.fromTraitFn name item f = .ok (kind.description name item f) :=
      MarkerKind.fromTraitFn_eq_ok_iff.mpr ⟨hasync, hplain, rfl⟩
    rw [describe_eq]
    cases kind with
    | method =>
      rw [hlook]
      exact hfn
    | subscription =>
      rw [hearlier .method (by decide), hlook]
      exact hfn
    | notification =>
      rw [hearlier .method (by decide), hearlier .subscription (by decide), hlook]
      exact hfn
    | stream =>
      rw [hearlier .method (by decide), hearlier .subscription (by decide),
        hearlier .notification (by decide), hlook]
      exact hfn

/-! ## The trait -/

/-- The reader of the attribute of the trait, which wants a string under `name`. -/
def readServiceName (key : String) :
    Option (Option String → Lit → Except SynError (Option String)) :=
  some fun name value ↦
    if key = "name" then
      match value with
      | .str s => .ok (some s)
      | .other _ => .error (.message "Expected string literal for name")
    else .ok name

/-- The pair has a string, if it should have one. -/
def Pair.Strict (p : Pair) : Prop := p.key = "name" → (p.string "name").isSome = true

theorem apply_readServiceName {p : Pair} (hp : p.value.isSome = true) {name r : Option String} :
    p.apply readServiceName name = .ok r ↔ p.Strict ∧ r = (p.string "name").or name := by
  obtain ⟨key, _ | value, comma⟩ := p
  · cases hp
  · by_cases h : key = "name"
    · cases value <;>
        simp [Pair.apply, readServiceName, Pair.Strict, Pair.string, Lit.str?, h, eq_comm]
    · simp [Pair.apply, readServiceName, Pair.Strict, Pair.string, h, eq_comm]

theorem foldlM_readServiceName {ps : List Pair} (hps : ∀ p ∈ ps, p.value.isSome = true)
    {name r : Option String} :
    ps.foldlM (Pair.apply readServiceName) name = .ok r ↔
      (∀ p ∈ ps, p.Strict) ∧ r = (strings "name" ps).getLast?.or name := by
  induction ps generalizing name with
  | nil =>
    constructor
    · intro h
      cases h
      exact ⟨by simp, rfl⟩
    · rintro ⟨-, rfl⟩
      rfl
  | cons p ps ih =>
    have hp := hps p List.mem_cons_self
    replace ih := @ih fun q hq ↦ hps q (List.mem_cons_of_mem p hq)
    rw [List.foldlM_cons, Except.bind_eq_ok, strings_cons, getLast?_append_or,
      List.forall_mem_cons]
    simp only [apply_readServiceName hp]
    constructor
    · rintro ⟨a, ⟨hstrict, rfl⟩, hrest⟩
      exact ⟨⟨hstrict, (ih.mp hrest).1⟩, (ih.mp hrest).2⟩
    · rintro ⟨⟨hstrict, hrest⟩, rfl⟩
      exact ⟨_, ⟨hstrict, rfl⟩, ih.mpr ⟨hrest, rfl⟩⟩

/-- What the attribute of the trait says: the last name, and all of them are strings. -/
def Names (tokens : List Token) (name : String) : Prop :=
  ∃ ps : List Pair, tokens = ps.flatMap Pair.tokens ∧ (∀ p ∈ ps, p.value.isSome = true) ∧
    (∀ p ∈ ps, p.Strict) ∧ (strings "name" ps).getLast? = some name

theorem ServiceAttr.parse_eq_ok_iff {tokens : List Token} {attr : ServiceAttr} :
    ServiceAttr.parse tokens = .ok attr ↔ Names tokens attr.name := by
  have hparse : ServiceAttr.parse tokens =
      parsePairs readServiceName none tokens >>= fun r ↦
        requireName r >>= fun name ↦ .ok ⟨name⟩ := rfl
  rw [hparse, Except.bind_eq_ok]
  constructor
  · rintro ⟨r, hr, hrest⟩
    obtain ⟨ps, hps, rfl, hfold⟩ := parsePairs_eq_ok_iff.mp hr
    obtain ⟨hstrict, rfl⟩ := (foldlM_readServiceName hps).mp hfold
    obtain ⟨name, hname, heq⟩ := Except.bind_eq_ok.mp hrest
    cases heq
    rw [Option.or_none] at hname
    exact ⟨ps, rfl, hps, hstrict, requireName_eq_ok.mp hname⟩
  · rintro ⟨ps, rfl, hps, hstrict, hname⟩
    refine ⟨some attr.name, parsePairs_eq_ok_iff.mpr ⟨ps, hps, rfl, ?_⟩, rfl⟩
    refine (foldlM_readServiceName hps).mpr ⟨hstrict, ?_⟩
    rw [hname, Option.or_none]

namespace ServiceDescription

/-- The second loop takes functions only. -/
theorem collect_eq_ok_iff {d d' : ServiceDescription} {items : List TraitItem} :
    collect parseType d items = .ok d' ↔ ∃ es,
      List.Forall₂ (fun item e ↦ ∃ f, item = .fn f ∧ Describes parseType f e) items es ∧
        d' = es.foldl push d := by
  induction items generalizing d with
  | nil =>
    constructor
    · intro h
      cases h
      exact ⟨[], .nil, rfl⟩
    · rintro ⟨es, hes, rfl⟩
      cases hes
      rfl
  | cons item items ih =>
    constructor
    · intro h
      rcases item with _ | f | _ | _
      · cases h
      · obtain ⟨e, he, hcollect⟩ := Except.bind_eq_ok.mp h
        obtain ⟨es, hes, rfl⟩ := ih.mp hcollect
        exact ⟨e :: es, .cons ⟨f, rfl, describe_eq_ok_iff.mp he⟩ hes, rfl⟩
      · cases h
      · cases h
    · rintro ⟨_, hes, rfl⟩
      cases hes with
      | @cons _ e _ es hitem hes =>
        obtain ⟨f, rfl, he⟩ := hitem
        exact Except.bind_eq_ok.mpr ⟨e, describe_eq_ok_iff.mpr he, ih.mpr ⟨es, hes, rfl⟩⟩

/-- The first loop has nothing against functions. -/
theorem validate_of_forall₂ {items : List TraitItem} {es : List Description}
    (h : List.Forall₂ (fun item e ↦ ∃ f, item = .fn f ∧ Describes parseType f e) items es) :
    validate items = .ok () := by
  induction h with
  | nil => rfl
  | cons hitem _ ih =>
    obtain ⟨f, rfl, -⟩ := hitem
    exact ih

/-- The four lists are empty if nothing was put into them. -/
theorem isEmpty_foldl_push (name ident : String) (es : List Description) :
    let d := es.foldl push ⟨name, ident, [], [], [], []⟩
    (d.methods.isEmpty && d.subscriptions.isEmpty && d.notifications.isEmpty &&
      d.streams.isEmpty) = es.isEmpty := by
  intro d
  have hperm : d.descriptions.Perm es := descriptions_foldl_push _ es
  have hempty : (d.methods.isEmpty && d.subscriptions.isEmpty && d.notifications.isEmpty &&
      d.streams.isEmpty) = d.descriptions.isEmpty := by
    rw [Bool.eq_iff_iff]
    simp [descriptions, and_assoc]
  rw [hempty, Bool.eq_iff_iff, List.isEmpty_iff, List.isEmpty_iff]
  exact ⟨fun h ↦ (h ▸ hperm).symm.eq_nil, fun h ↦ (h ▸ hperm).eq_nil⟩

theorem fromItem_eq_ok_iff {attr : ServiceAttr} {traitDef : ItemTrait} {d : ServiceDescription} :
    fromItem parseType attr traitDef = .ok d ↔ traitDef.items ≠ [] ∧ ∃ es,
      List.Forall₂ (fun item e ↦ ∃ f, item = .fn f ∧ Describes parseType f e)
        traitDef.items es ∧ d = es.foldl push ⟨attr.name, traitDef.ident, [], [], [], []⟩ := by
  constructor
  · intro h
    obtain ⟨_, -, h⟩ := Except.bind_eq_ok.mp h
    obtain ⟨d', hcollect, h⟩ := Except.bind_eq_ok.mp h
    obtain ⟨es, hes, rfl⟩ := collect_eq_ok_iff.mp hcollect
    rw [isEmpty_foldl_push] at h
    split at h
    · cases h
    · rename_i hne
      cases h
      refine ⟨fun hnil ↦ ?_, es, hes, rfl⟩
      rw [hnil] at hes
      cases hes
      exact hne rfl
  · rintro ⟨hne, es, hes, rfl⟩
    refine Except.bind_eq_ok.mpr ⟨(), validate_of_forall₂ hes, ?_⟩
    refine Except.bind_eq_ok.mpr ⟨_, collect_eq_ok_iff.mpr ⟨es, hes, rfl⟩, ?_⟩
    rw [isEmpty_foldl_push, if_neg]
    intro hempty
    obtain rfl := List.isEmpty_iff.mp hempty
    exact hne (List.forall₂_nil_right_iff.mp hes)

end ServiceDescription

/-- A function is described with the inputs that it has. -/
theorem Describes.signature_sig {f : TraitItemFn} {e : Description}
    (h : Describes parseType f e) : e.signature.sig = f.sig := by
  obtain ⟨-, -, kind, name, item, -, rfl⟩ := h
  cases kind <;> rfl

/-- Whether there are inputs can be asked of the functions or of what the macro makes of them. -/
theorem forall₂_inputs_iff {items : List TraitItem} {es : List Description} :
    List.Forall₂ (fun item e ↦ ∃ f, item = .fn f ∧ f.sig.inputs ≠ [] ∧ Describes parseType f e)
        items es ↔
      List.Forall₂ (fun item e ↦ ∃ f, item = .fn f ∧ Describes parseType f e) items es ∧
        ∀ e ∈ es, e.signature.sig.inputs ≠ [] := by
  constructor
  · intro h
    induction h with
    | nil => exact ⟨.nil, by simp⟩
    | cons hitem _ ih =>
      obtain ⟨f, hf, hinputs, he⟩ := hitem
      exact ⟨.cons ⟨f, hf, he⟩ ih.1, List.forall_mem_cons.mpr ⟨he.signature_sig ▸ hinputs, ih.2⟩⟩
  · rintro ⟨h, hinputs⟩
    induction h with
    | nil => exact .nil
    | cons hitem _ ih =>
      obtain ⟨f, hf, he⟩ := hitem
      obtain ⟨hfirst, hrest⟩ := List.forall_mem_cons.mp hinputs
      exact .cons ⟨f, hf, he.signature_sig ▸ hfirst, he⟩ (ih hrest)

/-- `zel_service`, with the four lists that it renders; `none` if it panics. -/
def zelService (toUppercase : Char → List Char) (parseType : String → Except SynError SynType)
    (attr : List Token) (item : ItemTrait) : Option (Except SynError ServiceDescription) :=
  match ServiceAttr.parse attr >>= fun attr ↦ ServiceDescription.fromItem parseType attr item with
  | .ok service => (service.renderServerTrait toUppercase).map fun _ ↦ .ok service
  | .error e => some (.error e)

/-- **Which traits the macro accepts.**  The attribute of the trait gives a name, by strings only;
there is an item, and all items are async functions with at least one input, whose parameters have
names and whose deciding attribute gives a name and types only.  Then the four lists have what the
macro makes of the functions, in their order. -/
theorem zelService_eq_ok_iff (toUppercase : Char → List Char)
    (parseType : String → Except SynError SynType) (tokens : List Token) (traitDef : ItemTrait)
    (d : ServiceDescription) :
    zelService toUppercase parseType tokens traitDef = some (.ok d) ↔ ∃ name es,
      Names tokens name ∧ traitDef.items ≠ [] ∧
      List.Forall₂ (fun item e ↦ ∃ f, item = .fn f ∧ f.sig.inputs ≠ [] ∧ Describes parseType f e)
        traitDef.items es ∧
      d = es.foldl ServiceDescription.push ⟨name, traitDef.ident, [], [], [], []⟩ := by
  have hrender : zelService toUppercase parseType tokens traitDef = some (.ok d) ↔
      (ServiceAttr.parse tokens >>= fun attr ↦
        ServiceDescription.fromItem parseType attr traitDef) = .ok d ∧
        ∀ e ∈ d.descriptions, e.signature.sig.inputs ≠ [] := by
    rw [← renderServerTrait_isSome_iff toUppercase, zelService]
    rcases ServiceAttr.parse tokens >>= fun attr ↦
      ServiceDescription.fromItem parseType attr traitDef with e | d'
    · simp
    · simp only [Option.map_eq_some_iff, Except.ok.injEq, Option.isSome_iff_exists]
      constructor
      · rintro ⟨inputs, hinputs, rfl⟩
        exact ⟨rfl, inputs, hinputs⟩
      · rintro ⟨rfl, inputs, hinputs⟩
        exact ⟨inputs, hinputs, rfl⟩
  rw [hrender, Except.bind_eq_ok]
  simp only [ServiceAttr.parse_eq_ok_iff, ServiceDescription.fromItem_eq_ok_iff,
    forall₂_inputs_iff]
  constructor
  · rintro ⟨⟨attr, hname, hne, es, hes, rfl⟩, hinputs⟩
    have hperm : (es.foldl ServiceDescription.push
        ⟨attr.name, traitDef.ident, [], [], [], []⟩).descriptions.Perm es :=
      ServiceDescription.descriptions_foldl_push _ es
    exact ⟨attr.name, es, hname, hne, ⟨hes, fun e he ↦ hinputs e (hperm.mem_iff.mpr he)⟩, rfl⟩
  · rintro ⟨name, es, hname, hne, ⟨hes, hinputs⟩, rfl⟩
    have hperm : (es.foldl ServiceDescription.push
        ⟨name, traitDef.ident, [], [], [], []⟩).descriptions.Perm es :=
      ServiceDescription.descriptions_foldl_push _ es
    exact ⟨⟨⟨name⟩, hname, hne, es, hes, rfl⟩, fun e he ↦ hinputs e (hperm.mem_iff.mp he)⟩

/-- Without commas, with another literal behind a name, and with a key that has no value. -/
example : parseNameAndItem parseIdent [.ident "name", .eq, .lit (.str "watch"), .ident "buffer",
    .eq, .ident "name", .eq, .lit (.other "5"), .comma] = .ok ("watch", none) := rfl

end Zel
