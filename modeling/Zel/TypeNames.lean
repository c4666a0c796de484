import Zel.Lib.UniqueDecoding
import Zel.ServiceMacro

/-!
# The names of the generated types

Beside the server trait and the client, the macro generates a sink and a stream for each
subscription and a receiver and a sender for each notification (`render/types.rs`).  Each is named
after the trait and the function, whose name is put into camel case (`render/codegen.rs`).  The
endings tell the kinds apart; within a kind, camel case must not forget what tells two functions
apart.  It forgets where the words began: `a_b` and `aB` both become `AB`, and so do `a_1` and `a1`
become `A1`.  Names whose words all start with a lower-case letter and have no capitals are safe.

`char::to_uppercase` is a parameter; what is used of it is how it maps the lower-case letters of
ASCII.

## What is here

* `capitalizeFirst`, `generateTypedName`, `typeNames` — the names.
* `typeNames_nodup_iff` — **when they are all different.**
* `LowerWords`, `capitalizeFirst_injOn` — names that camel case keeps apart.
* `type_names_distinct` — both for the traits that the macro accepts.
-/

set_option autoImplicit false

namespace Zel

open UniqueDecoding

section TypeNames

variable (toUppercase : Char → List Char)

/-! ## The names -/

/-- A part of the name, with its first letter in upper case. -/
def capitalizePart : List Char → List Char
  | [] => []
  | first :: chars => toUppercase first ++ chars

/-- `capitalize_first` -/
def capitalizeFirst (s : String) : String :=
  .ofList (((s.toList.splitOn '_').filter fun part ↦ !part.isEmpty).flatMap
    (capitalizePart toUppercase))

/-- `generate_typed_name` -/
def generateTypedName (traitName methodName suffix : String) : String :=
  traitName ++ capitalizeFirst toUppercase methodName ++ suffix

/-- The types that `render_service` declares, in its order. -/
def ServiceDescription.typeNames (d : ServiceDescription) : List String :=
  (d.subscriptions.map fun s ↦
      generateTypedName toUppercase d.traitIdent s.signature.sig.ident "Sink") ++
    (d.notifications.map fun n ↦
      generateTypedName toUppercase d.traitIdent n.signature.sig.ident "Receiver") ++
    [d.traitIdent ++ "Server", d.traitIdent ++ "Client"] ++
    (d.subscriptions.map fun s ↦
      generateTypedName toUppercase d.traitIdent s.signature.sig.ident "Stream") ++
    d.notifications.map fun n ↦
      generateTypedName toUppercase d.traitIdent n.signature.sig.ident "Sender"

/-! ## The endings -/

/-- The letters in front of the endings, for each ending. -/
def ServiceDescription.nameKinds (d : ServiceDescription) : List (List Char × List (List Char)) :=
  let names (idents : List String) : List (List Char) :=
    idents.map fun ident ↦ (d.traitIdent ++ capitalizeFirst toUppercase ident).toList
  let subscriptions := names (d.subscriptions.map fun s ↦ s.signature.sig.ident)
  let notifications := names (d.notifications.map fun n ↦ n.signature.sig.ident)
  [("Sink".toList, subscriptions), ("Receiver".toList, notifications),
    ("Server".toList, [d.traitIdent.toList]), ("Client".toList, [d.traitIdent.toList]),
    ("Stream".toList, subscriptions), ("Sender".toList, notifications)]

theorem ServiceDescription.typeNames_toList (d : ServiceDescription) :
    (d.typeNames toUppercase).map String.toList =
      (d.nameKinds toUppercase).flatMap fun k ↦ k.2.map (· ++ k.1) := by
  simp [typeNames, nameKinds, generateTypedName, Function.comp_def]

theorem nodup_names_iff (traitIdent : String) (idents : List String) :
    (idents.map fun ident ↦ (traitIdent ++ capitalizeFirst toUppercase ident).toList).Nodup ↔
      (idents.map (capitalizeFirst toUppercase)).Nodup := by
  rw [show (fun ident ↦ (traitIdent ++ capitalizeFirst toUppercase ident).toList) =
    (fun name : String ↦ (traitIdent ++ name).toList) ∘ capitalizeFirst toUppercase from rfl,
    ← List.map_map]
  refine List.nodup_map_iff fun a b hab ↦ ?_
  simp only [String.toList_append] at hab
  exact String.toList_inj.mp (List.append_cancel_left hab)

/-- **When the types have different names**: if the subscriptions have, and the notifications
have, also in camel case. -/
theorem ServiceDescription.typeNames_nodup_iff (d : ServiceDescription) :
    (d.typeNames toUppercase).Nodup ↔
      (d.subscriptions.map fun s ↦ capitalizeFirst toUppercase s.signature.sig.ident).Nodup ∧
        (d.notifications.map fun n ↦ capitalizeFirst toUppercase n.signature.sig.ident).Nodup := by
  have hkinds : (d.nameKinds toUppercase).Pairwise fun k l ↦ Incomparable k.1 l.1 := by
    simp only [nameKinds, List.pairwise_cons, List.mem_cons, List.not_mem_nil, or_false,
      forall_eq_or_imp, forall_eq, List.Pairwise.nil, and_true, IsEmpty.forall_iff, implies_true]
    decide
  rw [← List.nodup_map_iff fun a b ↦ String.toList_inj.mp, typeNames_toList,
    nodup_endings_iff hkinds]
  simp only [nameKinds, List.mem_cons, List.not_mem_nil, or_false, forall_eq_or_imp, forall_eq,
    List.nodup_singleton, true_and, nodup_names_iff]
  simp only [List.map_map, Function.comp_def]
  tauto

/-! ## Camel case -/

/-- A word that starts with a lower-case letter and has no capitals, as ASCII has them. -/
def lowerWord : List Char → Bool
  | [] => false
  | first :: rest => first.isLower && rest.all fun c ↦ !c.isUpper

/-- A name that is made of such words, with one underscore between them. -/
def LowerWords (s : String) : Prop := ∀ part ∈ s.toList.splitOn '_', lowerWord part = true

instance (s : String) : Decidable (LowerWords s) := inferInstanceAs (Decidable (∀ _ ∈ _, _))

/-- What is used of `char::to_uppercase`. -/
def AsciiUppercase : Prop := ∀ c : Char, c.isLower = true → toUppercase c = [c.toUpper]

theorem mem_of_isLower {c : Char} (h : c.isLower = true) :
    c ∈ (List.range 26).map fun n ↦ Char.ofNat (97 + n) := by
  change (decide ('a'.val ≤ c.val) && decide (c.val ≤ 'z'.val)) = true at h
  simp only [Bool.and_eq_true, decide_eq_true_eq, UInt32.le_iff_toNat_le] at h
  have hlow : 97 ≤ c.toNat := h.1
  have hhigh : c.toNat ≤ 122 := h.2
  refine List.mem_map.mpr ⟨c.toNat - 97, List.mem_range.mpr (by omega), ?_⟩
  rw [Nat.add_sub_cancel' hlow, Char.ofNat_toNat]

/-- The letters of ASCII have capitals, which are all different. -/
theorem toUpper_of_isLower {c : Char} (h : c.isLower = true) :
    c.toUpper.isUpper = true ∧ c.toUpper.toLower = c := by
  have hall : (((List.range 26).map fun n ↦ Char.ofNat (97 + n)).all fun c ↦
      c.toUpper.isUpper && c.toUpper.toLower == c) = true := by decide
  simpa using List.all_eq_true.mp hall c (mem_of_isLower h)

variable {toUppercase}

/-- A word gets one capital, at its front. -/
theorem hump_capitalizePart (htoUpper : AsciiUppercase toUppercase) {part : List Char}
    (h : lowerWord part = true) : Hump Char.isUpper (capitalizePart toUppercase part) := by
  rcases part with _ | ⟨first, rest⟩
  · cases h
  · rw [lowerWord, Bool.and_eq_true, List.all_eq_true] at h
    rw [capitalizePart, htoUpper first h.1]
    exact ⟨(toUpper_of_isLower h.1).1, fun c hc ↦ by simpa using h.2 c hc⟩

/-- The first letter in lower case again. -/
def lowerFirst : List Char → List Char
  | [] => []
  | first :: rest => first.toLower :: rest

theorem lowerFirst_capitalizePart (htoUpper : AsciiUppercase toUppercase) {part : List Char}
    (h : lowerWord part = true) : lowerFirst (capitalizePart toUppercase part) = part := by
  rcases part with _ | ⟨first, rest⟩
  · cases h
  · rw [lowerWord, Bool.and_eq_true] at h
    rw [capitalizePart, htoUpper first h.1]
    exact congrArg (· :: rest) (toUpper_of_isLower h.1).2

/-- The parts of such a name are words, so none is left out. -/
theorem capitalizeFirst_of_lowerWords {s : String} (hs : LowerWords s) :
    (capitalizeFirst toUppercase s).toList =
      ((s.toList.splitOn '_').map (capitalizePart toUppercase)).flatten := by
  have hall : ((s.toList.splitOn '_').filter fun part ↦ !part.isEmpty) = s.toList.splitOn '_' := by
    refine List.filter_eq_self.mpr fun part hpart ↦ ?_
    have hword := hs part hpart
    cases part with
    | nil => cases hword
    | cons first rest => rfl
  rw [capitalizeFirst, hall, String.toList_ofList, List.flatMap_def]

/-- **Camel case keeps such names apart.** -/
theorem capitalizeFirst_injOn (htoUpper : AsciiUppercase toUppercase) {s t : String}
    (hs : LowerWords s) (ht : LowerWords t)
    (he : capitalizeFirst toUppercase s = capitalizeFirst toUppercase t) : s = t := by
  have hhumps : ∀ {s : String}, LowerWords s →
      ∀ w ∈ (s.toList.splitOn '_').map (capitalizePart toUppercase), Hump Char.isUpper w := by
    intro s hs w hw
    obtain ⟨part, hpart, rfl⟩ := List.mem_map.mp hw
    exact hump_capitalizePart htoUpper (hs part hpart)
  have hback : ∀ {s : String}, LowerWords s →
      ((s.toList.splitOn '_').map (capitalizePart toUppercase)).map lowerFirst =
        s.toList.splitOn '_' := by
    intro s hs
    rw [List.map_map]
    exact (List.map_congr_left fun part hpart ↦
      lowerFirst_capitalizePart htoUpper (hs part hpart)).trans (List.map_id _)
  have hflat := congrArg String.toList he
  rw [capitalizeFirst_of_lowerWords hs, capitalizeFirst_of_lowerWords ht] at hflat
  have hparts := flatten_injective (hhumps hs) (hhumps ht) hflat
  have hsplit : s.toList.splitOn '_' = t.toList.splitOn '_' := by
    rw [← hback hs, ← hback ht, hparts]
  have hjoin := congrArg ['_'].intercalate hsplit
  rw [List.intercalate_splitOn, List.intercalate_splitOn] at hjoin
  exact String.toList_inj.mp hjoin

/-! ## The types of a trait -/

theorem map_ident_descriptions (d : ServiceDescription) :
    d.descriptions.map Description.ident = (d.methods.map fun m ↦ m.signature.sig.ident) ++
      (d.subscriptions.map fun s ↦ s.signature.sig.ident) ++
      (d.notifications.map fun n ↦ n.signature.sig.ident) ++
      d.streams.map fun s ↦ s.signature.sig.ident := by
  simp only [ServiceDescription.descriptions, List.map_append, List.map_map]
  rfl

/-- Some of the functions of a service, in camel case. -/
theorem nodup_capitalizeFirst (htoUpper : AsciiUppercase toUppercase) {d : ServiceDescription}
    (hnodup : (d.descriptions.map Description.ident).Nodup)
    (hwords : ∀ ident ∈ d.descriptions.map Description.ident, LowerWords ident)
    {γ : Type} {fs : List γ} {ident : γ → String}
    (hfs : (fs.map ident).Sublist (d.descriptions.map Description.ident)) :
    (fs.map fun f ↦ capitalizeFirst toUppercase (ident f)).Nodup := by
  have hmap : (fs.map fun f ↦ capitalizeFirst toUppercase (ident f)) =
      (fs.map ident).map (capitalizeFirst toUppercase) := by simp
  rw [hmap]
  exact (hnodup.sublist hfs).map_on fun a ha b hb he ↦
    capitalizeFirst_injOn htoUpper (hwords a (hfs.subset ha)) (hwords b (hfs.subset hb)) he

/-- Functions whose names are made of such words generate different types. -/
theorem nodup_typeNames_of_lowerWords (htoUpper : AsciiUppercase toUppercase)
    {parseType : String → Except SynError SynType} {attr : ServiceAttr} {traitDef : ItemTrait}
    {d : ServiceDescription} (hd : ServiceDescription.fromItem parseType attr traitDef = .ok d)
    (hwords : ∀ f ∈ traitDef.functions, LowerWords f.sig.ident) :
    (d.typeNames toUppercase).Nodup := by
  obtain ⟨hperm, -⟩ := ServiceDescription.perm_names hd
  have hnodup : (d.descriptions.map Description.ident).Nodup := hperm.nodup_iff.mpr traitDef.nodup
  have hall : ∀ ident ∈ d.descriptions.map Description.ident, LowerWords ident := by
    intro ident hident
    obtain ⟨f, hf, rfl⟩ := List.mem_map.mp (hperm.mem_iff.mp hident)
    exact hwords f hf
  rw [ServiceDescription.typeNames_nodup_iff]
  constructor
  · refine nodup_capitalizeFirst htoUpper hnodup hall ?_
    rw [map_ident_descriptions]
    exact ((List.sublist_append_right _ _).trans (List.sublist_append_left _ _)).trans
      (List.sublist_append_left _ _)
  · refine nodup_capitalizeFirst htoUpper hnodup hall ?_
    rw [map_ident_descriptions]
    exact (List.sublist_append_right _ _).trans (List.sublist_append_left _ _)

/-- **When the generated types have different names.**  For every service attribute and every trait
that the macro accepts: exactly if no two subscriptions and no two notifications have the same name
in camel case.  This is so for functions whose names are made of words, with one underscore between
them, that start with a lower-case letter and have no capitals. -/
theorem type_names_distinct (htoUpper : AsciiUppercase toUppercase)
    {parseType : String → Except SynError SynType} {attr : ServiceAttr} {traitDef : ItemTrait}
    {d : ServiceDescription} (hd : ServiceDescription.fromItem parseType attr traitDef = .ok d) :
    ((d.typeNames toUppercase).Nodup ↔
      (d.subscriptions.map fun s ↦ capitalizeFirst toUppercase s.signature.sig.ident).Nodup ∧
        (d.notifications.map fun n ↦ capitalizeFirst toUppercase n.signature.sig.ident).Nodup) ∧
    ((∀ f ∈ traitDef.functions, LowerWords f.sig.ident) → (d.typeNames toUppercase).Nodup) :=
  ⟨d.typeNames_nodup_iff toUppercase, nodup_typeNames_of_lowerWords htoUpper hd⟩

/-- Lean's own conversion, which is that of ASCII. -/
def asciiUppercase (c : Char) : List Char := [c.toUpper]

theorem type_names_distinct_watchedStore : ∃ d,
    ServiceDescription.fromItem parseIdent ⟨"store"⟩ watchedStore = .ok d ∧
      d.typeNames asciiUppercase =
        ["StoreWatchSink", "StoreServer", "StoreClient", "StoreWatchStream"] ∧
      (d.typeNames asciiUppercase).Nodup :=
  ⟨_, rfl, by decide, (type_names_distinct (fun _ _ ↦ rfl)
    (rfl : ServiceDescription.fromItem parseIdent ⟨"store"⟩ watchedStore = .ok _)).2 (by decide)⟩

/-- Camel case forgets where the words began. -/
example : capitalizeFirst asciiUppercase "watch_1" = capitalizeFirst asciiUppercase "watch1" := by
  decide

end TypeNames

end Zel
