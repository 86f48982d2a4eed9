/-
Names that no record declares. In seven of the nine kinds of records such a
name is an error, which says where it stands and what is declared there. In a
source and in a transform it is passed over: the tagged types ignore members of
other names, and a setting that is misspelled there has its default.

`Catalog.stray_keys`: for every place in a catalog that is accepted.
-/
import ContractDocs.Proofs.Structure

namespace ContractDocs

open Checks Json Json.Decode

/-! ## Names that are not declared -/

namespace Json.Decode

variable {α : Type}

/-! ### Records that refuse other names -/

theorem mem_names_of_lookup {s : Shape} {name : String} {check : Json → Except DecodeError Unit}
    (declared : s.fields.lookup name = some check) : name ∈ s.names := by
  obtain ⟨before, after, fields, -⟩ := List.lookup_eq_some_iff.1 declared
  simp [Shape.names, fields]

theorem mem_names_of_checkMembers {s : Shape} (closed : s.closed = true)
    {es : List (String × Json)} (passes : s.checkMembers es = .ok ()) :
    ∀ e ∈ es, e.1 ∈ s.names := by
  intro e he
  have takes := checkMembers_eq_ok_iff.1 passes e he
  rw [Shape.Takes] at takes
  cases declared : s.fields.lookup e.1 with
  | none =>
    rw [declared, closed] at takes
    cases takes
  | some check => exact mem_names_of_lookup declared

/-- Where nothing was wrong, a name that is not declared is the first thing that is. -/
theorem checkMembers_insertEntry {s : Shape} (closed : s.closed = true)
    {es : List (String × Json)} (passes : s.checkMembers es = .ok ()) {name : String}
    (unknown : name ∉ s.names) (x : Json) :
    s.checkMembers (Dict.insertEntry name x es) = .error (.unknownField name s.names) := by
  have new : ∀ e ∈ es, e.1 ≠ name := fun e he same =>
    unknown (same ▸ mem_names_of_checkMembers closed passes e he)
  have undeclared : s.fields.lookup name = none :=
    Option.eq_none_iff_forall_ne_some.2 fun _ found => unknown (mem_names_of_lookup found)
  obtain ⟨before, after, rfl, inserted⟩ := Dict.exists_insertEntry x new
  rw [checkMembers_append, check_bind_eq_ok] at passes
  rw [inserted, checkMembers_append, passes.1]
  show s.checkMembers _ = _
  rw [Shape.checkMembers, undeclared]
  simp [closed]

/-! ### Records that ignore other names -/

/-- Two objects with the same members under the given names. -/
def Alike (names : List String) (es fs : List (String × Json)) : Prop :=
  es.filter (fun e => names.contains e.1) = fs.filter fun e => names.contains e.1

namespace Alike

variable {names : List String} {es fs : List (String × Json)}

theorem insertEntry {name : String} (unknown : name ∉ names) (x : Json)
    (es : List (String × Json)) : Alike names (Dict.insertEntry name x es) es :=
  Dict.filter_insertEntry x (by simpa using unknown) es

theorem filter (h : Alike names es fs) (p : String × Json → Bool) :
    Alike names (es.filter p) (fs.filter p) := by
  rw [Alike, List.filter_filter, List.filter_filter]
  simp only [Bool.and_comm _ (p _)]
  rw [← List.filter_filter, ← List.filter_filter, h]

theorem lookup (h : Alike names es fs) {k : String} (hk : k ∈ names) :
    Dict.lookup k es = Dict.lookup k fs := by
  have kept : names.contains k = true := by simpa using hk
  rw [← Dict.lookup_filter (p := names.contains) kept, h,
    Dict.lookup_filter (p := names.contains) kept]

/-- Members of other names are not checked. -/
theorem checkMembers_filter {s : Shape} (ignores : s.closed = false)
    (declared : ∀ name ∈ s.names, name ∈ names) (es : List (String × Json)) :
    s.checkMembers (es.filter fun e => names.contains e.1) = s.checkMembers es := by
  induction es with
  | nil => rfl
  | cons e es ih =>
    obtain ⟨k, v⟩ := e
    rw [List.filter_cons]
    split
    · rw [Shape.checkMembers, Shape.checkMembers, ih]
    · next other =>
      have undeclared : s.fields.lookup k = none :=
        Option.eq_none_iff_forall_ne_some.2 fun _ found =>
          other (by simpa using declared k (mem_names_of_lookup found))
      rw [ih, Shape.checkMembers, undeclared, ignores]
      rfl

/-- A record is decoded alike from the same members under the names that it reads. -/
theorem record (h : Alike names es fs) {s : Shape} {build : Members → Except DecodeError α}
    (ignores : s.closed = false) (declared : ∀ name ∈ s.names, name ∈ names)
    (reads : ∀ {m m' : Members}, m.missing = m'.missing →
      (∀ k ∈ names, Dict.lookup k m.entries = Dict.lookup k m'.entries) → build m = build m') :
    (members s (.object es) >>= build) = (members s (.object fs) >>= build) := by
  have checks : s.checkMembers es = s.checkMembers fs := by
    rw [← checkMembers_filter ignores declared es, h, checkMembers_filter ignores declared fs]
  have built : build ⟨es, .missingField⟩ = build ⟨fs, .missingField⟩ :=
    reads rfl fun k hk => h.lookup hk
  rw [record_object, record_object, checks, built]

theorem tagged (h : Alike names es fs) {title tag : String} {variants : List (String × Decoder α)}
    (read : tag ∈ names)
    (each : ∀ variant ∈ variants, ∀ {es fs}, Alike names es fs →
      variant.2 (.object es) = variant.2 (.object fs)) :
    Decode.tagged title tag variants (.object es) =
      Decode.tagged title tag variants (.object fs) := by
  simp only [Decode.tagged, h.lookup read]
  cases Dict.lookup tag fs with
  | none => rfl
  | some v =>
    cases v with
    | string name =>
      cases named : variants.lookup name with
      | none =>
        simp only [named]
        rfl
      | some d =>
        -- The variant sees the members without the tag.
        have listed : (name, d) ∈ variants := by
          obtain ⟨before, after, rfl, -⟩ := List.lookup_eq_some_iff.1 named
          simp
        simp only [named]
        exact each (name, d) listed (h.filter _)
    | _ => rfl

theorem source (h : Alike Kind.source.keys es fs) :
    Decode.source (.object es) = Decode.source (.object fs) := by
  refine h.tagged (by decide) ?_
  simp only [List.forall_mem_cons]
  refine ⟨fun h => h.record rfl (by decide) fun missing found => ?_,
    fun h => h.record rfl (by decide) fun missing found => ?_, nofun⟩
  · simp [Members.need, missing, found "field" (by decide)]
  · simp [Members.need, Members.orElse, missing, found "fields" (by decide),
      found "separator" (by decide)]

theorem transform (h : Alike Kind.transform.keys es fs) :
    Decode.transform (.object es) = Decode.transform (.object fs) := by
  refine h.tagged (by decide) ?_
  simp only [List.forall_mem_cons]
  refine ⟨fun h => h.record rfl (by decide) fun _ _ => rfl,
    fun h => h.record rfl (by decide) fun _ _ => rfl,
    fun h => h.record rfl (by decide) fun missing found => ?_,
    fun h => h.record rfl (by decide) fun missing found => ?_, nofun⟩
  · simp [Members.need, missing, found "pattern" (by decide)]
  · simp [Members.need, Members.orElse, missing, found "factor" (by decide),
      found "decimals" (by decide)]

end Alike

end Json.Decode

/-! ## Kinds -/

namespace Kind

/-- Records of the kind refuse other names. -/
def closed : Kind → Bool
  | source | transform => false
  | _ => true

variable {k : Kind} {es : List (String × Json)} {a : k.Value}

theorem mem_keys (closed : k.closed = true) (accepted : k.decoder (.object es) = .ok a) :
    ∀ e ∈ es, e.1 ∈ k.keys := by
  cases k with
  | source => cases closed
  | transform => cases closed
  | _ =>
    exact mem_names_of_checkMembers rfl (checkMembers_of_record accepted)

theorem decoder_insertEntry_closed (closed : k.closed = true)
    (accepted : k.decoder (.object es) = .ok a) {name : String} (unknown : name ∉ k.keys)
    (x : Json) :
    k.decoder (.object (Dict.insertEntry name x es)) = .error (.unknownField name k.keys) := by
  cases k with
  | source => cases closed
  | transform => cases closed
  | _ =>
    have stops := checkMembers_insertEntry rfl (checkMembers_of_record accepted) unknown x
    refine (record_object _ _ _).trans ?_
    rw [stops]
    rfl

theorem decoder_insertEntry_open (ignores : k.closed = false) {name : String}
    (unknown : name ∉ k.keys) (x : Json) :
    k.decoder (.object (Dict.insertEntry name x es)) = k.decoder (.object es) := by
  cases k with
  | source => exact (Alike.insertEntry unknown x es).source
  | transform => exact (Alike.insertEntry unknown x es).transform
  | _ => cases ignores

end Kind

/-! ## Texts -/

theorem Context.isObject {k : Kind} {C : Json → Json} (h : Context (.record .document) k C)
    {es : List (String × Json)} {members : List (String × Json)}
    (root : C (.object es) = .object members) (fs : List (String × Json)) :
    ∃ members', C (.object fs) = .object members' := by
  cases h with
  | here => exact ⟨fs, rfl⟩
  | member child before after _ => exact ⟨_, rfl⟩
  | element => cases root

namespace Catalog

theorem ofText_of_object {s : String} {members : List (String × Json)}
    (read : Json.ofText? s = some (.object members)) :
    ofText s = (Decode.catalog (.object members)).mapError .undecodable := by
  rw [ofText, read]

theorem ofText_eq_ok_iff {s : String} {c : Catalog} :
    ofText s = .ok c ↔ ∃ members, Json.ofText? s = some (.object members) ∧
      Decode.catalog (.object members) = .ok c := by
  rw [ofText]
  cases Json.ofText? s with
  | none => simp
  | some v =>
    cases v with
    | object members => simp [mapError_eq_ok]
    | _ => simp

/-- **A name that is not declared** is found in no accepted record of the kinds that refuse it, and
put into one it is the error. Put into a source or a transform it changes nothing. -/
theorem stray_keys {s : String} {c : Catalog} (accepted : ofText s = .ok c) {k : Kind}
    {C : Json → Json} (place : Context (.record .document) k C) {es : List (String × Json)}
    (read : Json.ofText? s = some (C (.object es))) :
    (k.closed = true → ∀ e ∈ es, e.1 ∈ k.keys) ∧
      ∀ name x t, name ∉ k.keys →
        Json.ofText? t = some (C (.object (Dict.insertEntry name x es))) →
        ofText t =
          if k.closed then .error (.undecodable (.unknownField name k.keys)) else .ok c := by
  obtain ⟨members, root, decoded⟩ := ofText_eq_ok_iff.1 accepted
  have same : C (.object es) = .object members := Option.some.inj (read.symm.trans root)
  rw [← same] at decoded
  have there (fs : List (String × Json)) : Json.object fs ≠ .null := nofun
  obtain ⟨a, part⟩ := place.through.exists_ok (there es) decoded
  refine ⟨fun closed => Kind.mem_keys closed part, fun name x t unknown changed => ?_⟩
  -- The root is an object as before, so the text is decoded at all.
  obtain ⟨members', root'⟩ := place.isObject same (Dict.insertEntry name x es)
  rw [ofText_of_object (changed.trans (congrArg some root')), ← root']
  cases closed : k.closed with
  | true =>
    have stops := Kind.decoder_insertEntry_closed closed part unknown x
    have failed : Decode.catalog (C (.object (Dict.insertEntry name x es))) = _ :=
      place.through.strict (there _) (there _) decoded stops
    rw [failed]
    rfl
  | false =>
    have unchanged : Decode.catalog (C (.object (Dict.insertEntry name x es))) =
        Decode.catalog (C (.object es)) :=
      place.through.congr (there _) (there _) (Kind.decoder_insertEntry_open closed unknown x)
    rw [unchanged]
    exact mapError_eq_ok.2 decoded

/-! ## Misspelled names -/

/-- The value of a catalog with one template, which binds one variable. -/
def bound (binding : Json) : Json :=
  .object [("contract_types", .array []),
    ("templates", .array [.object [("category", .string "c"),
      ("external_template_ref", .string "x"), ("id", .string "t"), ("name", .string "T"),
      ("variable_bindings", .object [("v", binding)])]])]

theorem context_bound : Context (.record .document) .binding bound := by
  have templates : ("templates", Layout.list .template) ∈ Kind.document.children := by
    simp [Kind.children]
  have bindings : ("variable_bindings", Layout.dict .binding) ∈ Kind.template.children := by
    simp [Kind.children]
  exact .member templates [("contract_types", .array [])] [] <|
    .item [] [] <| .member bindings
      [("category", .string "c"), ("external_template_ref", .string "x"), ("id", .string "t"),
        ("name", .string "T")] [] <|
      .entry "v" [] [] <| .here .binding

/-- The source of the binding. -/
theorem context_source :
    Context (.record .document) .source fun o => bound (.object [("source", o)]) := by
  have source : ("source", Layout.record .source) ∈ Kind.binding.children := by
    simp [Kind.children]
  exact context_bound.trans (.member source [] [] (.here .source))

/-- Two fields with a space between them. -/
def joined : List (String × Json) :=
  [("fields", .array [.string "a", .string "b"]), ("kind", .string "concat")]

/-- A hyphen is meant to stand between them. -/
def hyphened : List (String × Json) := Dict.insertEntry "seperator" (.string "-") joined

/-- The texts are meant to be trimmed. -/
def trimmed : List (String × Json) :=
  Dict.insertEntry "transfrom" (.object [("op", .string "trim")]) [("source", .object joined)]

def joinedCatalog : Catalog :=
  ⟨[], [{ Template.new "t" "T" "c" "x" with
    bindings := .ofList [("v", .ofConcat ["a", "b"] " ")] }]⟩

/-- The text with a source. -/
def textOf (source : List (String × Json)) : String :=
  (bound (.object [("source", .object source)])).text

theorem ofText?_joined :
    Json.ofText? (textOf joined) = some (bound (.object [("source", .object joined)])) := by
  rw [textOf, Json.ofText?, Tree.ofText?_text]
  rfl

theorem ofText?_hyphened :
    Json.ofText? (textOf hyphened) = some (bound (.object [("source", .object hyphened)])) := by
  rw [textOf, Json.ofText?, Tree.ofText?_text]
  rfl

theorem ofText?_trimmed :
    Json.ofText? (bound (.object trimmed)).text = some (bound (.object trimmed)) := by
  rw [Json.ofText?, Tree.ofText?_text]
  rfl

theorem ofText_joined : ofText (textOf joined) = .ok joinedCatalog := by
  rw [ofText_of_object ofText?_joined]
  rfl

theorem ofText_hyphened : ofText (textOf hyphened) = .ok joinedCatalog := by
  rw [ofText_of_object ofText?_hyphened]
  rfl

/-- The misspelled separator is passed over, the misspelled transform is refused. -/
theorem stray_keys_joined :
    ofText (textOf joined) = .ok joinedCatalog ∧
      Json.ofText? (textOf joined) = some (bound (.object [("source", .object joined)])) ∧
      ofText (textOf hyphened) = .ok joinedCatalog ∧
      ofText (bound (.object trimmed)).text =
        .error (.undecodable (.unknownField "transfrom" ["source", "transform"])) := by
  have source := (stray_keys ofText_joined context_source ofText?_joined).2
  have binding := (stray_keys ofText_joined context_bound ofText?_joined).2
  exact ⟨ofText_joined, ofText?_joined,
    source "seperator" (.string "-") _ (by decide) ofText?_hyphened,
    binding "transfrom" _ _ (by decide) ofText?_trimmed⟩

/-- Not every name in an accepted catalog is declared. -/
theorem not_declared_hyphened :
    ¬ ∀ (s : String) (c : Catalog) (k : Kind) (C : Json → Json) (es : List (String × Json)),
      ofText s = .ok c → Context (.record .document) k C →
        Json.ofText? s = some (C (.object es)) → ∀ e ∈ es, e.1 ∈ k.keys := by
  intro declared
  have names := declared _ _ _ _ _ ofText_hyphened context_source ofText?_hyphened
  have inside : ("seperator", Json.string "-") ∈ joined ++ [("seperator", .string "-")] := by
    simp
  exact absurd (names _ inside) (by decide)

end Catalog

end ContractDocs
