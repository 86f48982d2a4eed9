/-
The structure of a catalog: nine kinds of records, one inside the other, and
the places in a JSON value where a record of a kind is decoded.

`Context`: a value with such a place left open. `Context.through`: what is
decoded around the place depends on what stands there only as far as its own
decoding does, and an error there is the error of the whole. So whatever is
proved of one record holds of it at any depth.
-/
import ContractDocs.Proofs.Codec

namespace ContractDocs

open Checks Json Json.Decode

/-! ## One record inside another -/

namespace Json.Decode

variable {α β γ : Type}

/-- The decoder `d` finds a part inside `C` and decodes it by `d'`. A part that is missing is null,
so null is no part. -/
structure Through (d : Decoder α) (d' : Decoder β) (C : Json → Json) : Prop where
  there : ∀ {v}, v ≠ .null → C v ≠ .null
  congr : ∀ {v w}, v ≠ .null → w ≠ .null → d' v = d' w → d (C v) = d (C w)
  strict : ∀ {v w a e}, v ≠ .null → w ≠ .null → d (C v) = .ok a → d' w = .error e →
    d (C w) = .error e

namespace Through

variable {d : Decoder α} {d' : Decoder β} {d'' : Decoder γ} {C C' : Json → Json}

theorem refl (d : Decoder α) : Through d d fun v => v where
  there h := h
  congr _ _ h := h
  strict _ _ _ h := h

/-- Where the whole is decoded, the part is. -/
theorem exists_ok (h : Through d d' C) {v : Json} {a : α} (hv : v ≠ .null)
    (accepted : d (C v) = .ok a) : ∃ b, d' v = .ok b := by
  cases part : d' v with
  | ok b => exact ⟨b, rfl⟩
  | error e =>
    rw [h.strict hv hv accepted part] at accepted
    cases accepted

theorem trans (h : Through d d' C) (h' : Through d' d'' C') : Through d d'' fun v => C (C' v) where
  there hv := h.there (h'.there hv)
  congr hv hw same := h.congr (h'.there hv) (h'.there hw) (h'.congr hv hw same)
  strict hv hw accepted failed := by
    obtain ⟨b, inner⟩ := h.exists_ok (h'.there hv) accepted
    exact h.strict (h'.there hv) (h'.there hw) accepted (h'.strict hv hw inner failed)

theorem option (d : Decoder α) : Through (Decode.option d) d fun v => v := by
  have there : ∀ {v}, v ≠ Json.null → Decode.option d v = (d v).map some := fun hv => by
    rw [Decode.option]
    exact hv
  refine ⟨fun hv => hv, fun hv hw same => ?_, fun _ hw _ failed => ?_⟩
  · rw [there hv, there hw, same]
  · rw [there hw, failed]
    rfl

theorem mapM_congr {f : γ → Except DecodeError α} {x y : γ} (same : f x = f y) (xs ys : List γ) :
    (xs ++ x :: ys).mapM f = (xs ++ y :: ys).mapM f := by
  rw [List.mapM_append, List.mapM_append, List.mapM_cons, List.mapM_cons, same]

theorem mapM_strict {f : γ → Except DecodeError α} {x y : γ} {xs ys : List γ} {as : List α}
    {e : DecodeError} (accepted : (xs ++ x :: ys).mapM f = .ok as) (failed : f y = .error e) :
    (xs ++ y :: ys).mapM f = .error e := by
  rw [List.mapM_append, bind_eq_ok] at accepted
  obtain ⟨bs, before, -⟩ := accepted
  rw [List.mapM_append, before, List.mapM_cons, failed]
  rfl

theorem list (d : Decoder α) (xs ys : List Json) :
    Through (Decode.list d) d fun v => .array (xs ++ v :: ys) where
  there _ := nofun
  congr _ _ same := mapM_congr same xs ys
  strict _ _ accepted failed := mapM_strict accepted failed

theorem dict (d : Decoder α) (name : String) (es fs : List (String × Json)) :
    Through (Decode.dict d) d fun v => .object (es ++ (name, v) :: fs) where
  there _ := nofun
  congr {v w} _ _ same := by
    refine congrArg (· >>= _) (mapM_congr ?_ es fs)
    show (d v >>= _) = (d w >>= _)
    rw [same]
  strict {v w a e} _ _ accepted failed := by
    obtain ⟨bs, decoded, -⟩ := bind_eq_ok.1 accepted
    refine bind_eq_error.2 (.inl (mapM_strict decoded ?_))
    exact bind_eq_error.2 (.inl failed)

end Through

/-! ## Fields of a record -/

theorem check_eq_error {d : Decoder α} {v : Json} {e : DecodeError} (h : d v = .error e) :
    check d v = .error e := by
  rw [check, h]
  rfl

theorem checkMembers_append (s : Shape) (es fs : List (String × Json)) :
    s.checkMembers (es ++ fs) = (s.checkMembers es >>= fun _ => s.checkMembers fs) := by
  induction es with
  | nil => rfl
  | cons e es ih =>
    obtain ⟨k, v⟩ := e
    rw [List.cons_append, Shape.checkMembers, Shape.checkMembers, ih]
    cases s.fields.lookup k with
    | none => cases s.closed <;> rfl
    | some check => exact (bind_assoc _ _ _).symm

theorem checkMembers_cons {s : Shape} {name : String} {check : Json → Except DecodeError Unit}
    (declared : s.fields.lookup name = some check) (v : Json) (es : List (String × Json)) :
    s.checkMembers ((name, v) :: es) = (check v >>= fun _ => s.checkMembers es) := by
  rw [Shape.checkMembers, declared]

theorem checkMembers_of_record {s : Shape} {build : Members → Except DecodeError α}
    {es : List (String × Json)} {a : α} (accepted : (members s (.object es) >>= build) = .ok a) :
    s.checkMembers es = .ok () := by
  rw [record_object] at accepted
  exact (check_bind_eq_ok.1 accepted).1

theorem checkElements_append {fs gs : List (String × (Json → Except DecodeError Unit))}
    {xs : List Json} (same : fs.length = xs.length) (ys : List Json) :
    Shape.checkElements (fs ++ gs) (xs ++ ys) =
      (Shape.checkElements fs xs >>= fun _ => Shape.checkElements gs ys) := by
  induction fs generalizing xs with
  | nil =>
    obtain rfl := List.length_eq_zero_iff.1 same.symm
    rfl
  | cons f fs ih =>
    cases xs with
    | nil => cases same
    | cons x xs =>
      obtain ⟨name, check⟩ := f
      rw [List.cons_append, List.cons_append, Shape.checkElements, Shape.checkElements,
        ih (Nat.succ.inj same)]
      exact (bind_assoc _ _ _).symm

/-- Two records that differ in one field, which `d` decodes alike. -/
structure Differ (name : String) (d : Decoder β) (m m' : Members) : Prop where
  missing : m.missing = m'.missing
  other : ∀ {k}, k ≠ name → Dict.lookup k m.entries = Dict.lookup k m'.entries
  field : (Dict.lookup name m.entries).map d = (Dict.lookup name m'.entries).map d

namespace Differ

variable {name : String} {d : Decoder β} {m m' : Members}

theorem of_append {v w : Json} (same : d v = d w) (es fs : List (String × Json))
    (missing : String → DecodeError) :
    Differ name d ⟨es ++ (name, v) :: fs, missing⟩ ⟨es ++ (name, w) :: fs, missing⟩ where
  missing := rfl
  other hk := by simp only [Dict.lookup_append, Dict.lookup, Ne.symm hk, ↓reduceIte]
  field := by
    -- An earlier member of the same name is read in both, the changed one in neither.
    simp only [Dict.lookup_append, Dict.lookup, ↓reduceIte]
    cases Dict.lookup name es with
    | some u => rfl
    | none => exact congrArg some same

theorem need_other (h : Differ name d m m') {k : String} (hk : k ≠ name) (d' : Decoder α) :
    m.need k d' = m'.need k d' := by
  rw [Members.need, Members.need, h.other hk, h.missing]

theorem orElse_other (h : Differ name d m m') {k : String} (hk : k ≠ name) (d' : Decoder α)
    (default : α) : m.orElse k d' default = m'.orElse k d' default := by
  rw [Members.orElse, Members.orElse, h.other hk]

theorem need_field (h : Differ name d m m') : m.need name d = m'.need name d := by
  have field := h.field
  rw [Members.need, Members.need, h.missing]
  revert field
  cases Dict.lookup name m.entries <;> cases Dict.lookup name m'.entries <;> simp

theorem orElse_field (h : Differ name d m m') (default : β) :
    m.orElse name d default = m'.orElse name d default := by
  have field := h.field
  rw [Members.orElse, Members.orElse]
  revert field
  cases Dict.lookup name m.entries <;> cases Dict.lookup name m'.entries <;> simp

end Differ

/-- What is built depends on a field only as far as `d` decodes it. -/
def Reads (build : Members → Except DecodeError α) (name : String) (d : Decoder β) : Prop :=
  ∀ m m', Differ name d m m' → build m = build m'

namespace Through

variable {s : Shape} {build : Members → Except DecodeError α} {name : String} {d' : Decoder β}

theorem member (declared : s.fields.lookup name = some (check d')) (reads : Reads build name d')
    (es fs : List (String × Json)) : Through (fun o => members s o >>= build) d' fun v =>
      .object (es ++ (name, v) :: fs) where
  there _ := nofun
  congr {v w} _ _ same := by
    have checks : s.checkMembers (es ++ (name, v) :: fs) =
        s.checkMembers (es ++ (name, w) :: fs) := by
      rw [checkMembers_append, checkMembers_append, checkMembers_cons declared,
        checkMembers_cons declared, check, same, check]
    show (members s _ >>= build) = (members s _ >>= build)
    rw [record_object, record_object, checks, reads _ _ (.of_append same es fs _)]
  strict {v w a e} _ _ accepted failed := by
    -- The members before the field have passed, so its error is the first.
    have passes := checkMembers_of_record accepted
    rw [checkMembers_append, check_bind_eq_ok] at passes
    show (members s _ >>= build) = _
    rw [record_object, checkMembers_append, passes.1, checkMembers_cons declared,
      check_eq_error failed]
    rfl

/-- The same for a record that is written as an array, its fields in the order of their
declaration. -/
theorem element {before after : List (String × (Json → Except DecodeError Unit))}
    (declared : s.fields = before ++ (name, check d') :: after) (reads : Reads build name d')
    {xs : List Json} (place : before.length = xs.length) (ys : List Json) :
    Through (fun o => members s o >>= build) d' fun v => .array (xs ++ v :: ys) := by
  have checks (v : Json) : Shape.checkElements s.fields (xs ++ v :: ys) =
      (Shape.checkElements before xs >>= fun _ => check d' v >>= fun _ =>
        Shape.checkElements after ys) := by
    rw [declared, checkElements_append place]
    rfl
  have entries (v : Json) : s.names.zip (xs ++ v :: ys) =
      (before.map (·.1)).zip xs ++ (name, v) :: (after.map (·.1)).zip ys := by
    rw [Shape.names, declared, List.map_append, List.map_cons,
      List.zip_append (by rw [List.length_map, place]), List.zip_cons_cons]
  refine ⟨fun _ => nofun, fun {v w} _ _ same => ?_, fun {v w a e} _ _ accepted failed => ?_⟩
  · have equal : Shape.checkElements s.fields (xs ++ v :: ys) =
        Shape.checkElements s.fields (xs ++ w :: ys) := by
      rw [checks, checks, check, same, check]
    have length : (xs ++ v :: ys).length = (xs ++ w :: ys).length := by simp
    simp only [members, equal, length, entries, bind_assoc]
    congr 1
    funext _
    split
    · rfl
    · exact reads _ _ (.of_append same _ _ _)
  · obtain ⟨m, found, -⟩ := bind_eq_ok.1 accepted
    have passes := (check_bind_eq_ok.1 found).1
    rw [checks, check_bind_eq_ok] at passes
    have stops : Shape.checkElements s.fields (xs ++ w :: ys) = .error e := by
      rw [checks, passes.1, check_eq_error failed]
      rfl
    exact bind_eq_error.2 (.inl (bind_eq_error.2 (.inl stops)))

end Through

end Json.Decode

/-! ## The kinds of records -/

/-- The kinds of records that a catalog is made of. -/
inductive Kind
  | document
  | contractType
  | businessRule
  | constraints
  | template
  | storagePattern
  | binding
  | source
  | transform

namespace Kind

def Value : Kind → Type
  | document => Catalog
  | contractType => ContractType
  | businessRule => BusinessRule
  | constraints => Constraints
  | template => Template
  | storagePattern => StoragePattern
  | binding => Binding
  | source => Source
  | transform => Transform

def decoder : (k : Kind) → Decoder k.Value
  | document => Decode.catalog
  | contractType => Decode.contractType
  | businessRule => Decode.businessRule
  | constraints => Decode.constraints
  | template => Decode.template
  | storagePattern => Decode.storagePattern
  | binding => Decode.binding
  | source => Decode.source
  | transform => Decode.transform

/-- The names that a record of the kind declares, in their order; those of all variants where there
are several. -/
def keys : Kind → List String
  | document => ["contract_types", "templates"]
  | contractType => ["id", "name", "description", "category", "required_fields", "optional_fields",
      "business_rules", "constraints", "default_values", "linked_template_id"]
  | businessRule => ["statement", "enforced_by"]
  | constraints => ["max_duration_months", "min_duration_months", "allows_salary",
      "allows_probation", "allows_remote_work", "max_weekly_hours", "max_probation_months",
      "min_notice_days", "max_notice_days", "minimum_wage"]
  | template => ["id", "name", "category", "external_template_ref", "placeholders",
      "required_fields", "optional_fields", "variable_bindings", "output_format",
      "storage_pattern"]
  | storagePattern => ["folder", "filename"]
  | binding => ["source", "transform"]
  | source => ["kind", "field", "fields", "separator"]
  | transform => ["op", "pattern", "factor", "decimals"]

end Kind

/-- How records stand under a name. -/
inductive Layout
  | record (k : Kind)
  | list (k : Kind)
  | dict (k : Kind)
  | option (k : Kind)

namespace Layout

def Value : Layout → Type
  | record k => k.Value
  | list k => List k.Value
  | dict k => Dict k.Value
  | option k => Option k.Value

def decoder : (l : Layout) → Decoder l.Value
  | record k => k.decoder
  | list k => Decode.list k.decoder
  | dict k => Decode.dict k.decoder
  | option k => Decode.option k.decoder

end Layout

/-- The names of a record under which other records stand. -/
def Kind.children : Kind → List (String × Layout)
  | document => [("contract_types", .list contractType), ("templates", .list template)]
  | contractType => [("business_rules", .list businessRule), ("constraints", .record constraints)]
  | template => [("variable_bindings", .dict binding), ("storage_pattern", .option storagePattern)]
  | binding => [("source", .record source), ("transform", .option transform)]
  | _ => []

/-- A value with a place left open in which a record of a kind is decoded. -/
inductive Context : Layout → Kind → (Json → Json) → Prop
  | here (k : Kind) : Context (.record k) k fun o => o
  | member {k k' : Kind} {name : String} {l : Layout} {C : Json → Json}
    (child : (name, l) ∈ k.children) (es fs : List (String × Json)) (inner : Context l k' C) :
    Context (.record k) k' fun o => .object (es ++ (name, C o) :: fs)
  /-- A record that is written as an array. -/
  | element {k k' : Kind} {name : String} {l : Layout} {C : Json → Json}
    (child : (name, l) ∈ k.children) {xs : List Json} (place : k.keys[xs.length]? = some name)
    (ys : List Json) (inner : Context l k' C) :
    Context (.record k) k' fun o => .array (xs ++ C o :: ys)
  | item {k k' : Kind} {C : Json → Json} (xs ys : List Json) (inner : Context (.record k) k' C) :
    Context (.list k) k' fun o => .array (xs ++ C o :: ys)
  | entry {k k' : Kind} {C : Json → Json} (name : String) (es fs : List (String × Json))
    (inner : Context (.record k) k' C) :
    Context (.dict k) k' fun o => .object (es ++ (name, C o) :: fs)
  | present {k k' : Kind} {C : Json → Json} (inner : Context (.record k) k' C) :
    Context (.option k) k' C

/-- A place in a place. -/
theorem Context.trans {l : Layout} {k k' : Kind} {C C' : Json → Json} (h : Context l k C)
    (h' : Context (.record k) k' C') : Context l k' fun o => C (C' o) := by
  induction h with
  | here => exact h'
  | member child es fs _ ih => exact .member child es fs (ih h')
  | element child place ys _ ih => exact .element child place ys (ih h')
  | item xs ys _ ih => exact .item xs ys (ih h')
  | entry name es fs _ ih => exact .entry name es fs (ih h')
  | present _ ih => exact .present (ih h')

/-- A decoder that decodes a field by another one, where the record is written as an object and
where it is written as an array. -/
structure FieldOf {α β : Type} (d : Decoder α) (keys : List String) (name : String)
    (d' : Decoder β) : Prop where
  member : ∀ es fs : List (String × Json), Through d d' fun v => .object (es ++ (name, v) :: fs)
  element : ∀ xs ys : List Json, keys[xs.length]? = some name →
    Through d d' fun v => .array (xs ++ v :: ys)

theorem FieldOf.of_record {α β : Type} {s : Shape} {build : Members → Except DecodeError α}
    {name : String} {d' : Decoder β} (distinct : s.names.Nodup)
    (declared : s.fields.lookup name = some (check d')) (reads : Reads build name d') :
    FieldOf (fun o => members s o >>= build) s.names name d' where
  member := Through.member declared reads
  element xs ys place := by
    obtain ⟨before, after, fields, -⟩ := List.lookup_eq_some_iff.1 declared
    have here : s.names[before.length]? = some name := by simp [Shape.names, fields]
    have inside : before.length < s.names.length := (List.getElem?_eq_some_iff.1 here).1
    -- A name stands at one position, so this is the position of the declaration.
    have length := (List.getElem?_inj inside distinct).1 (here.trans place.symm)
    exact Through.element fields reads length ys

namespace FieldOf

theorem document_contractTypes : FieldOf Decode.catalog Kind.document.keys "contract_types"
    (Decode.list Decode.contractType) := by
  refine .of_record (by decide) rfl fun m m' h => ?_
  simp [h.need_other, h.need_field]

theorem document_templates : FieldOf Decode.catalog Kind.document.keys "templates"
    (Decode.list Decode.template) := by
  refine .of_record (by decide) rfl fun m m' h => ?_
  simp [h.need_other, h.need_field]

theorem contractType_businessRules : FieldOf Decode.contractType Kind.contractType.keys
    "business_rules" (Decode.list Decode.businessRule) := by
  refine .of_record (by decide) rfl fun m m' h => ?_
  simp [h.need_other, h.orElse_other, h.orElse_field]

theorem contractType_constraints : FieldOf Decode.contractType Kind.contractType.keys "constraints"
    Decode.constraints := by
  refine .of_record (by decide) rfl fun m m' h => ?_
  simp [h.need_other, h.orElse_other, h.orElse_field]

theorem template_variableBindings : FieldOf Decode.template Kind.template.keys "variable_bindings"
    (Decode.dict Decode.binding) := by
  refine .of_record (by decide) rfl fun m m' h => ?_
  simp [h.need_other, h.orElse_other, h.orElse_field]

theorem template_storagePattern : FieldOf Decode.template Kind.template.keys "storage_pattern"
    (Decode.option Decode.storagePattern) := by
  refine .of_record (by decide) rfl fun m m' h => ?_
  simp [h.need_other, h.orElse_other, h.orElse_field]

theorem binding_source : FieldOf Decode.binding Kind.binding.keys "source"
    Decode.source := by
  refine .of_record (by decide) rfl fun m m' h => ?_
  simp [h.orElse_other, h.need_field]

theorem binding_transform : FieldOf Decode.binding Kind.binding.keys "transform"
    (Decode.option Decode.transform) := by
  refine .of_record (by decide) rfl fun m m' h => ?_
  simp [h.need_other, h.orElse_field]

end FieldOf

theorem Kind.field {k : Kind} {name : String} {l : Layout} (child : (name, l) ∈ k.children) :
    FieldOf k.decoder k.keys name l.decoder := by
  cases k <;>
    simp only [children, List.mem_cons, List.not_mem_nil, or_false, Prod.mk.injEq] at child
  case document =>
    rcases child with ⟨rfl, rfl⟩ | ⟨rfl, rfl⟩
    exacts [.document_contractTypes, .document_templates]
  case contractType =>
    rcases child with ⟨rfl, rfl⟩ | ⟨rfl, rfl⟩
    exacts [.contractType_businessRules, .contractType_constraints]
  case template =>
    rcases child with ⟨rfl, rfl⟩ | ⟨rfl, rfl⟩
    exacts [.template_variableBindings, .template_storagePattern]
  case binding =>
    rcases child with ⟨rfl, rfl⟩ | ⟨rfl, rfl⟩
    exacts [.binding_source, .binding_transform]

/-- **What is decoded around a place** depends on the place only as far as that is decoded, at any
depth. -/
theorem Context.through {l : Layout} {k : Kind} {C : Json → Json} (h : Context l k C) :
    Through l.decoder k.decoder C := by
  induction h with
  | here k => exact .refl _
  | member child es fs _ ih => exact ((Kind.field child).member es fs).trans ih
  | element child place ys _ ih => exact ((Kind.field child).element _ ys place).trans ih
  | item xs ys _ ih => exact (Through.list _ xs ys).trans ih
  | entry name es fs _ ih => exact (Through.dict _ name es fs).trans ih
  | present _ ih => exact (Through.option _).trans ih

end ContractDocs
