/-
Decoding undoes encoding, also after a reader has put the members of objects
in order: for sources, transforms, bindings, rules, limits, patterns, contract
types, templates and whole catalogs.

`Decode.record_eq_ok`: a record is decoded from its members in any order.
`Decodes.catalog`: the whole catalog, if its fractions are finite and its
default values are such as a reader holds.
-/
import ContractDocs.Catalog
import ContractDocs.Proofs.Checks
import ContractDocs.Proofs.JsonReading

namespace ContractDocs

open Checks

namespace Json

/-! ## Members in any order -/

/-- The members of an object as a reader holds them. -/
structure Arranges (es fs : List (String × Json)) : Prop where
  mem : ∀ f ∈ fs, ∃ e ∈ es, f = (e.1, e.2.sorted)
  lookup : ∀ k, Dict.lookup k fs = (Dict.lookup k es).map sorted

theorem exists_arranges {es : List (String × Json)} (distinct : es.Pairwise fun a b => a.1 ≠ b.1) :
    ∃ fs, (object es).sorted = .object fs ∧ Arranges es fs := by
  refine ⟨_, sorted_object es, fun f hf => ?_, fun k => ?_⟩
  · obtain ⟨e, he, rfl⟩ := List.mem_map.1 (Dict.mem_of_mem_ofList hf)
    exact ⟨e, he, rfl⟩
  · rw [← Dict.lookup_map]
    exact Dict.get?_ofList k (List.pairwise_map.2 distinct)

theorem Arranges.filter {es fs : List (String × Json)} (h : Arranges es fs) (k : String) :
    Arranges (es.filter (·.1 != k)) (fs.filter (·.1 != k)) := by
  refine ⟨fun f hf => ?_, fun k' => ?_⟩
  · obtain ⟨hf, other⟩ := List.mem_filter.1 hf
    obtain ⟨e, he, rfl⟩ := h.mem f hf
    exact ⟨e, List.mem_filter.2 ⟨he, other⟩, rfl⟩
  · by_cases same : k' = k
    · subst same
      rw [Dict.lookup_filter_self, Dict.lookup_filter_self]
      rfl
    · rw [Dict.lookup_filter_other same, Dict.lookup_filter_other same, h.lookup]

namespace Decode

variable {α : Type}

/-! ## Records -/

theorem pairwise_present {ms : List (String × Option Json)}
    (h : ms.Pairwise fun a b => a.1 ≠ b.1) :
    (ms.filterMap fun (k, v) => v.map fun v => (k, v)).Pairwise fun a b => a.1 ≠ b.1 := by
  refine h.filterMap _ fun a b ne x hx y hy => ?_
  obtain ⟨v, -, rfl⟩ := Option.map_eq_some_iff.1 hx
  obtain ⟨w, -, rfl⟩ := Option.map_eq_some_iff.1 hy
  exact ne

theorem lookup_present {ms : List (String × Option Json)} (h : ms.Pairwise fun a b => a.1 ≠ b.1)
    (k : String) :
    Dict.lookup k (ms.filterMap fun (k, v) => v.map fun v => (k, v)) =
      (Dict.lookup k ms).join := by
  induction ms with
  | nil => rfl
  | cons e ms ih =>
    obtain ⟨k', o⟩ := e
    rw [List.pairwise_cons] at h
    cases o with
    | some v =>
      show Dict.lookup k ((k', v) :: ms.filterMap _) = _
      rw [Dict.lookup, Dict.lookup, ih h.2]
      split <;> rfl
    | none =>
      show Dict.lookup k (ms.filterMap _) = _
      rw [Dict.lookup, ih h.2]
      split
      · next same =>
        rw [Dict.lookup_eq_none fun e he => same ▸ (h.1 e he).symm]
        rfl
      · rfl

/-- The check of a member passes, and there is one unless other names are ignored. -/
def Shape.Takes (s : Shape) (e : String × Json) : Prop :=
  match s.fields.lookup e.1 with
  | some check => check e.2 = .ok ()
  | none => s.closed = false

theorem checkMembers_eq_ok_iff {s : Shape} {es : List (String × Json)} :
    s.checkMembers es = .ok () ↔ ∀ e ∈ es, s.Takes e := by
  induction es with
  | nil => simp [Shape.checkMembers]
  | cons e es ih =>
    obtain ⟨k, v⟩ := e
    rw [List.forall_mem_cons, ← ih, Shape.checkMembers, Shape.Takes]
    cases s.fields.lookup k with
    | none => cases s.closed <;> simp
    | some check => exact check_bind_eq_ok

/-- A record that is written as an object: its members are checked, then it is built of them. -/
theorem record_object (s : Shape) (build : Members → Except DecodeError α)
    (es : List (String × Json)) :
    (members s (.object es) >>= build) =
      (s.checkMembers es >>= fun _ => build ⟨es, .missingField⟩) := by
  show ((s.checkMembers es >>= fun _ => pure _) >>= build) = _
  rw [bind_assoc]
  rfl

/-- A record is decoded from the values of its fields, however they are arranged. -/
theorem record_of_arranges {s : Shape} {build : Members → Except DecodeError α} {a : α}
    {es fs : List (String × Json)} (arranges : Arranges es fs)
    (takes : ∀ e ∈ es, s.Takes (e.1, e.2.sorted))
    (builds : ∀ m : Members, (∀ k, Dict.lookup k m.entries = (Dict.lookup k es).map sorted) →
      build m = .ok a) : (members s (.object fs) >>= build) = .ok a := by
  have passes : s.checkMembers fs = .ok () := by
    refine checkMembers_eq_ok_iff.2 fun f hf => ?_
    obtain ⟨e, he, rfl⟩ := arranges.mem f hf
    exact takes e he
  rw [record_object, passes]
  exact builds _ arranges.lookup

theorem record_eq_ok {s : Shape} {build : Members → Except DecodeError α} {a : α}
    {es : List (String × Json)} (distinct : es.Pairwise fun a b => a.1 ≠ b.1)
    (takes : ∀ e ∈ es, s.Takes (e.1, e.2.sorted))
    (builds : ∀ m : Members, (∀ k, Dict.lookup k m.entries = (Dict.lookup k es).map sorted) →
      build m = .ok a) : (members s (object es).sorted >>= build) = .ok a := by
  obtain ⟨fs, sorted, arranges⟩ := exists_arranges distinct
  rw [sorted]
  exact record_of_arranges arranges takes builds

/-- A value of a tagged type is decoded as the variant that its tag names. -/
theorem tagged_eq_ok {title tag name : String} {variants : List (String × Decoder α)}
    {d : Decoder α} {a : α} {es : List (String × Json)}
    (distinct : es.Pairwise fun a b => a.1 ≠ b.1)
    (tag_is : Dict.lookup tag es = some (.string name)) (variant : variants.lookup name = some d)
    (decodes : ∀ fs, Arranges (es.filter (·.1 != tag)) fs → d (.object fs) = .ok a) :
    tagged title tag variants (object es).sorted = .ok a := by
  obtain ⟨fs, sorted, arranges⟩ := exists_arranges distinct
  have found : Dict.lookup tag fs = some (.string name) := by
    rw [arranges.lookup, tag_is]
    rfl
  have named : tagged title tag variants (.object fs) = d (.object (fs.filter (·.1 != tag))) := by
    simp only [tagged, found, variant]
    rfl
  rw [sorted, named, decodes _ (arranges.filter tag)]

/-! ## Values of one kind -/

/-- The decoder finds `a` in `v`, once a reader has put the members in order. -/
def Decodes (d : Decoder α) (v : Json) (a : α) : Prop := d v.sorted = .ok a

theorem Shape.Takes.of {s : Shape} {name : String} {d : Decoder α} {v : Json} {a : α}
    (field : s.fields.lookup name = some (check d)) (h : Decodes d v a) :
    s.Takes (name, v.sorted) := by
  rw [Shape.Takes, field]
  show (d v.sorted).map _ = _
  rw [h]
  rfl

/-- Every member that has a value passes the check of its field. -/
def Shape.TakesAll (s : Shape) (ms : List (String × Option Json)) : Prop :=
  ∀ e ∈ ms, ∀ v ∈ e.2, s.Takes (e.1, v.sorted)

namespace Shape.TakesAll

variable {s : Shape} {name : String} {d : Decoder α} {ms : List (String × Option Json)}

theorem nil : s.TakesAll [] := fun _ => nofun

theorem field {v : Json} {a : α} (declared : s.fields.lookup name = some (check d))
    (h : Decodes d v a) (rest : s.TakesAll ms) : s.TakesAll ((name, some v) :: ms) :=
  List.forall_mem_cons.2 ⟨fun _ hw => Option.some.inj hw ▸ .of declared h, rest⟩

theorem option {encode : α → Json} {o : Option α}
    (declared : s.fields.lookup name = some (check (Decode.option d)))
    (h : ∀ a ∈ o, Decodes (Decode.option d) (encode a) (some a)) (rest : s.TakesAll ms) :
    s.TakesAll ((name, o.map encode) :: ms) := by
  refine List.forall_mem_cons.2 ⟨fun w hw => ?_, rest⟩
  obtain ⟨a, ha, rfl⟩ := Option.map_eq_some_iff.1 hw
  exact .of declared (h a ha)

theorem members {es : List (String × Json)}
    (h : s.TakesAll (es.map fun e => (e.1, some e.2))) : ∀ e ∈ es, s.Takes (e.1, e.2.sorted) :=
  fun e he => h _ (List.mem_map_of_mem he) e.2 rfl

end Shape.TakesAll

theorem Members.need_eq_ok {m : Members} {name : String} {d : Decoder α} {v : Json} {a : α}
    (found : Dict.lookup name m.entries = some v.sorted) (h : Decodes d v a) :
    m.need name d = .ok a := by
  rw [Members.need, found]
  exact h

theorem Members.orElse_eq_ok {m : Members} {name : String} {d : Decoder α} {v : Json}
    {a default : α} (found : Dict.lookup name m.entries = some v.sorted) (h : Decodes d v a) :
    m.orElse name d default = .ok a := by
  rw [Members.orElse, found]
  exact h

/-- A member that is left out without a value is as good as null. -/
theorem Members.orElse_option {m : Members} {name : String} {d : Decoder α} {encode : α → Json}
    {o : Option α} (found : Dict.lookup name m.entries = (o.map encode).map sorted)
    (h : ∀ a ∈ o, Decodes (option d) (encode a) (some a)) :
    m.orElse name (option d) none = .ok o := by
  rw [Members.orElse, found]
  cases o with
  | none => rfl
  | some a => exact h a rfl

/-- A record of which some members may have no value. -/
theorem present_eq_ok {s : Shape} {build : Members → Except DecodeError α} {a : α}
    {ms : List (String × Option Json)} (distinct : ms.Pairwise fun a b => a.1 ≠ b.1)
    (takes : s.TakesAll ms)
    (builds : ∀ m : Members,
      (∀ k, Dict.lookup k m.entries = (Dict.lookup k ms).join.map sorted) → build m = .ok a) :
    (members s (present ms).sorted >>= build) = .ok a := by
  refine record_eq_ok (pairwise_present distinct) (fun e he => ?_) fun m found => ?_
  · obtain ⟨⟨k, o⟩, hm, he⟩ := List.mem_filterMap.1 he
    obtain ⟨v, hv, rfl⟩ := Option.map_eq_some_iff.1 he
    exact takes _ hm v hv
  · exact builds m fun k => by rw [found, lookup_present distinct]

namespace Decodes

variable {β : Type} {d : Decoder α} {encode : α → Json}

theorem string (s : String) : Decodes Decode.string (.string s) s := rfl

theorem boolean (b : Bool) : Decodes Decode.boolean (.bool b) b := rfl

theorem uint32 (n : UInt32) : Decodes Decode.uint32 (.int n.toNat) n := by
  have bound := n.toNat_lt
  have inside : (0 ≤ (n.toNat : Int) && (n.toNat : Int) < 4294967296) = true := by
    simp only [Bool.and_eq_true, decide_eq_true_eq]
    omega
  rw [Decodes, Json.int, sorted_number, Decode.uint32, if_pos inside, Int.toNat_natCast,
    n.ofNat_toNat]

theorem ofFloat {x : Float} (finite : x.isFinite = true) :
    Decodes Decode.number (.ofFloat x) x := by
  rw [Json.ofFloat, if_pos finite]
  rfl

theorem value {v : Json} (sorted : v.sorted = v) : Decodes Decode.value v v := by
  rw [Decodes, sorted]
  rfl

/-- A value that is there is no null, as no decoder here takes null for a value. -/
theorem some {v : Json} {a : α} (h : Decodes d v a) (refuses : ∀ b, d .null ≠ .ok b) :
    Decodes (option d) v (.some a) := by
  have there : v.sorted ≠ .null := fun none => refuses a (none ▸ h)
  have decoded : option d v.sorted = (d v.sorted).map .some := by
    rw [option]
    exact there
  rw [Decodes, decoded, h]
  rfl

/-- A limit that is not set is null. -/
theorem getD_null {o : Option α} (h : ∀ a ∈ o, Decodes d (encode a) a)
    (refuses : ∀ b, d .null ≠ .ok b) : Decodes (option d) ((o.map encode).getD .null) o := by
  cases o with
  | none => rfl
  | some a => exact some (h a rfl) refuses

theorem list {xs : List α} (h : ∀ a ∈ xs, Decodes d (encode a) a) :
    Decodes (Decode.list d) (.array (xs.map encode)) xs := by
  rw [Decodes, sorted_array, List.map_map]
  exact mapM_map_eq_ok h

theorem strings (xs : List String) :
    Decodes (Decode.list Decode.string) (.array (xs.map .string)) xs :=
  list fun s _ => string s

theorem dict {m : Dict α} (h : ∀ e ∈ m.entries, Decodes d (encode e.2) e.2) :
    Decodes (Decode.dict d) (.ofDict (m.map encode)) m := by
  rw [Decodes, sorted_ofDict]
  -- The entries are in order already, so they make the same dictionary again.
  refine bind_eq_ok.2 ⟨m.entries, ?_, congrArg Except.ok m.ofList_entries⟩
  show List.mapM _ ((m.entries.map _).map _) = _
  rw [List.map_map]
  refine mapM_map_eq_ok fun e he => ?_
  show (d (encode e.2).sorted >>= fun a => pure (e.1, a)) = .ok e
  rw [h e he]
  rfl

/-- A name among the names of a choice is decoded as what it names. -/
theorem choice {names : List (String × α)} {name : String} {a : α}
    (named : names.lookup name = .some a) : Decodes (Decode.choice names) (.string name) a := by
  rw [Decodes, sorted_string]
  simp only [Decode.choice, named]

/-! ## Bindings -/

theorem source (s : Source) : Decodes Decode.source s.toJson s := by
  cases s with
  | field name =>
    refine tagged_eq_ok (by simp) rfl rfl fun fs arranges => ?_
    refine record_of_arranges arranges (List.forall_mem_singleton.2 (.of rfl (string name))) ?_
    intro m found
    rw [m.need_eq_ok (found "field") (string name)]
    rfl
  | concat fields separator =>
    have separated := string separator
    refine tagged_eq_ok (by simp) rfl rfl fun fs arranges => ?_
    refine record_of_arranges arranges (List.forall_mem_cons.2 ⟨.of rfl (strings fields),
      List.forall_mem_singleton.2 (.of rfl separated)⟩) ?_
    intro m found
    rw [m.need_eq_ok (found "fields") (strings fields),
      m.orElse_eq_ok (found "separator") separated]
    rfl

end Decodes

end Decode

end Json

open Json.Decode

/-- The factor, if there is one, is a number that JSON has. -/
def Transform.Finite (t : Transform) : Prop :=
  ∀ factor decimals, t = .scale factor decimals → factor.isFinite = true

def Binding.Finite (b : Binding) : Prop := ∀ t, b.transform = some t → t.Finite

namespace Json.Decode.Decodes

theorem transform {t : Transform} (finite : t.Finite) : Decodes Decode.transform t.toJson t := by
  cases t with
  | trim =>
    refine tagged_eq_ok (by simp) rfl rfl fun fs arranges => ?_
    exact record_of_arranges arranges (fun _ => nofun) fun _ _ => rfl
  | uppercaseAlphanumeric =>
    refine tagged_eq_ok (by simp) rfl rfl fun fs arranges => ?_
    exact record_of_arranges arranges (fun _ => nofun) fun _ _ => rfl
  | dateFormat pattern =>
    refine tagged_eq_ok (by simp) rfl rfl fun fs arranges => ?_
    refine record_of_arranges arranges (List.forall_mem_singleton.2 (.of rfl (string pattern))) ?_
    intro m found
    rw [m.need_eq_ok (found "pattern") (string pattern)]
    rfl
  | scale factor decimals =>
    have factored := ofFloat (finite factor decimals rfl)
    cases decimals with
    | none =>
      refine tagged_eq_ok (by simp) rfl rfl fun fs arranges => ?_
      refine record_of_arranges arranges (List.forall_mem_singleton.2 (.of rfl factored)) ?_
      intro m found
      rw [m.need_eq_ok (found "factor") factored]
      show (m.orElse "decimals" _ none >>= _) = _
      rw [Members.orElse, found]
      rfl
    | some n =>
      have rounded : Decodes (Decode.option Decode.uint32) (.int n.toNat) (.some n) :=
        some (uint32 n) nofun
      refine tagged_eq_ok (by simp) rfl rfl fun fs arranges => ?_
      refine record_of_arranges arranges (List.forall_mem_cons.2 ⟨.of rfl factored,
        List.forall_mem_singleton.2 (.of rfl rounded)⟩) ?_
      intro m found
      rw [m.need_eq_ok (found "factor") factored, m.orElse_eq_ok (found "decimals") rounded]
      rfl

theorem binding {b : Binding} (finite : b.Finite) : Decodes Decode.binding b.toJson b := by
  have transformed : ∀ t ∈ b.transform,
      Decodes (Decode.option Decode.transform) t.toJson (.some t) := fun t ht =>
    some (transform (finite t ht)) (by simp [Decode.transform, tagged])
  refine present_eq_ok (by simp) ?_ fun m found => ?_
  · exact .field rfl (source b.source) (.option rfl transformed .nil)
  · rw [m.need_eq_ok (found "source") (source b.source),
      m.orElse_option (found "transform") transformed]
    rfl

/-! ## Contract types -/

theorem ruleCheck (c : RuleCheck) : Decodes Decode.ruleCheck c.toJson c :=
  choice (by cases c <;> rfl)

theorem businessRule (r : BusinessRule) : Decodes Decode.businessRule r.toJson r := by
  have enforced : ∀ c ∈ r.enforcedBy,
      Decodes (Decode.option Decode.ruleCheck) c.toJson (.some c) := fun c _ =>
    some (ruleCheck c) nofun
  refine present_eq_ok (by simp) ?_ fun m found => ?_
  · exact .field rfl (string r.statement) (.option rfl enforced .nil)
  · rw [m.need_eq_ok (found "statement") (string r.statement),
      m.orElse_option (found "enforced_by") enforced]
    rfl

theorem limit (o : Option UInt32) : Decodes (Decode.option Decode.uint32)
    ((o.map fun n => .int n.toNat).getD .null) o :=
  getD_null (fun n _ => uint32 n) nofun

end Json.Decode.Decodes

/-- The hours and the wages are numbers that JSON has. -/
structure Constraints.Finite (c : Constraints) : Prop where
  hours : ∀ x ∈ c.maxWeeklyHours, x.isFinite = true
  wages : ∀ e ∈ c.minimumWage.entries, e.2.isFinite = true

namespace Json.Decode.Decodes

theorem constraints {c : Constraints} (finite : c.Finite) :
    Decodes Decode.constraints c.toJson c := by
  have hours : Decodes (Decode.option Decode.number) ((c.maxWeeklyHours.map .ofFloat).getD .null)
      c.maxWeeklyHours := getD_null (fun x hx => ofFloat (finite.hours x hx)) nofun
  have wages : Decodes (Decode.dict Decode.number) (.ofDict (c.minimumWage.map .ofFloat))
      c.minimumWage := dict fun e he => ofFloat (finite.wages e he)
  refine record_eq_ok (by simp) (Shape.TakesAll.members ?_) fun m found => ?_
  · exact .field rfl (limit c.maxDurationMonths) <| .field rfl (limit c.minDurationMonths) <|
      .field rfl (boolean c.allowsSalary) <| .field rfl (boolean c.allowsProbation) <|
      .field rfl (boolean c.allowsRemoteWork) <| .field rfl hours <|
      .field rfl (limit c.maxProbationMonths) <| .field rfl (limit c.minNoticeDays) <|
      .field rfl (limit c.maxNoticeDays) <| .field rfl wages .nil
  · rw [m.orElse_eq_ok (found "max_duration_months") (limit c.maxDurationMonths),
      m.orElse_eq_ok (found "min_duration_months") (limit c.minDurationMonths),
      m.orElse_eq_ok (found "allows_salary") (boolean c.allowsSalary),
      m.orElse_eq_ok (found "allows_probation") (boolean c.allowsProbation),
      m.orElse_eq_ok (found "allows_remote_work") (boolean c.allowsRemoteWork),
      m.orElse_eq_ok (found "max_weekly_hours") hours,
      m.orElse_eq_ok (found "max_probation_months") (limit c.maxProbationMonths),
      m.orElse_eq_ok (found "min_notice_days") (limit c.minNoticeDays),
      m.orElse_eq_ok (found "max_notice_days") (limit c.maxNoticeDays),
      m.orElse_eq_ok (found "minimum_wage") wages]
    rfl

end Json.Decode.Decodes

/-- How deep a default value may be: four containers stand around it in the text of a catalog. -/
def ContractType.defaultDepth : Nat := Json.Tree.maxDepth - 4

/-- The numbers of the limits are such as JSON has, and the default values such as a reader
holds. -/
structure ContractType.Writable (t : ContractType) : Prop where
  constraints : t.constraints.Finite
  defaults : ∀ e ∈ t.defaults.entries, e.2.Held defaultDepth

def Template.Finite (t : Template) : Prop := ∀ e ∈ t.bindings.entries, e.2.Finite

namespace Json.Decode.Decodes

theorem contractType {t : ContractType} (writable : t.Writable) :
    Decodes Decode.contractType t.toJson t := by
  have rules := list fun r (_ : r ∈ t.rules) => businessRule r
  have limits := constraints writable.constraints
  have defaults : Decodes (Decode.dict Decode.value) (.ofDict t.defaults) t.defaults := by
    have mapped : Decodes (Decode.dict Decode.value) (.ofDict (t.defaults.map id)) t.defaults :=
      dict fun e he => value (writable.defaults e he).sorted
    rwa [Dict.map_id] at mapped
  have linked : ∀ id ∈ t.templateId,
      Decodes (Decode.option Decode.string) (.string id) (.some id) := fun id _ =>
    some (string id) nofun
  refine present_eq_ok (by simp) ?_ fun m found => ?_
  · exact .field rfl (string t.id) <| .field rfl (string t.name) <|
      .field rfl (string t.description) <| .field rfl (string t.category) <|
      .field rfl (strings t.requiredFields) <| .field rfl (strings t.optionalFields) <|
      .field rfl rules <| .field rfl limits <| .field rfl defaults <| .option rfl linked .nil
  · rw [m.need_eq_ok (found "id") (string t.id), m.need_eq_ok (found "name") (string t.name),
      m.orElse_eq_ok (found "description") (string t.description),
      m.need_eq_ok (found "category") (string t.category),
      m.orElse_eq_ok (found "required_fields") (strings t.requiredFields),
      m.orElse_eq_ok (found "optional_fields") (strings t.optionalFields),
      m.orElse_eq_ok (found "business_rules") rules,
      m.orElse_eq_ok (found "constraints") limits,
      m.orElse_eq_ok (found "default_values") defaults,
      m.orElse_option (found "linked_template_id") linked]
    rfl

/-! ## Templates -/

theorem storagePattern (p : StoragePattern) : Decodes Decode.storagePattern p.toJson p := by
  refine record_eq_ok (by simp) (Shape.TakesAll.members ?_) fun m found => ?_
  · exact .field rfl (string p.folder) <| .field rfl (string p.filename) .nil
  · rw [m.need_eq_ok (found "folder") (string p.folder),
      m.need_eq_ok (found "filename") (string p.filename)]
    rfl

theorem outputFormat (f : OutputFormat) : Decodes Decode.outputFormat f.toJson f :=
  choice (by cases f <;> rfl)

theorem bindings {m : Dict Binding} (finite : ∀ e ∈ m.entries, e.2.Finite) :
    Decodes (Decode.dict Decode.binding) (.ofDict (m.map Binding.toJson)) m :=
  dict fun e he => binding (finite e he)

theorem template {t : Template} (finite : t.Finite) : Decodes Decode.template t.toJson t := by
  have placeholders : Decodes (Decode.dict Decode.string) (.ofDict (t.placeholders.map .string))
      t.placeholders := dict fun e _ => string e.2
  have bound := bindings finite
  have stored : ∀ p ∈ t.storage,
      Decodes (Decode.option Decode.storagePattern) p.toJson (.some p) := fun p _ =>
    some (storagePattern p) nofun
  refine present_eq_ok (by simp) ?_ fun m found => ?_
  · exact .field rfl (string t.id) <| .field rfl (string t.name) <|
      .field rfl (string t.category) <| .field rfl (string t.externalRef) <|
      .field rfl placeholders <| .field rfl (strings t.requiredFields) <|
      .field rfl (strings t.optionalFields) <| .field rfl bound <|
      .field rfl (outputFormat t.outputFormat) <| .option rfl stored .nil
  · rw [m.need_eq_ok (found "id") (string t.id), m.need_eq_ok (found "name") (string t.name),
      m.need_eq_ok (found "category") (string t.category),
      m.need_eq_ok (found "external_template_ref") (string t.externalRef),
      m.orElse_eq_ok (found "placeholders") placeholders,
      m.orElse_eq_ok (found "required_fields") (strings t.requiredFields),
      m.orElse_eq_ok (found "optional_fields") (strings t.optionalFields),
      m.orElse_eq_ok (found "variable_bindings") bound,
      m.orElse_eq_ok (found "output_format") (outputFormat t.outputFormat),
      m.orElse_option (found "storage_pattern") stored]
    rfl

end Json.Decode.Decodes

/-! ## Catalogs -/

/-- Every type and every template can be written without loss. -/
structure Catalog.Writable (c : Catalog) : Prop where
  types : ∀ t ∈ c.contractTypes, t.Writable
  templates : ∀ t ∈ c.templates, t.Finite

/-- **Decoding undoes encoding** of a catalog. -/
theorem Json.Decode.Decodes.catalog {c : Catalog} (writable : c.Writable) :
    Decodes Decode.catalog c.toJson c := by
  have types := list fun t ht => contractType (writable.types t ht)
  have templates := list fun t ht => template (writable.templates t ht)
  refine record_eq_ok (by simp) (Shape.TakesAll.members ?_) fun m found => ?_
  · exact .field rfl types <| .field rfl templates .nil
  · rw [m.need_eq_ok (found "contract_types") types, m.need_eq_ok (found "templates") templates]
    rfl

end ContractDocs
