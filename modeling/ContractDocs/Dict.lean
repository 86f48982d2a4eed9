/-
Dictionaries from names to values, kept in the order of the names
(`String`'s order, by code point, which is also the order of the UTF-8
bytes). Two dictionaries that answer every look-up alike are equal, so a
dictionary is its content and nothing else.

`get?_insert_self`, `get?_insert_other`: what a look-up reads after a
value is put in. `get?_insertAll_entries`: the same for a whole dictionary.
`get?_eq_some_iff`: the entries are what look-ups read. `ext_get?`: there is
nothing else to a dictionary. `get?_ofList`, `ofList_entries`: the dictionary of
a list.
-/

namespace ContractDocs

/-- A dictionary: entries in strictly increasing order of their names. -/
structure Dict (α : Type) where
  entries : List (String × α)
  ordered : entries.Pairwise fun a b => a.1 < b.1

namespace Dict

variable {α β : Type}

theorem ext_entries {d e : Dict α} (h : d.entries = e.entries) : d = e := by
  cases d; cases e; cases h; rfl

instance [DecidableEq α] : DecidableEq (Dict α) := fun d e =>
  decidable_of_iff (d.entries = e.entries) ⟨ext_entries, fun h => h ▸ rfl⟩

/-- The dictionary without entries. -/
def empty : Dict α := ⟨[], .nil⟩

instance : Inhabited (Dict α) := ⟨empty⟩

/-- The number of entries. -/
def size (d : Dict α) : Nat := d.entries.length

def isEmpty (d : Dict α) : Bool := d.entries.isEmpty

/-- The names, in increasing order. -/
def keys (d : Dict α) : List String := d.entries.map (·.1)

/-- The values, in the order of their names. -/
def values (d : Dict α) : List α := d.entries.map (·.2)

/-- The value of the first entry named `k`. -/
def lookup (k : String) : List (String × α) → Option α
  | [] => none
  | (k', v) :: rest => if k' = k then some v else lookup k rest

/-- The value under `k`, if there is one. -/
def get? (d : Dict α) (k : String) : Option α := lookup k d.entries

def contains (d : Dict α) (k : String) : Bool := (d.get? k).isSome

/-- Puts `v` under `k` into entries in order, in place of an earlier value. -/
def insertEntry (k : String) (v : α) : List (String × α) → List (String × α)
  | [] => [(k, v)]
  | (k', v') :: rest =>
    if k < k' then (k, v) :: (k', v') :: rest
    else if k = k' then (k, v) :: rest
    else (k', v') :: insertEntry k v rest

theorem mem_insertEntry {k : String} {v : α} {e : String × α} {es : List (String × α)}
    (h : e ∈ insertEntry k v es) : e = (k, v) ∨ e ∈ es := by
  induction es with
  | nil => simpa [insertEntry] using h
  | cons p es ih =>
    obtain ⟨k', v'⟩ := p
    rw [insertEntry] at h
    split at h
    · simpa using h
    · split at h
      · rcases List.mem_cons.1 h with h | h
        · exact .inl h
        · exact .inr (List.mem_cons_of_mem _ h)
      · rcases List.mem_cons.1 h with h | h
        · exact .inr (by simp [h])
        · exact (ih h).imp_right (List.mem_cons_of_mem _)

theorem pairwise_insertEntry (k : String) (v : α) {es : List (String × α)}
    (h : es.Pairwise fun a b => a.1 < b.1) :
    (insertEntry k v es).Pairwise fun a b => a.1 < b.1 := by
  induction es with
  | nil => simp [insertEntry]
  | cons p es ih =>
    obtain ⟨k', v'⟩ := p
    rw [List.pairwise_cons] at h
    rw [insertEntry]
    split
    · rename_i hlt
      refine List.pairwise_cons.2 ⟨fun e he => ?_, List.pairwise_cons.2 h⟩
      rcases List.mem_cons.1 he with rfl | he
      · exact hlt
      · exact String.lt_trans hlt (h.1 e he)
    · split
      · rename_i heq
        subst heq
        exact List.pairwise_cons.2 ⟨fun e he => h.1 e he, h.2⟩
      · rename_i hlt hne
        refine List.pairwise_cons.2 ⟨fun e he => ?_, ih h.2⟩
        rcases mem_insertEntry he with rfl | he
        · rcases String.le_total k' k with hle | hle
          · exact Classical.byContradiction fun hn =>
              hne (String.le_antisymm (String.not_lt.1 hn) hle)
          · exact absurd (String.le_antisymm hle (String.not_lt.1 hlt)) hne
        · exact h.1 e he

/-- Puts `v` under `k`, in place of an earlier value. -/
def insert (d : Dict α) (k : String) (v : α) : Dict α :=
  ⟨insertEntry k v d.entries, pairwise_insertEntry k v d.ordered⟩

/-- Puts all entries in, one after the other: of equal names the last counts. -/
def insertAll (d : Dict α) (es : List (String × α)) : Dict α :=
  es.foldl (fun d e => d.insert e.1 e.2) d

def ofList (es : List (String × α)) : Dict α := empty.insertAll es

/-- Leaves out the entry under `k`. -/
def erase (d : Dict α) (k : String) : Dict α :=
  ⟨d.entries.filter (·.1 != k), d.ordered.filter _⟩

/-- Changes every value and no name. -/
def map (f : α → β) (d : Dict α) : Dict β :=
  ⟨d.entries.map fun e => (e.1, f e.2), d.ordered.map _ fun _ _ h => h⟩

/-! ## Look-ups -/

theorem lookup_insertEntry_self (k : String) (v : α) (es : List (String × α)) :
    lookup k (insertEntry k v es) = some v := by
  induction es with
  | nil => simp [insertEntry, lookup]
  | cons p es ih =>
    obtain ⟨k', v'⟩ := p
    rw [insertEntry]
    split
    · simp [lookup]
    · split
      · simp [lookup]
      · rename_i hne
        simp [lookup, Ne.symm hne, ih]

theorem lookup_insertEntry_other {k k' : String} (v : α) (h : k' ≠ k) (es : List (String × α)) :
    lookup k' (insertEntry k v es) = lookup k' es := by
  induction es with
  | nil => simp [insertEntry, lookup, Ne.symm h]
  | cons p es ih =>
    obtain ⟨j, w⟩ := p
    rw [insertEntry]
    split
    · simp [lookup, Ne.symm h]
    · split
      · rename_i heq
        subst heq
        simp [lookup, Ne.symm h]
      · simp [lookup, ih]

@[simp] theorem get?_empty (k : String) : (empty : Dict α).get? k = none := rfl

@[simp] theorem get?_insert_self (d : Dict α) (k : String) (v : α) :
    (d.insert k v).get? k = some v :=
  lookup_insertEntry_self k v d.entries

theorem get?_insert_other (d : Dict α) {k k' : String} (v : α) (h : k' ≠ k) :
    (d.insert k v).get? k' = d.get? k' :=
  lookup_insertEntry_other v h d.entries

theorem lookup_eq_some_iff {es : List (String × α)} (h : es.Pairwise fun a b => a.1 < b.1)
    {k : String} {v : α} : lookup k es = some v ↔ (k, v) ∈ es := by
  induction es with
  | nil => simp [lookup]
  | cons p es ih =>
    obtain ⟨k', v'⟩ := p
    rw [List.pairwise_cons] at h
    rw [lookup]
    split
    · rename_i heq
      subst heq
      constructor
      · rintro ⟨⟩
        exact List.mem_cons_self
      · intro hm
        rcases List.mem_cons.1 hm with hm | hm
        · simp_all
        · exact absurd (h.1 _ hm) (String.lt_irrefl _)
    · rename_i hne
      rw [ih h.2, List.mem_cons]
      constructor
      · exact .inr
      · rintro (heq | hm)
        · exact absurd (congrArg Prod.fst heq).symm hne
        · exact hm

theorem get?_eq_some_iff {d : Dict α} {k : String} {v : α} :
    d.get? k = some v ↔ (k, v) ∈ d.entries :=
  lookup_eq_some_iff d.ordered

theorem ext_get? {d e : Dict α} (h : ∀ k, d.get? k = e.get? k) : d = e := by
  have distinct : ∀ d : Dict α, d.entries.Nodup := fun d =>
    d.ordered.imp fun hlt same => String.ne_of_lt hlt (congrArg Prod.fst same)
  have perm : d.entries.Perm e.entries :=
    (List.perm_ext_iff_of_nodup (distinct d) (distinct e)).2 fun ⟨k, v⟩ => by
      rw [← get?_eq_some_iff, ← get?_eq_some_iff, h]
  refine ext_entries (perm.eq_of_pairwise (fun a b _ _ hab hba => ?_) d.ordered e.ordered)
  exact absurd (String.lt_trans hab hba) (String.lt_irrefl _)

theorem lookup_eq_none {k : String} {es : List (String × α)} (h : ∀ e ∈ es, e.1 ≠ k) :
    lookup k es = none := by
  induction es with
  | nil => rfl
  | cons p es ih =>
    rw [List.forall_mem_cons] at h
    rw [lookup, if_neg h.1, ih h.2]

theorem get?_insertAll (k : String) {es : List (String × α)}
    (h : es.Pairwise fun a b => a.1 ≠ b.1) (d : Dict α) :
    (d.insertAll es).get? k = (lookup k es).or (d.get? k) := by
  induction es generalizing d with
  | nil => rfl
  | cons p es ih =>
    obtain ⟨k', v⟩ := p
    rw [List.pairwise_cons] at h
    rw [insertAll, List.foldl_cons, ← insertAll, ih h.2, lookup]
    split
    · rename_i same
      subst same
      rw [lookup_eq_none fun e he => (h.1 e he).symm, get?_insert_self]
      rfl
    · rename_i other
      rw [get?_insert_other d v (Ne.symm other)]

theorem get?_ofList (k : String) {es : List (String × α)}
    (h : es.Pairwise fun a b => a.1 ≠ b.1) : (ofList es).get? k = lookup k es := by
  rw [ofList, get?_insertAll k h, get?_empty, Option.or_none]

/-- What is put in counts, and where nothing is put in the value is as before. -/
theorem get?_insertAll_entries (d e : Dict α) (k : String) :
    (d.insertAll e.entries).get? k = (e.get? k).or (d.get? k) :=
  get?_insertAll k (e.ordered.imp String.ne_of_lt) d

/-! ## The entries of a list -/

theorem mem_of_mem_insertAll {e : String × α} {es : List (String × α)} {d : Dict α}
    (h : e ∈ (d.insertAll es).entries) : e ∈ d.entries ∨ e ∈ es := by
  induction es generalizing d with
  | nil => exact .inl h
  | cons p es ih =>
    rcases ih h with hd | hes
    · rcases mem_insertEntry hd with rfl | hd
      · exact .inr List.mem_cons_self
      · exact .inl hd
    · exact .inr (List.mem_cons_of_mem _ hes)

/-- A dictionary of a list has no other entries than the list. -/
theorem mem_of_mem_ofList {e : String × α} {es : List (String × α)}
    (h : e ∈ (ofList es).entries) : e ∈ es :=
  (mem_of_mem_insertAll h).resolve_left List.not_mem_nil

theorem insertEntry_last {k : String} (v : α) {es : List (String × α)} (h : ∀ e ∈ es, e.1 < k) :
    insertEntry k v es = es ++ [(k, v)] := by
  induction es with
  | nil => rfl
  | cons p es ih =>
    obtain ⟨k', v'⟩ := p
    rw [List.forall_mem_cons] at h
    rw [insertEntry, if_neg fun hlt => String.lt_irrefl k (String.lt_trans hlt h.1),
      if_neg (String.ne_of_lt h.1).symm, ih h.2, List.cons_append]

/-- A new entry stands somewhere between the others. -/
theorem exists_insertEntry {k : String} (v : α) {es : List (String × α)}
    (new : ∀ e ∈ es, e.1 ≠ k) :
    ∃ before after, es = before ++ after ∧ insertEntry k v es = before ++ (k, v) :: after := by
  induction es with
  | nil => exact ⟨[], [], rfl, rfl⟩
  | cons e es ih =>
    obtain ⟨k', w⟩ := e
    rw [List.forall_mem_cons] at new
    rw [insertEntry]
    split
    · exact ⟨[], _, rfl, rfl⟩
    · obtain ⟨before, after, rfl, inserted⟩ := ih new.2
      rw [if_neg (Ne.symm new.1), inserted]
      exact ⟨(k', w) :: before, after, rfl, rfl⟩

/-- Entries that are left out anyway may be put in. -/
theorem filter_insertEntry {k : String} (v : α) {p : String → Bool} (left : p k = false)
    (es : List (String × α)) :
    (insertEntry k v es).filter (fun e => p e.1) = es.filter fun e => p e.1 := by
  induction es with
  | nil => simp [insertEntry, left]
  | cons e es ih =>
    obtain ⟨k', w⟩ := e
    rw [insertEntry]
    split
    · rw [List.filter_cons_of_neg (by simp [left])]
    · split
      · next same =>
        subst same
        rw [List.filter_cons_of_neg (by simp [left]), List.filter_cons_of_neg (by simp [left])]
      · rw [List.filter_cons, List.filter_cons, ih]

theorem entries_insertAll {es : List (String × α)} {d : Dict α}
    (h : (d.entries ++ es).Pairwise fun a b => a.1 < b.1) :
    (d.insertAll es).entries = d.entries ++ es := by
  induction es generalizing d with
  | nil => exact (List.append_nil _).symm
  | cons p es ih =>
    obtain ⟨k, v⟩ := p
    have last : (d.insert k v).entries = d.entries ++ [(k, v)] :=
      insertEntry_last v fun e he => (List.pairwise_append.1 h).2.2 e he _ List.mem_cons_self
    have ordered : ((d.insert k v).entries ++ es).Pairwise fun a b => a.1 < b.1 := by
      rwa [last, List.append_assoc, List.singleton_append]
    show ((d.insert k v).insertAll es).entries = _
    rw [ih ordered, last, List.append_assoc, List.singleton_append]

/-- Entries in order stay as they are. -/
theorem ofList_entries (d : Dict α) : ofList d.entries = d :=
  ext_entries (entries_insertAll d.ordered)

/-! ## Look-ups in parts of a list -/

theorem lookup_filter {p : String → Bool} {k : String} (kept : p k = true)
    (es : List (String × α)) : lookup k (es.filter fun e => p e.1) = lookup k es := by
  induction es with
  | nil => rfl
  | cons e es ih =>
    obtain ⟨k', v⟩ := e
    by_cases same : k' = k
    · subst same
      simp [kept, lookup]
    · rw [List.filter_cons, lookup, if_neg same]
      split
      · rw [lookup, if_neg same, ih]
      · exact ih

theorem lookup_filter_other {k k' : String} (h : k' ≠ k) (es : List (String × α)) :
    lookup k' (es.filter (·.1 != k)) = lookup k' es :=
  lookup_filter (p := (· != k)) (bne_iff_ne.2 h) es

theorem lookup_filter_self (k : String) (es : List (String × α)) :
    lookup k (es.filter (·.1 != k)) = none :=
  lookup_eq_none fun e he => by simpa using (List.mem_filter.1 he).2

theorem lookup_map (f : α → β) (k : String) (es : List (String × α)) :
    lookup k (es.map fun e => (e.1, f e.2)) = (lookup k es).map f := by
  induction es with
  | nil => rfl
  | cons e es ih =>
    rw [List.map_cons, lookup, lookup, ih]
    split <;> rfl

theorem lookup_append (k : String) (es fs : List (String × α)) :
    lookup k (es ++ fs) = (lookup k es).or (lookup k fs) := by
  induction es with
  | nil => rfl
  | cons e es ih =>
    rw [List.cons_append, lookup, lookup, ih]
    split <;> rfl

theorem map_id (d : Dict α) : d.map id = d := ext_entries (List.map_id _)

@[simp] theorem get?_erase_self (d : Dict α) (k : String) : (d.erase k).get? k = none :=
  lookup_filter_self k d.entries

theorem get?_erase_other (d : Dict α) {k k' : String} (h : k' ≠ k) :
    (d.erase k).get? k' = d.get? k' :=
  lookup_filter_other h d.entries

end Dict

end ContractDocs
