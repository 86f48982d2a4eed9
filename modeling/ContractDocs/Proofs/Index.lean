/-
Dictionaries that index a list: every element stands under its own key, none
is lost and none is added. The values of such a dictionary are the list in
the order of the keys.

`indexes_insertBy`: putting in elements with different keys, one after the
other, indexes them. `Indexes.get?_eq_some_iff`: what a look-up reads.
-/
import ContractDocs.Dict
import ContractDocs.Proofs.Checks

namespace ContractDocs.Dict

open Checks

variable {α ε : Type}

/-! ## Names that are there -/

theorem contains_eq_false_iff {d : Dict α} {k : String} :
    d.contains k = false ↔ d.get? k = none := by
  simp [contains]

theorem contains_iff {d : Dict α} {k : String} : d.contains k = true ↔ ∃ v, d.get? k = some v := by
  simp [contains, Option.isSome_iff_exists]

theorem contains_insert_eq_false_iff {d : Dict α} {k j : String} {v : α} :
    (d.insert k v).contains j = false ↔ j ≠ k ∧ d.contains j = false := by
  rw [contains_eq_false_iff, contains_eq_false_iff]
  by_cases h : j = k
  · subst h
    simp
  · rw [get?_insert_other d v h]
    simp [h]

theorem mem_values_iff {d : Dict α} {v : α} : v ∈ d.values ↔ ∃ k, d.get? k = some v := by
  simp only [values, List.mem_map, get?_eq_some_iff]
  constructor
  · rintro ⟨⟨k, v'⟩, h, rfl⟩
    exact ⟨k, h⟩
  · rintro ⟨k, h⟩
    exact ⟨(k, v), h, rfl⟩

theorem mem_keys_iff {d : Dict α} {k : String} : k ∈ d.keys ↔ ∃ v, d.get? k = some v := by
  simp [keys, get?_eq_some_iff]

theorem keys_ordered (d : Dict α) : d.keys.Pairwise (· < ·) := d.ordered.map _ fun _ _ h => h

theorem insertEntry_perm {k : String} (v : α) {es : List (String × α)} (h : lookup k es = none) :
    (insertEntry k v es).Perm ((k, v) :: es) := by
  induction es with
  | nil => exact .refl _
  | cons p es ih =>
    obtain ⟨k', v'⟩ := p
    rw [lookup] at h
    split at h
    · cases h
    · rename_i hne
      rw [insertEntry]
      split
      · exact .refl _
      · rw [if_neg (Ne.symm hne)]
        exact ((ih h).cons _).trans (.swap _ _ _)

/-- A new name adds its value to the others and changes none. -/
theorem values_insert_perm {d : Dict α} {k : String} (v : α) (h : d.contains k = false) :
    (d.insert k v).values.Perm (v :: d.values) :=
  (insertEntry_perm v (contains_eq_false_iff.1 h)).map _

/-! ## Indexing a list -/

/-- The elements put in one after the other, each under its key. -/
def insertBy (key : α → String) (d : Dict α) (l : List α) : Dict α :=
  l.foldl (fun d a => d.insert (key a) a) d

/-- The dictionary holds the elements of the list, under their keys, and
nothing else. -/
structure Indexes (d : Dict α) (key : α → String) (l : List α) : Prop where
  keyed : ∀ {k a}, d.get? k = some a → key a = k
  perm : d.values.Perm l

namespace Indexes

variable {d : Dict α} {key : α → String} {l : List α}

theorem empty : Indexes (.empty : Dict α) key [] := ⟨by simp, .refl _⟩

theorem insert {a : α} (h : Indexes d key l) (ha : d.contains (key a) = false) :
    Indexes (d.insert (key a) a) key (l ++ [a]) := by
  refine ⟨fun {k b} hb => ?_, ?_⟩
  · by_cases hk : k = key a
    · subst hk
      rw [get?_insert_self, Option.some.injEq] at hb
      rw [hb]
    · rw [get?_insert_other d a hk] at hb
      exact h.keyed hb
  · have moved := (List.perm_append_singleton a l).symm
    exact (values_insert_perm a ha).trans ((h.perm.cons a).trans moved)

theorem get?_eq_some_iff (h : Indexes d key l) {k : String} {a : α} :
    d.get? k = some a ↔ a ∈ l ∧ key a = k := by
  rw [← h.perm.mem_iff, mem_values_iff]
  constructor
  · intro ha
    exact ⟨⟨k, ha⟩, h.keyed ha⟩
  · rintro ⟨⟨k', ha⟩, hk⟩
    rw [← hk, h.keyed ha]
    exact ha

theorem contains_iff (h : Indexes d key l) {k : String} :
    d.contains k = true ↔ ∃ a ∈ l, key a = k := by
  simp only [Dict.contains_iff, h.get?_eq_some_iff]

/-- The values stand in the order of their keys. -/
theorem values_pairwise (h : Indexes d key l) : d.values.Pairwise fun a b => key a < key b := by
  rw [values, List.pairwise_map]
  refine d.ordered.imp_of_mem fun {e f} he hf hlt => ?_
  rw [h.keyed (Dict.get?_eq_some_iff.2 he), h.keyed (Dict.get?_eq_some_iff.2 hf)]
  exact hlt

end Indexes

theorem indexes_insertBy_append {key : α → String} {l : List α} (hl : (l.map key).Nodup) :
    ∀ {d : Dict α} {l₀ : List α}, Indexes d key l₀ → (∀ a ∈ l, d.contains (key a) = false) →
      Indexes (d.insertBy key l) key (l₀ ++ l) := by
  induction l with
  | nil =>
    intro d l₀ h _
    simpa [insertBy] using h
  | cons a l ih =>
    intro d l₀ h hnew
    rw [List.map_cons, List.nodup_cons] at hl
    rw [List.forall_mem_cons] at hnew
    have hstep := ih hl.2 (h.insert hnew.1) fun b hb =>
      contains_insert_eq_false_iff.2
        ⟨fun he => hl.1 (he ▸ List.mem_map_of_mem hb), hnew.2 b hb⟩
    simpa [insertBy] using hstep

/-- **Elements with different keys** are indexed by putting them in. -/
theorem indexes_insertBy {key : α → String} {l : List α} (hl : (l.map key).Nodup) :
    Indexes (insertBy key .empty l) key l := by
  simpa using indexes_insertBy_append hl Indexes.empty fun _ _ => rfl

/-- Elements that are checked and put in one after the other: `P` is what the
check asks for besides a new key. -/
theorem foldlM_insert_eq_ok {key : α → String} {P : α → Prop}
    {add : Dict α → α → Except ε (Dict α)}
    (hadd : ∀ d a d', add d a = .ok d' ↔
      P a ∧ d.contains (key a) = false ∧ d' = d.insert (key a) a) :
    ∀ {l : List α} {d d' : Dict α}, l.foldlM add d = .ok d' ↔
      (∀ a ∈ l, P a) ∧ (l.map key).Nodup ∧ (∀ a ∈ l, d.contains (key a) = false) ∧
        d' = d.insertBy key l
  | [], d, d' => by simp [pure_eq_ok, insertBy]
  | a :: l, d, d' => by
    simp only [List.foldlM_cons, bind_eq_ok, hadd, foldlM_insert_eq_ok hadd, List.forall_mem_cons,
      List.map_cons, List.nodup_cons]
    constructor
    · rintro ⟨_, ⟨ha, hnew, rfl⟩, hl, hn, hd, rfl⟩
      have hd' := fun b hb => contains_insert_eq_false_iff.1 (hd b hb)
      refine ⟨⟨ha, hl⟩, ⟨fun hm => ?_, hn⟩, ⟨hnew, fun b hb => (hd' b hb).2⟩, rfl⟩
      obtain ⟨b, hb, he⟩ := List.mem_map.1 hm
      exact (hd' b hb).1 he
    · rintro ⟨⟨ha, hl⟩, ⟨hm, hn⟩, ⟨hnew, hd⟩, rfl⟩
      refine ⟨_, ⟨ha, hnew, rfl⟩, hl, hn, fun b hb => ?_, rfl⟩
      exact contains_insert_eq_false_iff.2 ⟨fun he => hm (he ▸ List.mem_map_of_mem hb), hd b hb⟩

end ContractDocs.Dict
