/-
Reading what was written: the text of a value gives the value back, with the
members of its objects in order, as long as no number changes on the way and
no more containers stand one inside the other than a reader allows.

`Json.ofText?_text`: the value of the text of a value. `Within` bounds the
depth, `Held` says besides that the members are in order already, and
`ReadsBack` says of a fraction that it does not change.
-/
import ContractDocs.Proofs.JsonText

namespace ContractDocs.Json

/-! ## Members in order -/

theorem sortedItems_eq_map (xs : List Json) : sortedItems xs = xs.map sorted := by
  induction xs with
  | nil => rfl
  | cons x xs ih => rw [sortedItems, ih, List.map_cons]

theorem sortedMembers_eq_map (es : List (String × Json)) :
    sortedMembers es = es.map fun e => (e.1, e.2.sorted) := by
  induction es with
  | nil => rfl
  | cons e es ih => rw [sortedMembers, ih, List.map_cons]

@[simp] theorem sorted_number (n : Number) : sorted (.number n) = .number n := rfl

@[simp] theorem sorted_string (s : String) : sorted (.string s) = .string s := rfl

theorem sorted_array (xs : List Json) : sorted (.array xs) = .array (xs.map sorted) := by
  rw [sorted, sortedItems_eq_map]

theorem sorted_object (es : List (String × Json)) :
    sorted (.object es) = .ofMembers (es.map fun e => (e.1, e.2.sorted)) := by
  rw [sorted, sortedMembers_eq_map]

/-- A dictionary is in order, so only its values change. -/
theorem sorted_ofDict (d : Dict Json) : (ofDict d).sorted = .ofDict (d.map sorted) := by
  rw [ofDict, sorted_object, ofMembers]
  exact congrArg ofDict (Dict.ofList_entries (d.map sorted))

/-! ## What a reader holds -/

/-- At most `k` arrays and objects stand one inside the other, and all whole numbers are kept
exactly. -/
inductive Within : Nat → Json → Prop
  | null {k : Nat} : Within k .null
  | bool {k : Nat} (b : Bool) : Within k (.bool b)
  | int {k : Nat} {n : Int} (fits : Number.fits n = true) : Within k (.int n)
  | float {k : Nat} (x : Float) : Within k (.float x)
  | string {k : Nat} (s : String) : Within k (.string s)
  | array {k : Nat} {xs : List Json} (items : ∀ x ∈ xs, Within k x) : Within (k + 1) (.array xs)
  | object {k : Nat} {es : List (String × Json)} (members : ∀ e ∈ es, Within k e.2) :
    Within (k + 1) (.object es)

theorem Within.mono {j k : Nat} {v : Json} (h : Within j v) (le : j ≤ k) : Within k v := by
  induction h generalizing k with
  | null => exact .null
  | bool b => exact .bool b
  | int fits => exact .int fits
  | float x => exact .float x
  | string s => exact .string s
  | array _ ih =>
    obtain ⟨k, rfl⟩ : ∃ j, k = j + 1 := ⟨k - 1, by omega⟩
    exact .array fun x hx => ih x hx (by omega)
  | object _ ih =>
    obtain ⟨k, rfl⟩ : ∃ j, k = j + 1 := ⟨k - 1, by omega⟩
    exact .object fun e he => ih e he (by omega)

/-- A value as a reader holds it: not deeper than `k`, and in order. -/
structure Held (k : Nat) (v : Json) : Prop where
  within : Within k v
  sorted : v.sorted = v

/-! ## Fractions -/

mutual

/-- The fractions in a value. -/
def floats : Json → List Float
  | .number (.float x) => [x]
  | .array items => itemFloats items
  | .object members => memberFloats members
  | _ => []

def itemFloats : List Json → List Float
  | [] => []
  | x :: xs => floats x ++ itemFloats xs

def memberFloats : List (String × Json) → List Float
  | [] => []
  | (_, x) :: es => floats x ++ memberFloats es

end

theorem mem_itemFloats {x : Float} {xs : List Json} :
    x ∈ itemFloats xs ↔ ∃ v ∈ xs, x ∈ v.floats := by
  induction xs with
  | nil => simp [itemFloats]
  | cons v xs ih => simp [itemFloats, ih]

theorem mem_memberFloats {x : Float} {es : List (String × Json)} :
    x ∈ memberFloats es ↔ ∃ e ∈ es, x ∈ e.2.floats := by
  induction es with
  | nil => simp [memberFloats]
  | cons e es ih => simp [memberFloats, ih]

/-- A fraction is read as it was written. -/
def ReadsBack (x : Float) : Prop := Tree.number? (Decimal.json x) = some (.float x)

/-! ## Reading -/

theorem itemsAt?_toTrees {depth : Nat} {xs : List Json}
    (h : ∀ x ∈ xs, Tree.valueAt? depth x.toTree = some x.sorted) :
    Tree.itemsAt? depth (toTrees xs) = some (sortedItems xs) := by
  induction xs with
  | nil => rfl
  | cons x xs ih =>
    rw [List.forall_mem_cons] at h
    simp [toTrees, Tree.itemsAt?, sortedItems, h.1, ih h.2]

theorem membersAt?_toTreeMembers {depth : Nat} {es : List (String × Json)}
    (h : ∀ e ∈ es, Tree.valueAt? depth e.2.toTree = some e.2.sorted) :
    Tree.membersAt? depth (toTreeMembers es) = some (sortedMembers es) := by
  induction es with
  | nil => rfl
  | cons e es ih =>
    rw [List.forall_mem_cons] at h
    simp [toTreeMembers, Tree.membersAt?, sortedMembers, h.1, ih h.2]

theorem valueAt?_toTree {k : Nat} {v : Json} (h : Within k v) {depth : Nat}
    (room : depth + k ≤ Tree.maxDepth) (exact : ∀ x ∈ v.floats, ReadsBack x) :
    Tree.valueAt? depth v.toTree = some v.sorted := by
  -- One container deeper, the depth is greater by one and what is left of `k` smaller by one.
  induction h generalizing depth with
  | null => rfl
  | bool b => rfl
  | int fits =>
    rw [Json.int, toTree, Tree.valueAt?, numberChars, number?_intChars fits]
    rfl
  | float x =>
    have read : ReadsBack x := exact x (by simp [Json.float, floats])
    rw [Json.float, toTree, Tree.valueAt?, numberChars, read]
    rfl
  | string s => rfl
  | array _ ih =>
    rw [floats] at exact
    rw [toTree, Tree.valueAt?, if_neg (by omega), itemsAt?_toTrees fun x hx =>
      ih x hx (by omega) fun y hy => exact y (mem_itemFloats.2 ⟨x, hx, hy⟩)]
    rfl
  | object _ ih =>
    rw [floats] at exact
    rw [toTree, Tree.valueAt?, if_neg (by omega), membersAt?_toTreeMembers fun e he =>
      ih e he (by omega) fun y hy => exact y (mem_memberFloats.2 ⟨e, he, hy⟩)]
    rfl

/-- **Reading undoes writing**, but for the order of members. -/
theorem ofText?_text {v : Json} (h : Within Tree.maxDepth v)
    (exact : ∀ x ∈ v.floats, ReadsBack x) : ofText? v.text = some v.sorted := by
  rw [ofText?, Tree.ofText?_text, Option.bind_some, Tree.value?]
  exact valueAt?_toTree h (by omega) exact

-- What is assumed of the fractions is not true of all: a reader rounds more than once.
example : ¬ ReadsBack 1e-23 := by
  rw [ReadsBack]
  decide +kernel

end ContractDocs.Json
