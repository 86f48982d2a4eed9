/-
A payload is its body: no two payloads are sent as the same text, whatever
stands in their strings and values. What the fingerprint may confuse are only
texts whose digests begin alike.

`body_injective`: texts determine values (`Json.text_injective`), and the value
of a payload determines its fields, a missing storage hint included.
-/
import ContractDocs.Payload
import ContractDocs.Proofs.JsonText

namespace ContractDocs

/-! ## Hexadecimal digits -/

namespace Digest

theorem eq_of_digitChar {m n : Nat} (hm : m < 16) (hn : n < 16)
    (h : Nat.digitChar m = Nat.digitChar n) : m = n := by
  have all : ∀ a < 16, ∀ b < 16, Nat.digitChar a = Nat.digitChar b → a = b := by decide
  exact all m hm n hn h

theorem hexChars_injective : Function.Injective hexChars := by
  intro bs cs h
  induction bs generalizing cs with
  | nil =>
    cases cs with
    | nil => rfl
    | cons c cs => cases h
  | cons b bs ih =>
    cases cs with
    | nil => cases h
    | cons c cs =>
      simp only [hexChars, List.flatMap_cons, List.cons_append, List.nil_append,
        List.cons.injEq] at h
      obtain ⟨high, low, rest⟩ := h
      have hb := b.toNat_lt
      have hc := c.toNat_lt
      have upper := eq_of_digitChar (by omega) (by omega) high
      have lower := eq_of_digitChar (by omega) (by omega) low
      have same : b.toNat = c.toNat := by omega
      rw [UInt8.toNat_inj.1 same, ih rest]

/-- No bytes are written like others. -/
theorem hex_injective : Function.Injective hex := fun _ _ h =>
  hexChars_injective (String.ofList_injective h)

end Digest

/-! ## Bodies -/

theorem OutputFormat.name_injective : Function.Injective OutputFormat.name := by
  intro f g h
  cases f <;> cases g <;> first | rfl | exact absurd h (by decide)

namespace Payload

theorem toJson_injective : Function.Injective toJson := by
  rintro ⟨type, ref, format, values, hint⟩ ⟨type', ref', format', values', hint'⟩ h
  have fields : type = type' ∧ ref = ref' ∧ format.name = format'.name ∧
      values.entries = values'.entries ∧ hint = hint' := by
    cases hint <;> cases hint' <;>
      simp [toJson, Json.present, OutputFormat.toJson, Json.ofDict] at h ⊢ <;> exact h
  obtain ⟨rfl, rfl, name, entries, rfl⟩ := fields
  rw [OutputFormat.name_injective name, Dict.ext_entries entries]

theorem body_injective : Function.Injective body :=
  Json.text_injective.comp toJson_injective

/-- The bytes that the fingerprint shows. -/
def digestPrefix (p : Payload) : List UInt8 :=
  (Digest.sha256 p.body.toUTF8.data.toList).take fingerprintSize

/-- The texts of two payloads differ and their digests begin alike. -/
def Collides (p q : Payload) : Prop := p.body ≠ q.body ∧ p.digestPrefix = q.digestPrefix

/-- **The text of a payload determines the payload, and so does its fingerprint unless two digests
collide.** -/
theorem eq_of_body_or_fingerprint (p q : Payload) :
    (p.body = q.body ↔ p = q) ∧ (p.fingerprint = q.fingerprint ↔ p = q ∨ p.Collides q) := by
  have shown : p.fingerprint = q.fingerprint ↔ p.digestPrefix = q.digestPrefix :=
    Digest.hex_injective.eq_iff
  refine ⟨body_injective.eq_iff, ?_⟩
  rw [shown]
  constructor
  · intro same
    by_cases bodies : p.body = q.body
    · exact .inl (body_injective bodies)
    · exact .inr ⟨bodies, same⟩
  · rintro (rfl | collision)
    · rfl
    · exact collision.2

end Payload

end ContractDocs
