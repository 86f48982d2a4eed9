/-
Checks made one after the other in `Except`: when all of them pass, and which
of them failed when one did.
-/

namespace ContractDocs.Checks

variable {α β γ ε ε' : Type}

theorem bind_eq_ok {x : Except ε α} {f : α → Except ε β} {b : β} :
    (x >>= f) = .ok b ↔ ∃ a, x = .ok a ∧ f a = .ok b := by
  cases x <;> simp [bind, Except.bind]

theorem bind_eq_error {x : Except ε α} {f : α → Except ε β} {e : ε} :
    (x >>= f) = .error e ↔ x = .error e ∨ ∃ a, x = .ok a ∧ f a = .error e := by
  cases x <;> simp [bind, Except.bind]

theorem pure_eq_ok {a b : α} : (pure a : Except ε α) = .ok b ↔ b = a := by
  simp only [pure, Except.pure, Except.ok.injEq]
  exact eq_comm

theorem throw_ne_ok {e : ε} {a : α} : (throw e : Except ε α) ≠ .ok a := by
  simp [throw, throwThe, MonadExceptOf.throw]

theorem throw_eq_error {e e' : ε} : (throw e : Except ε α) = .error e' ↔ e' = e := by
  simp only [throw, throwThe, MonadExceptOf.throw, Except.error.injEq]
  exact eq_comm

theorem map_eq_ok {x : Except ε α} {f : α → β} {b : β} :
    x.map f = .ok b ↔ ∃ a, x = .ok a ∧ f a = b := by
  cases x <;> simp [Except.map]

theorem map_eq_error {x : Except ε α} {f : α → β} {e : ε} : x.map f = .error e ↔ x = .error e := by
  cases x <;> simp [Except.map]

theorem mapError_eq_ok {x : Except ε α} {f : ε → ε'} {a : α} :
    x.mapError f = .ok a ↔ x = .ok a := by
  cases x with
  | error e =>
    show Except.error (f e) = .ok a ↔ _
    simp
  | ok b =>
    show Except.ok b = .ok a ↔ _
    simp

theorem mapError_eq_error {x : Except ε α} {f : ε → ε'} {e' : ε'} :
    x.mapError f = .error e' ↔ ∃ e, x = .error e ∧ f e = e' := by
  cases x with
  | error e =>
    show Except.error (f e) = .error e' ↔ _
    simp
  | ok a =>
    show Except.ok a = .error e' ↔ _
    simp

/-- A check in front of a result: the result is there when the check passes. -/
theorem check_bind_eq_ok {x : Except ε Unit} {f : Unit → Except ε β} {b : β} :
    (x >>= f) = .ok b ↔ x = .ok () ∧ f () = .ok b := by
  rw [bind_eq_ok]
  constructor
  · rintro ⟨⟨⟩, hx, hf⟩
    exact ⟨hx, hf⟩
  · rintro ⟨hx, hf⟩
    exact ⟨(), hx, hf⟩

/-- A condition in front of a result, which must not hold. -/
theorem throw_if_eq_ok {e : ε} {c : Bool} {x : Except ε β} {b : β} :
    (if c = true then (throw e : Except ε PUnit) >>= fun _ => x else x) = .ok b ↔
      c = false ∧ x = .ok b := by
  cases c with
  | true =>
    refine iff_of_false (fun h => ?_) (by simp)
    obtain ⟨_, thrown, -⟩ := bind_eq_ok.1 h
    exact throw_ne_ok thrown
  | false => simp

/-- A check of a whole list passes when it passes on every element. -/
theorem forM_eq_ok {f : α → Except ε PUnit} {l : List α} {u : PUnit} :
    l.forM f = .ok u ↔ ∀ a ∈ l, f a = .ok () := by
  induction l with
  | nil => simp [List.forM, pure, Except.pure]
  | cons a l ih =>
    show (f a >>= fun _ => l.forM f) = .ok u ↔ _
    rw [check_bind_eq_ok, ih, List.forall_mem_cons]

/-- Results that a check lets through, element by element: `P` is what the
check asks for and `g` the result. -/
theorem mapM_eq_ok {f : α → Except ε β} {P : α → Prop} {g : α → β}
    (hf : ∀ a b, f a = .ok b ↔ P a ∧ b = g a) {l : List α} {bs : List β} :
    l.mapM f = .ok bs ↔ (∀ a ∈ l, P a) ∧ bs = l.map g := by
  induction l generalizing bs with
  | nil => simp [pure_eq_ok]
  | cons a l ih =>
    simp only [List.mapM_cons, bind_eq_ok, pure_eq_ok, hf, ih, List.forall_mem_cons, List.map_cons]
    constructor
    · rintro ⟨b, ⟨ha, rfl⟩, bs', ⟨hl, rfl⟩, rfl⟩
      exact ⟨⟨ha, hl⟩, rfl⟩
    · rintro ⟨⟨ha, hl⟩, rfl⟩
      exact ⟨_, ⟨ha, rfl⟩, _, ⟨hl, rfl⟩, rfl⟩

/-- Elements that a function finds again where they have been put. -/
theorem mapM_map_eq_ok {f : β → Except ε α} {g : α → β} {l : List α}
    (h : ∀ a ∈ l, f (g a) = .ok a) : (l.map g).mapM f = .ok l := by
  induction l with
  | nil => rfl
  | cons a l ih =>
    rw [List.forall_mem_cons] at h
    rw [List.map_cons, List.mapM_cons, h.1, ih h.2]
    rfl

/-- A fold that fails does so at one of the elements. -/
theorem exists_of_foldlM_eq_error {f : β → α → Except ε β} {e : ε} :
    ∀ {l : List α} {b : β}, l.foldlM f b = .error e → ∃ a ∈ l, ∃ b', f b' a = .error e
  | [], _, h => by simp [pure, Except.pure] at h
  | a :: l, b, h => by
    rw [List.foldlM_cons, bind_eq_error] at h
    rcases h with h | ⟨b', -, h⟩
    · exact ⟨a, List.mem_cons_self, b, h⟩
    · obtain ⟨a', ha', b'', h'⟩ := exists_of_foldlM_eq_error h
      exact ⟨a', List.mem_cons_of_mem _ ha', b'', h'⟩

/-- A fold fails at the first element that does, and what comes after makes no difference. -/
theorem foldlM_eq_error_iff {f : β → α → Except ε β} {e : ε} {l : List α} {b : β} :
    l.foldlM f b = .error e ↔
      ∃ before a after b', l = before ++ a :: after ∧ before.foldlM f b = .ok b' ∧
        f b' a = .error e := by
  induction l generalizing b with
  | nil => simp [pure, Except.pure]
  | cons a l ih =>
    simp only [List.foldlM_cons, bind_eq_error, ih]
    constructor
    · rintro (failed | ⟨c, step, before, x, after, b', rfl, passed, failed⟩)
      · exact ⟨[], a, l, b, rfl, rfl, failed⟩
      · exact ⟨a :: before, x, after, b', rfl, bind_eq_ok.2 ⟨c, step, passed⟩, failed⟩
    · rintro ⟨before, x, after, b', split, passed, failed⟩
      cases before with
      | nil =>
        cases split
        cases passed
        exact .inl failed
      | cons y before =>
        cases split
        obtain ⟨c, step, passed⟩ := bind_eq_ok.1 passed
        exact .inr ⟨c, step, before, x, after, b', rfl, passed, failed⟩

theorem exists_of_foldlM_eq_ok {f : β → α → Except ε β} {c : β} :
    ∀ {l : List α} {b : β}, l.foldlM f b = .ok c → ∀ a ∈ l, ∃ b' c', f b' a = .ok c'
  | [], _, _ => by simp
  | a :: l, b, h => by
    rw [List.foldlM_cons, bind_eq_ok] at h
    obtain ⟨b', step, rest⟩ := h
    exact List.forall_mem_cons.2 ⟨⟨b, b', step⟩, exists_of_foldlM_eq_ok rest⟩

end ContractDocs.Checks
