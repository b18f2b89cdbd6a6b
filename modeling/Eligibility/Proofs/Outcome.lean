set_option autoImplicit false

/-!
# Outcomes: peeling a chain of steps

A step that may fail gives a value or a fault, and a chain of steps gives a value
exactly if every step does.  These equivalences take such a chain apart, one step
at a time, so that no later proof opens the chain itself.
-/

namespace Eligibility.Outcome

variable {α β ε ε' : Type}

@[simp] theorem pure_eq_ok {a b : α} : (pure a : Except ε α) = .ok b ↔ a = b := by
  constructor
  · intro h
    exact Except.ok.inj h
  · rintro rfl
    rfl

@[simp] theorem pure_ne_error {a : α} {e : ε} : (pure a : Except ε α) ≠ .error e := by
  simp [pure, Except.pure]

@[simp] theorem bind_eq_ok {x : Except ε α} {f : α → Except ε β} {b : β} :
    x >>= f = .ok b ↔ ∃ a, x = .ok a ∧ f a = .ok b := by
  cases x with
  | error e => simp [bind, Except.bind]
  | ok a => simp [bind, Except.bind]

@[simp] theorem then_eq_ok {x : Except ε α} {f : α → Except ε β} {b : β} :
    x.bind f = .ok b ↔ ∃ a, x = .ok a ∧ f a = .ok b := bind_eq_ok

@[simp] theorem map_eq_ok {x : Except ε α} {f : α → β} {b : β} :
    x.map f = .ok b ↔ ∃ a, x = .ok a ∧ f a = b := by
  cases x with
  | error e => simp [Except.map]
  | ok a => simp [Except.map]

/-- A chain whose last step only computes gives a value exactly if its first step does. -/
theorem exists_bind_pure {x : Except ε α} {f : α → β} :
    (∃ b, (x >>= fun a => pure (f a)) = .ok b) ↔ ∃ a, x = .ok a := by
  cases x with
  | error e => simp [bind, Except.bind]
  | ok a => exact ⟨fun _ => ⟨a, rfl⟩, fun _ => ⟨f a, rfl⟩⟩

theorem bind_eq_error {x : Except ε α} {f : α → Except ε β} {e : ε} :
    x >>= f = .error e ↔ x = .error e ∨ ∃ a, x = .ok a ∧ f a = .error e := by
  cases x with
  | error e' => simp [bind, Except.bind]
  | ok a => simp [bind, Except.bind]

theorem toOption_eq_some {x : Except ε α} {a : α} : x.toOption = some a ↔ x = .ok a := by
  cases x with
  | error e => simp [Except.toOption]
  | ok b => simp [Except.toOption]

/-- Renaming the faults of a step leaves its values alone. -/
@[simp] theorem ok_of_mapError {step : Except ε α} {rename : ε → ε'} {value : α} :
    step.mapError rename = .ok value ↔ step = .ok value := by
  cases step with
  | error fault => exact ⟨(nomatch ·), (nomatch ·)⟩
  | ok a =>
    constructor
    · intro h
      exact congrArg Except.ok (Except.ok.inj h)
    · intro h
      exact congrArg Except.ok (Except.ok.inj h)

/-- A step for each item of a list: the values stand in the order of the items. -/
theorem mapM_eq_ok {f : α → Except ε β} {as : List α} {bs : List β} :
    as.mapM f = .ok bs ↔ as.map f = bs.map .ok := by
  induction as generalizing bs with
  | nil => simp
  | cons a as ih =>
    rw [List.mapM_cons, bind_eq_ok]
    simp only [bind_eq_ok, pure_eq_ok, ih]
    constructor
    · rintro ⟨b, hb, rest, hrest, rfl⟩
      simp [hb, hrest]
    · intro h
      cases bs with
      | nil => simp at h
      | cons b bs =>
        simp only [List.map_cons, List.cons.injEq] at h
        exact ⟨b, h.1, bs, h.2, rfl⟩

/-- A step that fails on no item gives a value for each. -/
theorem exists_map_ok {f : α → Except ε β} {as : List α} (h : ∀ a ∈ as, ∃ b, f a = .ok b) :
    ∃ bs : List β, as.map f = bs.map .ok := by
  induction as with
  | nil => exact ⟨[], rfl⟩
  | cons a as ih =>
    obtain ⟨b, hb⟩ := h a List.mem_cons_self
    obtain ⟨bs, hbs⟩ := ih fun c hc => h c (List.mem_cons_of_mem a hc)
    exact ⟨b :: bs, by rw [List.map_cons, List.map_cons, hb, hbs]⟩

/-- An item has a value if all of them together do. -/
theorem exists_of_map_ok {f : α → Except ε β} {as : List α} {bs : List β}
    (h : as.map f = bs.map .ok) {a : α} (ha : a ∈ as) : ∃ b ∈ bs, f a = .ok b := by
  have hmem : f a ∈ bs.map .ok := h ▸ List.mem_map_of_mem ha
  obtain ⟨b, hb, heq⟩ := List.mem_map.mp hmem
  exact ⟨b, hb, heq.symm⟩

/-- A value belongs to an item. -/
theorem exists_item_of_map_ok {f : α → Except ε β} {as : List α} {bs : List β}
    (h : as.map f = bs.map .ok) {b : β} (hb : b ∈ bs) : ∃ a ∈ as, f a = .ok b := by
  have hmem : (.ok b : Except ε β) ∈ as.map f := h ▸ List.mem_map_of_mem hb
  exact List.mem_map.mp hmem

/-- What every step keeps of its item, all of them together keep of the list. -/
theorem map_eq_of_map_ok {γ : Type} {f : α → Except ε β} {before : α → γ} {after : β → γ}
    (hstep : ∀ a b, f a = .ok b → after b = before a) {as : List α} {bs : List β}
    (h : as.map f = bs.map .ok) : bs.map after = as.map before := by
  induction as generalizing bs with
  | nil =>
    obtain rfl : bs = [] := by simpa using h.symm
    rfl
  | cons a as ih =>
    cases bs with
    | nil => simp at h
    | cons b bs =>
      rw [List.map_cons, List.map_cons, List.cons.injEq] at h
      rw [List.map_cons, List.map_cons, hstep a b h.1, ih h.2]

/-- A step for each item of a list gives values exactly if it fails on no item. -/
theorem exists_mapM_ok {f : α → Except ε β} {as : List α} :
    (∃ bs, as.mapM f = .ok bs) ↔ ∀ a ∈ as, ∃ b, f a = .ok b := by
  constructor
  · intro h a ha
    obtain ⟨bs, hbs⟩ := h
    obtain ⟨b, -, hb⟩ := exists_of_map_ok (mapM_eq_ok.mp hbs) ha
    exact ⟨b, hb⟩
  · intro h
    obtain ⟨bs, hbs⟩ := exists_map_ok h
    exact ⟨bs, mapM_eq_ok.mpr hbs⟩

/-- A step for each item of a list fails with the fault of the first item on which it fails. -/
theorem mapM_eq_error {f : α → Except ε β} {as : List α} {e : ε} :
    as.mapM f = .error e ↔ ∃ before a after, as = before ++ a :: after ∧
      (∀ b ∈ before, ∃ c, f b = .ok c) ∧ f a = .error e := by
  induction as with
  | nil => simp
  | cons a as ih =>
    rw [List.mapM_cons, bind_eq_error]
    simp only [bind_eq_error, pure_ne_error, and_false, exists_false, or_false, ih]
    constructor
    · intro h
      obtain h | ⟨b, hb, before, c, after, rfl, hbefore, hc⟩ := h
      · exact ⟨[], a, as, rfl, by simp, h⟩
      · refine ⟨a :: before, c, after, rfl, ?_, hc⟩
        intro d hd
        obtain rfl | hd := List.mem_cons.mp hd
        · exact ⟨b, hb⟩
        · exact hbefore d hd
    · intro h
      obtain ⟨before, c, after, heq, hbefore, hc⟩ := h
      cases before with
      | nil =>
        obtain ⟨rfl, rfl⟩ := List.cons.inj heq
        exact .inl hc
      | cons d before =>
        obtain ⟨rfl, rfl⟩ := List.cons.inj heq
        obtain ⟨b, hb⟩ := hbefore a List.mem_cons_self
        have hrest : ∀ d ∈ before, ∃ c, f d = .ok c := by
          intro d hd
          exact hbefore d (List.mem_cons_of_mem a hd)
        exact .inr ⟨b, hb, before, c, after, rfl, hrest, hc⟩

/-- The fault of a step for each item of a list is the fault of an item. -/
theorem exists_item_of_mapM_error {f : α → Except ε β} {as : List α} {e : ε}
    (h : as.mapM f = .error e) : ∃ a ∈ as, f a = .error e := by
  obtain ⟨before, a, after, rfl, -, ha⟩ := mapM_eq_error.mp h
  exact ⟨a, List.mem_append_right before List.mem_cons_self, ha⟩

end Eligibility.Outcome
