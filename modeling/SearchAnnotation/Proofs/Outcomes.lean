/-!
# Outcomes of rules that can fail

A rule that can fail answers a value or a fault. The lemmas here take a successful chain of rules
apart and put the successes of a list of rules together. They hold for every kind of fault.
-/

namespace SearchAnnotation.Outcome

variable {ε α β γ : Type}

/-- A chain whose first rule succeeds goes on with the second. -/
theorem ok_bind (a : α) (f : α → Except ε β) : (.ok a >>= f : Except ε β) = f a := rfl

/-- A chain of two rules succeeds exactly when the first one does and then the second. -/
theorem bind_eq_ok {x : Except ε α} {f : α → Except ε β} {b : β} :
    (x >>= f) = .ok b ↔ ∃ a, x = .ok a ∧ f a = .ok b := by
  cases x with
  | error why =>
    constructor
    · intro h
      cases h
    · rintro ⟨a, ha, -⟩
      cases ha
  | ok a =>
    constructor
    · intro h
      exact ⟨a, rfl, h⟩
    · rintro ⟨a', ha, hb⟩
      cases ha
      exact hb

/-- A chain of two rules fails exactly when the first one does, or else the second. -/
theorem bind_eq_error {x : Except ε α} {f : α → Except ε β} {why : ε} :
    (x >>= f) = .error why ↔ x = .error why ∨ ∃ a, x = .ok a ∧ f a = .error why := by
  cases x with
  | error other =>
    constructor
    · intro h
      cases h
      exact .inl rfl
    · rintro (h | ⟨a, ha, -⟩)
      · cases h
        rfl
      · cases ha
  | ok a =>
    constructor
    · intro h
      exact .inr ⟨a, rfl, h⟩
    · rintro (h | ⟨a', ha, hb⟩)
      · cases h
      · cases ha
        exact hb

/-- A changed value stands for one that was there. -/
theorem map_eq_ok {x : Except ε α} {f : α → β} {b : β} :
    x.map f = .ok b ↔ ∃ a, x = .ok a ∧ f a = b := by
  cases x with
  | error why => simp only [Except.map, reduceCtorEq, false_and, exists_false]
  | ok a => simp only [Except.map, Except.ok.injEq, exists_eq_left']

theorem mapError_ok {ε' : Type} (f : ε → ε') (a : α) :
    (Except.ok a : Except ε α).mapError f = .ok a := rfl

/-- Another name for the fault does not change when a rule succeeds. -/
theorem mapError_eq_ok {ε' : Type} {x : Except ε α} {f : ε → ε'} {a : α} :
    x.mapError f = .ok a ↔ x = .ok a := by
  cases x with
  | error why => exact iff_of_false (fun h => nomatch h) fun h => nomatch h
  | ok a' =>
    constructor
    · intro h
      cases h
      rfl
    · intro h
      cases h
      rfl

/-- A rule fails under the other name of its fault. -/
theorem mapError_eq_error {ε' : Type} {x : Except ε α} {f : ε → ε'} {why : ε'} :
    x.mapError f = .error why ↔ ∃ fault, x = .error fault ∧ why = f fault := by
  cases x with
  | error fault =>
    constructor
    · intro h
      cases h
      exact ⟨fault, rfl, rfl⟩
    · rintro ⟨other, h, rfl⟩
      cases h
      rfl
  | ok a =>
    constructor
    · intro h
      cases h
    · rintro ⟨other, h, -⟩
      cases h

/-- A rule that succeeds on every item of a list succeeds on the list. -/
theorem mapM_eq_ok {f : α → Except ε β} {g : α → β} {items : List α}
    (h : ∀ a ∈ items, f a = .ok (g a)) : items.mapM f = .ok (items.map g) := by
  induction items with
  | nil => rfl
  | cons a rest ih =>
    have ha : f a = .ok (g a) := h a List.mem_cons_self
    have hr : rest.mapM f = .ok (rest.map g) :=
      ih fun b hb => h b (List.mem_cons_of_mem a hb)
    rw [List.mapM_cons, ha, hr]
    rfl

/-- A rule fails on a list of items at the first of them that it fails on. -/
theorem mapM_eq_error {f : α → Except ε β} {items : List α} {why : ε} :
    items.mapM f = .error why ↔ ∃ front bad back, items = front ++ bad :: back ∧
      (∀ a ∈ front, ∃ b, f a = .ok b) ∧ f bad = .error why := by
  induction items with
  | nil =>
    refine iff_of_false (fun h => nomatch h) ?_
    rintro ⟨front, bad, back, h, -⟩
    exact List.append_ne_nil_of_right_ne_nil front (List.cons_ne_nil bad back) h.symm
  | cons a rest ih =>
    rw [List.mapM_cons, bind_eq_error]
    constructor
    · rintro (h | ⟨b, hb, h⟩)
      · exact ⟨[], a, rest, rfl, (fun _ hm => nomatch hm), h⟩
      · rcases bind_eq_error.mp h with h | ⟨later, -, h⟩
        · obtain ⟨front, bad, back, rfl, hfront, hbad⟩ := ih.mp h
          exact ⟨a :: front, bad, back, rfl, List.forall_mem_cons.mpr ⟨⟨b, hb⟩, hfront⟩, hbad⟩
        · cases h
    · rintro ⟨front, bad, back, h, hfront, hbad⟩
      cases front with
      | nil =>
        cases h
        exact .inl hbad
      | cons first front =>
        cases h
        obtain ⟨⟨b, hb⟩, hfront⟩ := List.forall_mem_cons.mp hfront
        have hrest := ih.mpr ⟨front, bad, back, rfl, hfront, hbad⟩
        exact .inr ⟨b, hb, bind_eq_error.mpr (.inl hrest)⟩

/-- Items that are passed over pass over their results, if both are chosen alike. -/
theorem mapM_filter {f : α → Except ε β} {p : α → Bool} {q : β → Bool} {items : List α}
    {values : List β} (h : items.mapM f = .ok values)
    (alike : ∀ a ∈ items, ∀ b, f a = .ok b → p a = q b) :
    (items.filter p).mapM f = .ok (values.filter q) := by
  induction items generalizing values with
  | nil =>
    cases h
    rfl
  | cons a rest ih =>
    rw [List.mapM_cons] at h
    obtain ⟨b, hb, h⟩ := bind_eq_ok.mp h
    obtain ⟨later, hl, h⟩ := bind_eq_ok.mp h
    cases h
    have hr : (rest.filter p).mapM f = .ok (later.filter q) :=
      ih hl fun c hc => alike c (List.mem_cons_of_mem a hc)
    have hab : p a = q b := alike a List.mem_cons_self b hb
    cases hq : q b with
    | false =>
      rw [List.filter_cons_of_neg (by simp only [hab, hq, Bool.false_eq_true, not_false_eq_true]),
        List.filter_cons_of_neg (by simp only [hq, Bool.false_eq_true, not_false_eq_true])]
      exact hr
    | true =>
      rw [List.filter_cons_of_pos (hab.trans hq), List.filter_cons_of_pos hq, List.mapM_cons, hb,
        hr]
      rfl

/-- Looking at the results of a rule on a list of items is a rule on each item. -/
theorem map_mapM (f : α → Except ε β) (look : β → γ) (items : List α) :
    (items.mapM f).map (List.map look) = items.mapM fun a => (f a).map look := by
  induction items with
  | nil => rfl
  | cons a rest ih =>
    rw [List.mapM_cons, List.mapM_cons, ← ih]
    cases f a with
    | error why => rfl
    | ok b =>
      cases rest.mapM f with
      | error why => rfl
      | ok later => rfl

/-- Every result of a rule on a list of items comes from one of the items. -/
theorem exists_of_mem_mapM {f : α → Except ε β} {items : List α} {values : List β}
    (h : items.mapM f = .ok values) {b : β} (hb : b ∈ values) : ∃ a ∈ items, f a = .ok b := by
  induction items generalizing values with
  | nil =>
    cases h
    cases hb
  | cons a rest ih =>
    rw [List.mapM_cons] at h
    obtain ⟨first, hf, h⟩ := bind_eq_ok.mp h
    obtain ⟨later, hl, h⟩ := bind_eq_ok.mp h
    cases h
    rcases List.mem_cons.mp hb with rfl | hb
    · exact ⟨a, List.mem_cons_self, hf⟩
    · obtain ⟨c, hc, hcb⟩ := ih hl hb
      exact ⟨c, List.mem_cons_of_mem a hc, hcb⟩

/-- Every item of a list on which a rule succeeds has its result. -/
theorem exists_mem_of_mapM {f : α → Except ε β} {items : List α} {values : List β}
    (h : items.mapM f = .ok values) {a : α} (ha : a ∈ items) : ∃ b ∈ values, f a = .ok b := by
  induction items generalizing values with
  | nil => cases ha
  | cons first rest ih =>
    rw [List.mapM_cons] at h
    obtain ⟨b, hb, h⟩ := bind_eq_ok.mp h
    obtain ⟨later, hl, h⟩ := bind_eq_ok.mp h
    cases h
    rcases List.mem_cons.mp ha with rfl | ha
    · exact ⟨b, List.mem_cons_self, hb⟩
    · obtain ⟨c, hc, hac⟩ := ih hl ha
      exact ⟨c, List.mem_cons_of_mem b hc, hac⟩

/-- A rule that succeeds on each item of a list succeeds on the list. -/
theorem exists_mapM_eq_ok {f : α → Except ε β} {items : List α}
    (h : ∀ a ∈ items, ∃ b, f a = .ok b) : ∃ values, items.mapM f = .ok values := by
  induction items with
  | nil => exact ⟨[], rfl⟩
  | cons a rest ih =>
    obtain ⟨⟨b, hb⟩, hrest⟩ := List.forall_mem_cons.mp h
    obtain ⟨later, hl⟩ := ih hrest
    refine ⟨b :: later, ?_⟩
    rw [List.mapM_cons, hb, hl]
    rfl

/-- If the items of a kind all give values, and so do the others, then all items do. -/
theorem exists_mapM_of_filter {f : α → Except ε β} {p : α → Bool} {items : List α}
    {found others : List β} (hfound : (items.filter p).mapM f = .ok found)
    (hothers : (items.filter fun a => !p a).mapM f = .ok others) :
    ∃ values, items.mapM f = .ok values := by
  refine exists_mapM_eq_ok fun a ha => ?_
  cases hp : p a with
  | true =>
    obtain ⟨b, -, hb⟩ := exists_mem_of_mapM hfound (List.mem_filter.mpr ⟨ha, hp⟩)
    exact ⟨b, hb⟩
  | false =>
    have hnot : (!p a) = true := by rw [hp, Bool.not_false]
    obtain ⟨b, -, hb⟩ := exists_mem_of_mapM hothers (List.mem_filter.mpr ⟨ha, hnot⟩)
    exact ⟨b, hb⟩

/-- A relation that a rule carries from items to results holds along its results. -/
theorem pairwise_of_mapM {f : α → Except ε β} {r : α → α → Prop} {s : β → β → Prop}
    {items : List α} {values : List β} (h : items.mapM f = .ok values) (hr : items.Pairwise r)
    (carries : ∀ a b x y, f a = .ok x → f b = .ok y → r a b → s x y) : values.Pairwise s := by
  induction items generalizing values with
  | nil =>
    cases h
    exact .nil
  | cons a rest ih =>
    rw [List.mapM_cons] at h
    obtain ⟨x, hx, h⟩ := bind_eq_ok.mp h
    obtain ⟨later, hl, h⟩ := bind_eq_ok.mp h
    cases h
    obtain ⟨hfirst, hrest⟩ := List.pairwise_cons.mp hr
    refine List.pairwise_cons.mpr ⟨fun y hy => ?_, ih hl hrest⟩
    obtain ⟨b, hb, hby⟩ := exists_of_mem_mapM hl hy
    exact carries a b x y hx hby (hfirst b hb)

end SearchAnnotation.Outcome
