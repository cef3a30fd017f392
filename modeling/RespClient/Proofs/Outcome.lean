import Mathlib.Data.List.Forall2

/-!
# Steps that may fail

The laws that open a sequence of steps in `Except`, one step at a time.
-/

set_option autoImplicit false

namespace RespClient

variable {ε α β : Type}

@[simp] theorem ok_bind (a : α) (next : α → Except ε β) : (Except.ok a >>= next) = next a := rfl

@[simp] theorem error_bind (e : ε) (next : α → Except ε β) :
    (Except.error e >>= next) = .error e := rfl

/-- A sequence succeeds when both steps do. -/
theorem bind_eq_ok_iff {step : Except ε α} {next : α → Except ε β} {b : β} :
    (step >>= next) = .ok b ↔ ∃ a, step = .ok a ∧ next a = .ok b := by
  cases step with
  | error e => simp
  | ok a => simp

/-- A sequence fails with the error of the first step that does. -/
theorem bind_eq_error_iff {step : Except ε α} {next : α → Except ε β} {e : ε} :
    (step >>= next) = .error e ↔ step = .error e ∨ ∃ a, step = .ok a ∧ next a = .error e := by
  cases step with
  | error e' => simp
  | ok a => simp

theorem map_eq_ok_iff {step : Except ε α} {f : α → β} {b : β} :
    step.map f = .ok b ↔ ∃ a, step = .ok a ∧ f a = b := by
  cases step with
  | error e => simp [Except.map]
  | ok a => simp [Except.map]

theorem map_eq_error_iff {step : Except ε α} {f : α → β} {e : ε} :
    step.map f = .error e ↔ step = .error e := by
  cases step with
  | error e' => simp [Except.map]
  | ok a => simp [Except.map]

theorem toOption_eq_some_iff {step : Except ε α} {a : α} :
    step.toOption = some a ↔ step = .ok a := by
  cases step with
  | error e => exact ⟨nofun, nofun⟩
  | ok b => simp only [Except.toOption, Option.some.injEq, Except.ok.injEq]

/-- The steps for a list succeed when the step for each item does; the results are in order. -/
theorem mapM_eq_ok_iff {f : α → Except ε β} {list : List α} {values : List β} :
    list.mapM f = .ok values ↔ List.Forall₂ (fun a b => f a = .ok b) list values := by
  induction list generalizing values with
  | nil =>
      rw [List.mapM_nil, List.forall₂_nil_left_iff]
      constructor
      · rintro ⟨⟩
        rfl
      · rintro rfl
        rfl
  | cons a list ih =>
      rw [List.mapM_cons, bind_eq_ok_iff, List.forall₂_cons_left_iff]
      constructor
      · rintro ⟨b, hb, hlist⟩
        obtain ⟨rest, hrest, ⟨⟩⟩ := bind_eq_ok_iff.1 hlist
        exact ⟨b, rest, hb, ih.1 hrest, rfl⟩
      · rintro ⟨b, rest, hb, hrest, rfl⟩
        exact ⟨b, hb, bind_eq_ok_iff.2 ⟨rest, ih.2 hrest, rfl⟩⟩

/-- The steps for a list fail when one of them does, with the error of the first that does. -/
theorem mapM_eq_error_of_mem {f : α → Except ε β} {list : List α} {a : α} {e : ε} (ha : a ∈ list)
    (h : f a = .error e) : ∃ b ∈ list, ∃ e', f b = .error e' ∧ list.mapM f = .error e' := by
  induction list with
  | nil => cases ha
  | cons first list ih =>
      cases hfirst : f first with
      | error e' =>
          refine ⟨first, List.mem_cons_self, e', hfirst, ?_⟩
          rw [List.mapM_cons, hfirst, error_bind]
      | ok b =>
          rcases List.mem_cons.1 ha with rfl | ha
          · rw [h] at hfirst
            cases hfirst
          obtain ⟨a', ha', e', he', hlist⟩ := ih ha
          refine ⟨a', List.mem_cons_of_mem _ ha', e', he', ?_⟩
          rw [List.mapM_cons, hfirst, ok_bind, hlist, error_bind]

/-- The steps for a list fail with an error when the step for an item does and those for all items
before it succeed. -/
theorem mapM_eq_error_iff {f : α → Except ε β} {list : List α} {e : ε} :
    list.mapM f = .error e ↔ ∃ before a after, list = before ++ a :: after ∧
      (∀ earlier ∈ before, ∃ b, f earlier = .ok b) ∧ f a = .error e := by
  induction list with
  | nil =>
      rw [List.mapM_nil]
      refine iff_of_false nofun ?_
      rintro ⟨before, a, after, hsplit, -⟩
      exact List.append_ne_nil_of_right_ne_nil before (List.cons_ne_nil a after) hsplit.symm
  | cons a list ih =>
      have hrest : ∀ b, ((list.mapM f) >>= fun bs => Except.ok (b :: bs)) = .error e ↔
          list.mapM f = .error e := fun b => by simp [bind_eq_error_iff]
      rw [List.mapM_cons, bind_eq_error_iff]
      constructor
      · rintro (ha | ⟨b, hb, hlist⟩)
        · exact ⟨[], a, list, rfl, nofun, ha⟩
        · obtain ⟨before, a', after, rfl, hbefore, ha'⟩ := ih.1 ((hrest b).1 hlist)
          exact ⟨a :: before, a', after, rfl, List.forall_mem_cons.2 ⟨⟨b, hb⟩, hbefore⟩, ha'⟩
      · rintro ⟨before, a', after, hsplit, hbefore, ha'⟩
        cases before with
        | nil =>
            cases hsplit
            exact Or.inl ha'
        | cons first before =>
            cases hsplit
            obtain ⟨⟨b, hb⟩, hbefore⟩ := List.forall_mem_cons.1 hbefore
            exact Or.inr ⟨b, hb, (hrest b).2 (ih.2 ⟨before, a', after, rfl, hbefore, ha'⟩)⟩

theorem mapM_congr {f g : α → Except ε β} {list : List α} (h : ∀ a ∈ list, f a = g a) :
    list.mapM f = list.mapM g := by
  induction list with
  | nil => rfl
  | cons a list ih =>
      obtain ⟨hhead, htail⟩ := List.forall_mem_cons.1 h
      rw [List.mapM_cons, List.mapM_cons, hhead, ih htail]

end RespClient
