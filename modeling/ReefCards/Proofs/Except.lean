import Mathlib.Data.List.Forall2

/-!
# Steps that may fail

What several steps come to of which each may fail: two steps one after the other, and a step for each
item of a list. Main statements: `mapM_eq_ok_iff`, a list succeeds with the results of its items, and
`mapM_eq_error_iff`, the first item that fails is the one that is told.
-/

namespace ReefCards

section Bind

variable {ε α β : Type} {first : Except ε α} {next : α → Except ε β}

/-- Two steps succeed exactly if each of them does. -/
theorem bind_eq_ok_iff {result : β} :
    first >>= next = .ok result ↔ ∃ value, first = .ok value ∧ next value = .ok result := by
  cases first with
  | error problem =>
    refine iff_of_false nofun ?_
    rintro ⟨value, h, -⟩
    cases h
  | ok value =>
    constructor
    · exact fun h => ⟨value, rfl, h⟩
    · rintro ⟨same, h, hnext⟩
      cases h
      exact hnext

/-- Two steps fail exactly if the first does, or the second does after it. -/
theorem bind_eq_error_iff {problem : ε} :
    first >>= next = .error problem ↔
      first = .error problem ∨ ∃ value, first = .ok value ∧ next value = .error problem := by
  cases first with
  | error other =>
    constructor
    · intro h
      cases h
      exact .inl rfl
    · rintro (h | ⟨value, h, -⟩)
      · cases h
        rfl
      · cases h
  | ok value =>
    constructor
    · exact fun h => .inr ⟨value, rfl, h⟩
    · rintro (h | ⟨same, h, hnext⟩)
      · cases h
      · cases h
        exact hnext

end Bind

section Lists

variable {ε α β γ : Type} {f : α → Except ε β} {items : List α}

/-- A list succeeds exactly if each of its items does, and its results are theirs. -/
theorem mapM_eq_ok_iff {results : List β} :
    items.mapM f = .ok results ↔
      List.Forall₂ (fun item result => f item = .ok result) items results := by
  induction items generalizing results with
  | nil =>
    rw [List.mapM_nil, List.forall₂_nil_left_iff]
    exact ⟨fun h => (Except.ok.inj h).symm, fun h => h ▸ rfl⟩
  | cons item rest ih =>
    rw [List.mapM_cons, List.forall₂_cons_left_iff, bind_eq_ok_iff]
    simp only [bind_eq_ok_iff, ih]
    constructor
    · rintro ⟨result, hitem, others, hothers, hresults⟩
      exact ⟨result, others, hitem, hothers, (Except.ok.inj hresults).symm⟩
    · rintro ⟨result, others, hitem, hothers, rfl⟩
      exact ⟨result, hitem, others, hothers, rfl⟩

/-- A list fails exactly as the first of its items that does. -/
theorem mapM_eq_error_iff {problem : ε} :
    items.mapM f = .error problem ↔
      ∃ before item behind, items = before ++ item :: behind ∧
        (∀ other ∈ before, ∃ result, f other = .ok result) ∧ f item = .error problem := by
  induction items with
  | nil =>
    refine iff_of_false nofun ?_
    rintro ⟨before, item, behind, heq, -⟩
    exact List.append_ne_nil_of_right_ne_nil before (List.cons_ne_nil item behind) heq.symm
  | cons first rest ih =>
    rw [List.mapM_cons, bind_eq_error_iff]
    constructor
    · rintro (hfirst | ⟨result, hfirst, hrest⟩)
      · exact ⟨[], first, rest, rfl, nofun, hfirst⟩
      · obtain hrest | ⟨others, -, hnone⟩ := bind_eq_error_iff.1 hrest
        · obtain ⟨before, item, behind, rfl, hbefore, hitem⟩ := ih.1 hrest
          exact ⟨first :: before, item, behind, rfl,
            List.forall_mem_cons.2 ⟨⟨result, hfirst⟩, hbefore⟩, hitem⟩
        · cases hnone
    · rintro ⟨before, item, behind, heq, hbefore, hitem⟩
      cases before with
      | nil =>
        obtain ⟨rfl, -⟩ := List.cons.inj heq
        exact .inl hitem
      | cons earlier before =>
        obtain ⟨rfl, rfl⟩ := List.cons.inj heq
        obtain ⟨⟨result, hfirst⟩, hbefore⟩ := List.forall_mem_cons.1 hbefore
        have hrest := ih.2 ⟨before, item, behind, rfl, hbefore, hitem⟩
        exact .inr ⟨result, hfirst, bind_eq_error_iff.2 (.inl hrest)⟩

/-- The items of a list are related to those of some list exactly if each is related to something. -/
theorem exists_forall₂_iff {related : α → β → Prop} :
    (∃ others, List.Forall₂ related items others) ↔ ∀ item ∈ items, ∃ other, related item other := by
  induction items with
  | nil => exact iff_of_true ⟨[], .nil⟩ nofun
  | cons item rest ih =>
    rw [List.forall_mem_cons, ← ih]
    simp only [List.forall₂_cons_left_iff]
    constructor
    · rintro ⟨-, other, others, hitem, hrest, rfl⟩
      exact ⟨⟨other, hitem⟩, others, hrest⟩
    · rintro ⟨⟨other, hitem⟩, others, hrest⟩
      exact ⟨_, other, others, hitem, hrest, rfl⟩

/-- What relates two lists through a third one relates their items. -/
theorem forall₂_comp_iff {near : α → β → Prop} {far : β → γ → Prop} {last : List γ} :
    (∃ middle, List.Forall₂ near items middle ∧ List.Forall₂ far middle last) ↔
      List.Forall₂ (fun item other => ∃ between, near item between ∧ far between other) items
        last := by
  induction items generalizing last with
  | nil => simp
  | cons item rest ih =>
    simp only [List.forall₂_cons_left_iff, ← ih]
    constructor
    · rintro ⟨-, ⟨between, middle, hnear, hmiddle, rfl⟩, hfar⟩
      obtain ⟨other, others, hother, hothers, rfl⟩ := List.forall₂_cons_left_iff.1 hfar
      exact ⟨other, others, ⟨between, hnear, hother⟩, ⟨middle, hmiddle, hothers⟩, rfl⟩
    · rintro ⟨other, others, ⟨between, hnear, hother⟩, ⟨middle, hmiddle, hothers⟩, rfl⟩
      exact ⟨between :: middle, ⟨between, middle, hnear, hmiddle, rfl⟩, .cons hother hothers⟩

end Lists
end ReefCards
