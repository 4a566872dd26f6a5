import Mathlib.Data.List.Forall2
/-!
# Results of calls that may fail

What a result says about the calls that it was made of.
-/

namespace AbandonedBikes

variable {α β ε : Type}

theorem of_bind_error {first : Except ε α} {next : α → Except ε β} {cause : ε}
    (h : (first >>= next) = .error cause) :
    first = .error cause ∨ ∃ value, first = .ok value ∧ next value = .error cause := by
  cases first with
  | error same =>
    injection h with same
    exact .inl (congrArg Except.error same)
  | ok value => exact .inr ⟨value, rfl, h⟩

theorem of_bind_ok {first : Except ε α} {next : α → Except ε β} {result : β}
    (h : (first >>= next) = .ok result) :
    ∃ value, first = .ok value ∧ next value = .ok result := by
  cases first with
  | error cause => injection h
  | ok value => exact ⟨value, rfl, h⟩

/-- Only the call itself can fail, not what is made of its value. -/
theorem of_map_error {make : α → β} {result : Except ε α} {cause : ε}
    (h : result.map make = .error cause) : result = .error cause := by
  cases result with
  | error same =>
    injection h with same
    exact congrArg Except.error same
  | ok value => injection h

/-- A list is read if every member of it is. -/
theorem forall₂_of_mapM {read : α → Except ε β} {items : List α} {values : List β}
    (h : items.mapM read = .ok values) :
    List.Forall₂ (fun item value => read item = .ok value) items values := by
  induction items generalizing values with
  | nil =>
    injection h with same
    exact same ▸ .nil
  | cons item rest ih =>
    rw [List.mapM_cons] at h
    obtain ⟨value, read_item, h⟩ := of_bind_ok h
    obtain ⟨others, read_rest, h⟩ := of_bind_ok h
    injection h with same
    exact same ▸ .cons read_item (ih read_rest)

/-- Two lists that are each related to a third one. -/
theorem forall₂_comp {γ : Type} {R : α → β → Prop} {S : β → γ → Prop} {items : List α}
    {between : List β} {values : List γ} (first : List.Forall₂ R items between)
    (second : List.Forall₂ S between values) :
    List.Forall₂ (fun item value => ∃ middle, R item middle ∧ S middle value) items values := by
  induction first generalizing values with
  | nil =>
    cases second
    exact .nil
  | cons related _ ih =>
    cases second with
    | cons related_too rest => exact .cons ⟨_, related, related_too⟩ (ih rest)

end AbandonedBikes
