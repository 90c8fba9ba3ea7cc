import AcceleratorTopology.Traced

/-!
# Trails

How to reason about the trail of a traced value without writing it out. `All` says that every
event has a property, and holds of a computation if it holds of its steps. `Alike` compares two
computations through a view of their events, and is carried from step to step and through loops.
-/

namespace AcceleratorTopology.Traced

variable {ε γ α β α' β' : Type}

/-- Every event has a property. -/
def All (P : ε → Prop) (x : Traced ε α) : Prop := ∀ e ∈ x.events, P e

/-- Nothing happens on the way to a pure value. -/
theorem all_pure (P : ε → Prop) (a : α) : All P (pure a : Traced ε α) := by
  intro e he
  rw [events_pure] at he
  cases he

/-- What happens in a sequence happens in one of its steps. -/
theorem all_bind {P : ε → Prop} {x : Traced ε α} {f : α → Traced ε β} (hx : All P x)
    (hf : ∀ a, All P (f a)) : All P (x >>= f) := by
  intro e he
  rw [events_bind] at he
  cases List.mem_append.mp he with
  | inl h => exact hx e h
  | inr h => exact hf _ e h

/-- What happens while values are collected happens for one of the elements. -/
theorem all_collect {P : ε → Prop} {f : α → Traced ε β} {xs : List α} (hf : ∀ a, All P (f a)) :
    All P (collect f xs) := by
  intro e he
  rw [events_collect] at he
  obtain ⟨a, _, h⟩ := List.mem_flatMap.mp he
  exact hf a e h

/-- A single event that has the property. -/
theorem all_emit {P : ε → Prop} {e : ε} (h : P e) : All P (emit e) := by
  intro e' he
  rw [events_emit, List.mem_singleton] at he
  exact he ▸ h

/-- A weaker property holds as well. -/
theorem All.mono {P Q : ε → Prop} {x : Traced ε α} (h : All P x) (hpq : ∀ e, P e → Q e) :
    All Q x := fun e he ↦ hpq e (h e he)

/-- Two computations that look the same through a view of their events, and whose values are
related. -/
structure Alike (view : ε → Option γ) (R : α → β → Prop) (x : Traced ε α) (y : Traced ε β) :
    Prop where
  events : x.events.filterMap view = y.events.filterMap view
  value : R x.value y.value

namespace Alike

variable {view : ε → Option γ} {R : α → β → Prop} {S : α' → β' → Prop}

/-- Pure values are alike if they are related. -/
theorem pure {a : α} {b : β} (h : R a b) :
    Alike view R (Pure.pure a : Traced ε α) (Pure.pure b : Traced ε β) := ⟨rfl, h⟩

/-- A computation is like itself. -/
theorem refl {R : α → α → Prop} (x : Traced ε α) (h : R x.value x.value) : Alike view R x x :=
  ⟨rfl, h⟩

/-- Likeness with equal values goes both ways. -/
theorem symm {x y : Traced ε α} (h : Alike view Eq x y) : Alike view Eq y x :=
  ⟨h.events.symm, h.value.symm⟩

/-- What is like one and the same computation is alike. -/
theorem trans {x y z : Traced ε α} (h : Alike view Eq x y) (h' : Alike view Eq y z) :
    Alike view Eq x z := ⟨h.events.trans h'.events, h.value.trans h'.value⟩

/-- Mapping keeps computations alike. -/
theorem map {x : Traced ε α} {y : Traced ε β} {f : α → α'} {g : β → β'} (h : Alike view R x y)
    (hf : ∀ a b, R a b → S (f a) (g b)) : Alike view S (f <$> x) (g <$> y) := by
  constructor
  · rw [events_map, events_map, h.events]
  · rw [value_map, value_map]
    exact hf _ _ h.value

/-- Alike computations followed by alike computations are alike. -/
theorem bind {x : Traced ε α} {y : Traced ε β} {f : α → Traced ε α'} {g : β → Traced ε β'}
    (h : Alike view R x y) (hf : ∀ a b, R a b → Alike view S (f a) (g b)) :
    Alike view S (x >>= f) (y >>= g) := by
  have hs := hf _ _ h.value
  constructor
  · rw [events_bind, events_bind, List.filterMap_append, List.filterMap_append, h.events, hs.events]
  · exact hs.value

/-- One and the same beginning does not tell two computations apart. -/
theorem bind_same {x : Traced ε α} {f : α → Traced ε α'} {g : α → Traced ε β'}
    (h : Alike view S (f x.value) (g x.value)) : Alike view S (x >>= f) (x >>= g) := by
  constructor
  · rw [events_bind, events_bind, List.filterMap_append, List.filterMap_append, h.events]
  · exact h.value

/-- What follows computations with the same value matters at that value only. -/
theorem bind_eq {x y : Traced ε α} {f : α → Traced ε α'} {g : α → Traced ε β'}
    (h : Alike view Eq x y) (hf : Alike view S (f x.value) (g x.value)) :
    Alike view S (x >>= f) (y >>= g) := by
  rw [h.value] at hf
  constructor
  · rw [events_bind, events_bind, List.filterMap_append, List.filterMap_append, h.events,
      h.value, hf.events]
  · rw [value_bind, value_bind, h.value]
    exact hf.value

/-- Collecting from computations that are alike gives the same values. -/
theorem collect {f g : α → Traced ε β} {xs : List α}
    (h : ∀ x ∈ xs, Alike view Eq (f x) (g x)) :
    Alike view Eq (Traced.collect f xs) (Traced.collect g xs) := by
  induction xs with
  | nil => exact refl _ rfl
  | cons x xs ih =>
    have hx := h x List.mem_cons_self
    have hxs := ih fun y hy ↦ h y (List.mem_cons_of_mem x hy)
    rw [collect_cons, collect_cons]
    exact bind_eq hx (map hxs fun _ _ ↦ congrArg _)

/-- Alike loops over the same elements are alike. -/
theorem foldlM {f : α → α' → Traced ε α} {g : β → α' → Traced ε β} {xs : List α'} {a : α} {b : β}
    (h : R a b) (hf : ∀ a b x, x ∈ xs → R a b → Alike view R (f a x) (g b x)) :
    Alike view R (xs.foldlM f a) (xs.foldlM g b) := by
  induction xs generalizing a b with
  | nil => exact pure h
  | cons x xs ih =>
    rw [List.foldlM_cons, List.foldlM_cons]
    refine bind (hf a b x List.mem_cons_self h) fun a b hab ↦ ih hab ?_
    intro a b y hy
    exact hf a b y (List.mem_cons_of_mem x hy)

end Alike

end AcceleratorTopology.Traced
