/-!
# Traced values

A `Traced ε α` is a value of type `α` beside the events, in order, that led to it. Sequencing
concatenates the events and leaves the values alone, so what a computation answers and what it
did can be reasoned about apart: `events_bind` and `value_bind` say so.
-/

namespace AcceleratorTopology

/-- A value together with the events that led to it, the earliest first. -/
structure Traced (ε α : Type) where
  events : List ε
  value : α
  deriving Repr

namespace Traced

variable {ε α β : Type}

/-- Sequencing runs the second computation after the first and keeps both trails. -/
instance : Monad (Traced ε) where
  pure a := ⟨[], a⟩
  bind x f :=
    let y := f x.value
    ⟨x.events ++ y.events, y.value⟩

/-- One event and no value. -/
def emit (e : ε) : Traced ε Unit := ⟨[e], ()⟩

/-- One event if `condition` holds, none otherwise. -/
def emitIf (condition : Bool) (e : ε) : Traced ε Unit := ⟨if condition then [e] else [], ()⟩

/-- Runs one computation per element, in order, and lists their values. -/
def collect (f : α → Traced ε β) (xs : List α) : Traced ε (List β) :=
  let ys := xs.map f
  ⟨ys.flatMap events, ys.map value⟩

/-- Two traced values with the same trail and the same value are equal. -/
@[ext] theorem ext {x y : Traced ε α} (he : x.events = y.events) (hv : x.value = y.value) :
    x = y := by
  cases x; cases y; simp_all

/-- A pure value leaves no events. -/
@[simp] theorem events_pure (a : α) : (pure a : Traced ε α).events = [] := rfl

/-- A pure value is itself. -/
@[simp] theorem value_pure (a : α) : (pure a : Traced ε α).value = a := rfl

/-- Sequencing appends the later trail to the earlier one. -/
@[simp] theorem events_bind (x : Traced ε α) (f : α → Traced ε β) :
    (x >>= f).events = x.events ++ (f x.value).events := rfl

/-- Sequencing hands on the value. -/
@[simp] theorem value_bind (x : Traced ε α) (f : α → Traced ε β) :
    (x >>= f).value = (f x.value).value := rfl

/-- Sequencing is associative and `pure` is neutral. -/
instance : LawfulMonad (Traced ε) := LawfulMonad.mk' (Traced ε)
  (fun x ↦ by apply ext <;> simp [Functor.map])
  (fun a f ↦ by apply ext <;> simp)
  (fun x f g ↦ by apply ext <;> simp)

/-- What follows matters at the value that is handed on only. -/
theorem bind_congr_value {x : Traced ε α} {f g : α → Traced ε β} (h : f x.value = g x.value) :
    x >>= f = x >>= g := by
  apply ext
  · rw [events_bind, events_bind, h]
  · rw [value_bind, value_bind, h]

/-- Mapping keeps the trail. -/
@[simp] theorem events_map (f : α → β) (x : Traced ε α) : (f <$> x).events = x.events := by
  rw [map_eq_pure_bind, events_bind]; simp

/-- Mapping applies the function to the value. -/
@[simp] theorem value_map (f : α → β) (x : Traced ε α) : (f <$> x).value = f x.value := by
  rw [map_eq_pure_bind, value_bind]; simp

/-- Emitting leaves exactly the event. -/
@[simp] theorem events_emit (e : ε) : (emit e).events = [e] := rfl

/-- A conditional event is there exactly if its condition holds. -/
@[simp] theorem events_emitIf (c : Bool) (e : ε) :
    (emitIf c e).events = if c then [e] else [] := rfl

/-- Collecting concatenates the trails. -/
@[simp] theorem events_collect (f : α → Traced ε β) (xs : List α) :
    (collect f xs).events = xs.flatMap fun x ↦ (f x).events := by
  simp [collect, List.flatMap_map]

/-- Collecting lists the values. -/
@[simp] theorem value_collect (f : α → Traced ε β) (xs : List α) :
    (collect f xs).value = xs.map fun x ↦ (f x).value := by
  simp [collect]

/-- Collecting gives one value for each element. -/
theorem length_value_collect (f : α → Traced ε β) (xs : List α) :
    (collect f xs).value.length = xs.length := by
  rw [value_collect, List.length_map]

/-- Collecting goes from the first element to the last. -/
theorem collect_cons (f : α → Traced ε β) (x : α) (xs : List α) :
    collect f (x :: xs) = f x >>= fun y ↦ (y :: ·) <$> collect f xs := by
  apply ext
  · rw [events_bind, events_map, events_collect, events_collect, List.flatMap_cons]
  · rw [value_bind, value_map, value_collect, value_collect, List.map_cons]

/-- Collecting goes by what the computation is for each element. -/
theorem collect_congr {f g : α → Traced ε β} {xs : List α} (h : ∀ x ∈ xs, f x = g x) :
    collect f xs = collect g xs := by
  rw [collect, collect, List.map_congr_left h]

/-- The value of a loop is that of the loop without trails. -/
@[simp] theorem value_foldlM {σ : Type} (f : σ → α → Traced ε σ) (s : σ) (xs : List α) :
    (xs.foldlM f s).value = xs.foldl (fun s x ↦ (f s x).value) s := by
  induction xs generalizing s with
  | nil => rfl
  | cons x xs ih => rw [List.foldlM_cons, value_bind, ih, List.foldl_cons]

end Traced

end AcceleratorTopology
