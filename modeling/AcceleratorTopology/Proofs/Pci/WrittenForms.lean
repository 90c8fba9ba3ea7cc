import AcceleratorTopology.Pci.Address
import AcceleratorTopology.Proofs.Text.Hexadecimal
import AcceleratorTopology.Proofs.Text.Splitting

/-!
# Written forms of PCI addresses

An address has many written forms: the domain may be left out if it is zero, and each field is any
hexadecimal numeral of its value. These forms are read, and nothing else is. The form in which an
address is written is one of its forms, so it is read back.
-/

namespace AcceleratorTopology.Pci.Address

open Text

/-- A text is a written form of an address: its fields between colons and a last period, each a
hexadecimal numeral of a 32-bit value, and without the domain only if that is zero. -/
inductive Writes : List Char → Address → Prop
  | short {bus device function : List Char} {u v f : UInt32} (hbus : IsHexNumeral bus u.toNat)
    (hdevice : IsHexNumeral device v.toNat) (hfunction : IsHexNumeral function f.toNat) :
    Writes (bus ++ ':' :: device ++ '.' :: function) ⟨0, u, v, f⟩
  | full {domain bus device function : List Char} {d u v f : UInt32}
    (hdomain : IsHexNumeral domain d.toNat) (hbus : IsHexNumeral bus u.toNat)
    (hdevice : IsHexNumeral device v.toNat) (hfunction : IsHexNumeral function f.toNat) :
    Writes (domain ++ ':' :: bus ++ ':' :: device ++ '.' :: function) ⟨d, u, v, f⟩

section Fields

variable {domain bus device function cs : List Char} {a : Address} {n : Nat}

private theorem period_notMem (h : IsHexNumeral cs n) : '.' ∉ cs := h.notMem (by decide) (by decide)

private theorem colon_notMem (h : IsHexNumeral cs n) : ':' ∉ cs := h.notMem (by decide) (by decide)

private theorem splitEach_eq_two : splitEach ':' cs = [bus, device] ↔
    (':' ∉ bus ∧ ':' ∉ device) ∧ bus ++ ':' :: device = cs := by
  rw [splitEach_eq_iff]
  simp [List.intercalate]

private theorem splitEach_eq_three : splitEach ':' cs = [domain, bus, device] ↔
    (':' ∉ domain ∧ ':' ∉ bus ∧ ':' ∉ device) ∧ domain ++ ':' :: bus ++ ':' :: device = cs := by
  rw [splitEach_eq_iff]
  simp [List.intercalate]

private theorem ofFields?_two_eq_some_iff : ofFields? [bus, device] function = some a ↔
    a.domain = 0 ∧ IsHexNumeral bus a.bus.toNat ∧ IsHexNumeral device a.device.toNat ∧
      IsHexNumeral function a.function.toNat := by
  simp only [ofFields?, Option.bind_eq_bind, Option.bind_eq_some_iff, Option.pure_def,
    Option.some.injEq, hexadecimal?_eq_some_iff]
  constructor
  · rintro ⟨u, hu, v, hv, f, hf, rfl⟩
    exact ⟨rfl, hu, hv, hf⟩
  · rintro ⟨hdomain, hbus, hdevice, hfunction⟩
    exact ⟨_, hbus, _, hdevice, _, hfunction, hdomain ▸ rfl⟩

private theorem ofFields?_three_eq_some_iff : ofFields? [domain, bus, device] function = some a ↔
    IsHexNumeral domain a.domain.toNat ∧ IsHexNumeral bus a.bus.toNat ∧
      IsHexNumeral device a.device.toNat ∧ IsHexNumeral function a.function.toNat := by
  simp only [ofFields?, Option.bind_eq_bind, Option.bind_eq_some_iff, Option.pure_def,
    Option.some.injEq, hexadecimal?_eq_some_iff]
  constructor
  · rintro ⟨d, hd, u, hu, v, hv, f, hf, rfl⟩
    exact ⟨hd, hu, hv, hf⟩
  · rintro ⟨hdomain, hbus, hdevice, hfunction⟩
    exact ⟨_, hdomain, _, hbus, _, hdevice, _, hfunction, rfl⟩

private theorem parse?_append (front : List Char) (h : '.' ∉ function) :
    parse? (String.ofList (front ++ '.' :: function)) =
      ofFields? (splitEach ':' front) function := by
  rw [parse?, String.toList_ofList, splitLast?_append front h]
  rfl

/-- Written forms are read. -/
theorem Writes.parse?_eq (h : Writes cs a) : parse? (String.ofList cs) = some a := by
  cases h with
  | short hbus hdevice hfunction =>
    have hfields := splitEach_eq_two.mpr ⟨⟨colon_notMem hbus, colon_notMem hdevice⟩, rfl⟩
    rw [parse?_append _ (period_notMem hfunction), hfields]
    exact ofFields?_two_eq_some_iff.mpr ⟨rfl, hbus, hdevice, hfunction⟩
  | full hdomain hbus hdevice hfunction =>
    have hfields := splitEach_eq_three.mpr
      ⟨⟨colon_notMem hdomain, colon_notMem hbus, colon_notMem hdevice⟩, rfl⟩
    rw [parse?_append _ (period_notMem hfunction), hfields]
    exact ofFields?_three_eq_some_iff.mpr ⟨hdomain, hbus, hdevice, hfunction⟩

/-- What is read is a written form. -/
theorem writes_of_parse? {s : String} (h : parse? s = some a) : Writes s.toList a := by
  obtain ⟨⟨front, function⟩, hlast, hread⟩ := Option.bind_eq_some_iff.mp h
  obtain ⟨hs, -⟩ := splitLast?_eq_some_iff.mp hlast
  have hfields : ofFields? (splitEach ':' front) function = some a := hread
  rw [hs]
  match hparts : splitEach ':' front with
  | [bus, device] =>
    obtain ⟨-, rfl⟩ := splitEach_eq_two.mp hparts
    rw [hparts] at hfields
    obtain ⟨hdomain, hbus, hdevice, hfunction⟩ := ofFields?_two_eq_some_iff.mp hfields
    obtain ⟨d, u, v, f⟩ := a
    cases hdomain
    exact .short hbus hdevice hfunction
  | [domain, bus, device] =>
    obtain ⟨-, rfl⟩ := splitEach_eq_three.mp hparts
    rw [hparts] at hfields
    obtain ⟨hdomain, hbus, hdevice, hfunction⟩ := ofFields?_three_eq_some_iff.mp hfields
    exact .full hdomain hbus hdevice hfunction
  | [] | [_] | _ :: _ :: _ :: _ :: _ =>
    rw [hparts] at hfields
    cases hfields

/-- The form in which an address is written is a written form of it. -/
theorem writes_chars (a : Address) : Writes a.chars a :=
  .full (isHexNumeral_hexPadded 4 _) (isHexNumeral_hexPadded 2 _) (isHexNumeral_hexPadded 2 _)
    (isHexNumeral_hexPadded 1 _)

end Fields

/-- A text is read exactly if it is a written form, and then as the address that it is a form of;
every other text is refused. -/
theorem written_forms_read (s : String) :
    (∀ a, parse? s = some a ↔ Writes s.toList a) ∧
      (parse? s = none ↔ ∀ a, ¬Writes s.toList a) := by
  have hread (a : Address) : parse? s = some a ↔ Writes s.toList a := by
    refine ⟨writes_of_parse?, fun h ↦ ?_⟩
    rw [← String.ofList_toList (s := s)]
    exact h.parse?_eq
  refine ⟨hread, ?_⟩
  rw [Option.eq_none_iff_forall_ne_some]
  exact forall_congr' fun a ↦ not_congr (hread a)

/-- Signs, letters of either case and zeros in front may be mixed. -/
example : parse? "+3A:00000001f.2" = some ⟨0, 0x3a, 0x1f, 2⟩ := by decide

/-- Whatever its fields, an address is read back from the form in which it is written. So no two
addresses are written alike, and an address that has been read is read again when it is written. -/
theorem addresses_read_back :
    (∀ a : Address, parse? a.text = some a) ∧ Function.Injective text ∧
      ∀ s, ((parse? s).bind fun a ↦ parse? a.text) = parse? s := by
  have hback (a : Address) : parse? a.text = some a := (writes_chars a).parse?_eq
  refine ⟨hback, ?_, ?_⟩
  · intro a b h
    have hread := congrArg parse? h
    rwa [hback, hback, Option.some.injEq] at hread
  · intro s
    cases parse? s with
    | none => rfl
    | some a => rw [Option.bind_some, hback]

end AcceleratorTopology.Pci.Address
