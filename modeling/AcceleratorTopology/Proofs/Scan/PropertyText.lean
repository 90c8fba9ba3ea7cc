import AcceleratorTopology.Proofs.Text.Hexadecimal
import AcceleratorTopology.Proofs.Text.LeadingInteger
import AcceleratorTopology.Proofs.Text.StrictUtf8
import AcceleratorTopology.Scan.Reading

/-!
# What a property file says

A property file says a number by a hexadecimal numeral, with the mark `0x` or without it, between
any white space. The files that say one of 32 bits are read as the number; all others are not read
as any.
-/

namespace AcceleratorTopology.Text

/-- What trimming takes off is white space. -/
theorem exists_trim (cs : List Char) : ∃ before after, cs = before ++ (trim cs ++ after) ∧
    (∀ c ∈ before, isWhiteSpace c = true) ∧ ∀ c ∈ after, isWhiteSpace c = true := by
  have hstart : cs = cs.takeWhile isWhiteSpace ++ trimStart cs :=
    List.takeWhile_append_dropWhile.symm
  have hend : trimStart cs =
      trim cs ++ ((trimStart cs).reverse.takeWhile isWhiteSpace).reverse := by
    rw [trim, trimEnd, ← List.reverse_append, List.takeWhile_append_dropWhile, List.reverse_reverse]
  refine ⟨_, _, hend ▸ hstart, fun c hc ↦ ?_, fun c hc ↦ ?_⟩
  · exact List.mem_takeWhile_imp hc
  · exact List.mem_takeWhile_imp (List.mem_reverse.mp hc)

/-- A text without white space is what trimming leaves of it, whatever white space is around it. -/
theorem trim_append_append {before core after : List Char}
    (hbefore : ∀ c ∈ before, isWhiteSpace c = true) (hcore : ∀ c ∈ core, isWhiteSpace c = false)
    (hafter : ∀ c ∈ after, isWhiteSpace c = true) : trim (before ++ (core ++ after)) = core := by
  cases core with
  | nil =>
    have hall : ∀ c ∈ before ++ after, isWhiteSpace c = true :=
      fun c hc ↦ (List.mem_append.mp hc).elim (hbefore c) (hafter c)
    rw [List.nil_append, trim, trimStart, List.dropWhile_eq_nil_iff.mpr hall]
    rfl
  | cons c core =>
    have hstart : trimStart (before ++ (c :: core ++ after)) = c :: core ++ after := by
      refine dropWhile_append_of_stop hbefore fun x hx ↦ hcore x ?_
      cases hx
      exact List.mem_cons_self
    have hend : ∀ x, (c :: core).reverse.head? = some x → isWhiteSpace x = false :=
      fun x hx ↦ hcore x (List.mem_reverse.mp (List.mem_of_mem_head? hx))
    rw [trim, hstart, trimEnd, List.reverse_append,
      dropWhile_append_of_stop (fun x hx ↦ hafter x (List.mem_reverse.mp hx)) hend,
      List.reverse_reverse]

private theorem hexDigit?_of_isWhiteSpace {c : Char} (h : isWhiteSpace c = true) :
    hexDigit? c = none ∧ c ≠ '+' := by
  constructor
  · have hall : ∀ k : Fin 'g'.toNat,
        isWhiteSpace (Char.ofNat k) = true → hexDigit? (Char.ofNat k) = none := by decide
    cases hdigit : hexDigit? c with
    | none => rfl
    | some d =>
      have hc := hall ⟨c.toNat, toNat_lt_of_hexDigit? hdigit⟩
      dsimp only at hc
      rw [Char.ofNat_toNat] at hc
      rw [← hdigit, hc h]
  · rintro rfl
    cases h

private theorem IsHexNumeral.isWhiteSpace_eq_false {cs : List Char} {n : Nat}
    (h : IsHexNumeral cs n) {c : Char} (hc : c ∈ cs) : isWhiteSpace c = false := by
  rw [← Bool.not_eq_true]
  intro hspace
  obtain ⟨hdigit, hplus⟩ := hexDigit?_of_isWhiteSpace hspace
  exact h.notMem hdigit hplus hc

end AcceleratorTopology.Text

namespace AcceleratorTopology.Scan

open Text

/-- What may stand in front of a hexadecimal numeral. -/
inductive IsMark : List Char → Prop
  | none : IsMark []
  | hex : IsMark ['0', 'x']

/-- A text says a number: it is a hexadecimal numeral of the number, marked or not, between white
space. -/
inductive Says : List Char → Nat → Prop
  | numeral {before mark numeral after : List Char} {n : Nat}
    (hbefore : ∀ c ∈ before, isWhiteSpace c = true) (hmark : IsMark mark)
    (hnumeral : IsHexNumeral numeral n) (hafter : ∀ c ∈ after, isWhiteSpace c = true) :
    Says (before ++ (mark ++ numeral ++ after)) n

section Says

variable {cs numeral mark : List Char} {n : Nat}

private theorem IsMark.isWhiteSpace_eq_false (h : IsMark mark) :
    ∀ c ∈ mark, isWhiteSpace c = false := by
  cases h with
  | none => exact nofun
  | hex => exact List.forall_mem_cons.mpr ⟨rfl, List.forall_mem_singleton.mpr rfl⟩

private theorem exists_mark (cs : List Char) : ∃ mark, IsMark mark ∧ cs = mark ++ dropMark cs := by
  unfold dropMark
  split
  · exact ⟨_, .hex, rfl⟩
  · exact ⟨_, .none, rfl⟩

private theorem dropMark_append (hmark : IsMark mark) (h : IsHexNumeral numeral n) :
    dropMark (mark ++ numeral) = numeral := by
  cases hmark with
  | hex => rfl
  | none =>
    rw [List.nil_append]
    unfold dropMark
    split
    · exact absurd (List.mem_cons_of_mem _ List.mem_cons_self) (h.notMem (c := 'x') rfl (by decide))
    · rfl

/-- A text says the number of the numeral that is left once trimmed and without its mark. -/
theorem says_iff : Says cs n ↔ IsHexNumeral (dropMark (trim cs)) n := by
  constructor
  · rintro @⟨before, mark, numeral, after, _, hbefore, hmark, hnumeral, hafter⟩
    have hdense : ∀ c ∈ mark ++ numeral, isWhiteSpace c = false := fun c hc ↦
      (List.mem_append.mp hc).elim (hmark.isWhiteSpace_eq_false c) hnumeral.isWhiteSpace_eq_false
    rwa [trim_append_append hbefore hdense hafter, dropMark_append hmark hnumeral]
  · intro h
    obtain ⟨before, after, hparts, hbefore, hafter⟩ := exists_trim cs
    obtain ⟨mark, hmark, htrim⟩ := exists_mark (trim cs)
    rw [hparts, htrim]
    exact .numeral hbefore hmark h hafter

/-- A file in UTF-8 is read as the number that its text says. -/
theorem number?_encode {s : String} {v : UInt32} :
    number? (Utf8.encode s) = some v ↔ Says s.toList v.toNat := by
  rw [number?, Utf8.decode?_encode, says_iff, ← hexadecimal?_eq_some_iff]
  rfl

/-- The files that are read as a number are those that say it in UTF-8. -/
theorem number?_eq_some_iff {content : List UInt8} {v : UInt32} :
    number? content = some v ↔ ∃ s, content = Utf8.encode s ∧ Says s.toList v.toNat := by
  constructor
  · intro h
    obtain ⟨s, hs, -⟩ := Option.bind_eq_some_iff.mp h
    rw [Utf8.decode?_eq_some_iff] at hs
    exact ⟨s, hs, number?_encode.mp (hs ▸ h)⟩
  · rintro ⟨s, rfl, h⟩
    exact number?_encode.mpr h

/-- Whatever is written for a number in a width says it, with a mark and at the end of a line. -/
theorem says_written (width n : Nat) : Says (['0', 'x'] ++ hexPadded width n ++ ['\n']) n :=
  @Says.numeral [] _ _ _ _ nofun .hex (isHexNumeral_hexPadded width n)
    (List.forall_mem_singleton.mpr rfl)

end Says

end AcceleratorTopology.Scan
