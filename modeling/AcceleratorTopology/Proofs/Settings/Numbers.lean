import AcceleratorTopology.Proofs.Text.LeadingInteger
import AcceleratorTopology.Proofs.Text.Utf8
import AcceleratorTopology.Settings.Configuration

/-!
# Settings that are numbers

The switch of the management interface, the hiding of errors and the preferred source of memory
sizes are each set by the integer with which a text starts. An integer of 64 bits stands for what it
is. One that needs more stands for zero, so that it switches off what any other number but zero
would switch on.
-/

namespace AcceleratorTopology.Settings

open Text

namespace Variable

/-- A variable that is set to a text holds that text. -/
theorem text?_ofText (s : String) : (ofText s).text? = some s := Utf8.decode?_encode s

end Variable

/-- What a text sets is what a number stands for. -/
structure StandsForNumber (s : String) (n : Int) : Prop where
  disabled : SysmanState.ofText (some s) = .disabled ↔ n = 0
  enabled : SysmanState.ofText (some s) = .enabled ↔ n ≠ 0
  hideErrors : ∀ memory,
    (Configuration.ofEnvironment memory (.ofText s)).hideErrors = true ↔ n ≠ 0
  auto : MemoryPreference.ofText s = .auto ↔ n = -1
  core : MemoryPreference.ofText s = .core ↔ n = 1
  coreWithDdr : MemoryPreference.ofText s = .coreWithDdr ↔ 2 ≤ n
  sysman : MemoryPreference.ofText s = .sysman ↔ n ≠ -1 ∧ n ≠ 1 ∧ n < 2

section Reading

variable {s : String}

/-- The number zero switches off. -/
theorem ofText_eq_disabled_iff :
    SysmanState.ofText (some s) = .disabled ↔ leadingInteger s = 0 := by
  rw [SysmanState.ofText]
  split
  · next h => exact iff_of_true rfl h
  · next h => exact iff_of_false nofun h

/-- Any other number switches on. -/
theorem ofText_eq_enabled_iff : SysmanState.ofText (some s) = .enabled ↔ leadingInteger s ≠ 0 := by
  rw [SysmanState.ofText]
  split
  · next h => exact iff_of_false nofun (not_not_intro h)
  · next h => exact iff_of_true rfl h

/-- Errors are hidden by any number but zero. -/
theorem hideErrors_ofText_iff (memory : Variable) :
    (Configuration.ofEnvironment memory (.ofText s)).hideErrors = true ↔ leadingInteger s ≠ 0 := by
  rw [Configuration.ofEnvironment, Variable.text?_ofText]
  exact bne_iff_ne

/-- The preferred source is chosen by the number. -/
theorem memoryPreference_iff :
    (MemoryPreference.ofText s = .auto ↔ leadingInteger s = -1) ∧
    (MemoryPreference.ofText s = .core ↔ leadingInteger s = 1) ∧
    (MemoryPreference.ofText s = .coreWithDdr ↔ 2 ≤ leadingInteger s) ∧
    (MemoryPreference.ofText s = .sysman ↔
      leadingInteger s ≠ -1 ∧ leadingInteger s ≠ 1 ∧ leadingInteger s < 2) := by
  rw [MemoryPreference.ofText]
  generalize leadingInteger s = n
  split_ifs <;> simp <;> omega

private theorem standsForNumber_leadingInteger (s : String) :
    StandsForNumber s (leadingInteger s) := by
  obtain ⟨hauto, hcore, hddr, hsysman⟩ := memoryPreference_iff (s := s)
  exact ⟨ofText_eq_disabled_iff, ofText_eq_enabled_iff, hideErrors_ofText_iff, hauto, hcore, hddr,
    hsysman⟩

end Reading

/-- Every text starts with one integer, of whatever size. If that is one of 64 bits, the text stands
for it: any number but zero enables the switch and hides errors, and the preferred source is chosen
by the number. If it is not, the text stands for zero. -/
theorem settings_by_number (s : String) : ∃ n, LeadingNumber s.toList n ∧
    (∀ m, LeadingNumber s.toList m → m = n) ∧ StandsForNumber s (if Fits64 n then n else 0) := by
  obtain ⟨blank, sign, digits, magnitude, rest, hstart⟩ := exists_startsWith s.toList
  have hnumber : LeadingNumber s.toList (sign.apply magnitude) := ⟨_, _, _, _, _, hstart, rfl⟩
  refine ⟨_, hnumber, fun m hm ↦ hm.unique hnumber, ?_⟩
  rw [← hnumber.leadingInteger_eq]
  exact standsForNumber_leadingInteger s

/-- A number that needs more than 64 bits disables the switch, shows errors and prefers the
management interface, where its value would do the contrary. -/
theorem oversized_number_disables :
    let s := "9223372036854775808"
    LeadingNumber s.toList 9223372036854775808 ∧
    SysmanState.ofText (some s) = .disabled ∧
    (Configuration.ofEnvironment .unset (.ofText s)).hideErrors = false ∧
    MemoryPreference.ofText s = .sysman ∧ ¬StandsForNumber s 9223372036854775808 := by
  intro s
  have hwritten : s.toList = (toString (9223372036854775808 : Int)).toList ++ [] := by decide
  have hnumber : LeadingNumber s.toList 9223372036854775808 :=
    hwritten ▸ leadingNumber_toString 9223372036854775808 nofun
  have hread : leadingInteger s = 0 := hnumber.leadingInteger_eq
  have hstands := standsForNumber_leadingInteger s
  rw [hread] at hstands
  have hdisabled := hstands.disabled.mpr rfl
  refine ⟨hnumber, hdisabled, ?_, hstands.sysman.mpr (by decide), fun h ↦ ?_⟩
  · exact Bool.eq_false_iff.mpr fun hhidden ↦ (hstands.hideErrors _).mp hhidden rfl
  · exact absurd (h.disabled.mp hdisabled) (by decide)

end AcceleratorTopology.Settings
