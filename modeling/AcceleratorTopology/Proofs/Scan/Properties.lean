import AcceleratorTopology.Proofs.Scan.Additions
import AcceleratorTopology.Proofs.Scan.PropertyText

/-!
# What a scan reads

Each function that is listed joins with the identity that its property files describe. Every field
is read from a file of its own, so a file that says nothing leaves the other fields as they are.
-/

namespace AcceleratorTopology.Scan

open Files Text

/-- A property file that says a number. -/
def HoldsNumber (view : View) (directory : Path) (file : String) (n : Nat) : Prop :=
  ∃ s, view.read (directory ++ [name file]) = .ok (Utf8.encode s) ∧ Says s.toList n

/-- A property file that is not there, is no text, or says no number of 32 bits. -/
inductive HoldsNone (view : View) (directory : Path) (file : String) : Prop
  | missing {e : FileError} (h : view.read (directory ++ [name file]) = .error e)
  | notText {content : List UInt8} (h : view.read (directory ++ [name file]) = .ok content)
    (hcontent : ∀ s, content ≠ Utf8.encode s)
  | malformed {s : String} (h : view.read (directory ++ [name file]) = .ok (Utf8.encode s))
    (hs : ∀ n < 2 ^ 32, ¬Says s.toList n)

/-- A field holds the bits of a property from a lowest one on, as many as the field is wide, and
zero if the file says none. -/
structure Decodes (view : View) (directory : Path) (file : String) (low width field : Nat) :
    Prop where
  number : ∀ n < 2 ^ (low + width), HoldsNumber view directory file n → field = n >>> low
  none : HoldsNone view directory file → field = 0

/-- An identity that is described by the property files in a directory. -/
structure DescribedBy (view : View) (directory : Path) (p : PciIdentity) : Prop where
  classId : Decodes view directory "class" 8 16 p.classId.toNat
  vendorId : Decodes view directory "vendor" 0 16 p.vendorId.toNat
  deviceId : Decodes view directory "device" 0 16 p.deviceId.toNat
  revision : Decodes view directory "revision" 0 8 p.revision.toNat
  linkSpeed : p.linkSpeed = .zero

section Property

variable {view : View} {directory : Path} {file : String} {n low width field : Nat}

private theorem toNat_property (h : HoldsNumber view directory file n) (hn : n < 2 ^ 32) :
    (property view directory file).toNat = n := by
  obtain ⟨s, hread, hs⟩ := h
  have hvalue : (UInt32.ofNat n).toNat = n := UInt32.toNat_ofNat_of_lt hn
  have hnumber : number? (Utf8.encode s) = some (UInt32.ofNat n) :=
    number?_encode.mpr (hvalue.symm ▸ hs)
  rw [property, hread]
  dsimp only
  rw [hnumber]
  exact hvalue

private theorem property_of_holdsNone (h : HoldsNone view directory file) :
    property view directory file = 0 := by
  have hzero {content : List UInt8} (hread : view.read (directory ++ [name file]) = .ok content)
      (hcontent : ∀ v, number? content ≠ some v) : property view directory file = 0 := by
    rw [property, hread]
    dsimp only
    rw [Option.eq_none_iff_forall_ne_some.mpr hcontent]
    rfl
  cases h with
  | missing hread => rw [property, hread]
  | notText hread hcontent =>
    refine hzero hread fun v hv ↦ ?_
    obtain ⟨s, hs, -⟩ := number?_eq_some_iff.mp hv
    exact hcontent s hs
  | malformed hread hs => exact hzero hread fun v hv ↦ hs _ v.toNat_lt (number?_encode.mp hv)

private theorem decodes_property (hbits : low + width ≤ 32)
    (hfield : field = (property view directory file).toNat >>> low % 2 ^ width) :
    Decodes view directory file low width field where
  number n hn h := by
    have hshift : n >>> low < 2 ^ width := by
      rw [Nat.shiftRight_eq_div_pow]
      exact Nat.div_lt_of_lt_mul (Nat.pow_add 2 low width ▸ hn)
    have hn' : n < 2 ^ 32 := Nat.lt_of_lt_of_le hn (Nat.pow_le_pow_right (by decide) hbits)
    rw [hfield, toNat_property h hn', Nat.mod_eq_of_lt hshift]
  none h := by
    rw [hfield, property_of_holdsNone h, UInt32.toNat_zero, Nat.zero_shiftRight, Nat.zero_mod]

/-- The identity that is read is described by the files. -/
theorem describedBy_identity (view : View) (directory : Path) (a : Pci.Address) :
    DescribedBy view directory (identity view directory a) where
  classId := decodes_property (by decide) (by rfl)
  vendorId := decodes_property (by decide) (by rfl)
  deviceId := decodes_property (by decide) (by rfl)
  revision := decodes_property (by decide) (by rfl)
  linkSpeed := rfl

/-- An object is a bridge or a device, by the class that is read. -/
theorem kind_object (view : View) (directory : Path) (a : Pci.Address) :
    ((object view directory a).kind = .bridge ↔
      (identity view directory a).classId = bridgeClass) ∧
    ((object view directory a).kind = .pciDevice ↔
      (identity view directory a).classId ≠ bridgeClass) := by
  rw [object]
  dsimp only
  split
  · next h => simp [h]
  · next h => simp [h]

end Property

/-- A listing that can be read to its end is scanned. There is one new object for each name in it
that spells an address and leads to a directory. It has this address and the identity that the
property files in the directory describe, and is a bridge if the class is that of bridges, or else a
device. -/
theorem scan_decodes_properties {view : View} {listing : Path} {names : List Name} {t : Topology}
    (hroot : 0 < t.size) (hlist : view.list listing = .ok (names.map .ok)) :
    ∃ (devices : List Entry) (t' : Topology) (count : Nat),
      devices.Perm (names.filterMap (entryNamed? view listing)) ∧
      scan view listing t = .ok (t', count) ∧ t'.size = t.size + devices.length ∧
      ∀ (k : Nat) (e : Entry), devices[k]? = some e → ∃ o p,
        t'.get? ⟨t.size + k⟩ = some o ∧ o.pci = some p ∧ p.address = e.address ∧
        DescribedBy view e.directory p ∧ (o.kind = .bridge ↔ p.classId = bridgeClass) ∧
        (o.kind = .pciDevice ↔ p.classId ≠ bridgeClass) := by
  have hentries := entries_of_names hlist
  generalize names.filterMap (entryNamed? view listing) = es at hentries ⊢
  have hfilled := filled_addEntries view t es
  refine ⟨es.mergeSort Entry.precedes, _, _, es.mergeSort_perm Entry.precedes,
    scan_eq_ok_iff.mpr ⟨es, hentries, rfl, rfl⟩, hfilled.size, fun k e hk ↦ ?_⟩
  obtain ⟨parent, children, -, hget⟩ := hfilled.joined hroot k e hk
  have hkind := kind_object view e.directory e.address
  exact ⟨_, _, hget, rfl, rfl, describedBy_identity view e.directory e.address, hkind.1, hkind.2⟩

/-- A host with a single bridge, the property files of which are written in different ways; that for
the revision is no text. -/
def loneBridgeHost : FileTree where
  nodes :=
    let bridge := [name "devices", name "03:00.0"]
    [([name "devices"], .directory), (bridge, .directory),
      (bridge ++ [name "class"], .file (name "0x060400\n")),
      (bridge ++ [name "vendor"], .file (name "\u3000+8086\t")),
      (bridge ++ [name "device"], .file (name "0x00000a0B")),
      (bridge ++ [name "revision"], .file [0xFF])]

private theorem holds_loneBridgeHost :
    let directory := [name "devices", name "03:00.0"]
    HoldsNumber loneBridgeHost.view directory "class" 0x060400 ∧
    HoldsNumber loneBridgeHost.view directory "vendor" 0x8086 ∧
    HoldsNumber loneBridgeHost.view directory "device" 0x0A0B ∧
    HoldsNone loneBridgeHost.view directory "revision" := by
  have hblank : isWhiteSpace '\u3000' = true ∧ isWhiteSpace '\t' = true := ⟨rfl, rfl⟩
  have hvendor : Says "\u3000+8086\t".toList 0x8086 :=
    @Says.numeral ['\u3000'] [] "+8086".toList ['\t'] _ (List.forall_mem_singleton.mpr hblank.1)
      .none (.plus ⟨[8, 0, 8, 6], by decide, by decide, rfl⟩)
      (List.forall_mem_singleton.mpr hblank.2)
  have hdevice : Says "0x00000a0B".toList 0x0A0B :=
    @Says.numeral [] ['0', 'x'] "00000a0B".toList [] _ nofun .hex
      (.plain ⟨[0, 0, 0, 0, 0, 10, 0, 11], by decide, by decide, rfl⟩) nofun
  have hrevision : ∀ s, [0xFF] ≠ Utf8.encode s := by
    intro s hs
    have hnone : Utf8.decode? [0xFF] = none := rfl
    rw [Utf8.decode?_eq_some_iff.mpr hs] at hnone
    cases hnone
  exact ⟨⟨"0x060400\n", rfl, says_written 6 0x060400⟩, ⟨"\u3000+8086\t", rfl, hvendor⟩,
    ⟨"0x00000a0B", rfl, hdevice⟩, .notText (rfl) hrevision⟩

/-- The single bridge is scanned with what its files say, and without a revision. -/
theorem lone_bridge_scanned :
    0 < Topology.bare.size ∧
    loneBridgeHost.view.list [name "devices"] = .ok ([name "03:00.0"].map .ok) ∧
    ∃ t' count o p, scan loneBridgeHost.view [name "devices"] .bare = .ok (t', count) ∧
      t'.get? ⟨1⟩ = some o ∧ o.kind = .bridge ∧ o.pci = some p ∧ p.address = ⟨0, 3, 0, 0⟩ ∧
      p.classId.toNat = 0x0604 ∧ p.vendorId.toNat = 0x8086 ∧ p.deviceId.toNat = 0x0A0B ∧
      p.revision.toNat = 0 ∧ p.linkSpeed = .zero := by
  have hroot : 0 < Topology.bare.size := by decide
  have hlist : loneBridgeHost.view.list [name "devices"] = .ok ([name "03:00.0"].map .ok) := rfl
  have hentries : [name "03:00.0"].filterMap (entryNamed? loneBridgeHost.view [name "devices"]) =
      [⟨⟨0, 3, 0, 0⟩, [name "devices", name "03:00.0"], none⟩] := rfl
  obtain ⟨devices, t', count, hdevices, hscan, -, hall⟩ := scan_decodes_properties hroot hlist
  rw [hentries, List.perm_singleton] at hdevices
  subst hdevices
  obtain ⟨o, p, hget, hpci, haddress, hp, hbridge, -⟩ := hall 0 _ rfl
  obtain ⟨hclass, hvendor, hdevice, hrevision⟩ := holds_loneBridgeHost
  have hclassId : p.classId.toNat = 0x0604 := hp.classId.number _ (by decide) hclass
  have hkind : o.kind = .bridge := hbridge.mpr (UInt16.toNat_inj.mp hclassId)
  exact ⟨hroot, hlist, t', count, o, p, hscan, hget, hkind, hpci, haddress, hclassId,
    hp.vendorId.number _ (by decide) hvendor, hp.deviceId.number _ (by decide) hdevice,
    hp.revision.none hrevision, hp.linkSpeed⟩

end AcceleratorTopology.Scan
