import AcceleratorTopology.Scan.Basic

/-!
# Scanning in place

A scan of a topology that is changed as the scan goes on: names are taken from the listing one after
another, and then objects join one after another. A fault ends the scan, and what was done to the
topology by then stays done.
-/

namespace AcceleratorTopology.Scan

open Files Vendor

/-- Work on a topology that a fault may end. -/
abbrev InPlace := ExceptT Fault (StateM Topology)

/-- What work on a topology comes to, and the topology that it leaves. -/
def InPlace.on {α : Type} (work : InPlace α) (t : Topology) : Except Fault α × Topology :=
  work.run.run t

/-- Takes one more name from a listing, which may fail at any name. -/
def gatherEntry (view : View) (listing : Path) (es : List Entry) :
    Except FileError Name → InPlace (List Entry)
  | .error e => throw (.system e.message)
  | .ok name => return es ++ (entryNamed? view listing name).toList

/-- Adds the object of an entry to the topology. -/
def joinEntry (view : View) (added : Added) (e : Entry) : InPlace Added := do
  let t ← get
  set (t.insert (parentOf added e) (object view e.directory e.address))
  return added.put e.address t.nextId

/-- Scans a directory; gives the number of addresses for which objects were added. -/
def scanInPlace (view : View) (listing : Path) : InPlace Nat := do
  match view.list listing with
  | .error e => throw (.system e.message)
  | .ok listed =>
    let es ← listed.foldlM (gatherEntry view listing) []
    let added ← (es.mergeSort Entry.precedes).foldlM (joinEntry view) []
    return added.length

namespace InPlace

variable {α β : Type}

/-- A result alone leaves the topology as it is. -/
@[simp] theorem on_pure (a : α) (t : Topology) : (pure a : InPlace α).on t = (.ok a, t) := rfl

/-- A fault leaves the topology as it is. -/
@[simp] theorem on_throw (fault : Fault) (t : Topology) :
    (throw fault : InPlace α).on t = (.error fault, t) := rfl

/-- Further work goes on from what is there, on the topology that is left. -/
theorem on_bind_of_ok {work : InPlace α} {next : α → InPlace β} {t t' : Topology} {a : α}
    (h : work.on t = (.ok a, t')) : (work >>= next).on t = (next a).on t' := by
  change ExceptT.bindCont next (work.on t).1 (work.on t).2 = (next a).on t'
  rw [h]
  rfl

/-- A fault ends all further work. -/
theorem on_bind_of_error {work : InPlace α} {next : α → InPlace β} {t t' : Topology}
    {fault : Fault} (h : work.on t = (.error fault, t')) :
    (work >>= next).on t = (.error fault, t') := by
  change ExceptT.bindCont next (work.on t).1 (work.on t).2 = (Except.error fault, t')
  rw [h]
  rfl

end InPlace

/-- A name is taken without touching the topology. -/
theorem on_gatherEntry_ok (view : View) (listing : Path) (es : List Entry) (name : Name)
    (t : Topology) : (gatherEntry view listing es (.ok name)).on t =
      (.ok (es ++ (entryNamed? view listing name).toList), t) := rfl

/-- An object joins just as it is added. -/
theorem on_joinEntry (view : View) (added : Added) (e : Entry) (t : Topology) :
    (joinEntry view added e).on t =
      (.ok (addEntry view (t, added) e).2, (addEntry view (t, added) e).1) := rfl

end AcceleratorTopology.Scan
