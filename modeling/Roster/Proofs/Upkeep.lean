/-
Roster.Proofs.Upkeep — what every operation of a store keeps, a pass keeps.

A store whose operations all keep an invariant can be cut down to the states
of which it holds (`Store.restrict`), and a pass does not notice: the larger
store mirrors the smaller one.  So the invariant holds after every part of a
pass (`MirrorsPass.keeps`), and no part has to be taken apart for it.

Before and during its step a pass does not write the status.  There an
invariant may even be one that writing breaks (`Store.mute`).
-/
import Roster.Proofs.Mirror

namespace Roster

variable {σ α : Type} {inv : σ → Prop}

/-- An operation after which an invariant holds if it did before. -/
def KeepsCall (inv : σ → Prop) (op : Call σ α) : Prop := ∀ s, inv s → inv (op s).2

/-- All operations of a store keep an invariant. -/
structure Store.Keeps (store : Store σ) (inv : σ → Prop) : Prop where
  listMachines (ns cluster) : KeepsCall inv (store.listMachines ns cluster)
  listMachinesUncached (ns cluster) : KeepsCall inv (store.listMachinesUncached ns cluster)
  getMachine (ns name) : KeepsCall inv (store.getMachine ns name)
  getCluster (ns name) : KeepsCall inv (store.getCluster ns name)
  getObject (r) : KeepsCall inv (store.getObject r)
  createObject (o) : KeepsCall inv (store.createObject o)
  createBootstrapConfig (c) : KeepsCall inv (store.createBootstrapConfig c)
  createMachine (m) : KeepsCall inv (store.createMachine m)
  delete (r) : KeepsCall inv (store.delete r)
  patchStatus (p status) : KeepsCall inv (store.patchStatus p status)

/-- An operation on the states of which an invariant holds. -/
def restrictCall (op : Call σ α) (h : KeepsCall inv op) : Call { s // inv s } α := fun s =>
  ((op s).1, ⟨(op s).2, h s s.2⟩)

/-- A store cut down to the states of which an invariant holds. -/
def Store.restrict (store : Store σ) (h : store.Keeps inv) : Store { s // inv s } where
  listMachines ns cluster := restrictCall _ (h.listMachines ns cluster)
  listMachinesUncached ns cluster := restrictCall _ (h.listMachinesUncached ns cluster)
  getMachine ns name := restrictCall _ (h.getMachine ns name)
  getCluster ns name := restrictCall _ (h.getCluster ns name)
  getObject r := restrictCall _ (h.getObject r)
  createObject o := restrictCall _ (h.createObject o)
  createBootstrapConfig c := restrictCall _ (h.createBootstrapConfig c)
  createMachine m := restrictCall _ (h.createMachine m)
  delete r := restrictCall _ (h.delete r)
  patchStatus p status := restrictCall _ (h.patchStatus p status)

theorem Store.restrict_mirrors (store : Store σ) (h : store.Keeps inv) :
    Mirrors Subtype.val (store.restrict h) store where
  listMachines _ _ _ := rfl
  listMachinesUncached _ _ _ := rfl
  getMachine _ _ _ := rfl
  getCluster _ _ _ := rfl
  getObject _ _ := rfl
  createObject _ _ := rfl
  createBootstrapConfig _ _ := rfl
  createMachine _ _ := rfl
  delete _ _ := rfl
  patchStatus _ _ _ := rfl

/-- A pass over the smaller store never leaves it. -/
theorem MirrorsPass.keeps {outer : Pass { s // inv s } α} {inner : Pass σ α}
    (h : MirrorsPass Subtype.val outer inner) {j : Journal σ} (hj : inv j.store) :
    inv (inner j).2.store := by
  have hended := h ⟨⟨j.store, hj⟩, j.events⟩
  change inner j = _ at hended
  rw [hended]
  exact (outer _).2.store.2

/-! ## Parts that do not write the status -/

/-- A store on which writing the status has no effect. -/
def Store.mute (store : Store σ) : Store σ :=
  { store with patchStatus := fun _ _ s => (.ok (), s) }

variable {store : Store σ} {j : Journal σ}

theorem survey_keeps (h : store.mute.Keeps inv) (p : ControlPlane) (hj : inv j.store) :
    inv (survey store p j).2.store :=
  (survey_mirrors (store.mute.restrict_mirrors h) p).keeps hj

theorem step_keeps (h : store.mute.Keeps inv) (backoff : Backoff) (draws : Draws) (s : Scope)
    (hj : inv j.store) : inv (s.step ⟨store, backoff, draws⟩ j).2.store := by
  have hmirrors : MirrorsPass Subtype.val (s.step ⟨store.mute.restrict h, backoff, draws⟩)
      (s.step ⟨store.mute, backoff, draws⟩) := step_mirrors (store.mute.restrict_mirrors h) s
  exact hmirrors.keeps hj

end Roster
