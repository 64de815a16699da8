/-
Roster.Store.Numbered — stores that number the names of what is created.

The last five characters of the name of a new object, its random suffix,
give way to a count of the creations that were tried, in five digits.
-/
import Roster.Decimal.Digits
import Roster.GeneratedName
import Roster.Store.Basic

namespace Roster

/-- A name with its suffix replaced. -/
def GeneratedName.replaceSuffix (suffix : List Char) (name : String) : String :=
  let chars := name.toList
  String.ofList (chars.take (chars.length - suffixBytes) ++ suffix)

/-- Metadata with the suffix of the name replaced. -/
def Metadata.withSuffix (suffix : List Char) (m : Metadata) : Metadata :=
  { m with name := m.name.map (GeneratedName.replaceSuffix suffix) }

/-- Metadata with a numbered name. -/
def Metadata.numbered (n : Nat) (m : Metadata) : Metadata :=
  m.withSuffix (Decimal.padded GeneratedName.suffixBytes n)

/-- A store with a count of the creations tried. -/
structure Numbered (σ : Type) where
  store : σ
  count : Nat

namespace Numbered

variable {σ α : Type}

/-- An operation that creates nothing. -/
def plain (op : Call σ α) : Call (Numbered σ) α := fun s =>
  match op s.store with
  | (result, store) => (result, { s with store := store })

/-- An operation that creates something under a numbered name. -/
def creating (op : Nat → Call σ α) : Call (Numbered σ) α := fun s =>
  match op (s.count + 1) s.store with
  | (result, store) => (result, ⟨store, s.count + 1⟩)

end Numbered

/-- The operations of a store, with numbered names. -/
def Store.numbered (inner : Store σ) : Store (Numbered σ) where
  listMachines ns cluster := Numbered.plain (inner.listMachines ns cluster)
  listMachinesUncached ns cluster := Numbered.plain (inner.listMachinesUncached ns cluster)
  getMachine ns name := Numbered.plain (inner.getMachine ns name)
  getCluster ns name := Numbered.plain (inner.getCluster ns name)
  getObject r := Numbered.plain (inner.getObject r)
  createObject o := Numbered.creating fun n =>
    inner.createObject { o with metadata := o.metadata.numbered n }
  createBootstrapConfig c := Numbered.creating fun n =>
    inner.createBootstrapConfig { c with metadata := c.metadata.numbered n }
  createMachine m := Numbered.creating fun n =>
    inner.createMachine { m with metadata := m.metadata.numbered n }
  delete r := Numbered.plain (inner.delete r)
  patchStatus p status := Numbered.plain (inner.patchStatus p status)

end Roster
