/-
Roster.Proofs.Recorded — a store that remembers what it was asked.

`Store.recorded` answers as another store does and keeps every request,
and a reference to every object that was created.  A pass on it shows
what a pass asks for, whatever the store answers.

`Recorded.Follows` is the invariant for this: a list of rules `may` says
which requests are allowed once certain objects were made, and from one
journal to a later one only allowed requests are added.
-/
import Roster.Proofs.Mirror
import Roster.Store.Rehearsal

namespace Roster

variable {σ α β : Type}

/-- A store with a record of the requests made of it. -/
structure Recorded (σ : Type) where
  store : σ
  /-- The requests, in the order they were made. -/
  requests : List Request
  /-- References to the objects that were created. -/
  made : List Reference

namespace Recorded

/-- Nothing was asked yet. -/
def fresh (store : σ) : Recorded σ := ⟨store, [], []⟩

/-- An operation that is recorded as a request; `made?` gives the reference to
what it created. -/
def asking (request : Request) (made? : α → Option Reference) (op : Call σ α) :
    Call (Recorded σ) α := fun s =>
  match op s.store with
  | (.ok a, store) => (.ok a, ⟨store, s.requests ++ [request], s.made ++ (made? a).toList⟩)
  | (.error e, store) => (.error e, ⟨store, s.requests ++ [request], s.made⟩)

/-- An operation that creates nothing. -/
def looking (request : Request) (op : Call σ α) : Call (Recorded σ) α :=
  asking request (fun _ => none) op

end Recorded

/-- The operations of a store, recorded. -/
def Store.recorded (inner : Store σ) : Store (Recorded σ) where
  listMachines ns cluster :=
    Recorded.looking (.listMachines ns cluster) (inner.listMachines ns cluster)
  listMachinesUncached ns cluster :=
    Recorded.looking (.listMachinesUncached ns cluster) (inner.listMachinesUncached ns cluster)
  getMachine ns name := Recorded.looking (.getMachine ns name) (inner.getMachine ns name)
  getCluster ns name := Recorded.looking (.getCluster ns name) (inner.getCluster ns name)
  getObject r := Recorded.looking (.getObject r) (inner.getObject r)
  createObject o :=
    Recorded.asking (.createObject o) Unstructured.reference? (inner.createObject o)
  createBootstrapConfig c :=
    Recorded.asking (.createBootstrapConfig c) (fun c => some c.reference)
      (inner.createBootstrapConfig c)
  createMachine m :=
    Recorded.asking (.createMachine m) (fun m => some m.reference) (inner.createMachine m)
  delete r := Recorded.looking (.delete r) (inner.delete r)
  patchStatus p status :=
    Recorded.looking (.patchStatus p.displayName status) (inner.patchStatus p status)

/-- A setting with a recorded store. -/
def Setting.recorded (setting : Setting σ) : Setting (Recorded σ) :=
  ⟨setting.store.recorded, setting.backoff, setting.draws⟩

/-- An operation is the same recorded. -/
theorem Recorded.asking_mirrors (request : Request) (made? : α → Option Reference)
    (op : Call σ α) : MirrorsCall Recorded.store (asking request made? op) op := by
  intro s
  unfold asking
  rcases op s.store with ⟨e | a, store⟩ <;> rfl

/-- A store is the same recorded. -/
theorem Store.recorded_mirrors (inner : Store σ) : Mirrors Recorded.store inner.recorded inner where
  listMachines _ _ := Recorded.asking_mirrors _ _ _
  listMachinesUncached _ _ := Recorded.asking_mirrors _ _ _
  getMachine _ _ := Recorded.asking_mirrors _ _ _
  getCluster _ _ := Recorded.asking_mirrors _ _ _
  getObject _ := Recorded.asking_mirrors _ _ _
  createObject _ := Recorded.asking_mirrors _ _ _
  createBootstrapConfig _ := Recorded.asking_mirrors _ _ _
  createMachine _ := Recorded.asking_mirrors _ _ _
  delete _ := Recorded.asking_mirrors _ _ _
  patchStatus _ _ := Recorded.asking_mirrors _ _ _

/-- A pass does not notice that it is recorded. -/
theorem reconcile_recorded (setting : Setting σ) (now : Instant) (p : ControlPlane)
    (j : Journal (Recorded σ)) :
    reconcile setting now p (j.map Recorded.store) =
      ((reconcile setting.recorded now p j).1,
        (reconcile setting.recorded now p j).2.map Recorded.store) :=
  reconcile_mirrors setting.store.recorded_mirrors now p j

/-- What a pass decides on is the same when it is recorded. -/
theorem decides_recorded_iff {store : Store σ} {p : ControlPlane} {j : Journal (Recorded σ)}
    {s : Scope} : Decides store.recorded p j s ↔ Decides store p (j.map Recorded.store) s := by
  have hsame : (survey store p (j.map Recorded.store)).1 = (survey store.recorded p j).1 :=
    congrArg Prod.fst (survey_mirrors store.recorded_mirrors p j)
  rw [Decides, Decides, hsame]

namespace Recorded

/-- From the journal `j` to `j'` only such requests were added as `may` allows
after the objects made until then. -/
structure Follows (may : List Reference → Request → Prop) (j j' : Journal (Recorded σ)) :
    Prop where
  made : j.store.made ⊆ j'.store.made
  requests : ∃ added, j'.store.requests = j.store.requests ++ added ∧
    ∀ q ∈ added, may j'.store.made q

/-- Rules that do not lapse when more is made. -/
def Lasting (may : List Reference → Request → Prop) : Prop :=
  ∀ q made made', made ⊆ made' → may made q → may made' q

variable {may : List Reference → Request → Prop} {j j' j'' : Journal (Recorded σ)}

theorem Follows.refl (j : Journal (Recorded σ)) : Follows may j j :=
  ⟨List.Subset.refl _, [], by simp⟩

/-- Lasting rules can be followed step by step. -/
theorem Follows.trans (lasting : Lasting may) (h : Follows may j j') (h' : Follows may j' j'') :
    Follows may j j'' := by
  obtain ⟨added, hadded, hall⟩ := h.requests
  obtain ⟨added', hadded', hall'⟩ := h'.requests
  refine ⟨List.Subset.trans h.made h'.made, added ++ added', by simp [hadded, hadded'], ?_⟩
  intro q hq
  rcases List.mem_append.mp hq with hq | hq
  · exact lasting q _ _ h'.made (hall q hq)
  · exact hall' q hq

/-! ## Passes that follow rules -/

/-- A pass asks only for what `may` allows, and what it ends with is as `ok`
says about the objects made until then. -/
def Asks (may : List Reference → Request → Prop) (p : Pass (Recorded σ) α)
    (j : Journal (Recorded σ)) (ok : α → List Reference → Prop) : Prop :=
  p.Ensures j (fun a j' => Follows may j j' ∧ ok a j'.store.made) (fun _ j' => Follows may j j')

variable {ok : α → List Reference → Prop}

theorem asks_pure {a : α} (h : ok a j.store.made) : Asks may (pure a) j ok :=
  ⟨Follows.refl j, h⟩

theorem asks_fail {e : Error} : Asks may (Pass.fail e) j ok := Follows.refl j

theorem asks_publish {event : Event} : Asks may (Pass.publish event) j fun _ _ => True :=
  ⟨⟨List.Subset.refl _, [], by simp⟩, trivial⟩

theorem asks_decided {d : Except Halt α} :
    Asks may (Pass.decided d) j fun a _ => d = .ok a := by
  cases d with
  | ok a => exact asks_pure rfl
  | error halt => exact Follows.refl j

/-- An operation that is asked for gives an answer of its own, and what it created
is among the objects made. -/
theorem asks_asking {q : Request} {made? : α → Option Reference} {op : Call σ α}
    (h : ∀ made, j.store.made ⊆ made → may made q) :
    Asks may (Pass.call (asking q made? op)) j fun a made =>
      (∃ before after, op before = (.ok a, after)) ∧ ∀ r ∈ made? a, r ∈ made := by
  rw [Asks, Pass.ensures_call, asking]
  rcases hanswer : op j.store.store with ⟨e | a, store⟩
  · exact ⟨List.Subset.refl _, [q], rfl, by simpa using h _ (List.Subset.refl _)⟩
  · have hsub : j.store.made ⊆ j.store.made ++ (made? a).toList := List.subset_append_left _ _
    refine ⟨⟨hsub, [q], rfl, by simpa using h _ hsub⟩, ⟨_, _, hanswer⟩, ?_⟩
    intro r hr
    simp [Option.mem_def.mp hr]

theorem asks_looking {q : Request} {op : Call σ α} (h : ∀ made, may made q) :
    Asks may (Pass.call (looking q op)) j fun _ _ => True :=
  (asks_asking fun made _ => h made).mono (fun _ _ h => ⟨h.1, trivial⟩) fun _ _ h => h

theorem Asks.mono {p : Pass (Recorded σ) α} {ok' : α → List Reference → Prop}
    (h : Asks may p j ok) (hok : ∀ a made, ok a made → ok' a made) : Asks may p j ok' :=
  Pass.Ensures.mono h (fun a _ h => ⟨h.1, hok a _ h.2⟩) fun _ _ h => h

/-- A pass and what goes on with its value. -/
theorem asks_bind (lasting : Lasting may)
    {p : Pass (Recorded σ) β} {f : β → Pass (Recorded σ) α} {mid : β → List Reference → Prop}
    (hp : Asks may p j mid)
    (hf : ∀ b j', j.store.made ⊆ j'.store.made → mid b j'.store.made → Asks may (f b) j' ok) :
    Asks may (p >>= f) j ok := by
  rw [Asks, Pass.ensures_bind]
  refine Pass.Ensures.mono hp ?_ fun _ _ h => h
  rintro b j' ⟨hfollows, hmid⟩
  refine Pass.Ensures.mono (hf b j' hfollows.made hmid) ?_ ?_
  · exact fun a j'' h => ⟨hfollows.trans lasting h.1, h.2⟩
  · exact fun _ j'' h => hfollows.trans lasting h

/-- Handing failures on as values, a pass asks for nothing else. -/
theorem asks_attempt {p : Pass (Recorded σ) α} (h : Asks may p j ok) :
    Asks may p.attempt j fun r made => ∀ a, r = .ok a → ok a made := by
  rw [Asks, Pass.ensures_attempt]
  refine Pass.Ensures.mono h ?_ ?_
  · rintro a j' ⟨hfollows, hok⟩
    exact ⟨hfollows, fun b hb => Except.ok.inj hb ▸ hok⟩
  · rintro (e | _) j' hfollows
    · exact ⟨hfollows, nofun⟩
    · exact hfollows

theorem asks_inContext {p : Pass (Recorded σ) α} {message : String} (h : Asks may p j ok) :
    Asks may (p.inContext message) j ok := by
  rw [Asks, Pass.ensures_inContext]
  refine Pass.Ensures.mono h (fun _ _ h => h) ?_
  rintro (e | _) j' hfollows <;> exact hfollows

end Recorded

end Roster
