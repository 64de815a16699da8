/-
Roster.Proofs.Rewriting — recorded settings in another spelling.

A machine keeps the settings it was made from as a text, and that text may
come back as somebody else has written it.  What counts is what it says:
blanks between tokens, the order of entries and entries of other names are
not looked at (`Respelled.ofSnapshot?_eq`).  A text that says a thing twice
or goes on behind its end is not trusted at all
(`RepeatsField.ofSnapshot?_eq_none`, `ofSnapshot?_append_eq_none`).

For a control plane this means that no machine becomes outdated by a change
of spelling, and so no rollout begins (`respelled_settings_change_nothing`).
-/
import Mathlib.Data.List.Forall2
import Roster.Plan
import Roster.Proofs.Settings
import Roster.Sample

namespace Roster

open Document

namespace ServerConfig

/-- Another spelling of the same settings, one change away. -/
inductive Respelled : String → String → Prop
  /-- Blanks are put between two tokens, or at an end of the text. -/
  | blanks (a blanks b : String) {before behind : List Token}
      (ha : Token.all? a.toList = some before) (hb : Token.all? b.toList = some behind)
      (hab : Token.all? (a ++ b).toList = some (before ++ behind))
      (hblanks : ∀ c ∈ blanks.toList, Token.isBlank c = true) :
      Respelled (a ++ b) (a ++ blanks ++ b)
  /-- The entries of an object that repeats no key are put in another order. -/
  | reorder (before behind : String) {ts : List Token}
      (hbefore : Token.all? before.toList = some ts) (o : ObjectText) {entries : List EntryText}
      (hdistinct : (o.entries.filterMap EntryText.key).Nodup) (hperm : o.entries.Perm entries) :
      Respelled (before ++ o.text ++ behind)
        (before ++ { o with entries := entries }.text ++ behind)
  /-- An entry with a name that is no field is added to a group of settings; its
  value is any document. -/
  | add (before behind : String) (group : SettingsGroup)
      (hplace : placeBehind? before = some group.place) (o : ObjectText)
      {front back : List EntryText} (ho : o.entries = front ++ back) (e : EntryText)
      {name : String} (hkey : e.key = some name) (hname : name ∉ group.fields) :
      Respelled (before ++ o.text ++ behind)
        (before ++ { o with entries := front ++ e :: back }.text ++ behind)

/-- A text that gives a field of a group of settings twice. -/
inductive RepeatsField : String → Prop
  | intro (before behind : String) (group : SettingsGroup)
      (hplace : placeBehind? before = some group.place) (o : ObjectText) {field : String}
      (hfield : field ∈ group.fields)
      (htwice : 1 < (o.entries.map EntryText.key).count (some field)) :
      RepeatsField (before ++ o.text ++ behind)

theorem exists_tokens_of_placeBehind? {before : String} {place : List (Option String)}
    (h : placeBehind? before = some place) : ∃ ts, Token.all? before.toList = some ts := by
  obtain ⟨ts, hts, -⟩ := Option.bind_eq_some_iff.mp h
  exact ⟨ts, hts⟩

/-- The settings of a text look at an object in the place of a group through the
reading of that group. -/
theorem through_parse? {before : String} {group : SettingsGroup}
    (hplace : placeBehind? before = some group.place) (behind : String) :
    (∀ o : ObjectText, ofSnapshot? (before ++ o.text ++ behind) = none) ∨
      ∃ k : group.Value → ServerConfig, ∀ o : ObjectText,
        ofSnapshot? (before ++ o.text ++ behind) = (group.decode o.document).map k := by
  obtain ⟨ts, hts⟩ := exists_tokens_of_placeBehind? hplace
  simp only [ofSnapshot?]
  obtain hnone | ⟨layers, hkeys, hparse⟩ := parse?_around hts behind
  · exact .inl fun o => by rw [hnone]; rfl
  · have hlayers : layers.map Layer.key? = group.place :=
      Option.some_inj.mp (hkeys.symm.trans hplace)
    simp only [hparse]
    obtain hnone | ⟨k, hk⟩ := group.through_fillAll hlayers
    · exact .inl fun o => hnone o.document
    · exact .inr ⟨k, fun o => hk o.document⟩

theorem Respelled.ofSnapshot?_eq {text text' : String} (h : Respelled text text') :
    ofSnapshot? text' = ofSnapshot? text := by
  cases h with
  | blanks a blanks b ha hb hab hblanks =>
    have htokens : Token.all? (a ++ blanks ++ b).toList = Token.all? (a ++ b).toList := by
      simp only [String.toList_append, List.append_assoc] at hab ⊢
      exact Token.all?_insert_blanks hblanks ha hb hab
    rw [ofSnapshot?, ofSnapshot?, parse?, parse?, ofChars?, ofChars?, htokens]
  | @reorder before behind ts hbefore o entries hdistinct hperm =>
    rw [ofSnapshot?, ofSnapshot?]
    obtain hnone | ⟨layers, -, hparse⟩ := parse?_around hbefore behind
    · rw [hnone, hnone]
    · have hkeys : ((o.entries.map EntryText.entry).filterMap Prod.fst).Nodup := by
        rw [List.filterMap_map]
        exact hdistinct
      have hdocument := Reordered.object hkeys (hperm.map EntryText.entry)
      rw [hparse, hparse]
      exact (readsRecord.oblivious _ _ (hdocument.fillAll layers)).symm
  | @add before behind group hplace o front back ho e name hkey hname =>
    obtain hnone | ⟨k, hk⟩ := through_parse? hplace behind
    · rw [hnone, hnone]
    · have hadd := group.readsRecord.add hname e.value (front.map EntryText.entry)
        (back.map EntryText.entry)
      rw [hk, hk, ObjectText.document, ObjectText.document, ho, List.map_append, List.map_append,
        List.map_cons, EntryText.entry, hkey, hadd]

theorem ofSnapshot?_eq_of_respelled {text text' : String}
    (h : Relation.ReflTransGen Respelled text text') : ofSnapshot? text' = ofSnapshot? text := by
  induction h with
  | refl => rfl
  | tail _ hstep ih => exact hstep.ofSnapshot?_eq.trans ih

theorem RepeatsField.ofSnapshot?_eq_none {text : String} (h : RepeatsField text) :
    ofSnapshot? text = none := by
  obtain ⟨before, behind, group, hplace, o, hfield, htwice⟩ := h
  obtain hnone | ⟨k, hk⟩ := through_parse? hplace behind
  · exact hnone o
  · have hkeys : (o.entries.map EntryText.entry).map Prod.fst = o.entries.map EntryText.key := by
      rw [List.map_map]
      rfl
    have hrefused := record?_repeated hfield (hkeys ▸ htwice)
    rw [hk, ObjectText.document, group.readsRecord.refuses hrefused]
    rfl

/-! ## Behind the end -/

/-- A number completes no document but itself. -/
theorem step_number {s : State} {n : Option Number} {d : Document}
    (h : (s.step (.number n)).bind State.complete? = some d) : d = .number n := by
  cases s with
  | value stack =>
    cases stack with
    | nil => exact (Option.some_inj.mp h).symm
    | cons frame stack => cases frame <;> cases h
  | _ => cases h

theorem getLast?_ne_number {ts : List Token} {d : Document} (h : ofTokens? ts = some d)
    (hd : (decode d).isSome = true) (n : Option Number) : ts.getLast? ≠ some (.number n) := by
  intro hlast
  obtain ⟨us, rfl⟩ := List.getLast?_eq_some_iff.mp hlast
  rw [ofTokens?, State.run_append, Option.bind_assoc] at h
  obtain ⟨s, -, hs⟩ := Option.bind_eq_some_iff.mp h
  have hstep : s.run [.number n] = s.step (.number n) := Option.bind_fun_some _
  rw [hstep] at hs
  obtain rfl := step_number hs
  cases hd

/-- Nothing but blanks may follow recorded settings. -/
theorem ofSnapshot?_append_eq_none {text extra : String} (h : (ofSnapshot? text).isSome = true)
    (hextra : ∃ c ∈ extra.toList, Token.isBlank c = false) :
    ofSnapshot? (text ++ extra) = none := by
  obtain ⟨config, hconfig⟩ := Option.isSome_iff_exists.mp h
  obtain ⟨d, hparse, hd⟩ := Option.bind_eq_some_iff.mp hconfig
  obtain ⟨ts, hts, htree⟩ := exists_tokens_of_parse? hparse
  have hends : (∃ n, ts.getLast? = some (.number n)) → Token.Breaks extra.toList := by
    rintro ⟨n, hn⟩
    exact absurd hn (getLast?_ne_number htree (by rw [hd]; rfl) n)
  rw [ofSnapshot?, parse?, ofChars?, String.toList_append, Token.all?_append hends hts]
  cases hus : Token.all? extra.toList with
  | none => rfl
  | some us =>
    cases us with
    | nil =>
      obtain ⟨c, hc, hblank⟩ := hextra
      rw [Token.isBlank_of_all?_eq_nil hus c hc] at hblank
      cases hblank
    | cons u us =>
      -- The document is complete: no token may follow.
      have hrun : (State.value []).run (ts ++ u :: us) = none := by
        rw [State.run_append, run_value htree]
        rfl
      show (ofTokens? (ts ++ u :: us)).bind decode = none
      rw [ofTokens?, hrun]
      rfl

end ServerConfig

/-! ## The control plane -/

namespace Machine

variable {m m' : Machine} {p : ControlPlane} {text text' : String}

/-- A machine with another text for the settings it was made from. -/
def recording (m : Machine) (text : String) : Machine :=
  { m with metadata := { m.metadata with
      annotations :=
        some ((m.metadata.annotations.getD .empty).put Labels.serverConfiguration text) } }

theorem annotation?_recording :
    (m.recording text).annotation? Labels.serverConfiguration = some text := by
  rw [annotation?, Metadata.annotation?, recording, Option.bind_some, Table.lookup_put]
  exact if_pos rfl

/-- What was recorded last counts. -/
theorem recording_recording : (m.recording text).recording text' = m.recording text' := by
  simp only [recording, Option.getD_some, Table.put_put]

theorem wasMadeFrom_of_annotation? (h : m.annotation? Labels.serverConfiguration = some text)
    (config : ServerConfig) :
    m.wasMadeFrom config = (ServerConfig.ofSnapshot? text == some config) := by
  rw [wasMadeFrom, h]

theorem isCurrent_recording (h : m.annotation? Labels.serverConfiguration = some text)
    (heq : ServerConfig.ofSnapshot? text' = ServerConfig.ofSnapshot? text) (p : ControlPlane) :
    p.isCurrent (m.recording text') = p.isCurrent m := by
  have hruns : (m.recording text').runs p.spec.version = m.runs p.spec.version := rfl
  rw [ControlPlane.isCurrent, ControlPlane.isCurrent, hruns,
    wasMadeFrom_of_annotation? annotation?_recording, wasMadeFrom_of_annotation? h, heq]

/-- The same machine, but for the spelling of the settings it records. -/
def Respelled (m m' : Machine) : Prop :=
  m' = m ∨ ∃ text text', m.annotation? Labels.serverConfiguration = some text ∧
    Relation.ReflTransGen ServerConfig.Respelled text text' ∧ m' = m.recording text'

theorem Respelled.identity (h : Respelled m m') : m'.identity = m.identity := by
  obtain rfl | ⟨_, _, -, -, rfl⟩ := h <;> rfl

theorem Respelled.manages (h : Respelled m m') (p : ControlPlane) : p.manages m' = p.manages m := by
  obtain rfl | ⟨_, _, -, -, rfl⟩ := h <;> rfl

theorem Respelled.isDeleting (h : Respelled m m') : m'.isDeleting = m.isDeleting := by
  obtain rfl | ⟨_, _, -, -, rfl⟩ := h <;> rfl

theorem Respelled.isCurrent (h : Respelled m m') (p : ControlPlane) :
    p.isCurrent m' = p.isCurrent m := by
  obtain rfl | ⟨_, _, htext, hsame, rfl⟩ := h
  · rfl
  · exact isCurrent_recording htext (ServerConfig.ofSnapshot?_eq_of_respelled hsame) p

end Machine

namespace Scope

variable {machines machines' : List Machine}

/-- Respelled machines make respelled members. -/
theorem members_respelled (h : List.Forall₂ Machine.Respelled machines machines')
    (p : ControlPlane) (cluster : Cluster) :
    List.Forall₂ Machine.Respelled (ofMachines p cluster machines).members.toList
      (ofMachines p cluster machines').members.toList := by
  have hmanages (m m' : Machine) (hm : m.Respelled m') :
      p.manages m = true ↔ p.manages m' = true := by rw [hm.manages]
  exact List.rel_filter hmanages (Keyed.forall₂_ofList (fun _ _ hm => hm.identity.symm) h)

/-- No member becomes outdated by a change of spelling, and none is as specified
again. -/
theorem outdated_respelled (h : List.Forall₂ Machine.Respelled machines machines')
    (p : ControlPlane) (cluster : Cluster) :
    List.Forall₂ Machine.Respelled (ofMachines p cluster machines).outdated.toList
      (ofMachines p cluster machines').outdated.toList := by
  have hout (m m' : Machine) (hm : m.Respelled m') :
      (!m.isDeleting && !p.isCurrent m) = true ↔ (!m'.isDeleting && !p.isCurrent m') = true := by
    rw [hm.isDeleting, hm.isCurrent]
  exact List.rel_filter hout (members_respelled h p cluster)

/-- The planned step does not depend on how machines spell their settings. -/
theorem plan_respelled (h : List.Forall₂ Machine.Respelled machines machines') (p : ControlPlane)
    (cluster : Cluster) :
    (ofMachines p cluster machines').plan = (ofMachines p cluster machines).plan := by
  have hsize : (ofMachines p cluster machines').members.size =
      (ofMachines p cluster machines).members.size :=
    (members_respelled h p cluster).length_eq.symm
  have hempty : (ofMachines p cluster machines').outdated.isEmpty =
      (ofMachines p cluster machines).outdated.isEmpty :=
    Keyed.isEmpty_eq_of_size_eq (outdated_respelled h p cluster).length_eq.symm
  have hdesired : (ofMachines p cluster machines').desired =
      (ofMachines p cluster machines).desired := rfl
  simp only [plan, hsize, hempty, hdesired]

theorem outdated_identities_respelled (h : List.Forall₂ Machine.Respelled machines machines')
    (p : ControlPlane) (cluster : Cluster) :
    (ofMachines p cluster machines').outdated.identities =
      (ofMachines p cluster machines).outdated.identities := by
  suffices hall : ∀ {l l' : List Machine}, List.Forall₂ Machine.Respelled l l' →
      l'.map Machine.identity = l.map Machine.identity from hall (outdated_respelled h p cluster)
  intro l l' hl
  induction hl with
  | nil => rfl
  | cons hm _ ih => rw [List.map_cons, List.map_cons, hm.identity, ih]

end Scope

/-- Blanks, the order of entries and entries of other names in recorded settings
change neither what they say, nor whether a machine is as specified, nor which
members are outdated, nor what is done about them.  Settings that give a field
twice or go on behind their end say nothing, and a machine that records them was
made from no settings. -/
theorem respelled_settings_change_nothing :
    (∀ text text', Relation.ReflTransGen ServerConfig.Respelled text text' →
      ServerConfig.ofSnapshot? text' = ServerConfig.ofSnapshot? text ∧
        ∀ m : Machine, m.annotation? Labels.serverConfiguration = some text →
          ∀ p : ControlPlane, p.isCurrent (m.recording text') = p.isCurrent m) ∧
    (∀ machines machines', List.Forall₂ Machine.Respelled machines machines' →
      ∀ (p : ControlPlane) (cluster : Cluster),
        let before := Scope.ofMachines p cluster machines
        let after := Scope.ofMachines p cluster machines'
        after.plan = before.plan ∧ after.outdated.identities = before.outdated.identities) ∧
    (∀ text, ServerConfig.RepeatsField text →
      ServerConfig.ofSnapshot? text = none ∧
        ∀ m : Machine, m.annotation? Labels.serverConfiguration = some text →
          ∀ config, m.wasMadeFrom config = false) ∧
    ∀ text extra, (ServerConfig.ofSnapshot? text).isSome = true →
      (∃ c ∈ extra.toList, Token.isBlank c = false) →
        ServerConfig.ofSnapshot? (text ++ extra) = none ∧
          ∀ m : Machine, m.annotation? Labels.serverConfiguration = some (text ++ extra) →
            ∀ config, m.wasMadeFrom config = false := by
  have hmade {text : String} (hnone : ServerConfig.ofSnapshot? text = none) (m : Machine)
      (hm : m.annotation? Labels.serverConfiguration = some text) (config : ServerConfig) :
      m.wasMadeFrom config = false := by
    rw [Machine.wasMadeFrom_of_annotation? hm, hnone]
    rfl
  refine ⟨fun text text' h => ?_, fun machines machines' h p cluster => ?_, fun text h => ?_,
    fun text extra h hextra => ?_⟩
  · have heq := ServerConfig.ofSnapshot?_eq_of_respelled h
    exact ⟨heq, fun m hm p => Machine.isCurrent_recording hm heq p⟩
  · exact ⟨Scope.plan_respelled h p cluster, Scope.outdated_identities_respelled h p cluster⟩
  · exact ⟨h.ofSnapshot?_eq_none, hmade h.ofSnapshot?_eq_none⟩
  · have hnone := ServerConfig.ofSnapshot?_append_eq_none h hextra
    exact ⟨hnone, hmade hnone⟩

/-! ## Settings with a note -/

namespace Sample

/-- The entry `"exposeMetrics": true`. -/
def metricsEntry : Document.EntryText :=
  ⟨"\"exposeMetrics\"", "true", some "exposeMetrics", .bool true, rfl, rfl⟩

/-- An entry that is no field, with text in it that denotes nothing. -/
def noteEntry : Document.EntryText :=
  ⟨"\"note\"", "[null,\"\\ud800\"]", some "note", .list [.null, .text none], by decide, by cbv⟩

/-- Settings of a server with entries in the group of its embedded store. -/
def recorded (entries : List Document.EntryText) : String :=
  "\x7b\"cni\":\"canal\",\"etcd\":" ++ Document.ObjectText.text ⟨"", entries, nofun⟩ ++ "\x7d"

/-- A machine that records a text. -/
def recorder (text : String) : Machine :=
  (machine (.ofSeconds epoch) (controlPlane "cp" 1) "cp-a" none (.ofSeconds epoch)).recording text

end Sample

/-- A note beside the settings of the embedded store changes nothing, wherever it
stands; the same setting twice, or a brace too many, is not read. -/
theorem note_changes_nothing :
    let plain := Sample.recorded [Sample.metricsEntry]
    let noted := Sample.recorded [Sample.metricsEntry, Sample.noteEntry]
    let twice := Sample.recorded [Sample.metricsEntry, Sample.metricsEntry]
    let scope (text : String) : Scope := .ofMachines (Sample.controlPlane "cp" 1)
      (Sample.cluster Sample.clusterName []) [Sample.recorder text]
    plain = "\x7b\"cni\":\"canal\",\"etcd\":\x7b\"exposeMetrics\":true\x7d\x7d" ∧
      (ServerConfig.ofSnapshot? plain).isSome = true ∧
      ServerConfig.ofSnapshot? noted = ServerConfig.ofSnapshot? plain ∧
      (scope noted).plan = (scope plain).plan ∧
      (Sample.recorder twice).wasMadeFrom .empty = false ∧
      (Sample.recorder (plain ++ "\x7d")).wasMadeFrom .empty = false := by
  intro plain noted twice scope
  have hplain : (ServerConfig.ofSnapshot? plain).isSome = true := by decide +kernel
  have hplace : Document.placeBehind? "\x7b\"cni\":\"canal\",\"etcd\":" =
      some SettingsGroup.etcd.place := by decide +kernel
  obtain ⟨ts, hts⟩ := ServerConfig.exists_tokens_of_placeBehind? hplace
  have hadded : ServerConfig.Respelled plain
      (Sample.recorded [Sample.noteEntry, Sample.metricsEntry]) :=
    .add _ "\x7d" .etcd hplace ⟨"", [Sample.metricsEntry], nofun⟩ (List.nil_append _).symm
      Sample.noteEntry rfl (by decide)
  have hmoved : ServerConfig.Respelled
      (Sample.recorded [Sample.noteEntry, Sample.metricsEntry]) noted :=
    .reorder _ "\x7d" hts ⟨"", [Sample.noteEntry, Sample.metricsEntry], nofun⟩ (by decide)
      (.swap _ _ _)
  have hnoted : Relation.ReflTransGen ServerConfig.Respelled plain noted :=
    .tail (.single hadded) hmoved
  have hrepeats : ServerConfig.RepeatsField twice :=
    .intro _ "\x7d" .etcd hplace ⟨"", [Sample.metricsEntry, Sample.metricsEntry], nofun⟩
      (show "exposeMetrics" ∈ _ by decide) (by decide)
  have hrespelled : (Sample.recorder plain).Respelled (Sample.recorder noted) :=
    .inr ⟨plain, noted, Machine.annotation?_recording, hnoted,
      Machine.recording_recording.symm⟩
  obtain ⟨hsame, hplan, hrefused, hended⟩ := respelled_settings_change_nothing
  refine ⟨by decide +kernel, hplain, (hsame _ _ hnoted).1,
    (hplan _ _ (.cons hrespelled .nil) _ _).1,
    (hrefused _ hrepeats).2 _ Machine.annotation?_recording _,
    (hended _ "\x7d" hplain ⟨'\x7d', by decide, rfl⟩).2 _ Machine.annotation?_recording _⟩

end Roster
