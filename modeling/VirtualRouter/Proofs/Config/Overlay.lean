import VirtualRouter.Config.File
import VirtualRouter.Proofs.Documents.Records

/-!
Documents over the default settings. Every setting has its place in a document, a field in the record of its group, and `Says`
states which values there say what of it. Reading a document is characterised first for one field, then for the record of a
group, then for the document: nothing may be said of a setting that is none of its values, and the settings are what is said of
them, with the defaults where nothing is said. For this it does not matter whether a record lacks the field or the document
the record, since a group that is not there is as good as one with an empty record.
-/

namespace VirtualRouter

open Document Value

/-! ### The settings and their places -/

/-- The groups of settings, each a record of its own in a document. -/
inductive SettingGroup where
  | node
  | flows
  | resolution
  | daemon

namespace SettingGroup

/-- The name of the record. -/
def name : SettingGroup → String
  | node => "controller"
  | flows => "flows"
  | resolution => "resolution"
  | daemon => "daemon"

/-- The names of its fields, in their order. -/
def keys : SettingGroup → List String
  | node => ["datapath_id", "local_address"]
  | flows => ["idle_expire_secs", "blackhole_idle_secs", "blackhole_hard_secs", "wildcard_flows"]
  | resolution => ["timeout_ms", "static_neighbors"]
  | daemon => ["event_queue_depth"]

/-- The names of all groups, in their order. -/
def names : List String := [node.name, flows.name, resolution.name, daemon.name]

end SettingGroup

/-- What the fields of a neighbour are. -/
def Neighbor.keys : List String := ["address", "mac"]

/-- The value says of a neighbour where it is. -/
structure Neighbor.SaidBy (v : Value) (n : Neighbor) : Prop where
  record : v.IsRecord keys
  address : v.field keys "address" = some (.text n.address.text)
  mac : ∃ s, v.field keys "mac" = some (.text s) ∧ Mac.Spells s n.mac

/-- The settings, by the type of their values. -/
inductive Setting : Type → Type
  | datapathId : Setting UInt64
  | localAddress : Setting Ipv4
  | idleExpire : Setting UInt16
  | blackholeIdle : Setting UInt16
  | blackholeHard : Setting UInt16
  | wildcards : Setting Bool
  | timeout : Setting UInt64
  | neighbors : Setting (List Neighbor)
  | queueDepth : Setting UInt64

namespace Setting

variable {α : Type}

/-- The group that a setting belongs to. -/
def group : Setting α → SettingGroup
  | datapathId | localAddress => .node
  | idleExpire | blackholeIdle | blackholeHard | wildcards => .flows
  | timeout | neighbors => .resolution
  | queueDepth => .daemon

/-- The name of the setting's field in the record of its group. -/
def key : Setting α → String
  | datapathId => "datapath_id"
  | localAddress => "local_address"
  | idleExpire => "idle_expire_secs"
  | blackholeIdle => "blackhole_idle_secs"
  | blackholeHard => "blackhole_hard_secs"
  | wildcards => "wildcard_flows"
  | timeout => "timeout_ms"
  | neighbors => "static_neighbors"
  | queueDepth => "event_queue_depth"

/-- What the setting is in a configuration. -/
def value (c : Config) : Setting α → α
  | datapathId => c.node.datapathId
  | localAddress => c.node.localAddress
  | idleExpire => c.flows.idleExpire
  | blackholeIdle => c.flows.blackholeIdle
  | blackholeHard => c.flows.blackholeHard
  | wildcards => c.flows.wildcards
  | timeout => c.resolution.timeout
  | neighbors => c.resolution.neighbors
  | queueDepth => c.daemon.queueDepth

/-- The value in a document is one of the setting's. -/
def Says : Setting α → Value → α → Prop
  | datapathId, v, n | timeout, v, n | queueDepth, v, n => v = .integer n.toNat
  | idleExpire, v, n | blackholeIdle, v, n | blackholeHard, v, n => v = .integer n.toNat
  | localAddress, v, a => v = .text a.text
  | wildcards, v, b => v = .bool b
  | neighbors, v, ns => ∃ items, v = .list items ∧ List.Forall₂ Neighbor.SaidBy items ns

/-- What a document says of the setting, if it has a record of its group and this says anything of it. -/
def stated (document : Value) (s : Setting α) : Option Value :=
  (document.field SettingGroup.names s.group.name).bind fun v => v.field s.group.keys s.key

end Setting

/-! ### One group -/

/-- What is said of a group makes up these settings of the group: a record, if anything is said, in which each setting is what
    it is said to be, and all others have their defaults. -/
structure SettingGroup.MakesUp (g : SettingGroup) (said : Option Value) (c : Config) : Prop where
  record : ∀ v, said = some v → v.IsRecord g.keys
  settings : ∀ {α : Type} (s : Setting α), s.group = g →
    Overlaid s.Says (s.value {}) (said.bind fun v => v.field g.keys s.key) (s.value c)

section Groups

variable {v : Value} {said : Option Value} {n : Neighbor} {c : Config}

theorem Neighbor.ofValue?_eq_some_iff : ofValue? .ignored v = some n ↔ n.SaidBy v := by
  simp only [ofValue?, Option.bind_eq_bind, Option.bind_eq_some_iff, Option.pure_def, Option.some.injEq,
    fields?_eq_some_iff, needed?_eq_some_iff Ipv4.ofValue?_eq_some_iff, needed?_eq_some_iff Mac.ofValue?_eq_some_iff]
  constructor
  · rintro ⟨field, ⟨record, rfl⟩, a, ⟨w, address, rfl⟩, m, ⟨w', mac, s, rfl, spells⟩, rfl⟩
    exact ⟨record, address, s, mac, spells⟩
  · rintro ⟨record, address, s, mac, spells⟩
    exact ⟨_, ⟨record, rfl⟩, _, ⟨_, address, rfl⟩, _, ⟨_, mac, s, rfl, spells⟩, rfl⟩

/-- How the setting is read. -/
def Setting.read? {α : Type} : Setting α → Value → Option α
  | datapathId | timeout | queueDepth => long?
  | idleExpire | blackholeIdle | blackholeHard => word?
  | localAddress => Ipv4.ofValue?
  | wildcards => bool?
  | neighbors => listOf? (Neighbor.ofValue? .ignored)

theorem Setting.setting?_iff {α : Type} (s : Setting α) {said : Option Value} {a : α} :
    setting? s.read? (s.value {}) said = some a ↔ Overlaid s.Says (s.value {}) said a := by
  refine setting?_eq_some_iff fun {v a} => ?_
  cases s with
  | datapathId | timeout | queueDepth => exact long?_eq_some_iff
  | idleExpire | blackholeIdle | blackholeHard => exact word?_eq_some_iff
  | localAddress => exact Ipv4.ofValue?_eq_some_iff
  | wildcards => exact bool?_eq_some_iff
  | neighbors => exact listOf?_eq_some_iff Neighbor.ofValue?_eq_some_iff

/-- A group that nothing is said of is as good as one with an empty record. -/
theorem SettingGroup.makesUp_none {g : SettingGroup} : g.MakesUp none c ↔ g.MakesUp (some (.table [])) c := by
  constructor
  · rintro ⟨-, settings⟩
    refine ⟨?_, settings⟩
    rintro _ ⟨⟩
    exact nofun
  · rintro ⟨-, settings⟩
    exact ⟨nofun, settings⟩

theorem NodeSettings.ofValue?_iff : ofValue? .ignored v = some c.node ↔ SettingGroup.node.MakesUp (some v) c := by
  simp only [ofValue?, Option.bind_eq_bind, Option.bind_eq_some_iff, Option.pure_def, Option.some.injEq,
    fields?_eq_some_iff]
  constructor
  · obtain ⟨node, flows, resolution, daemon⟩ := c
    rintro ⟨field, ⟨record, rfl⟩, id, id_said, address, address_said, rfl⟩
    refine ⟨fun w same => Option.some.inj same ▸ record, fun s own => ?_⟩
    cases s with
    | datapathId => exact Setting.datapathId.setting?_iff.1 id_said
    | localAddress => exact Setting.localAddress.setting?_iff.1 address_said
    | _ => cases own
  · rintro ⟨record, settings⟩
    exact ⟨_, ⟨record v rfl, rfl⟩, _, Setting.datapathId.setting?_iff.2 (settings .datapathId rfl), _,
      Setting.localAddress.setting?_iff.2 (settings .localAddress rfl), rfl⟩

theorem FlowSettings.ofValue?_iff : ofValue? .ignored v = some c.flows ↔ SettingGroup.flows.MakesUp (some v) c := by
  simp only [ofValue?, Option.bind_eq_bind, Option.bind_eq_some_iff, Option.pure_def, Option.some.injEq,
    fields?_eq_some_iff]
  constructor
  · obtain ⟨node, flows, resolution, daemon⟩ := c
    rintro ⟨field, ⟨record, rfl⟩, expire, expire_said, idle, idle_said, hard, hard_said, wildcards, wildcards_said, rfl⟩
    refine ⟨fun w same => Option.some.inj same ▸ record, fun s own => ?_⟩
    cases s with
    | idleExpire => exact Setting.idleExpire.setting?_iff.1 expire_said
    | blackholeIdle => exact Setting.blackholeIdle.setting?_iff.1 idle_said
    | blackholeHard => exact Setting.blackholeHard.setting?_iff.1 hard_said
    | wildcards => exact Setting.wildcards.setting?_iff.1 wildcards_said
    | _ => cases own
  · rintro ⟨record, settings⟩
    exact ⟨_, ⟨record v rfl, rfl⟩, _, Setting.idleExpire.setting?_iff.2 (settings .idleExpire rfl), _,
      Setting.blackholeIdle.setting?_iff.2 (settings .blackholeIdle rfl), _,
      Setting.blackholeHard.setting?_iff.2 (settings .blackholeHard rfl), _,
      Setting.wildcards.setting?_iff.2 (settings .wildcards rfl), rfl⟩

theorem ResolutionSettings.ofValue?_iff :
    ofValue? .ignored v = some c.resolution ↔ SettingGroup.resolution.MakesUp (some v) c := by
  simp only [ofValue?, Option.bind_eq_bind, Option.bind_eq_some_iff, Option.pure_def, Option.some.injEq,
    fields?_eq_some_iff]
  constructor
  · obtain ⟨node, flows, resolution, daemon⟩ := c
    rintro ⟨field, ⟨record, rfl⟩, timeout, timeout_said, neighbors, neighbors_said, rfl⟩
    refine ⟨fun w same => Option.some.inj same ▸ record, fun s own => ?_⟩
    cases s with
    | timeout => exact Setting.timeout.setting?_iff.1 timeout_said
    | neighbors => exact Setting.neighbors.setting?_iff.1 neighbors_said
    | _ => cases own
  · rintro ⟨record, settings⟩
    exact ⟨_, ⟨record v rfl, rfl⟩, _, Setting.timeout.setting?_iff.2 (settings .timeout rfl), _,
      Setting.neighbors.setting?_iff.2 (settings .neighbors rfl), rfl⟩

theorem DaemonSettings.ofValue?_iff : ofValue? .ignored v = some c.daemon ↔ SettingGroup.daemon.MakesUp (some v) c := by
  simp only [ofValue?, Option.bind_eq_bind, Option.bind_eq_some_iff, Option.pure_def, Option.some.injEq,
    fields?_eq_some_iff]
  constructor
  · obtain ⟨node, flows, resolution, daemon⟩ := c
    rintro ⟨field, ⟨record, rfl⟩, depth, depth_said, rfl⟩
    refine ⟨fun w same => Option.some.inj same ▸ record, fun s own => ?_⟩
    cases s with
    | queueDepth => exact Setting.queueDepth.setting?_iff.1 depth_said
    | _ => cases own
  · rintro ⟨record, settings⟩
    exact ⟨_, ⟨record v rfl, rfl⟩, _, Setting.queueDepth.setting?_iff.2 (settings .queueDepth rfl), rfl⟩

/-- A group whose reader makes of an empty record what it is by default, which is to say that the defaults of its keys are those
    of the group. -/
theorem SettingGroup.setting?_iff {β : Type} {g : SettingGroup} {read? : Value → Option β} {default part : β}
    (empty : read? (.table []) = some default) (reads : ∀ {v}, read? v = some part ↔ g.MakesUp (some v) c) :
    setting? read? default said = some part ↔ g.MakesUp said c := by
  cases said with
  | none => rw [makesUp_none, ← reads, empty, setting?]
  | some v => exact reads

theorem NodeSettings.setting?_iff :
    setting? (ofValue? .ignored) {} said = some c.node ↔ SettingGroup.node.MakesUp said c :=
  SettingGroup.setting?_iff rfl ofValue?_iff

theorem FlowSettings.setting?_iff :
    setting? (ofValue? .ignored) {} said = some c.flows ↔ SettingGroup.flows.MakesUp said c :=
  SettingGroup.setting?_iff rfl ofValue?_iff

theorem ResolutionSettings.setting?_iff :
    setting? (ofValue? .ignored) {} said = some c.resolution ↔ SettingGroup.resolution.MakesUp said c :=
  SettingGroup.setting?_iff rfl ofValue?_iff

theorem DaemonSettings.setting?_iff :
    setting? (ofValue? .ignored) {} said = some c.daemon ↔ SettingGroup.daemon.MakesUp said c :=
  SettingGroup.setting?_iff rfl ofValue?_iff

end Groups

/-- What a neighbour is written as says where it is. -/
theorem Neighbor.saidBy_toValue (n : Neighbor) : n.SaidBy n.toValue where
  record := isRecord_of_known (List.Subset.refl _)
  address := rfl
  mac := ⟨n.mac.text, rfl, Mac.spells_text n.mac⟩

namespace Config

/-! ### All groups -/

variable {document : Value} {c : Config}

/-- The document is a record of groups, and whatever it has under the name of a group is a record of settings. -/
structure IsForm (document : Value) : Prop where
  record : document.IsRecord SettingGroup.names
  groups : ∀ (g : SettingGroup) v, document.field SettingGroup.names g.name = some v → v.IsRecord g.keys

theorem ofValue?_iff_makesUp : ofValue? .ignored document = some c ↔
    document.IsRecord SettingGroup.names ∧
      ∀ g : SettingGroup, g.MakesUp (document.field SettingGroup.names g.name) c := by
  simp only [ofValue?, Option.bind_eq_bind, Option.bind_eq_some_iff, Option.pure_def, Option.some.injEq,
    fields?_eq_some_iff]
  constructor
  · rintro ⟨field, ⟨record, rfl⟩, node, node_said, flows, flows_said, resolution, resolution_said, daemon, daemon_said,
      rfl⟩
    refine ⟨record, fun g => ?_⟩
    cases g with
    | node => exact NodeSettings.setting?_iff.1 node_said
    | flows => exact FlowSettings.setting?_iff.1 flows_said
    | resolution => exact ResolutionSettings.setting?_iff.1 resolution_said
    | daemon => exact DaemonSettings.setting?_iff.1 daemon_said
  · rintro ⟨record, groups⟩
    exact ⟨_, ⟨record, rfl⟩, _, NodeSettings.setting?_iff.2 (groups .node), _,
      FlowSettings.setting?_iff.2 (groups .flows), _, ResolutionSettings.setting?_iff.2 (groups .resolution), _,
      DaemonSettings.setting?_iff.2 (groups .daemon), rfl⟩

/-- The settings in a document: each is what the document says of it, and has its default if nothing is said. -/
theorem ofValue?_iff : ofValue? .ignored document = some c ↔
    IsForm document ∧ ∀ {α : Type} (s : Setting α), Overlaid s.Says (s.value {}) (s.stated document) (s.value c) := by
  rw [ofValue?_iff_makesUp]
  constructor
  · rintro ⟨record, groups⟩
    exact ⟨⟨record, fun g => (groups g).record⟩, fun s => (groups s.group).settings s rfl⟩
  · rintro ⟨⟨record, groups⟩, settings⟩
    refine ⟨record, fun g => ⟨groups g, fun s own => ?_⟩⟩
    subst own
    exact settings s

/-- There are settings with any values. -/
theorem exists_of_values (value : {α : Type} → Setting α → α) :
    ∃ c : Config, ∀ {α : Type} (s : Setting α), s.value c = value s := by
  refine ⟨{ node := ⟨value .datapathId, value .localAddress⟩
            flows := ⟨value .idleExpire, value .blackholeIdle, value .blackholeHard, value .wildcards⟩
            resolution := ⟨value .timeout, value .neighbors⟩
            daemon := ⟨value .queueDepth⟩ }, fun s => ?_⟩
  cases s <;> rfl

/-- A document can be read if everything it says of a setting is one of its values. -/
theorem exists_ofValue?_iff : (∃ c, ofValue? .ignored document = some c) ↔
    IsForm document ∧ ∀ {α : Type} (s : Setting α) v, s.stated document = some v → ∃ a, s.Says v a := by
  constructor
  · rintro ⟨c, read⟩
    obtain ⟨form, settings⟩ := ofValue?_iff.1 read
    refine ⟨form, fun s v stated => ⟨s.value c, ?_⟩⟩
    have overlaid := settings s
    rw [stated] at overlaid
    exact overlaid
  · rintro ⟨form, sayable⟩
    have each {α : Type} (s : Setting α) : ∃ a, Overlaid s.Says (s.value {}) (s.stated document) a := by
      have possible := sayable s
      cases stated : s.stated document with
      | none => exact ⟨_, rfl⟩
      | some v => exact possible v stated
    choose value overlaid using @each
    obtain ⟨c, chosen⟩ := exists_of_values value
    refine ⟨c, ofValue?_iff.2 ⟨form, fun s => ?_⟩⟩
    rw [chosen]
    exact overlaid s

/-- A neighbour of whom one field is missing refuses the whole document. -/
theorem ofValue?_eq_none_of_lacking {entries : List Value} {entry : Value} {key : String}
    (stated : Setting.neighbors.stated document = some (.list entries)) (mem : entry ∈ entries)
    (known : key ∈ Neighbor.keys) (lacking : entry.field Neighbor.keys key = none) :
    ofValue? .ignored document = none := by
  by_contra accepted
  obtain ⟨-, sayable⟩ := exists_ofValue?_iff.1 (Option.ne_none_iff_exists'.1 accepted)
  obtain ⟨neighbors, _, ⟨⟩, each⟩ := sayable _ _ stated
  obtain ⟨i, rfl⟩ := List.mem_iff_get.1 mem
  have said := each.get i.isLt (each.length_eq ▸ i.isLt)
  rcases List.mem_pair.1 known with rfl | rfl
  · exact Option.some_ne_none _ (said.address.symm.trans lacking)
  · obtain ⟨s, mac, -⟩ := said.mac
    exact Option.some_ne_none _ (mac.symm.trans lacking)

/-! ### Written settings -/

/-- The settings are read back from the document that they are written as. -/
theorem ofValue?_toValue (c : Config) : ofValue? .ignored c.toValue = some c := by
  refine ofValue?_iff.2 ⟨⟨isRecord_of_known (List.Subset.refl _), fun g v said => ?_⟩, fun s => ?_⟩
  · cases g <;> cases said <;> exact isRecord_of_known (List.Subset.refl _)
  · cases s with
    | neighbors =>
      refine ⟨_, rfl, List.forall₂_map_left_iff.2 (List.forall₂_same.2 fun n _ => n.saidBy_toValue)⟩
    | _ => rfl

/-! ### Files -/

/-- A file with a text holds the settings of the document that this is read as. -/
theorem load_text {text : String} (read : Document.read? text = some document) : load (.contents text.toUTF8) =
    ((ofValue? .ignored document).elim (.error (.config "the file holds no settings")) .ok) := by
  have decoded : String.fromUTF8? text.toUTF8 = some text := by
    rw [String.fromUTF8?, String.toUTF8_eq_toByteArray, dif_pos text.isValidUTF8]
    rfl
  simp only [load, decoded, ofText?, read, Option.bind_some]
  cases ofValue? .ignored document <;> rfl

/-- Documents overlay the default settings. Those that can be read are the records of records in which everything said of a
    setting is one of its values, and no others. What is read from them has every setting as the document says, and with its
    default if the document has no record of the group or the record says nothing of the setting. So a document is refused if
    a neighbour lacks one of its fields. A file with a text that is read as the document holds the same settings, or is refused
    with it, and the document that settings are written as is read as these settings. -/
theorem overlays_defaults (document : Value) :
    (∀ c, ofValue? .ignored document = some c ↔ IsForm document ∧
      ∀ {α : Type} (s : Setting α), Overlaid s.Says (s.value {}) (s.stated document) (s.value c)) ∧
    ((∃ c, ofValue? .ignored document = some c) ↔ IsForm document ∧
      ∀ {α : Type} (s : Setting α) v, s.stated document = some v → ∃ a, s.Says v a) ∧
    (∀ entries, Setting.neighbors.stated document = some (.list entries) → ∀ entry ∈ entries, ∀ key ∈ Neighbor.keys,
      entry.field Neighbor.keys key = none → ofValue? .ignored document = none) ∧
    (∀ text, Document.read? text = some document → load (.contents text.toUTF8) =
      (ofValue? .ignored document).elim (.error (.config "the file holds no settings")) .ok) ∧
    ∀ c : Config, ofValue? .ignored c.toValue = some c :=
  ⟨fun _ => ofValue?_iff, exists_ofValue?_iff, fun _ stated _ mem _ known => ofValue?_eq_none_of_lacking stated mem known,
    fun _ => load_text, ofValue?_toValue⟩

/-- A document with one setting and things that are none, and one with a neighbour of unknown Ethernet address. -/
theorem overlays_defaults_partial :
    ofValue? .ignored (.table [("flows", .table [("idle_expire_secs", .integer 30), ("colour", .text "red")]),
      ("daemon", .table []), ("router", .fraction)]) = some { flows := { idleExpire := 30 } } ∧
    ofValue? .ignored (.table [("resolution", .table [("static_neighbors", .list [
      .table [("address", .text "10.0.0.1")]])])]) = none := by
  refine ⟨((overlays_defaults _).1 _).2 ⟨⟨isRecord_table_iff.2 rfl, fun g v said => ?_⟩, fun s => ?_⟩,
    (overlays_defaults _).2.2.1 _ rfl _ (.head _) "mac" (by decide) rfl⟩
  · cases g <;> cases said <;> exact isRecord_table_iff.2 rfl
  · cases s <;> rfl

/-- Tables are not needed: the settings of a group and the fields of a neighbour can stand in a list, and a moment does for a
    group of which nothing is said. But what stands under an unknown name does matter: it may hold no unusable number. -/
theorem lists_accepted_unusable_refused :
    ofText? "flows = 1979-05-27\ndaemon = [7]\nresolution.static_neighbors = [[\"1.1.1.1\", \"02:00:00:00:00:01\"]]\n" =
      some { resolution := { neighbors := [⟨⟨1, 1, 1, 1⟩, ⟨2, 0, 0, 0, 0, 1⟩⟩] }, daemon := { queueDepth := 7 } } ∧
    (¬∀ (document : Value) (g : SettingGroup) v, document.field SettingGroup.names g.name = some v →
      (∀ fields, v ≠ .table fields) → ofValue? .ignored document = none) ∧
    (¬∀ (document : Value) entries, Setting.neighbors.stated document = some (.list entries) →
      (∃ entry ∈ entries, ∀ fields, entry ≠ .table fields) → ofValue? .ignored document = none) ∧
    ofText? "x = 1e999\n" = none := by
  refine ⟨by decide +kernel, fun tables => ?_, fun tables => ?_, by decide +kernel⟩
  · have refused := tables (.table [("flows", .moment)]) .flows .moment rfl nofun
    exact absurd refused (by decide +kernel)
  · have refused := tables (.table [("resolution", .table [("static_neighbors", .list [
      .list [.text "1.1.1.1", .text "02:00:00:00:00:01"]])])]) _ rfl ⟨_, .head _, nofun⟩
    exact absurd refused (by decide +kernel)

end Config

end VirtualRouter
