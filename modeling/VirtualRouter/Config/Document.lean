import VirtualRouter.Config.Settings
import VirtualRouter.Document.Names

/-!
Settings as a document. Every table and every key has a default, so that a document overlays the default settings;
only a static neighbour needs both its fields. The defaults of keys that a table lacks stand here, those of tables that
are not there stand with the settings. Unknown keys mean nothing. One value of the wrong kind or out of range refuses
the whole document.
-/

namespace VirtualRouter

open Document

/-! ### Reading -/

/-- What the controller is and where it runs. -/
def NodeSettings.ofValue? (surplus : Surplus) (v : Value) : Option NodeSettings := do
  let field ← v.fields? surplus ["datapath_id", "local_address"]
  return {
    datapathId := ← Value.setting? Value.long? 0 (field "datapath_id")
    localAddress := ← Value.setting? Ipv4.ofValue? .localhost (field "local_address") }

/-- How long installed rules live and how wide they are. -/
def FlowSettings.ofValue? (surplus : Surplus) (v : Value) : Option FlowSettings := do
  let field ← v.fields? surplus ["idle_expire_secs", "blackhole_idle_secs", "blackhole_hard_secs", "wildcard_flows"]
  return {
    idleExpire := ← Value.setting? Value.word? 60 (field "idle_expire_secs")
    blackholeIdle := ← Value.setting? Value.word? 0 (field "blackhole_idle_secs")
    blackholeHard := ← Value.setting? Value.word? 5 (field "blackhole_hard_secs")
    wildcards := ← Value.setting? Value.bool? false (field "wildcard_flows") }

/-- A static neighbour. -/
def Neighbor.ofValue? (surplus : Surplus) (v : Value) : Option Neighbor := do
  let field ← v.fields? surplus ["address", "mac"]
  return {
    address := ← Value.needed? Ipv4.ofValue? (field "address")
    mac := ← Value.needed? Mac.ofValue? (field "mac") }

/-- How addresses of next hops are found. -/
def ResolutionSettings.ofValue? (surplus : Surplus) (v : Value) : Option ResolutionSettings := do
  let field ← v.fields? surplus ["timeout_ms", "static_neighbors"]
  return {
    timeout := ← Value.setting? Value.long? 3000 (field "timeout_ms")
    neighbors := ← Value.setting? (Value.listOf? (Neighbor.ofValue? surplus)) [] (field "static_neighbors") }

/-- How events wait. -/
def DaemonSettings.ofValue? (surplus : Surplus) (v : Value) : Option DaemonSettings := do
  let field ← v.fields? surplus ["event_queue_depth"]
  return { queueDepth := ← Value.setting? Value.long? 1024 (field "event_queue_depth") }

/-- All settings. -/
def Config.ofValue? (surplus : Surplus) (v : Value) : Option Config := do
  let field ← v.fields? surplus ["controller", "flows", "resolution", "daemon"]
  return {
    node := ← Value.setting? (NodeSettings.ofValue? surplus) {} (field "controller")
    flows := ← Value.setting? (FlowSettings.ofValue? surplus) {} (field "flows")
    resolution := ← Value.setting? (ResolutionSettings.ofValue? surplus) {} (field "resolution")
    daemon := ← Value.setting? (DaemonSettings.ofValue? surplus) {} (field "daemon") }

/-! ### Writing -/

/-- A static neighbour as a table. -/
def Neighbor.toValue (n : Neighbor) : Value :=
  .table [("address", .text n.address.text), ("mac", .text n.mac.text)]

/-- The settings as a table of tables. -/
def Config.toValue (c : Config) : Value :=
  .table [
    ("controller", .table [
      ("datapath_id", .integer c.node.datapathId.toNat),
      ("local_address", .text c.node.localAddress.text)]),
    ("flows", .table [
      ("idle_expire_secs", .integer c.flows.idleExpire.toNat),
      ("blackhole_idle_secs", .integer c.flows.blackholeIdle.toNat),
      ("blackhole_hard_secs", .integer c.flows.blackholeHard.toNat),
      ("wildcard_flows", .bool c.flows.wildcards)]),
    ("resolution", .table [
      ("timeout_ms", .integer c.resolution.timeout.toNat),
      ("static_neighbors", .list (c.resolution.neighbors.map Neighbor.toValue))]),
    ("daemon", .table [("event_queue_depth", .integer c.daemon.queueDepth.toNat)])]

end VirtualRouter
