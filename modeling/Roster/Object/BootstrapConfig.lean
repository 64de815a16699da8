/-
Roster.Object.BootstrapConfig — the settings one machine's node starts
from.
-/
import Roster.Object.Configuration
import Roster.Object.Reference

namespace Roster

/-- The settings of one node.  There is no status. -/
structure BootstrapConfig where
  metadata : Metadata
  agentConfig : AgentConfig

namespace BootstrapConfig

/-- Read the specification of a node's settings. -/
def decodeSpec : Decoder AgentConfig := fun d => do
  let field ← d.record? ["agentConfig"]
  Decode.defaulted .empty AgentConfig.decode (field "agentConfig")

/-- Write the specification of a node's settings. -/
def encodeSpec (c : AgentConfig) : Json := .object (always "agentConfig" c.encode)

/-- Read the settings of a node.  Spelled as a list, no part may be left
out. -/
def decode : Decoder BootstrapConfig := fun d => do
  let field ← d.fullRecord? ["metadata", "spec"]
  let metadata ← Decode.required Metadata.decode (field "metadata")
  let agentConfig ← Decode.required decodeSpec (field "spec")
  return ⟨metadata, agentConfig⟩

/-- Write the settings of a node. -/
def encode (c : BootstrapConfig) : Json :=
  .object (always "apiVersion" (.text Kind.bootstrapConfig.apiVersion) ++
    always "kind" (.text Kind.bootstrapConfig.name) ++ always "metadata" c.metadata.encode ++
    always "spec" (encodeSpec c.agentConfig))

/-- The name of the object, or the stem of the name it will get. -/
def displayName (c : BootstrapConfig) : String := c.metadata.displayName

/-- The namespace of the object, empty when it has none. -/
def ns (c : BootstrapConfig) : String := c.metadata.namespaceText

/-- A reference to the object. -/
def reference (c : BootstrapConfig) : Reference :=
  ⟨Kind.bootstrapConfig.apiVersion, Kind.bootstrapConfig.name, c.metadata.ns, c.displayName,
    c.metadata.uid⟩

end BootstrapConfig

end Roster
