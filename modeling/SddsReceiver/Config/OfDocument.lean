import SddsReceiver.Config.Basic

/-!
# Configurations in documents

A document names the settings that it changes. It may not name a setting that does not exist,
nor one of them twice, and each value must be of the kind of its setting.
-/
namespace SddsReceiver

/-- The greatest size that a setting can have: the greatest number of 64 bits. -/
def Config.maxSize : Nat := Settings.Plain.maxUnsigned

/-- The byte order in a text node. -/
def ByteOrder.ofNode? (d : Settings.Document) (node : Settings.Node) : Option ByteOrder :=
  (d.text? node).bind fun text => (ByteOrder.parse text).toOption

open Settings (Document Node)

/-- The override in a node. -/
def AttachmentOverride.ofNode? (d : Document) (node : Node) : Option AttachmentOverride := do
  let initial : AttachmentOverride := {}
  let fields ← d.fields? ["enabled", "ip_address", "vlan", "port", "endianness"] true (some node)
  return {
    enabled := ← Document.field? fields "enabled" initial.enabled d.bool?
    address := ← Document.field? fields "ip_address" initial.address (Network.readAddress? d)
    vlan := ← Document.field? fields "vlan" initial.vlan (Network.readWord? d)
    port := ← Document.field? fields "port" initial.port (Network.readWord? d)
    order := ← Document.field? fields "endianness" initial.order (ByteOrder.ofNode? d) }

namespace Config

/-- The settings in the order in which a list gives them. -/
def settings : List Setting :=
  [.poolSlots, .readBatch, .pushFrames, .pushOnEdge, .withholdInvalid, .socketBuffer,
    .interface, .order, .override]

/-- The configuration of a document, whether it is valid or not. -/
def ofDocument? (d : Document) : Option Config := do
  let initial : Config := {}
  let fields ← d.fields? (settings.map Setting.name) true d.root
  let size := fun (setting : Setting) (default : Nat) =>
    Document.field? fields setting.name default (d.unsigned? maxSize)
  return {
    poolSlots := ← size .poolSlots initial.poolSlots
    readBatch := ← size .readBatch initial.readBatch
    pushFrames := ← size .pushFrames initial.pushFrames
    pushOnEdge := ← Document.field? fields Setting.pushOnEdge.name initial.pushOnEdge d.bool?
    withholdInvalid := ←
      Document.field? fields Setting.withholdInvalid.name initial.withholdInvalid d.bool?
    socketBuffer := ← size .socketBuffer initial.socketBuffer
    interface := ← Document.field? fields Setting.interface.name initial.interface d.text?
    order := ← Document.field? fields Setting.order.name initial.order (ByteOrder.ofNode? d)
    override := ←
      Document.field? fields Setting.override.name initial.override
        (AttachmentOverride.ofNode? d) }

end Config

end SddsReceiver
