import SddsReceiver.Network.Address
import SddsReceiver.Settings.Document

/-!
# Endpoints

Where a stream arrives: an address of this host or a group, and a port. The stream may bring
a name of its own, and the virtual network is recorded for reports only.
-/
namespace SddsReceiver.Network

structure Endpoint where
  /-- Empty when the attachment is to be given a name. -/
  streamId : String
  address : Address
  port : UInt16
  vlan : UInt16
  deriving DecidableEq, Repr

/-- The address in a text node. -/
def readAddress? (d : Settings.Document) (node : Settings.Node) : Option Address :=
  (d.text? node).bind Address.parse?

/-- A 16-bit number in a node. -/
def readWord? (d : Settings.Document) (node : Settings.Node) : Option UInt16 :=
  (d.unsigned? 65535 node).map UInt16.ofNat

namespace Endpoint

def ofAddress (address : Address) (port : UInt16) : Endpoint := ⟨"", address, port, 0⟩

def isMulticast (e : Endpoint) : Bool := e.address.isMulticast

def socketText (e : Endpoint) : String := Network.socketText e.address e.port

/-- An endpoint from settings that name at least its address and port. -/
def ofDocument? (d : Settings.Document) : Option Endpoint := do
  let names := ["stream_id", "address", "port", "vlan"]
  let root ← d.root
  let fields ← d.fields? names false (some root)
  return {
    streamId := ← Settings.Document.field? fields "stream_id" "" d.text?
    address := ← Settings.Document.required? fields "address" (readAddress? d)
    port := ← Settings.Document.required? fields "port" (readWord? d)
    vlan := ← Settings.Document.field? fields "vlan" 0 (readWord? d) }

end Endpoint

end SddsReceiver.Network
