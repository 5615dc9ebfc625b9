import SddsReceiver.Header.Decode
import SddsReceiver.Text.Quoted

/-!
# What can go wrong

The failures that a caller of the receiver meets, with the text that describes each of them,
whether trying again may help, and what to look at. A failure caused by the host keeps the
host's own text as its source.
-/
namespace SddsReceiver

inductive ReceiverError where
  | malformedPacket (details : String) (length : Nat)
  | unsupportedWidth (bits : UInt8)
  | alreadyAttached (id : String)
  | unknownAttachment (requested : String) (current : Option String)
  | notAttached
  | bind (endpoint : String) (source : String)
  | socket (context : String) (source : String)
  | config (field : String) (reason : String)
  | outputClosed
  deriving DecidableEq, Repr

namespace ReceiverError

/-- A datagram that is no frame. -/
def ofMalformation (m : Malformation) (length : Nat) : ReceiverError :=
  malformedPacket m.describe length

/-- A failure of the host that no other kind describes. -/
def ofHost (source : String) : ReceiverError :=
  socket "I/O" source

def message : ReceiverError → String
  | malformedPacket details _ => s!"Malformed SDDS packet: {details}"
  | unsupportedWidth bits => s!"Unsupported sample format: {bits} bits per sample"
  | alreadyAttached id => s!"Stream '{id}' is already attached; detach it first"
  | unknownAttachment requested current =>
      let attached := Text.Quoted.encodeOption current
      s!"Unknown attachment '{requested}' (current: {attached})"
  | notAttached => "No stream is attached"
  | bind endpoint _ => s!"Failed to bind {endpoint}"
  | socket context _ => s!"Socket operation failed: {context}"
  | config field reason => s!"Invalid configuration for '{field}': {reason}"
  | outputClosed => "Output consumer closed"

/-- The host may answer differently the next time. -/
def retryable : ReceiverError → Bool
  | bind _ _ | socket _ _ => true
  | _ => false

/-- The host's text, where the host is the cause. -/
def source : ReceiverError → Option String
  | bind _ source | socket _ source => some source
  | _ => none

def suggestions : ReceiverError → List String
  | malformedPacket _ _ =>
      ["Verify the sender produces 1080-byte SDDS datagrams",
        "Check that nothing else transmits to the same port"]
  | unsupportedWidth _ => ["Configure the sender for 8, 16 or 32 bits per sample"]
  | alreadyAttached _ =>
      ["Detach the current stream before attaching another",
        "Use a second session for a second stream"]
  | unknownAttachment _ _ =>
      ["Pass the id returned by attach", "Check whether the stream was already detached"]
  | notAttached => ["Attach a stream first"]
  | bind _ _ =>
      ["Check that the address belongs to a local interface",
        "Check that no other process holds the port",
        "Verify the multicast interface name or address"]
  | socket _ _ =>
      ["Check socket permissions and system limits (net.core.rmem_max)", "Retry the operation"]
  | config _ _ =>
      ["Check the value against the documented range",
        "Stop the session before changing pipeline settings"]
  | outputClosed => ["Keep the output receiver alive while the session runs"]

end ReceiverError

end SddsReceiver
