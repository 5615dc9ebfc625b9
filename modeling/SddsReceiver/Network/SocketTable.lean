import SddsReceiver.Text.Pieces
import SddsReceiver.Text.Numeral

/-!
# The host's table of datagram sockets

The host lists its sockets one a line under a header line. The second field of an entry is
the local address and port, the fifth holds the lengths of the send and receive queues, all
of them hexadecimal. Blank and short lines are passed over. The receive queues of a port are
added up, and the queue column is looked at only for entries of that port.
-/
namespace SddsReceiver.Network

/-- Why a table cannot be read. -/
inductive SocketTableFault where
  | noPort
  | portNotHex (fault : Text.NumeralFault)
  | noReceivePart
  | queueNotHex (fault : Text.NumeralFault)
  deriving DecidableEq, Repr

namespace SocketTableFault

def message : SocketTableFault → String
  | noPort => "local address without port"
  | portNotHex fault => s!"local port is not hex: {fault.message}"
  | noReceivePart => "queue column without rx part"
  | queueNotHex fault => s!"rx_queue is not hex: {fault.message}"

end SocketTableFault

/-- The number after the last colon of a local address. -/
def localPort (field : List Char) : Except SocketTableFault Nat :=
  match Text.afterLast? ':' field with
  | none => .error .noPort
  | some text =>
      match Text.Numeral.read 16 0xffff text with
      | .error fault => .error (.portNotHex fault)
      | .ok port => .ok port

/-- The number after the first colon of a queue column. -/
def receiveQueue (field : List Char) : Except SocketTableFault Nat :=
  match Text.afterFirst? ':' field with
  | none => .error .noReceivePart
  | some text =>
      match Text.Numeral.read 16 0xffffffffffffffff text with
      | .error fault => .error (.queueNotHex fault)
      | .ok length => .ok length

/-- What one line adds to the receive queue of a port. -/
def lineDepth (port : UInt16) (line : List Char) : Except SocketTableFault Nat :=
  match Text.words line with
  | _ :: localField :: _ :: _ :: queueField :: _ =>
      match localPort localField with
      | .error fault => .error fault
      | .ok found => if found = port.toNat then receiveQueue queueField else .ok 0
  | _ => .ok 0

/-- What the lines add up to in a 64-bit word; the first faulty line decides. -/
def linesDepth (port : UInt16) : List (List Char) → Except SocketTableFault Nat
  | [] => .ok 0
  | line :: lines =>
      match lineDepth port line with
      | .error fault => .error fault
      | .ok depth =>
          match linesDepth port lines with
          | .error fault => .error fault
          | .ok rest => .ok ((depth + rest) % UInt64.size)

/-- Bytes waiting for a port, by the table under its header line. -/
def receiveDepth (table : String) (port : UInt16) : Except SocketTableFault Nat :=
  linesDepth port ((Text.pieces '\n' table.toList).drop 1)

end SddsReceiver.Network
