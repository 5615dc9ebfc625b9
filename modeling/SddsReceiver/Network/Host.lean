import SddsReceiver.Error
import SddsReceiver.HostReason
import SddsReceiver.Network.Endpoint
import SddsReceiver.Network.SocketTable

/-!
# The host as a receiver meets it

A receiver asks its host for a socket in several steps, and each of them may fail for a reason
that the host gives. What the host answers is a value, so that every choice of its answers can
be looked at. The isolated host has its loopback interface down: any address binds there, a
group is joined only by an interface's name, and nothing arrives.
-/
namespace SddsReceiver.Network

/-- The interface to join a group on. -/
inductive InterfaceChoice where
  | address (address : Address)
  /-- The number by which the host knows an interface. -/
  | index (index : UInt32)
  deriving DecidableEq, Repr

/-- What the host answers, or its reason not to. -/
def HostAnswer (α : Type) : Type := Except String α

structure Host where
  /-- A socket is made. -/
  creates : HostAnswer Unit
  /-- The socket may share its address with others. -/
  shares : HostAnswer Unit
  /-- The receive buffer that is granted where so many bytes are asked for. -/
  receiveBuffer : Nat → UInt64
  binds : Address → UInt16 → HostAnswer Unit
  joins : Address → InterfaceChoice → HostAnswer Unit
  /-- Reading from the socket does not wait. -/
  unblocks : HostAnswer Unit
  /-- The socket is watched for datagrams that arrive. -/
  watches : HostAnswer Unit
  /-- The text of a file. -/
  reads : String → HostAnswer String
  /-- A datagram sent to a bound address arrives in its queue. -/
  delivers : Bool
  /-- The port that is bound where none is asked for. -/
  ephemeralPort : UInt16

/-- A step that the host may refuse, in which case its reason is reported. -/
def HostAnswer.orFail {α : Type} (answer : HostAnswer α) (report : String → ReceiverError) :
    Except ReceiverError α :=
  answer.mapError report

namespace Host

/-- The file that holds the number of an interface. -/
def indexPath (name : String) : String := s!"/sys/class/net/{name}/ifindex"

/-- The number of an interface, by its name. -/
def interfaceIndex (host : Host) (name : String) : Except String UInt32 :=
  match host.reads (indexPath name) with
  | .error reason => .error s!"unknown interface '{name}': {reason}"
  | .ok text =>
      match Text.Numeral.read 10 0xffffffff (Text.trimBlanks text.toList) with
      | .error fault => .error s!"unreadable {indexPath name}: {fault.message}"
      | .ok index => .ok (UInt32.ofNat index)

/-- The interface that a setting asks for: any for a blank text, else an address, else a name
that the host must know. -/
def interface (host : Host) (setting : String) : Except String InterfaceChoice :=
  let name := Text.trim setting
  if name.isEmpty then .ok (.address .unspecified)
  else match Address.parse? name with
    | some address => .ok (.address address)
    | none => (host.interfaceIndex name).map .index

/-- The file that lists the sockets for datagrams. -/
def socketTablePath : String := "/proc/net/udp"

/-- Bytes waiting for a port; none are told of where the table cannot be read. -/
def queueDepth (host : Host) (port : UInt16) : UInt64 :=
  match host.reads socketTablePath with
  | .error _ => 0
  | .ok table =>
      match receiveDepth table port with
      | .error _ => 0
      | .ok depth => UInt64.ofNat depth

/-- The port that is bound where a port is asked for. -/
def boundPort (host : Host) (port : UInt16) : UInt16 :=
  if port = 0 then host.ephemeralPort else port

/-- Join a group on the interface that a setting asks for. -/
def join (host : Host) (group : Address) (setting : String) : Except ReceiverError Unit :=
  match host.interface setting with
  | .error reason => .error (.config "interface" reason)
  | .ok choice =>
      (host.joins group choice).orFail (.socket s!"join multicast group {group.text}")

/-- Make a socket, bind it to an endpoint and get it ready to be read. Only a group shares its
address and is joined. -/
def prepare (host : Host) (endpoint : Endpoint) (setting : String) : Except ReceiverError Unit := do
  host.creates.orFail (.socket "create UDP socket")
  if endpoint.isMulticast then
    host.shares.orFail (.socket "set SO_REUSEADDR")
  (host.binds endpoint.address endpoint.port).orFail (.bind endpoint.socketText)
  if endpoint.isMulticast then
    host.join endpoint.address setting
  host.unblocks.orFail (.socket "set non-blocking")
  host.watches.orFail (.socket "register socket with runtime")

/-- Bind an endpoint and, if it is a group, join it. The answer is the port. -/
def bind (host : Host) (endpoint : Endpoint) (setting : String) : Except ReceiverError UInt16 :=
  match host.prepare endpoint setting with
  | .error fault => .error fault
  | .ok _ => .ok (host.boundPort endpoint.port)

/-- Where a host's own choice of a port is not zero, no bound port is. -/
theorem bind_ne_zero {host : Host} (hport : host.ephemeralPort ≠ 0)
    {endpoint : Endpoint} {setting : String} {port : UInt16}
    (h : host.bind endpoint setting = .ok port) : port ≠ 0 := by
  have hbound : host.boundPort endpoint.port ≠ 0 := by
    unfold boundPort
    split
    · exact hport
    · assumption
  unfold bind at h
  cases hready : host.prepare endpoint setting with
  | error fault =>
      rw [hready] at h
      cases h
  | ok _ =>
      rw [hready] at h
      cases h
      exact hbound

/-- A host whose only interface is down. -/
def isolated : Host where
  creates := .ok ()
  shares := .ok ()
  receiveBuffer bytes := UInt64.ofNat (max bytes 2304)
  binds _ _ := .ok ()
  joins _ choice :=
    match choice with
    | .address _ => .error HostReason.noSuchDevice.text
    | .index _ => .ok ()
  unblocks := .ok ()
  watches := .ok ()
  reads path :=
    if path = indexPath "lo" then .ok "1\n" else .error HostReason.noSuchFile.text
  delivers := false
  ephemeralPort := 49152

end Host

end SddsReceiver.Network
