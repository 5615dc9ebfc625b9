import SddsReceiver.Error
import SddsReceiver.Network.Endpoint
import SddsReceiver.Push.Policy
import SddsReceiver.Samples.ByteOrder

/-!
# Configuration

The settings of a receiver. Every setting has a default. A configuration is valid when a
receive batch and a push hold at least one frame and the pool holds at least one batch. Any
difference between two configurations matters to a running stream; the first one in the order
of the settings names it.
-/
namespace SddsReceiver

/-- A fixed endpoint that is received from in place of an attachment. -/
structure AttachmentOverride where
  enabled : Bool := false
  address : Network.Address := .loopback
  vlan : UInt16 := 0
  port : UInt16 := 29495
  /-- Byte order of the overriding stream. -/
  order : ByteOrder := .big
  deriving DecidableEq, Repr

namespace AttachmentOverride

def endpoint (o : AttachmentOverride) : Network.Endpoint := ⟨"", o.address, o.port, o.vlan⟩

end AttachmentOverride

structure Config where
  /-- Slots in the pool. -/
  poolSlots : Nat := 20000
  /-- Datagrams in a receive batch, and slots kept in hand for it. -/
  readBatch : Nat := 500
  /-- Frames joined in one push. -/
  pushFrames : Nat := 1000
  pushOnEdge : Bool := false
  withholdInvalid : Bool := false
  /-- Receive buffer asked of the host, in bytes. -/
  socketBuffer : Nat := 134217728
  /-- Interface to join groups on: blank for any, an address or a name. -/
  interface : String := ""
  order : ByteOrder := .big
  override : AttachmentOverride := {}
  deriving DecidableEq, Repr

namespace Config

inductive Setting where
  | poolSlots
  | readBatch
  | pushFrames
  | pushOnEdge
  | withholdInvalid
  | socketBuffer
  | interface
  | order
  | override
  deriving DecidableEq, Repr

/-- The name of a setting in a document. -/
def Setting.name : Setting → String
  | poolSlots => "buffer_size"
  | readBatch => "pkts_per_socket_read"
  | pushFrames => "sdds_pkts_per_bulkio_push"
  | pushOnEdge => "push_on_ttv"
  | withholdInvalid => "wait_on_ttv"
  | socketBuffer => "udp_socket_buffer_size"
  | interface => "interface"
  | order => "endianness"
  | override => "attachment_override"

/-- The byte order that a setting spells. -/
def orderOfText (source : String) : Except ReceiverError ByteOrder :=
  match ByteOrder.parse source with
  | .ok order => .ok order
  | .error word =>
      let expected := s!"expected {ByteOrder.little.text} or {ByteOrder.big.text}"
      .error (.config Setting.order.name s!"{expected}, got '{word}'")

/-- A setting out of its range. -/
inductive Fault where
  | emptyReadBatch
  | poolBelowBatch (slots batch : Nat)
  | emptyPush
  deriving DecidableEq, Repr

namespace Fault

def setting : Fault → Setting
  | emptyReadBatch => .readBatch
  | poolBelowBatch _ _ => .poolSlots
  | emptyPush => .pushFrames

def reason : Fault → String
  | emptyReadBatch | emptyPush => "must be at least 1"
  | poolBelowBatch slots batch => s!"{slots} is smaller than pkts_per_socket_read ({batch})"

def toError (fault : Fault) : ReceiverError :=
  .config fault.setting.name fault.reason

end Fault

/-- The first setting out of its range, if there is one. -/
def fault? (c : Config) : Option Fault :=
  if c.readBatch = 0 then some .emptyReadBatch
  else if c.poolSlots < c.readBatch then some (.poolBelowBatch c.poolSlots c.readBatch)
  else if c.pushFrames = 0 then some .emptyPush
  else none

def Valid (c : Config) : Prop := c.fault? = none

instance (c : Config) : Decidable c.Valid := inferInstanceAs (Decidable (_ = _))

/-- The configuration, if it is valid. -/
def validate (c : Config) : Except ReceiverError Config :=
  match c.fault? with
  | none => .ok c
  | some fault => .error fault.toError

/-- The first setting in which two configurations differ. -/
def firstDifference (a b : Config) : Option Setting :=
  if a.poolSlots ≠ b.poolSlots then some .poolSlots
  else if a.readBatch ≠ b.readBatch then some .readBatch
  else if a.pushFrames ≠ b.pushFrames then some .pushFrames
  else if a.pushOnEdge ≠ b.pushOnEdge then some .pushOnEdge
  else if a.withholdInvalid ≠ b.withholdInvalid then some .withholdInvalid
  else if a.socketBuffer ≠ b.socketBuffer then some .socketBuffer
  else if a.interface ≠ b.interface then some .interface
  else if a.order ≠ b.order then some .order
  else if a.override ≠ b.override then some .override
  else none

/-- Slots left in the pool while a batch is in hand. -/
def headroom (c : Config) : Nat := c.poolSlots - c.readBatch

/-- The policy of the pushes; a push holds one frame at least. -/
def pushPolicy (c : Config) : PushPolicy := ⟨max c.pushFrames 1, c.pushOnEdge, c.withholdInvalid⟩

/-- The configuration that the overriding stream runs with. -/
def forOverride (c : Config) : Config := { c with order := c.override.order }

theorem valid_iff (c : Config) :
    c.Valid ↔ 1 ≤ c.readBatch ∧ c.readBatch ≤ c.poolSlots ∧ 1 ≤ c.pushFrames := by
  unfold Valid fault?
  by_cases hRead : c.readBatch = 0
  · simp only [hRead, if_true, reduceCtorEq, false_iff]
    omega
  · by_cases hPool : c.poolSlots < c.readBatch
    · simp only [hRead, hPool, if_true, if_false, reduceCtorEq, false_iff]
      omega
    · by_cases hPush : c.pushFrames = 0
      · simp only [hRead, hPool, hPush, if_true, if_false, reduceCtorEq, false_iff]
        omega
      · simp only [hRead, hPool, hPush, if_false, true_iff]
        omega

theorem firstDifference_eq_none (a b : Config) : a.firstDifference b = none ↔ a = b := by
  constructor
  · intro h
    unfold firstDifference at h
    cases a
    cases b
    grind
  · rintro rfl
    simp [firstDifference]

end Config

end SddsReceiver
