import SddsReceiver.Samples.ByteOrder

/-!
# Status counters

The figures that a receiver reports while it runs. Counts wrap at 64 bits. A port of zero
means that no socket is bound. Restarting a stream clears what belongs to it and keeps the
byte order and the socket.
-/
namespace SddsReceiver

structure Counters where
  dropped : UInt64
  timeSlips : UInt64
  received : UInt64
  malformed : UInt64
  order : ByteOrder
  bitsPerSample : UInt8
  expected : Option UInt16
  sampleRate : Float
  port : Option UInt16
  socketBuffer : UInt64
  deriving Repr

namespace Counters

def initial : Counters where
  dropped := 0
  timeSlips := 0
  received := 0
  malformed := 0
  order := .big
  bitsPerSample := 0
  expected := none
  sampleRate := 0.0
  port := none
  socketBuffer := 0

/-- Clear what belongs to one stream. -/
def resetStream (c : Counters) : Counters :=
  { initial with order := c.order, port := c.port, socketBuffer := c.socketBuffer }

def addDropped (c : Counters) (frames : UInt64) : Counters :=
  { c with dropped := c.dropped + frames }

def setTimeSlips (c : Counters) (slips : UInt64) : Counters :=
  { c with timeSlips := slips }

def addReceived (c : Counters) (packets : UInt64) : Counters :=
  { c with received := c.received + packets }

def addMalformed (c : Counters) (packets : UInt64) : Counters :=
  { c with malformed := c.malformed + packets }

def setOrder (c : Counters) (order : ByteOrder) : Counters :=
  { c with order := order }

def setBitsPerSample (c : Counters) (bits : UInt8) : Counters :=
  { c with bitsPerSample := bits }

def setExpected (c : Counters) (expected : Option UInt16) : Counters :=
  { c with expected := expected }

def setSampleRate (c : Counters) (hertz : Float) : Counters :=
  { c with sampleRate := hertz }

/-- Take note of the bound socket, if any, and of its receive buffer. -/
def setSocket (c : Counters) (port : Option UInt16) (buffer : UInt64) : Counters :=
  { c with port := port.filter (· != 0), socketBuffer := buffer }

end Counters

/-- The counters at one moment, with the figures of the pool and of the host's queue. -/
structure Status where
  counters : Counters
  emptySlots : UInt64
  queuedFrames : UInt64
  queueDepth : UInt64
  deriving Repr

/-- The figures to report beside those of the pool and the queue. -/
def Counters.snapshot (c : Counters) (emptySlots queuedFrames queueDepth : UInt64) : Status :=
  ⟨c, emptySlots, queuedFrames, queueDepth⟩

end SddsReceiver
