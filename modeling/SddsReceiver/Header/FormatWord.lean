/-!
# The format word

The first word of a header says how the payload is coded. From the most significant bit:
standard format, start of sequence, parity, original format, spectral sense, a three-bit
data mode, complex, two reserved bits, and a five-bit sample width in which 31 stands
for 32. The word is kept whole, so no bit of it is lost by looking at its fields.
-/
namespace SddsReceiver.Header

structure FormatWord where
  word : UInt16
  deriving DecidableEq, Repr

namespace FormatWord

def standardMask : UInt16 := 0x8000
def startOfSequenceMask : UInt16 := 0x4000
def parityMask : UInt16 := 0x2000
def originalMask : UInt16 := 0x1000
def spectralMask : UInt16 := 0x0800
def dataModeMask : UInt16 := 0x0700
def complexMask : UInt16 := 0x0080
def reservedMask : UInt16 := 0x0060
def widthMask : UInt16 := 0x001f

/-- Some bit of the mask is set. -/
def has (f : FormatWord) (mask : UInt16) : Bool :=
  f.word &&& mask != 0

def standard (f : FormatWord) : Bool := f.has standardMask
def startOfSequence (f : FormatWord) : Bool := f.has startOfSequenceMask
def parity (f : FormatWord) : Bool := f.has parityMask
def original (f : FormatWord) : Bool := f.has originalMask
def spectral (f : FormatWord) : Bool := f.has spectralMask

/-- The samples are pairs of an in-phase and a quadrature value. -/
def complex (f : FormatWord) : Bool := f.has complexMask

def dataMode (f : FormatWord) : UInt8 := ((f.word &&& dataModeMask) >>> 8).toUInt8

/-- The two reserved bits; a conforming packet has both clear. -/
def reserved (f : FormatWord) : UInt8 := ((f.word &&& reservedMask) >>> 5).toUInt8

/-- The sample width in bits; the wire value 31 stands for 32. -/
def bitsPerSample (f : FormatWord) : UInt8 :=
  let wire := (f.word &&& widthMask).toUInt8
  if wire = 31 then 32 else wire

/-- Set or clear every bit of a mask. -/
def put (f : FormatWord) (mask : UInt16) (on : Bool) : FormatWord :=
  ⟨if on then f.word ||| mask else f.word &&& ~~~mask⟩

/-- Replace the two reserved bits by the low bits of a number. -/
def putReserved (f : FormatWord) (bits : UInt8) : FormatWord :=
  ⟨(f.word &&& ~~~reservedMask) ||| ((bits.toUInt16 &&& 3) <<< 5)⟩

/-- Replace the sample width; 32 is written as 31 and other widths keep five bits. -/
def putBitsPerSample (f : FormatWord) (bits : UInt8) : FormatWord :=
  let wire := if bits = 32 then 31 else bits.toUInt16 &&& widthMask
  ⟨(f.word &&& ~~~widthMask) ||| wire⟩

end FormatWord

end SddsReceiver.Header
