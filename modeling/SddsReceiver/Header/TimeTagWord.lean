/-!
# The time tag information word

The third word of a header qualifies its time tag. From the most significant bit: validity
of the 1 ms delta, of the time tag itself and of the frequency field, two reserved bits,
and an eleven-bit pointer to the sample that the 1 ms delta refers to.
-/
namespace SddsReceiver.Header

structure TimeTagWord where
  word : UInt16
  deriving DecidableEq, Repr

namespace TimeTagWord

def msValidMask : UInt16 := 0x8000
def timeValidMask : UInt16 := 0x4000
def frequencyValidMask : UInt16 := 0x2000
def pointerMask : UInt16 := 0x07ff

/-- Some bit of the mask is set. -/
def has (t : TimeTagWord) (mask : UInt16) : Bool :=
  t.word &&& mask != 0

def msValid (t : TimeTagWord) : Bool := t.has msValidMask
def timeValid (t : TimeTagWord) : Bool := t.has timeValidMask
def frequencyValid (t : TimeTagWord) : Bool := t.has frequencyValidMask

/-- The sample the 1 ms delta refers to. -/
def msPointer (t : TimeTagWord) : UInt16 := t.word &&& pointerMask

/-- Mark the time tag as valid or not, and keep every other bit. -/
def putTimeValid (t : TimeTagWord) (valid : Bool) : TimeTagWord :=
  ⟨if valid then t.word ||| timeValidMask else t.word &&& ~~~timeValidMask⟩

end TimeTagWord

end SddsReceiver.Header
