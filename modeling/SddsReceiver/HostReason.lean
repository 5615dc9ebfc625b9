/-!
# Reasons of the host

The words in which the host gives the reason of a failure, each with its number.
-/
namespace SddsReceiver

inductive HostReason where
  | noSuchFile
  | noSuchDevice
  deriving DecidableEq, Repr

namespace HostReason

def text : HostReason → String
  | noSuchFile => "No such file or directory (os error 2)"
  | noSuchDevice => "No such device (os error 19)"

end HostReason

end SddsReceiver
