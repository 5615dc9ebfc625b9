import SddsReceiver.Config.OfDocument
import SddsReceiver.Yaml.Tree

/-!
# Loading a configuration

A configuration is loaded from a text or from a file that the host gives, and it is valid
then. Text that is no document comes before a setting of the wrong kind, and that before a
setting out of its range.
-/
namespace SddsReceiver

/-- A file of settings as the host gives it. -/
inductive ConfigFile where
  /-- The file cannot be read, for a reason of the host. -/
  | unreadable (path reason : String)
  | readable (text : String)
  deriving DecidableEq, Repr

namespace Config

def unfitReason : String := "a setting is unknown, repeated or of the wrong kind"

/-- The valid configuration that a text holds. -/
def ofYaml (text : String) : Except ReceiverError Config :=
  match Yaml.parse text with
  | .error fault => .error (.config "yaml" fault.describe)
  | .ok document =>
      match ofDocument? document with
      | none => .error (.config "yaml" unfitReason)
      | some config => config.validate

/-- The valid configuration that a file holds. -/
def ofFile : ConfigFile → Except ReceiverError Config
  | .unreadable path reason => .error (.config "path" s!"{path}: {reason}")
  | .readable text => ofYaml text

end Config

end SddsReceiver
