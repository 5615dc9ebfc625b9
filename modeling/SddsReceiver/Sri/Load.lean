import SddsReceiver.Sri.OfDocument
import SddsReceiver.Yaml.Tree

/-!
# Loading a stream description

A text that is no document, or whose fields are of the wrong kind, holds no description.
-/
namespace SddsReceiver

/-- The stream description that a text holds. -/
def Sri.ofYaml? (text : String) : Option Sri :=
  (Yaml.parse text).toOption.bind ofDocument?

end SddsReceiver
