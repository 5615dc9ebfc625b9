import SddsReceiver.Text.Hex
import SddsReceiver.Text.Invisible

/-!
# Quoted text

A text between double quotes. The quote, the backslash and the usual control characters have
short escapes, an invisible character is written by its number in braces, and every other
character stands for itself.
-/
namespace SddsReceiver.Text.Quoted

/-- The digits of a character's number, without leading zeros. -/
def numberDigits (c : Char) : List Char :=
  (Hex.padded 1 c.toNat).toList

/-- One character between the quotes. -/
def encodeChar (c : Char) : List Char :=
  if c = '\x00' then ['\\', '0']
  else if c = '\t' then ['\\', 't']
  else if c = '\n' then ['\\', 'n']
  else if c = '\r' then ['\\', 'r']
  else if c = '"' then ['\\', '"']
  else if c = '\\' then ['\\', '\\']
  else if isInvisible c then ['\\', 'u', '\x7b'] ++ numberDigits c ++ ['\x7d']
  else [c]

def encode (text : String) : String :=
  String.ofList (['"'] ++ text.toList.flatMap encodeChar ++ ['"'])

/-- A text that may be missing. -/
def encodeOption : Option String → String
  | none => "None"
  | some text => "Some(" ++ encode text ++ ")"

end SddsReceiver.Text.Quoted
