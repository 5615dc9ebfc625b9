import SddsReceiver.Text.Decimal
import SddsReceiver.Yaml.Glyph
import SddsReceiver.Yaml.Token

/-!
# Annotations

A node may have a name, so that others can stand for it, and a tag that tells its kind. A tag
is given as a whole or by a handle and a suffix. Directives before a document give the version
of its language and the handles of its own.
-/
namespace SddsReceiver.Yaml

def isWordChar (c : Char) : Bool :=
  c.isAlphanum || c == '_' || c == '-'

/-- Characters besides blanks that end a name. -/
def nameEnds : List Char := ['?', ':', ',', ']', '\x7d', '%', '@', '\x60']

/-- Read a name after the mark in front of it. -/
def readName (gs : List Glyph) : Except Fault (String × List Glyph) :=
  let (name, rest) := spanChars isWordChar gs
  if name.isEmpty then .error .malformedName
  else if startsBlank rest || startsWithOneOf nameEnds rest then .ok (name, rest)
  else .error .malformedName

/-- The character may stand in a tag; some may only in a tag given as a whole. -/
def isTagChar (whole : Bool) (c : Char) : Bool :=
  isWordChar c || ";/?:@&=+$.!~*'()%".toList.contains c || (whole && ",[]".toList.contains c)

/-- The bytes of a tag, where a percent sign and two digits stand for one byte. -/
def tagBytes? : List Char → Option (List UInt8)
  | [] => some []
  | '%' :: a :: b :: cs => do
      let high ← Text.Decimal.digit? 16 a
      let low ← Text.Decimal.digit? 16 b
      return UInt8.ofNat (high * 16 + low) :: (← tagBytes? cs)
  | c :: cs => if c == '%' then none else (tagBytes? cs).map (c.toUInt8 :: ·)

/-- Read the longest text of a tag, which may be empty. -/
def readTagText (whole : Bool) (gs : List Glyph) : Except Fault (String × List Glyph) :=
  let (text, rest) := spanChars (isTagChar whole) gs
  match (tagBytes? text.toList).bind fun bytes => String.fromUTF8? ⟨bytes.toArray⟩ with
  | some tag => .ok (tag, rest)
  | none => .error .malformedTag

/-- Read the text of a tag that is not empty. -/
def readSomeTagText (whole : Bool) (gs : List Glyph) : Except Fault (String × List Glyph) :=
  if startsWithAny (isTagChar whole) gs then readTagText whole gs else .error .malformedTag

/-- Read a handle: an exclamation mark, or a word between two of them, of which the second
may be missing. -/
def readHandle (gs : List Glyph) : Except Fault (String × List Glyph) :=
  if !startsWithOneOf ['!'] gs then .error .malformedTag
  else
    let (word, rest) := spanChars isWordChar (gs.drop 1)
    if startsWithOneOf ['!'] rest then .ok ("!" ++ word ++ "!", rest.drop 1)
    else .ok ("!" ++ word, rest)

/-- The handle stands between two exclamation marks. -/
def isClosedHandle (handle : String) : Bool :=
  handle.length > 1 && handle.endsWith "!"

/-- Read a tag by a handle and a suffix. The shortest handle is left out of a tag that has
no more to it. -/
def readShortTag (gs : List Glyph) : Except Fault (Token × List Glyph) := do
  let (handle, rest) ← readHandle gs
  if isClosedHandle handle then
    let (suffix, rest) ← readSomeTagText false rest
    return (.tag handle suffix, rest)
  else
    let (more, rest) ← readTagText false rest
    let suffix := (handle.drop 1).toString ++ more
    return (if suffix.isEmpty then .tag "" "!" else .tag "!" suffix, rest)

/-- Read a tag between angle brackets, which come after its exclamation mark. -/
def readWholeTag (gs : List Glyph) : Except Fault (Token × List Glyph) := do
  let (tag, rest) ← readSomeTagText true (gs.drop 2)
  if startsWithOneOf ['>'] rest then return (.tag "" tag, rest.drop 1)
  else throw .malformedTag

/-- Read a tag from its exclamation mark on. Nothing but a blank may follow it and, inside
brackets, a comma. -/
def readTag (inFlow : Bool) (gs : List Glyph) : Except Fault (Token × List Glyph) := do
  let (tag, rest) ←
    if startsWithOneOf ['<'] (gs.drop 1) then readWholeTag gs else readShortTag gs
  if startsBlank rest || (inFlow && startsWithOneOf [','] rest) then return (tag, rest)
  else throw .malformedTag

/-- The greatest number of digits in a part of a version. -/
def maxVersionDigits : Nat := 9

/-- Read a number of a version. -/
def readVersionNumber (gs : List Glyph) : Except Fault (Nat × List Glyph) :=
  let (digits, rest) := spanChars Char.isDigit gs
  if digits.length > maxVersionDigits then .error .malformedDirective
  else match Text.Decimal.natural? 10 digits.toList with
    | some n => .ok (n, rest)
    | none => .error .malformedDirective

/-- Read a version: two numbers around a point. -/
def readVersion (gs : List Glyph) : Except Fault (Token × List Glyph) := do
  let (major, rest) ← readVersionNumber gs
  if !startsWithOneOf ['.'] rest then throw .malformedDirective
  let (minor, rest) ← readVersionNumber (rest.drop 1)
  return (.version major minor, rest)

/-- Read a handle and what it stands for. -/
def readShorthand (gs : List Glyph) : Except Fault (Token × List Glyph) := do
  let (handle, rest) ← readHandle gs
  if !(handle == "!" || isClosedHandle handle) then throw .malformedDirective
  if !startsWithAny isBlank rest then throw .malformedDirective
  let (beginning, rest) ← readSomeTagText true (dropBlanks rest)
  if !startsBlank rest then throw .malformedDirective
  return (.shorthand handle beginning, rest)

/-- Read a directive after its percent sign, up to the end of its line. -/
def readDirective (gs : List Glyph) : Except Fault (Token × List Glyph) := do
  let (name, rest) := spanChars isWordChar gs
  if !startsBlank rest then throw .malformedDirective
  let (token, rest) ←
    if name == "YAML" then readVersion (dropBlanks rest)
    else if name == "TAG" then readShorthand (dropBlanks rest)
    else throw .malformedDirective
  match endLine? rest with
  | some rest => return (token, rest)
  | none => throw .malformedDirective

end SddsReceiver.Yaml
