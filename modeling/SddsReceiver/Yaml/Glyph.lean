/-!
# Text with positions

A text as the characters that stand on its lines. Each character knows its line and column,
and how many characters come before it. The pair of carriage return and line feed, either of
them alone, and the next-line character all end a line in the same way; the two Unicode
separators end a line as themselves. Control characters are refused.
-/
namespace SddsReceiver.Yaml

structure Glyph where
  char : Char
  index : Nat
  line : Nat
  column : Nat
  deriving DecidableEq, Repr

/-- Why a text is no document. -/
inductive Fault where
  | controlCharacter
  | tabIndentation
  | unfinishedKey
  | misplacedEntry
  | misplacedBracket
  | misplacedKey
  | misplacedValue
  | foreignStart
  | malformedDirective
  | malformedName
  | malformedTag
  | malformedScalar
  | unfinishedScalar
  | unknownTagHandle
  | unknownAnchor
  | missingDocumentStart
  | missingNode
  | missingSeparator
  | severalDocuments
  | tooDeep
  deriving DecidableEq, Repr

namespace Fault

def describe : Fault → String
  | controlCharacter => "control characters are not allowed"
  | tabIndentation => "a tab stands where blanks indent"
  | unfinishedKey => "a key has no colon"
  | misplacedEntry => "an item stands where none is expected"
  | misplacedBracket => "a bracket closes nothing"
  | misplacedKey => "a key stands where none is expected"
  | misplacedValue => "a value stands where none is expected"
  | foreignStart => "a character starts no token"
  | malformedDirective => "a directive is malformed or repeated"
  | malformedName => "a name is malformed"
  | malformedTag => "a tag is malformed"
  | malformedScalar => "a scalar is malformed"
  | unfinishedScalar => "a quoted scalar has no end"
  | unknownTagHandle => "a tag handle is unknown"
  | unknownAnchor => "an alias is unknown"
  | missingDocumentStart => "a document has no start after its directives"
  | missingNode => "a node is missing"
  | missingSeparator => "a comma is missing"
  | severalDocuments => "there is more than one document"
  | tooDeep => "the structure is too deep"

end Fault

def isBlank (c : Char) : Bool := c == ' ' || c == '\t'

def isBreak (c : Char) : Bool :=
  c == '\n' || c == '\r' || c == '\u0085' || c == '\u2028' || c == '\u2029'

/-- The character may stand in a document. -/
def isAllowed (c : Char) : Bool :=
  let n := c.toNat
  n == 0x09 || n == 0x0a || n == 0x0d || (0x20 ≤ n && n ≤ 0x7e) || n == 0x85 ||
    (0xa0 ≤ n && n ≤ 0xd7ff) || (0xe000 ≤ n && n ≤ 0xfffd) || 0x10000 ≤ n

/-- The mark of byte order, which may stand at the start of a line. -/
def orderMark : Char := '\ufeff'

/-- The characters from a position on. -/
def glyphsFrom (index line column : Nat) : List Char → Except Fault (List Glyph)
  | [] => .ok []
  | '\r' :: '\n' :: cs => do
      return ⟨'\n', index, line, column⟩ :: (← glyphsFrom (index + 2) (line + 1) 0 cs)
  | c :: cs =>
      if !isAllowed c then .error .controlCharacter
      else if isBreak c then do
        let shown := if c == '\r' || c == '\u0085' then '\n' else c
        return ⟨shown, index, line, column⟩ :: (← glyphsFrom (index + 1) (line + 1) 0 cs)
      else do
        return ⟨c, index, line, column⟩ :: (← glyphsFrom (index + 1) line (column + 1) cs)

/-- The characters of a text, without a mark of byte order in front. -/
def glyphs (text : String) : Except Fault (List Glyph) :=
  match text.toList with
  | c :: cs => if c = orderMark then glyphsFrom 0 0 0 cs else glyphsFrom 0 0 0 (c :: cs)
  | [] => .ok []

/-- What comes next is a blank, the end of a line or the end of the text. -/
def startsBlank : List Glyph → Bool
  | [] => true
  | g :: _ => isBlank g.char || isBreak g.char

/-- What comes next is a character of this kind. -/
def startsWithAny (p : Char → Bool) : List Glyph → Bool
  | [] => false
  | g :: _ => p g.char

/-- What comes next is one of these characters. -/
def startsWithOneOf (chars : List Char) (gs : List Glyph) : Bool :=
  startsWithAny (fun c => chars.contains c) gs

/-- Three dashes or three dots at the start of a line stand for the bounds of a document. -/
def startsMarker : List Glyph → Bool
  | a :: b :: c :: rest =>
      a.column == 0 && a.char == b.char && b.char == c.char &&
        (a.char == '-' || a.char == '.') && startsBlank rest
  | _ => false

/-- The rest of a text from the end of its first line on. -/
def dropLine (gs : List Glyph) : List Glyph :=
  gs.dropWhile fun g => !isBreak g.char

/-- The rest of a text after blanks on the line. -/
def dropBlanks (gs : List Glyph) : List Glyph :=
  gs.dropWhile fun g => isBlank g.char

/-- The rest from the next line on, where nothing but blanks and a comment is left on this
one. -/
def endLine? (gs : List Glyph) : Option (List Glyph) :=
  let rest := dropBlanks gs
  match if startsWithOneOf ['#'] rest then dropLine rest else rest with
  | [] => some []
  | g :: gs => if isBreak g.char then some gs else none

/-- The longest start of a text made of such characters, and the rest. -/
def spanChars (p : Char → Bool) (gs : List Glyph) : String × List Glyph :=
  (String.ofList ((gs.takeWhile fun g => p g.char).map Glyph.char), gs.dropWhile fun g => p g.char)

end SddsReceiver.Yaml
