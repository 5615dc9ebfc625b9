import SddsReceiver.Yaml.Annotation
import SddsReceiver.Yaml.Block
import SddsReceiver.Yaml.Folding

/-!
# The outline of a text

Tokens of a text from its first character to its last. Outside brackets, a sequence or a
mapping goes on as long as its items start in the same column; a smaller column ends it. That
something is the key of a mapping shows only at the colon after it, so the place where a key
may have started is remembered, and its tokens are put there afterwards. A key has to end on
the line where it starts and within a limited length.
-/
namespace SddsReceiver.Yaml

/-- A place where a key may have started. -/
structure KeyPlace where
  /-- Tokens before the key. -/
  tokens : Nat
  /-- The mapping around it can hold nothing but a key here. -/
  required : Bool
  index : Nat
  line : Nat
  column : Nat
  deriving DecidableEq, Repr

/-- A text of which a part has been read. -/
structure Outline where
  rest : List Glyph
  tokens : Array Token
  /-- Column of the innermost structure that indentation shows; none is open at -1. -/
  indent : Int
  outerIndents : List Int
  keyPlace : Option KeyPlace
  /-- Key places outside the open brackets, one for each of them, innermost first. -/
  outerKeyPlaces : List (Option KeyPlace)
  /-- A key may start here. -/
  keyAllowed : Bool
  deriving Repr

/-- The greatest number of characters from the start of a key to its colon. -/
def maxKeyLength : Nat := 1024

namespace Outline

def initial (gs : List Glyph) : Outline := ⟨gs, #[], -1, [], none, [], true⟩

/-- Brackets are open. -/
def inFlow (o : Outline) : Bool := !o.outerKeyPlaces.isEmpty

def push (o : Outline) (token : Token) : Outline :=
  { o with tokens := o.tokens.push token }

/-- Go on with a text. -/
def continueAt (o : Outline) (rest : List Glyph) : Outline := { o with rest := rest }

/-- Forget where the current key may have started. -/
def dropKeyPlace (o : Outline) : Except Fault Outline :=
  match o.keyPlace with
  | some place => if place.required then .error .unfinishedKey else .ok { o with keyPlace := none }
  | none => .ok o

/-- A key may start at this character. -/
def markKeyPlace (o : Outline) (g : Glyph) : Except Fault Outline :=
  if o.keyAllowed then do
    let o ← o.dropKeyPlace
    let required := !o.inFlow && o.indent == (g.column : Int)
    return { o with keyPlace := some ⟨o.tokens.size, required, g.index, g.line, g.column⟩ }
  else .ok o

/-- A key that started here may still end at this character. -/
def KeyPlace.reaches (place : KeyPlace) (g : Glyph) : Bool :=
  place.line == g.line && g.index ≤ place.index + maxKeyLength

/-- A key place, unless it is too far from this character. -/
def keepKeyPlace (g : Glyph) : Option KeyPlace → Except Fault (Option KeyPlace)
  | none => .ok none
  | some place =>
      if KeyPlace.reaches place g then .ok (some place)
      else if place.required then .error .unfinishedKey
      else .ok none

/-- Forget the key places that are too far from this character. -/
def dropFarKeyPlaces (o : Outline) (g : Glyph) : Except Fault Outline := do
  let place ← keepKeyPlace g o.keyPlace
  let outer ← o.outerKeyPlaces.mapM (keepKeyPlace g)
  return { o with keyPlace := place, outerKeyPlaces := outer }

/-- The tokens and indentations after all structures beyond a column have ended. -/
def closedBeyond (column : Int) (tokens : Array Token) (indent : Int) :
    List Int → Array Token × Int × List Int
  | [] => (tokens, indent, [])
  | outer :: more =>
      if indent > column then closedBeyond column (tokens.push .blockEnd) outer more
      else (tokens, indent, outer :: more)

/-- End the structures that indentation shows beyond a column. -/
def closeBeyond (o : Outline) (column : Int) : Outline :=
  if o.inFlow then o
  else
    let (tokens, indent, outer) := closedBeyond column o.tokens o.indent o.outerIndents
    { o with tokens := tokens, indent := indent, outerIndents := outer }

/-- Start a structure at a column, before the token with this number, unless the innermost
one starts there too. -/
def openAt (o : Outline) (column : Nat) (place : Nat) (token : Token) : Outline :=
  if !o.inFlow && o.indent < (column : Int) then
    { o with
      indent := column
      outerIndents := o.indent :: o.outerIndents
      tokens := o.tokens.insertIdxIfInBounds place token }
  else o

/-- End every structure before a directive or a bound of a document. -/
def closeAll (o : Outline) : Except Fault Outline := do
  let o ← (o.closeBeyond (-1)).dropKeyPlace
  return { o with keyAllowed := false }

def readMarker (o : Outline) (token : Token) : Except Fault Outline := do
  return ((← o.closeAll).push token).continueAt (o.rest.drop 3)

/-- Open a bracket. -/
def openBracket (o : Outline) (g : Glyph) (token : Token) : Except Fault Outline := do
  let o ← o.markKeyPlace g
  let o := { o with
    keyPlace := none
    outerKeyPlaces := o.keyPlace :: o.outerKeyPlaces
    keyAllowed := true }
  return (o.push token).continueAt (o.rest.drop 1)

/-- Close a bracket. -/
def closeBracket (o : Outline) (token : Token) : Except Fault Outline := do
  let o ← o.dropKeyPlace
  match o.outerKeyPlaces with
  | [] => throw .misplacedBracket
  | place :: outer =>
      let o := { o with keyPlace := place, outerKeyPlaces := outer, keyAllowed := false }
      return (o.push token).continueAt (o.rest.drop 1)

def readFlowEntry (o : Outline) : Except Fault Outline := do
  let o ← o.dropKeyPlace
  return ({ o with keyAllowed := true }.push .flowEntry).continueAt (o.rest.drop 1)

/-- Start an item after a dash. -/
def readBlockEntry (o : Outline) (g : Glyph) : Except Fault Outline := do
  if o.inFlow || !o.keyAllowed then throw .misplacedEntry
  let o ← (o.openAt g.column o.tokens.size .blockSequence).dropKeyPlace
  return ({ o with keyAllowed := true }.push .blockEntry).continueAt (o.rest.drop 1)

/-- Start a key after a question mark. -/
def readKey (o : Outline) (g : Glyph) : Except Fault Outline := do
  if !o.inFlow && !o.keyAllowed then throw .misplacedKey
  let o ← (o.openAt g.column o.tokens.size .blockMapping).dropKeyPlace
  return ({ o with keyAllowed := !o.inFlow }.push .key).continueAt (o.rest.drop 1)

/-- Start a value after a colon. -/
def readValue (o : Outline) (g : Glyph) : Except Fault Outline := do
  match o.keyPlace with
  | some place =>
      let o := { o with
        tokens := o.tokens.insertIdxIfInBounds place.tokens .key
        keyPlace := none
        keyAllowed := false }
      let o := o.openAt place.column place.tokens .blockMapping
      return (o.push .value).continueAt (o.rest.drop 1)
  | none =>
      if !o.inFlow && !o.keyAllowed then throw .misplacedValue
      let o := o.openAt g.column o.tokens.size .blockMapping
      return ({ o with keyAllowed := !o.inFlow }.push .value).continueAt (o.rest.drop 1)

/-- Read what may start a key: a token and the text after it. -/
def readPart (o : Outline) (g : Glyph) (part : Except Fault (Token × List Glyph)) :
    Except Fault Outline := do
  let o ← o.markKeyPlace g
  let (token, rest) ← part
  return ({ o with keyAllowed := false }.push token).continueAt rest

/-- Read an unquoted scalar. After one that ends with its line a key may start. -/
def readPlainScalar (o : Outline) (g : Glyph) : Except Fault Outline := do
  let o ← o.markKeyPlace g
  let (folding, rest) ← readPlain o.inFlow (o.indent + 1) .initial o.rest
  return ({ o with keyAllowed := folding.broken }.push (.scalar folding.text .plain)).continueAt rest

/-- Read a scalar in an indented block. -/
def readBlockScalar (o : Outline) (style : Settings.ScalarStyle) (gs : List Glyph) :
    Except Fault Outline := do
  let o ← o.dropKeyPlace
  let (text, rest) ← readBlock (style == .folded) o.indent gs
  return ({ o with keyAllowed := true }.push (.scalar text style)).continueAt rest

/-- The scalar that a folding holds. -/
def quoted (style : Settings.ScalarStyle) (part : Except Fault (Folding × List Glyph)) :
    Except Fault (Token × List Glyph) :=
  part.map fun (folding, rest) => (.scalar folding.text style, rest)

/-- Characters that start no unquoted scalar, or only before a character that is no blank. -/
def indicators : List Char := "-?:,[]#&*!|>'\"%@\x60\x7b\x7d".toList

/-- An unquoted scalar may start with this character. -/
def startsPlain (inFlow : Bool) (c : Char) (rest : List Glyph) : Bool :=
  !indicators.contains c ||
    (c == '-' && !startsWithAny isBlank rest) ||
    (!inFlow && (c == '?' || c == ':') && !startsBlank rest)

/-- Read what starts with this character, which is no gap. -/
def readToken (o : Outline) (g : Glyph) (gs : List Glyph) : Except Fault Outline :=
  if g.column == 0 && g.char == '%' then do
    let o ← o.closeAll
    let (token, rest) ← readDirective gs
    return (o.push token).continueAt rest
  else if startsMarker (g :: gs) then
    o.readMarker (if g.char == '-' then .documentStart else .documentEnd)
  else match g.char with
    | '[' => o.openBracket g .flowSequence
    | '\x7b' => o.openBracket g .flowMapping
    | ']' => o.closeBracket .flowSequenceEnd
    | '\x7d' => o.closeBracket .flowMappingEnd
    | ',' => o.readFlowEntry
    | '*' => o.readPart g ((readName gs).map fun (name, rest) => (.alias name, rest))
    | '&' => o.readPart g ((readName gs).map fun (name, rest) => (.anchor name, rest))
    | '!' => o.readPart g (readTag o.inFlow (g :: gs))
    | '\'' => o.readPart g (quoted .singleQuoted (readSingleQuoted .initial gs))
    | '"' => o.readPart g (quoted .doubleQuoted (readDoubleQuoted .initial .outside gs))
    | c =>
        if c == '-' && startsBlank gs then o.readBlockEntry g
        else if c == '?' && (o.inFlow || startsBlank gs) then o.readKey g
        else if c == ':' && (o.inFlow || startsBlank gs) then o.readValue g
        else if c == '|' && !o.inFlow then o.readBlockScalar .literal gs
        else if c == '>' && !o.inFlow then o.readBlockScalar .folded gs
        else if startsPlain o.inFlow c gs then o.readPlainScalar g
        else .error .foreignStart

/-- What is left of a text after blanks, comments and ends of lines, and whether a key may
start there. A tab is no blank where it would indent a key. -/
def skipGap (inFlow keyAllowed inComment : Bool) : List Glyph → Bool × List Glyph
  | [] => (keyAllowed, [])
  | g :: gs =>
      if isBreak g.char then skipGap inFlow (keyAllowed || !inFlow) false gs
      else if inComment then skipGap inFlow keyAllowed true gs
      else if g.char == ' ' || (g.char == '\t' && (inFlow || !keyAllowed)) ||
          (g.char == orderMark && g.column == 0) then skipGap inFlow keyAllowed false gs
      else if g.char == '#' then skipGap inFlow keyAllowed true gs
      else (keyAllowed, g :: gs)

/-- Read the next token, if there is one. -/
def step (o : Outline) : Except Fault Outline :=
  let (keyAllowed, rest) := skipGap o.inFlow o.keyAllowed false o.rest
  match rest with
  | [] => .ok (o.continueAt [])
  | g :: gs => do
      let o ← { o with keyAllowed := keyAllowed, rest := g :: gs }.dropFarKeyPlaces g
      (o.closeBeyond g.column).readToken g gs

/-- Read on for a number of tokens at most. -/
def steps : Nat → Outline → Except Fault Outline
  | 0, o => .ok o
  | n + 1, o => if o.rest.isEmpty then .ok o else o.step.bind (steps n)

end Outline

/-- The tokens of a text. Every token takes up a character at least. -/
def tokens (gs : List Glyph) : Except Fault (List Token) := do
  let o ← Outline.steps gs.length (.initial gs)
  return (← o.closeAll).tokens.toList

end SddsReceiver.Yaml
