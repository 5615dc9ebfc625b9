import SddsReceiver.Yaml.Glyph

/-!
# Scalars in indented blocks

A block holds the lines that are indented like its first one, or by a width that its header
gives. Its lines are kept, or folded into one another where neither of them starts with a
blank. The header tells what becomes of the ends of lines after the last one.
-/
namespace SddsReceiver.Yaml

/-- What becomes of the ends of lines after the text. -/
inductive Chomping where
  /-- All of them are dropped. -/
  | strip
  /-- The first is kept. -/
  | clip
  | keep
  deriving DecidableEq, Repr

structure BlockHeader where
  chomping : Chomping
  /-- Width of the indentation, where it is given. -/
  width : Option Nat
  deriving DecidableEq, Repr

def chomping? (c : Char) : Option Chomping :=
  if c = '+' then some .keep else if c = '-' then some .strip else none

def width? (c : Char) : Option Nat :=
  if '1' ≤ c ∧ c ≤ '9' then some (c.toNat - 48) else none

/-- The indicators of a header, each of them once and in either order. -/
def readIndicators : List Glyph → BlockHeader × List Glyph
  | [] => (⟨.clip, none⟩, [])
  | g :: gs =>
      match chomping? g.char, width? g.char with
      | some chomping, _ =>
          match gs with
          | next :: rest =>
              match width? next.char with
              | some width => (⟨chomping, some width⟩, rest)
              | none => (⟨chomping, none⟩, next :: rest)
          | [] => (⟨chomping, none⟩, [])
      | none, some width =>
          match gs with
          | next :: rest =>
              match chomping? next.char with
              | some chomping => (⟨chomping, some width⟩, rest)
              | none => (⟨.clip, some width⟩, next :: rest)
          | [] => (⟨.clip, some width⟩, [])
      | none, none => (⟨.clip, none⟩, g :: gs)

/-- The header and the rest from the next line on. A comment may end the header's line. -/
def readHeader (gs : List Glyph) : Except Fault (BlockHeader × List Glyph) :=
  let (header, rest) := readIndicators gs
  match endLine? rest with
  | some body => .ok (header, body)
  | none => .error .malformedScalar

/-- The indentation of the first line that is not empty, or of the widest line before. -/
def detectIndent (widest column : Nat) : List Glyph → Except Fault Nat
  | [] => .ok (max widest column)
  | g :: gs =>
      if g.char == ' ' then detectIndent widest (g.column + 1) gs
      else if g.char == '\t' then .error .tabIndentation
      else if isBreak g.char then detectIndent (max widest g.column) 0 gs
      else .ok (max widest g.column)

/-- A block that is being read. -/
structure BlockText where
  /-- What has been read, last character first. -/
  textReversed : List Char
  /-- How the last line has ended. -/
  lineBreak : Option Char
  /-- Ends of empty lines after it, last one first. -/
  breaksReversed : List Char
  /-- The last line starts with a blank. -/
  indented : Bool
  deriving DecidableEq, Repr

namespace BlockText

def initial : BlockText := ⟨[], none, [], false⟩

/-- Begin a line with a character. -/
def beginLine (b : BlockText) (folded : Bool) (c : Char) : BlockText :=
  let folds := folded && b.lineBreak == some '\n' && !b.indented && !isBlank c
  let joint :=
    if folds then (if b.breaksReversed.isEmpty then [' '] else [])
    else b.lineBreak.toList
  ⟨c :: (b.breaksReversed ++ joint ++ b.textReversed), none, [], isBlank c⟩

/-- Go on with a line. -/
def pushChar (b : BlockText) (c : Char) : BlockText :=
  { b with textReversed := c :: b.textReversed }

/-- The whole text. -/
def finish (b : BlockText) (chomping : Chomping) : String :=
  let tail := match chomping with
    | .strip => []
    | .clip => b.lineBreak.toList
    | .keep => b.breaksReversed ++ b.lineBreak.toList
  String.ofList (tail ++ b.textReversed).reverse

end BlockText

/-- Read the lines of a block; `inLine` tells that a line has begun. -/
def readLines (folded : Bool) (indent : Nat) (b : BlockText) (inLine : Bool) :
    List Glyph → Except Fault (BlockText × List Glyph)
  | [] => .ok (b, [])
  | g :: gs =>
      if inLine then
        if isBreak g.char then
          readLines folded indent { b with lineBreak := some g.char } false gs
        else readLines folded indent (b.pushChar g.char) true gs
      else if g.column < indent && g.char == ' ' then readLines folded indent b false gs
      else if g.column < indent && g.char == '\t' then .error .tabIndentation
      else if isBreak g.char then
        readLines folded indent { b with breaksReversed := g.char :: b.breaksReversed } false gs
      else if g.column = indent then
        readLines folded indent (b.beginLine folded g.char) true gs
      else .ok (b, g :: gs)

/-- Read a block after the character that announces it, inside a structure that is indented
by so much, or by less than nothing at the outermost. -/
def readBlock (folded : Bool) (parent : Int) (gs : List Glyph) :
    Except Fault (String × List Glyph) := do
  let (header, body) ← readHeader gs
  let indent ← match header.width with
    | some width => pure (parent.toNat + width)
    | none => do
        let detected ← detectIndent 0 0 body
        pure (max (max detected (parent + 1).toNat) 1)
  let (block, rest) ← readLines folded indent .initial false body
  return (block.finish header.chomping, rest)

end SddsReceiver.Yaml
