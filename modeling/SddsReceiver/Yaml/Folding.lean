import SddsReceiver.Text.Decimal
import SddsReceiver.Yaml.Glyph

/-!
# Scalars over several lines

A scalar that is written over several lines is folded: a single end of a line becomes a
space, of several the first is left out, and blanks around them are dropped. An unquoted
scalar ends where the structure around it goes on; a quoted one ends at its quote.
-/
namespace SddsReceiver.Yaml

/-- A scalar that is being read, with the gap that follows what has been read. -/
structure Folding where
  /-- What has been read, last character first. -/
  textReversed : List Char
  /-- Blanks on the line, last one first. -/
  blanksReversed : List Char
  /-- The line has ended. -/
  broken : Bool
  /-- How the line has ended, unless its end does not count. -/
  firstBreak : Option Char
  /-- Further ends of lines, last one first. -/
  breaksReversed : List Char
  deriving DecidableEq, Repr

namespace Folding

def initial : Folding := ⟨[], [], false, none, []⟩

/-- Something lies between what has been read and what comes. -/
def inGap (f : Folding) : Bool := f.broken || !f.blanksReversed.isEmpty

def addBlank (f : Folding) (c : Char) : Folding :=
  if f.broken then f else { f with blanksReversed := c :: f.blanksReversed }

def addBreak (f : Folding) (c : Char) : Folding :=
  if f.broken then { f with breaksReversed := c :: f.breaksReversed }
  else { f with blanksReversed := [], broken := true, firstBreak := some c }

/-- What a gap turns into, last character first. -/
def gapReversed (f : Folding) : List Char :=
  if f.broken then
    match f.firstBreak with
    | none => f.breaksReversed
    | some '\n' => if f.breaksReversed.isEmpty then [' '] else f.breaksReversed
    | some c => f.breaksReversed ++ [c]
  else f.blanksReversed

/-- Turn the gap into text. -/
def join (f : Folding) : Folding := ⟨f.gapReversed ++ f.textReversed, [], false, none, []⟩

/-- Add a character after the gap. -/
def push (f : Folding) (c : Char) : Folding :=
  ⟨c :: (f.gapReversed ++ f.textReversed), [], false, none, []⟩

/-- End the line without its end counting. -/
def escapeBreak (f : Folding) : Folding := { f.join with broken := true }

/-- What has been read, without the gap after it. -/
def text (f : Folding) : String := String.ofList f.textReversed.reverse

end Folding

/-- Marks of the structure inside brackets. -/
def flowMarks : List Char := [',', '[', ']', '\x7b', '\x7d']

/-- An unquoted scalar ends before this character. -/
def endsPlain (inFlow : Bool) (c : Char) (rest : List Glyph) : Bool :=
  (c == ':' && startsBlank rest) || (inFlow && flowMarks.contains c)

/-- After a gap, an unquoted scalar does not go on with this character. -/
def endsPlainAfterGap (inFlow : Bool) (indent : Int) (g : Glyph) (rest : List Glyph) : Bool :=
  (!inFlow && decide ((g.column : Int) < indent)) || startsMarker (g :: rest) || g.char == '#'

/-- Read an unquoted scalar, whose further lines are indented by so much at least. -/
def readPlain (inFlow : Bool) (indent : Int) (f : Folding) :
    List Glyph → Except Fault (Folding × List Glyph)
  | [] => .ok (f, [])
  | g :: gs =>
      if isBlank g.char then
        if f.broken && g.char == '\t' && decide ((g.column : Int) < indent) then
          .error .tabIndentation
        else readPlain inFlow indent (f.addBlank g.char) gs
      else if isBreak g.char then readPlain inFlow indent (f.addBreak g.char) gs
      else if f.inGap && endsPlainAfterGap inFlow indent g gs then .ok (f, g :: gs)
      else if inFlow && g.char == ':' && startsWithOneOf ('?' :: flowMarks) gs then
        .error .malformedScalar
      else if endsPlain inFlow g.char gs then .ok (f, g :: gs)
      else readPlain inFlow indent (f.push g.char) gs

/-- Read a scalar after its single quote. A quote inside it is written twice. -/
def readSingleQuoted (f : Folding) : List Glyph → Except Fault (Folding × List Glyph)
  | [] => .error .unfinishedScalar
  | g :: gs =>
      if isBlank g.char then readSingleQuoted (f.addBlank g.char) gs
      else if isBreak g.char then readSingleQuoted (f.addBreak g.char) gs
      else if startsMarker (g :: gs) then .error .malformedScalar
      else if g.char == '\'' then
        match gs with
        | next :: rest =>
            if next.char == '\'' then readSingleQuoted (f.push '\'') rest
            else .ok (f.join, next :: rest)
        | [] => .ok (f.join, [])
      else readSingleQuoted (f.push g.char) gs

/-- The character that a letter after a backslash stands for. -/
def escaped? (c : Char) : Option Char :=
  match c with
  | '0' => some '\x00'
  | 'a' => some '\x07'
  | 'b' => some '\x08'
  | 't' | '\t' => some '\t'
  | 'n' => some '\n'
  | 'v' => some '\x0b'
  | 'f' => some '\x0c'
  | 'r' => some '\r'
  | 'e' => some '\x1b'
  | ' ' => some ' '
  | '"' => some '"'
  | '/' => some '/'
  | '\\' => some '\\'
  | 'N' => some '\u0085'
  | '_' => some '\u00a0'
  | 'L' => some '\u2028'
  | 'P' => some '\u2029'
  | _ => none

/-- Digits of a character's number after a letter. -/
def escapeDigits? (c : Char) : Option Nat :=
  match c with
  | 'x' => some 2
  | 'u' => some 4
  | 'U' => some 8
  | _ => none

/-- A character by its number. -/
def charOfNumber? (n : Nat) : Option Char :=
  if n < 0xd800 ∨ (0xdfff < n ∧ n < 0x110000) then some (Char.ofNat n) else none

/-- Where a reader of a double-quoted scalar stands. -/
inductive EscapeState where
  | outside
  /-- After a backslash. -/
  | letter
  /-- Inside a number of which so many digits are left. -/
  | number (left value : Nat)
  deriving DecidableEq, Repr

/-- Read a scalar after its double quote. -/
def readDoubleQuoted (f : Folding) (state : EscapeState) :
    List Glyph → Except Fault (Folding × List Glyph)
  | [] => .error .unfinishedScalar
  | g :: gs =>
      match state with
      | .letter =>
          if isBreak g.char then readDoubleQuoted f.escapeBreak .outside gs
          else match escaped? g.char, escapeDigits? g.char with
            | some c, _ => readDoubleQuoted (f.push c) .outside gs
            | none, some left => readDoubleQuoted f (.number left 0) gs
            | none, none => .error .malformedScalar
      | .number left value =>
          match Text.Decimal.digit? 16 g.char with
          | none => .error .malformedScalar
          | some digit =>
              let next := value * 16 + digit
              if left ≤ 1 then
                match charOfNumber? next with
                | none => .error .malformedScalar
                | some c => readDoubleQuoted (f.push c) .outside gs
              else readDoubleQuoted f (.number (left - 1) next) gs
      | .outside =>
          if isBlank g.char then readDoubleQuoted (f.addBlank g.char) .outside gs
          else if isBreak g.char then readDoubleQuoted (f.addBreak g.char) .outside gs
          else if startsMarker (g :: gs) then .error .malformedScalar
          else if g.char == '"' then .ok (f.join, gs)
          else if g.char == '\\' then readDoubleQuoted f .letter gs
          else readDoubleQuoted (f.push g.char) .outside gs

end SddsReceiver.Yaml
