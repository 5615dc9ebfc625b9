import SddsReceiver.Yaml.Outline

/-!
# The tree of a text

The tokens of a text as one document of settings. A node may be left out: after a mark for an
item, a key or a value that nothing follows there stands an empty unquoted scalar. Only names
that were given before may stand for a node. A text holds at most one document, and none at
all if it has no tokens.
-/
namespace SddsReceiver.Yaml

open Settings (Node Document)

/-- Names of nodes are numbered: a name takes the number of names known before it, so one that
is given again takes a number that the next new name takes, too. -/
structure Place where
  tokens : List Token
  /-- Each name with its last number. -/
  names : List (String × Nat)
  /-- Numbered nodes, the one that starts last in front. -/
  anchors : List (Nat × Node)
  deriving Repr

abbrev Reader (α : Type) := StateT Place (Except Fault) α

namespace Reader

def peek : Reader (Option Token) := do
  return (← get).tokens.head?

def skip : Reader Unit :=
  modify fun p => { p with tokens := p.tokens.tail }

/-- The next token is one of these. -/
def nextIsOneOf (tokens : List Token) : Reader Bool := do
  match ← peek with
  | some token => return tokens.contains token
  | none => return false

/-- Skip the next token if it is this one. -/
def skipIf (token : Token) : Reader Bool := do
  let found ← nextIsOneOf [token]
  if found then skip
  return found

/-- Give a name to the node that comes next. -/
def bindName (name : String) : Reader Nat := do
  let p ← get
  let number := p.names.length
  set { p with names := (name, number) :: p.names.filter fun known => known.1 != name }
  return number

/-- The number of a name that was given before. -/
def numberOf (name : String) : Reader Nat := do
  match (← get).names.lookup name with
  | some number => return number
  | none => throw .unknownAnchor

/-- Enter a named node that starts after a number of others. -/
def record (number before : Nat) (node : Node) : Reader Unit :=
  modify fun p =>
    let later := p.anchors.length - before
    { p with anchors := p.anchors.take later ++ (number, node) :: p.anchors.drop later }

end Reader

open Reader

/-- Where a node stands. -/
inductive Surroundings where
  /-- An item of a sequence, or the whole document. -/
  | item
  /-- A key or a value that indentation shows; its items need no further indentation. -/
  | field
  /-- Inside brackets. -/
  | flow
  deriving DecidableEq, Repr

/-- What stands in front of a node. -/
structure Annotation where
  name : Option String
  tag : Option String
  deriving DecidableEq, Repr

/-- Handles that every document knows. -/
def commonHandles : List (String × String) := [("!", "!"), ("!!", "tag:yaml.org,2002:")]

/-- A tag by its handle. -/
def resolveTag (handles : List (String × String)) (handle suffix : String) :
    Except Fault String :=
  if handle.isEmpty then .ok suffix
  else match (handles ++ commonHandles).lookup handle with
    | some beginning => .ok (beginning ++ suffix)
    | none => .error .unknownTagHandle

def readTagToken (handles : List (String × String)) : Reader (Option String) := do
  match ← peek with
  | some (.tag handle suffix) => do
      skip
      return some (← resolveTag handles handle suffix)
  | _ => return none

def readAnchorToken : Reader (Option String) := do
  match ← peek with
  | some (.anchor name) => do
      skip
      return some name
  | _ => return none

/-- Read a name and a tag in either order. -/
def readAnnotation (handles : List (String × String)) : Reader Annotation := do
  match ← readAnchorToken with
  | some name => return ⟨some name, ← readTagToken handles⟩
  | none =>
      let tag ← readTagToken handles
      return ⟨← if tag.isSome then readAnchorToken else pure none, tag⟩

def emptyNode (tag : Option String) : Node := .scalar (.written "" .plain tag)

/-- The tag that leaves the kind open. -/
def openTag : String := "!"

mutual

/-- Read a node. -/
def readNode (handles : List (String × String)) : Nat → Surroundings → Reader Node
  | 0, _ => throw .tooDeep
  | fuel + 1, surroundings => do
      match ← peek with
      | some (.alias name) => do
          skip
          return .alias (← numberOf name)
      | _ =>
          let annotation ← readAnnotation handles
          match annotation.name with
          | none => readContent handles fuel surroundings annotation
          | some name =>
              let before := (← get).anchors.length
              let number ← bindName name
              let node ← readContent handles fuel surroundings annotation
              record number before node
              return node

/-- Read a node without what stands in front of it. -/
def readContent (handles : List (String × String)) :
    Nat → Surroundings → Annotation → Reader Node
  | 0, _, _ => throw .tooDeep
  | fuel + 1, surroundings, annotation => do
      match ← peek, surroundings with
      | some (.scalar text style), _ => do
          skip
          let tag := annotation.tag.filter fun tag => tag != openTag
          return .scalar (.written text style tag)
      | some .flowSequence, _ => do
          skip
          return .sequence (← readFlowItems handles fuel true)
      | some .flowMapping, _ => do
          skip
          return .mapping (← readFlowEntries handles fuel true)
      | some .blockEntry, .field => do
          return .sequence (← readBareItems handles fuel)
      | some .blockSequence, .item | some .blockSequence, .field => do
          skip
          return .sequence (← readItems handles fuel)
      | some .blockMapping, .item | some .blockMapping, .field => do
          skip
          return .mapping (← readEntries handles fuel)
      | _, _ =>
          if annotation.name.isSome || annotation.tag.isSome then return emptyNode annotation.tag
          else throw .missingNode

/-- Read a node, unless one of these tokens comes in its place. -/
def readNodeUnless (handles : List (String × String)) :
    Nat → Surroundings → List Token → Reader Node
  | 0, _, _ => throw .tooDeep
  | fuel + 1, surroundings, ends => do
      if ← nextIsOneOf ends then return emptyNode none
      else readNode handles fuel surroundings

/-- Read the items of a sequence up to its end. -/
def readItems (handles : List (String × String)) : Nat → Reader (List Node)
  | 0 => throw .tooDeep
  | fuel + 1 => do
      if ← skipIf .blockEnd then return []
      if !(← skipIf .blockEntry) then throw .misplacedEntry
      let item ← readNodeUnless handles fuel .item [.blockEntry, .blockEnd]
      return item :: (← readItems handles fuel)

/-- Read the items of a sequence that starts in the column of the key before it. -/
def readBareItems (handles : List (String × String)) : Nat → Reader (List Node)
  | 0 => throw .tooDeep
  | fuel + 1 => do
      if !(← skipIf .blockEntry) then return []
      let item ← readNodeUnless handles fuel .item [.blockEntry, .key, .value, .blockEnd]
      return item :: (← readBareItems handles fuel)

/-- Read the entries of a mapping up to its end. -/
def readEntries (handles : List (String × String)) : Nat → Reader (List (Node × Node))
  | 0 => throw .tooDeep
  | fuel + 1 => do
      if ← skipIf .blockEnd then return []
      if !(← skipIf .key) then throw .misplacedKey
      let key ← readNodeUnless handles fuel .field [.key, .value, .blockEnd]
      let hasValue ← skipIf .value
      let value ←
        if hasValue then readNodeUnless handles fuel .field [.key, .value, .blockEnd]
        else pure (emptyNode none)
      return (key, value) :: (← readEntries handles fuel)

/-- Read the value of an entry inside brackets, where there is one. -/
def readFlowValue (handles : List (String × String)) : Nat → Token → Reader Node
  | 0, _ => throw .tooDeep
  | fuel + 1, close => do
      if ← skipIf .value then readNodeUnless handles fuel .flow [.flowEntry, close]
      else return emptyNode none

/-- Read the items of a sequence in brackets up to the closing one. A key among them makes a
mapping of one entry; where nothing follows the mark of the key, the next token is lost. -/
def readFlowItems (handles : List (String × String)) : Nat → Bool → Reader (List Node)
  | 0, _ => throw .tooDeep
  | fuel + 1, first => do
      if ← skipIf .flowSequenceEnd then return []
      if !first && !(← skipIf .flowEntry) then throw .missingSeparator
      if ← skipIf .flowSequenceEnd then return []
      let item ←
        if ← skipIf .key then do
          let keyMissing ← nextIsOneOf [.value, .flowEntry, .flowSequenceEnd]
          let key ← readNodeUnless handles fuel .flow [.value, .flowEntry, .flowSequenceEnd]
          if keyMissing then skip
          let value ← readFlowValue handles fuel .flowSequenceEnd
          pure (.mapping [(key, value)])
        else readNode handles fuel .flow
      return item :: (← readFlowItems handles fuel false)

/-- Read the entries of a mapping in braces up to the closing one. -/
def readFlowEntries (handles : List (String × String)) :
    Nat → Bool → Reader (List (Node × Node))
  | 0, _ => throw .tooDeep
  | fuel + 1, first => do
      if ← skipIf .flowMappingEnd then return []
      if !first && !(← skipIf .flowEntry) then throw .missingSeparator
      if ← skipIf .flowMappingEnd then return []
      if ← skipIf .key then do
        let key ← readNodeUnless handles fuel .flow [.value, .flowEntry, .flowMappingEnd]
        let value ← readFlowValue handles fuel .flowMappingEnd
        return (key, value) :: (← readFlowEntries handles fuel false)
      else do
        let key ← readNode handles fuel .flow
        return (key, emptyNode none) :: (← readFlowEntries handles fuel false)

end

/-- Read the directives in front of a document: the handles, and what comes after. -/
def readDirectives (versioned : Bool) (handles : List (String × String)) :
    List Token → Except Fault (List (String × String) × List Token)
  | .version major minor :: tokens =>
      if versioned || major != 1 || (minor != 1 && minor != 2) then .error .malformedDirective
      else readDirectives true handles tokens
  | .shorthand handle beginning :: tokens =>
      if (handles.lookup handle).isSome then .error .malformedDirective
      else readDirectives versioned ((handle, beginning) :: handles) tokens
  | tokens => .ok (handles, tokens)

/-- A document that has been announced ends before this token. -/
def Token.endsDocument : Token → Bool
  | version _ _ | shorthand _ _ | documentStart | documentEnd => true
  | _ => false

/-- The body of a document, whose start is announced if it has directives. -/
def bodyOf (directives : Bool) : List Token → Except Fault (Bool × List Token)
  | .documentStart :: tokens =>
      .ok (match tokens with
        | [] => true
        | token :: _ => token.endsDocument, tokens)
  | tokens => if directives then .error .missingDocumentStart else .ok (false, tokens)

/-- The document that tokens form. -/
def documentOf (tokens : List Token) : Except Fault Document := do
  if tokens.isEmpty then return ⟨none, [], false⟩
  let (handles, announced) ← readDirectives false [] tokens
  let (isEmpty, body) ← bodyOf (announced.length < tokens.length) announced
  let read : Reader Node :=
    if isEmpty then pure (emptyNode none) else readNode handles (4 * body.length + 4) .item
  let (root, after) ← read.run ⟨body, [], []⟩
  if after.tokens.any fun token => token != .documentEnd then throw .severalDocuments
  return ⟨some root, after.anchors, false⟩

/-- The document that a text holds. -/
def parse (text : String) : Except Fault Document := do
  documentOf (← tokens (← glyphs text))

end SddsReceiver.Yaml
