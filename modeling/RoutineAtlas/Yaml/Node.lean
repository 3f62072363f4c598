import RoutineAtlas.Yaml.Token

/-
This file builds the tree of a YAML document from its tokens. An alias stays in the tree as the
number of its anchor, and the document knows the node that each number stands for.
-/

namespace RoutineAtlas

/-- A node is a scalar with its style and tag, a sequence, a mapping or an alias. -/
inductive YamlNode where
  | scalar (text : String) (style : ScalarStyle) (tag : Option String)
  | sequence (items : List YamlNode)
  | mapping (entries : List (YamlNode × YamlNode))
  | alias (number : Nat)
  deriving Inhabited

/-- What is left out is an empty plain scalar. -/
def YamlNode.missing : YamlNode :=
  .scalar "" .plain none

/-- A node that has an anchor is kept with the number of the anchor. -/
structure AnchoredNode where
  number : Nat
  node : YamlNode
  deriving Inhabited

/-- A document is its root and the nodes with anchors, in the order in which they begin. -/
structure YamlDocument where
  root : YamlNode
  anchored : List AnchoredNode
  deriving Inhabited

/-- Of the nodes with one number the last stands for it, even where it comes behind the alias. -/
def YamlDocument.target (document : YamlDocument) (number : Nat) : Option YamlNode :=
  (document.anchored.findRev? fun anchored => anchored.number == number).map AnchoredNode.node

/-- An alias means the node that its number stands for, and any other node means itself. -/
def YamlDocument.meaning (document : YamlDocument) (node : YamlNode) : YamlNode :=
  match node with
  | .alias number => (document.target number).getD .missing
  | _ => node

/-- A reader keeps the tokens that are left, the numbers of the anchors, the nodes that have
anchors and the tag handles. -/
structure NodeReader where
  tokens : List YamlToken
  anchors : List (String × Nat)
  anchored : List AnchoredNode
  handles : List (String × String)

/-- The next token is dropped. -/
def NodeReader.drop (reader : NodeReader) : NodeReader :=
  { reader with tokens := reader.tokens.drop 1 }

/-- The next token is one of these. -/
def NodeReader.sees (reader : NodeReader) (tokens : List YamlToken) : Bool :=
  reader.tokens.head?.any tokens.contains

/-- A node with an anchor begins. The number of the anchor is the count of the names before it, so
a name that comes again may share its number with the next new name. -/
def NodeReader.open (reader : NodeReader) (anchor : Option String) : NodeReader :=
  match anchor with
  | some name =>
      let number := reader.anchors.length
      { reader with
        anchors := (name, number) :: reader.anchors.filter fun entry => entry.1 != name
        anchored := reader.anchored ++ [{ number, node := .missing }] }
  | none => reader

/-- A node that began in some place among those with anchors is complete. -/
def NodeReader.close (reader : NodeReader) (anchor : Option String) (place : Nat)
    (node : YamlNode) : NodeReader :=
  if anchor.isSome then
    { reader with anchored := reader.anchored.modify place fun anchored =>
        { anchored with node } }
  else reader

/-- These handles need no directive. -/
def usualHandles : List (String × String) :=
  [("!", "!"), ("!!", "tag:yaml.org,2002:")]

/-- A tag is written out, and its handle must be known. -/
def NodeReader.resolveTag (reader : NodeReader) (tag : TagText) : Option String :=
  if tag.handle = "" then some tag.suffix
  else ((reader.handles ++ usualHandles).lookup tag.handle).map fun lead => lead ++ tag.suffix

/-- The properties of a node are its anchor and its tag. -/
structure NodeProperties where
  anchor : Option String
  tag : Option TagText
  deriving DecidableEq, Repr

/-- The anchor and the tag come in either order, each at most once. -/
def NodeReader.properties (reader : NodeReader) : NodeProperties × NodeReader :=
  match reader.tokens with
  | .anchor name :: .tag tag :: rest =>
      ({ anchor := some name, tag := some tag }, { reader with tokens := rest })
  | .tag tag :: .anchor name :: rest =>
      ({ anchor := some name, tag := some tag }, { reader with tokens := rest })
  | .anchor name :: rest => ({ anchor := some name, tag := none }, { reader with tokens := rest })
  | .tag tag :: rest => ({ anchor := none, tag := some tag }, { reader with tokens := rest })
  | _ => ({ anchor := none, tag := none }, reader)

mutual

/-- A node is an alias, or properties and content, of which one may be left out. -/
def readNode : (fuel : Nat) → (inBlock unindented : Bool) → NodeReader →
    Option (YamlNode × NodeReader)
  | 0, _, _, _ => none
  | fuel + 1, inBlock, unindented, reader =>
      match reader.tokens with
      | .alias name :: _ =>
          (reader.anchors.lookup name).map fun number => (.alias number, reader.drop)
      | _ =>
          let (properties, start) := reader.properties
          match properties.tag.mapM start.resolveTag with
          | none => none
          | some tag => readContent fuel inBlock unindented properties.anchor tag start

/-- The content of a node depends on the token that begins it. -/
def readContent : (fuel : Nat) → (inBlock unindented : Bool) → (anchor tag : Option String) →
    NodeReader → Option (YamlNode × NodeReader)
  | 0, _, _, _, _, _ => none
  | fuel + 1, inBlock, unindented, anchor, tag, reader =>
      let opened := reader.open anchor
      let finish (node : YamlNode) (rest : NodeReader) : YamlNode × NodeReader :=
        (node, rest.close anchor reader.anchored.length node)
      let collection (read : Option (List YamlNode × NodeReader)) :=
        read.map fun (items, rest) => finish (.sequence items) rest
      let table (read : Option (List (YamlNode × YamlNode) × NodeReader)) :=
        read.map fun (entries, rest) => finish (.mapping entries) rest
      match reader.tokens with
      | .scalar text style :: _ =>
          some (finish (.scalar text style tag) opened.drop)
      | .flowSequenceStart :: _ => collection (readFlowItems fuel true opened.drop)
      | .flowMappingStart :: _ => table (readFlowEntries fuel true opened.drop)
      | .blockEntry :: _ =>
          if unindented then collection (readPlainItems fuel opened)
          else if anchor.isSome || tag.isSome then
            some (finish (.scalar "" .plain tag) opened)
          else none
      | .blockSequenceStart :: _ =>
          if inBlock then collection (readBlockItems fuel opened.drop)
          else if anchor.isSome || tag.isSome then
            some (finish (.scalar "" .plain tag) opened)
          else none
      | .blockMappingStart :: _ =>
          if inBlock then table (readBlockEntries fuel opened.drop)
          else if anchor.isSome || tag.isSome then
            some (finish (.scalar "" .plain tag) opened)
          else none
      | _ =>
          if anchor.isSome || tag.isSome then some (finish (.scalar "" .plain tag) opened)
          else none

/-- A node may be left out before one of these tokens. -/
def readOptional : (fuel : Nat) → (inBlock unindented : Bool) → (stops : List YamlToken) →
    NodeReader → Option (YamlNode × NodeReader)
  | 0, _, _, _, _ => none
  | fuel + 1, inBlock, unindented, stops, reader =>
      if reader.sees stops then some (.missing, reader)
      else readNode fuel inBlock unindented reader

/-- A value follows its colon, and both may be missing. -/
def readValue : (fuel : Nat) → (inBlock : Bool) → (stops : List YamlToken) → NodeReader →
    Option (YamlNode × NodeReader)
  | 0, _, _, _ => none
  | fuel + 1, inBlock, stops, reader =>
      if reader.sees [.value] then readOptional fuel inBlock inBlock stops reader.drop
      else some (.missing, reader)

/-- The entries of a block mapping go to the end of the block. -/
def readBlockEntries : (fuel : Nat) → NodeReader →
    Option (List (YamlNode × YamlNode) × NodeReader)
  | 0, _ => none
  | fuel + 1, reader =>
      match reader.tokens with
      | .blockEnd :: _ => some ([], reader.drop)
      | .key :: _ => do
          let (key, afterKey) ←
            readOptional fuel true true [.key, .value, .blockEnd] reader.drop
          let (value, afterValue) ← readValue fuel true [.key, .value, .blockEnd] afterKey
          let (entries, rest) ← readBlockEntries fuel afterValue
          pure ((key, value) :: entries, rest)
      | _ => none

/-- The items of a block sequence go to the end of the block. -/
def readBlockItems : (fuel : Nat) → NodeReader → Option (List YamlNode × NodeReader)
  | 0, _ => none
  | fuel + 1, reader =>
      match reader.tokens with
      | .blockEnd :: _ => some ([], reader.drop)
      | .blockEntry :: _ => do
          let (item, afterItem) ←
            readOptional fuel true false [.blockEntry, .blockEnd] reader.drop
          let (items, rest) ← readBlockItems fuel afterItem
          pure (item :: items, rest)
      | _ => none

/-- The items of a sequence that is not indented end with the last hyphen. -/
def readPlainItems : (fuel : Nat) → NodeReader → Option (List YamlNode × NodeReader)
  | 0, _ => none
  | fuel + 1, reader =>
      match reader.tokens with
      | .blockEntry :: _ => do
          let (item, afterItem) ←
            readOptional fuel true false [.blockEntry, .key, .value, .blockEnd] reader.drop
          let (items, rest) ← readPlainItems fuel afterItem
          pure (item :: items, rest)
      | _ => some ([], reader)

/-- The key of a pair in a flow sequence. Where the key is left out, the token that shows it is
used up. -/
def readPairKey : (fuel : Nat) → NodeReader → Option (YamlNode × NodeReader)
  | 0, _ => none
  | fuel + 1, reader =>
      if reader.sees [.value, .flowEntry, .flowSequenceEnd] then some (.missing, reader.drop)
      else readNode fuel false false reader

/-- The items of a flow sequence have commas between them, and one may be a pair. -/
def readFlowItems : (fuel : Nat) → (first : Bool) → NodeReader →
    Option (List YamlNode × NodeReader)
  | 0, _, _ => none
  | fuel + 1, first, reader =>
      if reader.sees [.flowSequenceEnd] then some ([], reader.drop)
      else do
        let start ← if first then some reader
          else if reader.sees [.flowEntry] then some reader.drop else none
        if start.sees [.flowSequenceEnd] then pure ([], start.drop)
        else
          let (item, afterItem) ←
            if start.sees [.key] then do
              let (key, afterKey) ← readPairKey fuel start.drop
              let (value, afterValue) ←
                readValue fuel false [.flowEntry, .flowSequenceEnd] afterKey
              pure (.mapping [(key, value)], afterValue)
            else readNode fuel false false start
          let (items, rest) ← readFlowItems fuel false afterItem
          pure (item :: items, rest)

/-- The entries of a flow mapping have commas between them, and a key may lack a value. -/
def readFlowEntries : (fuel : Nat) → (first : Bool) → NodeReader →
    Option (List (YamlNode × YamlNode) × NodeReader)
  | 0, _, _ => none
  | fuel + 1, first, reader =>
      if reader.sees [.flowMappingEnd] then some ([], reader.drop)
      else do
        let start ← if first then some reader
          else if reader.sees [.flowEntry] then some reader.drop else none
        if start.sees [.flowMappingEnd] then pure ([], start.drop)
        else
          let (entry, afterEntry) ←
            if start.sees [.key] then do
              let stops := [YamlToken.value, .flowEntry, .flowMappingEnd]
              let (key, afterKey) ← readOptional fuel false false stops start.drop
              let (value, afterValue) ←
                readValue fuel false [.flowEntry, .flowMappingEnd] afterKey
              pure ((key, value), afterValue)
            else do
              let (key, afterKey) ← readNode fuel false false start
              pure ((key, YamlNode.missing), afterKey)
          let (entries, rest) ← readFlowEntries fuel false afterEntry
          pure (entry :: entries, rest)

end

/-- The directives before a document name its version once, and each handle once. -/
def readDirectives : List YamlToken → (versionSeen : Bool) → List (String × String) →
    Option (List (String × String) × List YamlToken)
  | .versionDirective major minor :: rest, versionSeen, handles =>
      if versionSeen || major != 1 || (minor != 1 && minor != 2) then none
      else readDirectives rest true handles
  | .tagDirective handle lead :: rest, versionSeen, handles =>
      if (handles.lookup handle).isSome then none
      else readDirectives rest versionSeen ((handle, lead) :: handles)
  | tokens, _, handles => some (handles, tokens)

/-- This token begins a document or stands before one. -/
def isDocumentToken : YamlToken → Bool
  | .versionDirective _ _ => true
  | .tagDirective _ _ => true
  | .documentStart => true
  | .documentEnd => true
  | _ => false

/-- The markers of ended documents are passed. -/
def skipDocumentEnds (tokens : List YamlToken) : List YamlToken :=
  tokens.dropWhile (· == .documentEnd)

/-- A stream holds one document at most, and an empty stream holds none. -/
inductive YamlStream where
  | empty
  | document (content : YamlDocument)
  deriving Inhabited

/-- The content of a document that has begun, and the tokens after it. -/
def readDocument (handles : List (String × String)) (tokens : List YamlToken) :
    Option (YamlDocument × List YamlToken) :=
  let reader : NodeReader := { tokens, anchors := [], anchored := [], handles }
  if tokens.head?.all isDocumentToken then
    some ({ root := .missing, anchored := [] }, tokens)
  else
    (readNode (8 * tokens.length + 8) true false reader).map fun (root, rest) =>
      ({ root, anchored := rest.anchored }, rest.tokens)

/-- A document begins without a marker, or with directives and a marker. -/
def YamlStream.ofTokens (tokens : List YamlToken) : Option YamlStream :=
  match tokens with
  | [] => some .empty
  | .documentEnd :: _ => none
  | first :: _ => do
      let (handles, body) ←
        if isDocumentToken first then
          match readDirectives tokens false [] with
          | some (handles, .documentStart :: rest) => some (handles, rest)
          | _ => none
        else some ([], tokens)
      let (content, rest) ← readDocument handles body
      if (skipDocumentEnds rest).isEmpty then pure (.document content) else none

/-- A text is read as a stream with one document at most. -/
def YamlStream.read (text : String) : Option YamlStream := do
  let tokens ← YamlToken.scan text.toList
  YamlStream.ofTokens tokens

end RoutineAtlas
