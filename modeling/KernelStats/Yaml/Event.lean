import KernelStats.Yaml.Token

/-!
# Events of a YAML document

The tokens of a document are read as events: scalars, aliases, and the beginnings and ends of
collections. What is still expected is kept on a stack. A part that is missing, such as the value of
a key, becomes an empty plain scalar. `Draft.events` holds what could be read even if the document is
broken further on.
-/

namespace KernelStats.Yaml

structure Scalar where
  text : String
  style : Style
  tag : Option String := none
deriving Repr, DecidableEq

inductive Event where
  | alias (name : String)
  | scalar (s : Scalar) (anchor : Option String)
  | sequenceStart (anchor : Option String)
  | sequenceEnd
  | mappingStart (anchor : Option String)
  | mappingEnd
deriving Repr, DecidableEq

/-- What is expected next. A node may stand in a block collection, and it may be a sequence at the
indentation of the mapping that holds it. -/
inductive Expected where
  | documentContent
  | node (block indentless : Bool)
  | blockSequenceFirst
  | blockSequenceEntry
  | indentlessEntry
  | blockMappingFirst
  | blockMappingKey
  | blockMappingValue
  | flowSequenceFirst
  | flowSequenceEntry
  | flowPairKey
  | flowPairValue
  | flowPairEnd
  | flowMappingFirst
  | flowMappingKey
  | flowMappingValue
  | flowMappingNoValue

abbrev TagTable := List (List Char × List Char)

def TagTable.standard : TagTable := [(['!'], ['!']), ("!!".toList, "tag:yaml.org,2002:".toList)]

def TagTable.resolve? (table : TagTable) (name : TagName) : Option String :=
  if name.handle.isEmpty then some (.ofList name.suffix)
  else (table.find? (·.1 == name.handle)).map fun entry => .ofList (entry.2 ++ name.suffix)

structure Draft where
  tokens : List Token
  expected : List Expected
  tags : TagTable
  reversed : List Event := []

namespace Draft

def events (d : Draft) : List Event := d.reversed.reverse

def emit (d : Draft) (e : Event) : Draft := { d with reversed := e :: d.reversed }

def expect (d : Draft) (e : Expected) : Draft := { d with expected := e :: d.expected }

def skip (d : Draft) : Draft := { d with tokens := d.tokens.tail }

def missing (d : Draft) : Draft := d.emit (.scalar { text := "", style := .plain } none)

structure Properties where
  anchor : Option String := none
  tag : Option TagName := none

def takeProperties (d : Draft) : Properties × Draft :=
  match d.tokens with
  | .anchor a :: .tag t :: rest => ({ anchor := some a, tag := some t }, { d with tokens := rest })
  | .anchor a :: rest => ({ anchor := some a }, { d with tokens := rest })
  | .tag t :: .anchor a :: rest => ({ anchor := some a, tag := some t }, { d with tokens := rest })
  | .tag t :: rest => ({ tag := some t }, { d with tokens := rest })
  | _ => ({}, d)

def resolve? (d : Draft) : Option TagName → Option (Option String)
  | none => some none
  | some t => (d.tags.resolve? t).map some

/-- Reads a node. The tag `!` says nothing about a scalar that has content. -/
def node? (d : Draft) (block indentless : Bool) : Option Draft :=
  match d.tokens with
  | .alias name :: _ => some (d.skip.emit (.alias name))
  | _ => do
    let (p, d) := d.takeProperties
    let tag ← d.resolve? p.tag
    match d.tokens, block, indentless with
    | .blockEntry :: _, _, true =>
      some ((d.emit (.sequenceStart p.anchor)).expect .indentlessEntry)
    | .scalar text style :: _, _, _ =>
      let tag := if tag == some "!" then none else tag
      some (d.skip.emit (.scalar { text, style, tag } p.anchor))
    | .flowSequenceStart :: _, _, _ =>
      some ((d.emit (.sequenceStart p.anchor)).expect .flowSequenceFirst)
    | .flowMappingStart :: _, _, _ =>
      some ((d.emit (.mappingStart p.anchor)).expect .flowMappingFirst)
    | .blockSequenceStart :: _, true, _ =>
      some ((d.emit (.sequenceStart p.anchor)).expect .blockSequenceFirst)
    | .blockMappingStart :: _, true, _ =>
      some ((d.emit (.mappingStart p.anchor)).expect .blockMappingFirst)
    | [], _, _ => none
    | _, _, _ =>
      if p.anchor.isSome || tag.isSome then
        some (d.emit (.scalar { text := "", style := .plain, tag } p.anchor))
      else none

def entry? (d : Draft) (again : Expected) (ends : Token → Bool) : Option Draft :=
  match d.tokens with
  | [] => none
  | t :: _ =>
    if ends t then some (d.missing.expect again)
    else some ((d.expect again).expect (.node true false))

def part? (d : Draft) (next : Expected) (inBlock : Bool) (ends : Token → Bool) : Option Draft :=
  match d.tokens with
  | [] => none
  | t :: _ =>
    if ends t then some (d.missing.expect next)
    else some ((d.expect next).expect (.node inBlock inBlock))

def endsBlockEntry : Token → Bool
  | .blockEntry | .blockEnd => true
  | _ => false

def endsIndentlessEntry : Token → Bool
  | .blockEntry | .key | .value | .blockEnd => true
  | _ => false

def endsBlockPart : Token → Bool
  | .key | .value | .blockEnd => true
  | _ => false

def endsFlowPairKey : Token → Bool
  | .value | .flowEntry | .flowSequenceEnd => true
  | _ => false

def endsFlowPairValue : Token → Bool
  | .flowEntry | .flowSequenceEnd => true
  | _ => false

def endsFlowKey : Token → Bool
  | .value | .flowEntry | .flowMappingEnd => true
  | _ => false

def endsFlowValue : Token → Bool
  | .flowEntry | .flowMappingEnd => true
  | _ => false

def blockSequence? (d : Draft) : Option Draft :=
  match d.tokens with
  | .blockEntry :: _ => d.skip.entry? .blockSequenceEntry endsBlockEntry
  | .blockEnd :: _ => some (d.skip.emit .sequenceEnd)
  | _ => none

def indentless? (d : Draft) : Option Draft :=
  match d.tokens with
  | .blockEntry :: _ => d.skip.entry? .indentlessEntry endsIndentlessEntry
  | [] => none
  | _ => some (d.emit .sequenceEnd)

def blockMapping? (d : Draft) : Option Draft :=
  match d.tokens with
  | .key :: _ => d.skip.part? .blockMappingValue true endsBlockPart
  | .blockEnd :: _ => some (d.skip.emit .mappingEnd)
  | _ => none

def blockValue? (d : Draft) : Option Draft :=
  match d.tokens with
  | .value :: _ => d.skip.part? .blockMappingKey true endsBlockPart
  | [] => none
  | _ => some (d.missing.expect .blockMappingKey)

def flowItem? (d : Draft) : Option Draft :=
  match d.tokens with
  | [] => none
  | .key :: _ => some ((d.skip.emit (.mappingStart none)).expect .flowPairKey)
  | .flowSequenceEnd :: _ => some (d.skip.emit .sequenceEnd)
  | _ => some ((d.expect .flowSequenceEntry).expect (.node false false))

def flowSequence? (d : Draft) : Option Draft :=
  match d.tokens with
  | .flowEntry :: _ => d.skip.flowItem?
  | .flowSequenceEnd :: _ => some (d.skip.emit .sequenceEnd)
  | _ => none

/-- The key of a pair in a flow sequence. A token that leaves no room for a key is taken with it. -/
def flowPairKey? (d : Draft) : Option Draft :=
  match d.tokens with
  | [] => none
  | t :: _ =>
    if endsFlowPairKey t then some (d.skip.missing.expect .flowPairValue)
    else some ((d.expect .flowPairValue).expect (.node false false))

def flowPairValue? (d : Draft) : Option Draft :=
  match d.tokens with
  | .value :: _ => d.skip.part? .flowPairEnd false endsFlowPairValue
  | [] => none
  | _ => some (d.missing.expect .flowPairEnd)

def flowKey? (d : Draft) : Option Draft :=
  match d.tokens with
  | [] => none
  | .key :: _ => d.skip.part? .flowMappingValue false endsFlowKey
  | .flowMappingEnd :: _ => some (d.skip.emit .mappingEnd)
  | _ => some ((d.expect .flowMappingNoValue).expect (.node false false))

def flowMapping? (d : Draft) : Option Draft :=
  match d.tokens with
  | .flowEntry :: _ => d.skip.flowKey?
  | .flowMappingEnd :: _ => some (d.skip.emit .mappingEnd)
  | _ => none

def flowValue? (d : Draft) : Option Draft :=
  match d.tokens with
  | .value :: _ => d.skip.part? .flowMappingKey false endsFlowValue
  | [] => none
  | _ => some (d.missing.expect .flowMappingKey)

def documentContent? (d : Draft) : Option Draft :=
  match d.tokens with
  | .directive _ :: _ | .documentStart :: _ | .documentEnd :: _ | .streamEnd :: _ => some d.missing
  | _ => d.node? true false

def step? (d : Draft) : Expected → Option Draft
  | .documentContent => d.documentContent?
  | .node block indentless => d.node? block indentless
  | .blockSequenceFirst => d.skip.blockSequence?
  | .blockSequenceEntry => d.blockSequence?
  | .indentlessEntry => d.indentless?
  | .blockMappingFirst => d.skip.blockMapping?
  | .blockMappingKey => d.blockMapping?
  | .blockMappingValue => d.blockValue?
  | .flowSequenceFirst => d.skip.flowItem?
  | .flowSequenceEntry => d.flowSequence?
  | .flowPairKey => d.flowPairKey?
  | .flowPairValue => d.flowPairValue?
  | .flowPairEnd =>
    if d.tokens.isEmpty then none else some ((d.emit .mappingEnd).expect .flowSequenceEntry)
  | .flowMappingFirst => d.skip.flowKey?
  | .flowMappingKey => d.flowMapping?
  | .flowMappingValue => d.flowValue?
  | .flowMappingNoValue => if d.tokens.isEmpty then none else some (d.missing.expect .flowMappingKey)

def readOn : Nat → Draft → Draft × Bool
  | 0, d => (d, false)
  | fuel + 1, d =>
    match d.expected with
    | [] => (d, true)
    | e :: rest =>
      match ({ d with expected := rest } : Draft).step? e with
      | some next => readOn fuel next
      | none => (d, false)

end Draft

/-- Takes the directives before a document. Versions 1.1 and 1.2 are known; nothing may be said
twice. -/
def directives? : List Token → Bool → TagTable → Option (TagTable × List Token)
  | .directive (.version major minor) :: rest, seen, tags =>
    if seen || major != 1 || (minor != 1 && minor != 2) then none else directives? rest true tags
  | .directive (.tag handle address) :: rest, seen, tags =>
    if tags.any (·.1 == handle) then none else directives? rest seen (tags ++ [(handle, address)])
  | rest, _, tags => some (tags ++ .standard, rest)

def documentHead? (tokens : List Token) : Option Draft :=
  match tokens with
  | .directive _ :: _ | .documentStart :: _ => do
    let (tags, rest) ← directives? tokens false []
    match rest with
    | .documentStart :: rest => some { tokens := rest, expected := [.documentContent], tags }
    | _ => none
  | _ => some { tokens, expected := [.node true false], tags := .standard }

structure Stream where
  events : List Event
  complete : Bool
  single : Bool

def endsStream : List Token → Bool
  | .documentEnd :: rest => endsStream rest
  | .streamEnd :: _ => true
  | _ => false

def Stream.ofText (text : String) : Stream :=
  let tokens := (Token.ofText text).1
  if endsStream tokens && !tokens.any (fun t => t matches .documentEnd) then
    { events := [], complete := true, single := true }
  else
    match documentHead? tokens with
    | none => { events := [], complete := false, single := false }
    | some d =>
      let (d, complete) := d.readOn (8 * tokens.length + 8)
      { events := d.events, complete := complete && !d.tokens.isEmpty, single := endsStream d.tokens }

end KernelStats.Yaml
