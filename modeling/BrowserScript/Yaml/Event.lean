import BrowserScript.Yaml.TokenSequence

/-!
# The events of a document

Events are the tokens of a text put in the order of the tree: each collection has a start and an
end, and a missing node is an empty scalar. A step of the grammar gives one event and the places to
go on from. Events before the place where the grammar is broken are kept.
-/

namespace BrowserScript.Yaml

inductive Event where
  | streamStart
  | streamEnd
  | documentStart
  | documentEnd
  | alias (name : String)
  /-- A scalar; an implicit one takes its tag from its text. -/
  | scalar (anchor tag : Option String) (implicit : Bool) (text : String)
  | sequenceStart (anchor tag : Option String)
  | sequenceEnd
  | mappingStart (anchor tag : Option String)
  | mappingEnd

def Event.empty : Event := .scalar none none true ""

inductive Place where
  | streamStart
  | implicitDocument
  | documentStart
  | documentContent
  | documentEnd
  | blockNode
  | blockSequenceFirst
  | blockSequenceEntry
  | indentlessEntry
  | blockMappingFirst
  | blockMappingKey
  | blockMappingValue
  | flowSequenceFirst
  | flowSequenceEntry
  | flowPairKey
  | flowPairValue
  | flowPairEnd
  | flowMappingFirst
  | flowMappingKey
  | flowMappingValue
  | flowMappingNoValue

structure Grammar where
  tokens : List Token
  /-- Why no token follows the last one. -/
  refusal : Fault
  /-- The places to return to. -/
  returns : List Place
  handles : List (String × String)

abbrev Parse := StateT Grammar (Except Fault)

namespace Parse

def refuse {α : Type} : Parse α := throw (.unreadable .grammar)

def peek : Parse Token := do
  match (← get).tokens with
  | token :: _ => return token
  | [] => throw (← get).refusal

def drop : Parse Unit := do
  let _ ← peek
  modify fun grammar => { grammar with tokens := grammar.tokens.drop 1 }

def returnTo (place : Place) : Parse Unit :=
  modify fun grammar => { grammar with returns := place :: grammar.returns }

/-- An event after which the last remembered place goes on. -/
def done (event : Event) : Parse (Event × Option Place) := do
  let grammar ← get
  set { grammar with returns := grammar.returns.drop 1 }
  return (event, grammar.returns.head?)

def go (event : Event) (place : Place) : Parse (Event × Option Place) := return (event, some place)

def standardHandles : List (String × String) := [("!", "!"), ("!!", "tag:yaml.org,2002:")]

/-- The settings before a document: one version, and one address for each handle. -/
def directives (version : Bool) (handles : List (String × String)) :
    List Token → Except Fault (List (String × String) × List Token)
  | .directive (.version major) :: rest =>
      if version || major != 1 then .error (.unreadable .grammar)
      else directives true handles rest
  | .directive (.handle name uri) :: rest =>
      if handles.any fun entry => entry.1 == name then .error (.unreadable .grammar)
      else directives version (handles ++ [(name, uri)]) rest
  | .directive .other :: rest => directives version handles rest
  | rest =>
      .ok (handles ++ standardHandles.filter (fun entry => !handles.any fun own => own.1 == entry.1),
        rest)

def tagOf (handle : Option String) (rest : String) : Parse String := do
  match handle with
  | none => return rest
  | some name =>
      match (← get).handles.find? fun entry => entry.1 == name with
      | some entry => return entry.2 ++ rest
      | none => refuse

def properties : Parse (Option String × Option String) := do
  match ← peek with
  | .anchor name => do
      drop
      match ← peek with
      | .tag handle rest => drop; return (some name, some (← tagOf handle rest))
      | _ => return (some name, none)
  | .tag handle rest => do
      drop
      match ← peek with
      | .anchor name => drop; return (some name, some (← tagOf handle rest))
      | _ => return (none, some (← tagOf handle rest))
  | _ => return (none, none)

/-- A node with its properties. Block collections stand outside brackets only, and a sequence
without indentation only in a mapping. -/
def node (inBlock indentless : Bool) : Parse (Event × Option Place) := do
  match ← peek with
  | .alias name => drop; done (.alias name)
  | _ =>
      let (anchor, tag) ← properties
      let unspecific := tag.isNone || tag == some "!"
      match ← peek, inBlock, indentless with
      | .blockEntry, _, true => go (.sequenceStart anchor tag) .indentlessEntry
      | .scalar plain text, _, _ =>
          drop
          done (.scalar anchor tag (plain && tag.isNone || tag == some "!") text)
      | .flowSequenceStart, _, _ => go (.sequenceStart anchor tag) .flowSequenceFirst
      | .flowMappingStart, _, _ => go (.mappingStart anchor tag) .flowMappingFirst
      | .blockSequenceStart, true, _ => go (.sequenceStart anchor tag) .blockSequenceFirst
      | .blockMappingStart, true, _ => go (.mappingStart anchor tag) .blockMappingFirst
      | _, _, _ =>
          if anchor.isSome || tag.isSome then done (.scalar anchor tag unspecific "") else refuse

def documentStart : Parse (Event × Option Place) := do
  modify fun grammar =>
    { grammar with tokens := grammar.tokens.dropWhile fun token =>
        match token with
        | .documentEnd => true
        | _ => false }
  match ← peek with
  | .streamEnd => drop; return (.streamEnd, none)
  | _ =>
      let grammar ← get
      let (handles, tokens) ← directives false [] grammar.tokens
      set { grammar with tokens, handles }
      match ← peek with
      | .documentStart => drop; returnTo .documentEnd; go .documentStart .documentContent
      | _ => refuse

def blockSequenceEntry : Parse (Event × Option Place) := do
  match ← peek with
  | .blockEntry =>
      drop
      match ← peek with
      | .blockEntry | .blockEnd => go .empty .blockSequenceEntry
      | _ => returnTo .blockSequenceEntry; node true false
  | .blockEnd => drop; done .sequenceEnd
  | _ => refuse

/-- An entry of a sequence without indentation or its end. -/
def indentlessEntry : Parse (Event × Option Place) := do
  match ← peek with
  | .blockEntry =>
      drop
      match ← peek with
      | .blockEntry | .key | .value | .blockEnd => go .empty .indentlessEntry
      | _ => returnTo .indentlessEntry; node true false
  | _ => done .sequenceEnd

/-- A node of a block mapping that may be absent, and the place after it. -/
def blockMappingNode (place : Place) : Parse (Event × Option Place) := do
  drop
  match ← peek with
  | .key | .value | .blockEnd => go .empty place
  | _ => returnTo place; node true true

def blockMappingKey : Parse (Event × Option Place) := do
  match ← peek with
  | .key => blockMappingNode .blockMappingValue
  | .blockEnd => drop; done .mappingEnd
  | _ => refuse

def blockMappingValue : Parse (Event × Option Place) := do
  match ← peek with
  | .value => blockMappingNode .blockMappingKey
  | _ => go .empty .blockMappingKey

/-- The comma before every entry of a flow collection but the first. -/
def comma (first : Bool) : Parse Unit := do
  if !first then
    match ← peek with
    | .flowEntry => drop
    | _ => refuse

def flowSequenceEntry (first : Bool) : Parse (Event × Option Place) := do
  match ← peek with
  | .flowSequenceEnd => drop; done .sequenceEnd
  | _ =>
      comma first
      match ← peek with
      | .key => go (.mappingStart none none) .flowPairKey
      | .flowSequenceEnd => drop; done .sequenceEnd
      | _ => returnTo .flowSequenceEntry; node false false

def flowPairKey : Parse (Event × Option Place) := do
  drop
  match ← peek with
  | .value | .flowEntry | .flowSequenceEnd => go .empty .flowPairValue
  | _ => returnTo .flowPairValue; node false false

def flowPairValue : Parse (Event × Option Place) := do
  match ← peek with
  | .value =>
      drop
      match ← peek with
      | .flowEntry | .flowSequenceEnd => go .empty .flowPairEnd
      | _ => returnTo .flowPairEnd; node false false
  | _ => go .empty .flowPairEnd

def flowMappingKey (first : Bool) : Parse (Event × Option Place) := do
  match ← peek with
  | .flowMappingEnd => drop; done .mappingEnd
  | _ =>
      comma first
      match ← peek with
      | .key =>
          drop
          match ← peek with
          | .value | .flowEntry | .flowMappingEnd => go .empty .flowMappingValue
          | _ => returnTo .flowMappingValue; node false false
      | .flowMappingEnd => drop; done .mappingEnd
      | _ => returnTo .flowMappingNoValue; node false false

def flowMappingValue : Parse (Event × Option Place) := do
  match ← peek with
  | .value =>
      drop
      match ← peek with
      | .flowEntry | .flowMappingEnd => go .empty .flowMappingKey
      | _ => returnTo .flowMappingKey; node false false
  | _ => go .empty .flowMappingKey

def step : Place → Parse (Event × Option Place)
  | .streamStart => do drop; go .streamStart .implicitDocument
  | .implicitDocument => do
      match ← peek with
      | .directive _ | .documentStart | .streamEnd => documentStart
      | _ =>
          modify fun grammar => { grammar with handles := standardHandles }
          returnTo .documentEnd
          go .documentStart .blockNode
  | .documentStart => documentStart
  | .documentContent => do
      match ← peek with
      | .directive _ | .documentStart | .documentEnd | .streamEnd => done .empty
      | _ => node true false
  | .documentEnd => do
      match ← peek with
      | .documentEnd => drop
      | _ => pure ()
      go .documentEnd .documentStart
  | .blockNode => node true false
  | .blockSequenceFirst => do drop; blockSequenceEntry
  | .blockSequenceEntry => blockSequenceEntry
  | .indentlessEntry => indentlessEntry
  | .blockMappingFirst => do drop; blockMappingKey
  | .blockMappingKey => blockMappingKey
  | .blockMappingValue => blockMappingValue
  | .flowSequenceFirst => do drop; flowSequenceEntry true
  | .flowSequenceEntry => flowSequenceEntry false
  | .flowPairKey => flowPairKey
  | .flowPairValue => flowPairValue
  | .flowPairEnd => do
      let _ ← peek
      go .mappingEnd .flowSequenceEntry
  | .flowMappingFirst => do drop; flowMappingKey true
  | .flowMappingKey => flowMappingKey false
  | .flowMappingValue => flowMappingValue
  | .flowMappingNoValue => do
      let _ ← peek
      go .empty .flowMappingKey

def walk (place : Place) (grammar : Grammar) : Nat → Reading Event
  | 0 => ⟨[], some grammar.refusal⟩
  | rounds + 1 =>
      match (step place).run grammar with
      | .error fault => ⟨[], some fault⟩
      | .ok ((event, none), _) => ⟨[event], none⟩
      | .ok ((event, some next), rest) =>
          let reading := walk next rest rounds
          ⟨event :: reading.items, reading.refusal⟩

end Parse

def events (tokens : Reading Token) : Reading Event :=
  let grammar : Grammar :=
    { tokens := tokens.items
      refusal := tokens.refusal.getD (.unreadable .grammar)
      returns := []
      handles := [] }
  Parse.walk .streamStart grammar (4 * tokens.items.length + 8)

end BrowserScript.Yaml
