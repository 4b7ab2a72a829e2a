import DocBinder.Yaml.Token

/-!
# Nodes

The tokens of a document form a tree of nodes: scalars, sequences and mappings. An alias stands for
the node that its anchor names. An alias inside that very node would make the tree infinite; it is
kept as a loop.
-/

namespace DocBinder.Yaml

/-- A node with its tag, if it has one. A scalar that may be read as something other than a string
is marked as plain. -/
inductive Node where
  | scalar (tag : Option String) (text : Text) (isPlain : Bool)
  | sequence (tag : Option String) (items : List Node)
  | mapping (tag : Option String) (entries : List (Node × Node))
  | loop
deriving Repr, Inhabited

/-- What an anchor names: a finished node, or one that is being read. -/
abbrev Anchors := List (String × Option Node)

/-- What reading nodes works on: the tokens to come, the fault after them if there is one, what
handles of tags mean, and the anchors so far. -/
structure Source where
  tokens : List Token
  fault : Option Fault
  handles : List (Text × Text)
  anchors : Anchors
deriving Repr, Inhabited

/-- A step of reading nodes. -/
abbrev Reading (α : Type) := StateT Source (Except Fault) α

namespace Reading

/-- Refuse the text. -/
def refuse {α : Type} (note : String) : Reading α :=
  throw (.malformed note)

/-- The next token, or none at the end of the text. Tokens that end in a fault have no end. -/
def peek : Reading (Option Token) := do
  let source ← get
  match source.tokens, source.fault with
  | token :: _, _ => return some token
  | [], some fault => throw fault
  | [], none => return none

/-- Pass the next token. -/
def pass : Reading Unit :=
  modify fun source => { source with tokens := source.tokens.drop 1 }

/-- Pass the next token if it is the given one. -/
def passIf (token : Token) : Reading Bool := do
  if (← peek) == some token then
    pass
    return true
  else return false

/-- The anchor at a place, if there is one. -/
def anchor? : Reading (Option String) := do
  match ← peek with
  | some (.anchor name) =>
      pass
      return some name
  | _ => return none

/-- The tag at a place, if there is one, with its handle replaced by what it means. -/
def tag? : Reading (Option String) := do
  match ← peek with
  | some (.tag written) =>
      pass
      match written.handle with
      | none => return some (String.ofList written.suffix)
      | some handle =>
          match (← get).handles.lookup handle with
          | some meaning => return some (String.ofList (meaning ++ written.suffix))
          | none => refuse "found undefined tag handle"
  | _ => return none

/-- The anchor and the tag of a node, in either order. -/
def properties : Reading (Option String × Option String) := do
  match ← anchor? with
  | some name => return (some name, ← tag?)
  | none => do
      let tag ← tag?
      match tag with
      | some _ => return (← anchor?, tag)
      | none => return (none, none)

/-- Note what an anchor names. -/
def define (anchor : Option String) (node : Option Node) : Reading Unit :=
  modify fun source => match anchor with
    | some name => { source with anchors := (name, node) :: source.anchors }
    | none => source

/-- Make an anchor known before the node that it names is read. An anchor is defined once. -/
def introduce (anchor : Option String) : Reading Unit := do
  match anchor with
  | some name =>
      if ((← get).anchors.lookup name).isSome then refuse "found duplicate anchor"
      else define anchor none
  | none => return

/-- The node that an alias stands for. -/
def resolveAlias (name : String) : Reading Node := do
  match (← get).anchors.lookup name with
  | some (some node) => return node
  | some none => return .loop
  | none => refuse "found undefined alias"

/-- A node that is not written. -/
def absent : Node :=
  .scalar none [] true

/-- A tag that leaves open what a node is counts as none. -/
def specific (tag : Option String) : Option String :=
  tag.filter (· != "!")

mutual

/-- Read a node. Only in a block may it be a block collection. A sequence that is the value of a
key may have its entries at the indentation of the key. -/
def node : (fuel : Nat) → (inBlock dashed : Bool) → Reading Node
  | 0, _, _ => refuse "the document is too deep"
  | fuel + 1, inBlock, dashed => do
      match ← peek with
      | some (.alias name) =>
          pass
          resolveAlias name
      | _ =>
          let (anchor, tag) ← properties
          introduce anchor
          let read ← content fuel inBlock dashed tag (anchor.isSome || tag.isSome)
          define anchor (some read)
          return read

/-- Read what a node with a tag holds. A node with properties may be empty. -/
def content : (fuel : Nat) → (inBlock dashed : Bool) → Option String → (hasProperties : Bool) →
    Reading Node
  | 0, _, _, _, _ => refuse "the document is too deep"
  | fuel + 1, inBlock, dashed, tag, hasProperties => do
      match ← peek with
      | some (.scalar text isPlain) =>
          pass
          return .scalar (specific tag) text ((isPlain && tag.isNone) || tag == some "!")
      | some .openSequence =>
          pass
          return .sequence (specific tag) (← flowItems fuel true)
      | some .openMapping =>
          pass
          return .mapping (specific tag) (← flowEntries fuel true)
      | some .entry =>
          if dashed then return .sequence (specific tag) (← dashedItems fuel)
          else empty tag hasProperties
      | some .blockSequence =>
          if inBlock then
            pass
            return .sequence (specific tag) (← blockItems fuel)
          else empty tag hasProperties
      | some .blockMapping =>
          if inBlock then
            pass
            return .mapping (specific tag) (← blockEntries fuel)
          else empty tag hasProperties
      | _ => empty tag hasProperties
where
  /-- A node with properties only. -/
  empty (tag : Option String) (hasProperties : Bool) : Reading Node :=
    if hasProperties then return .scalar (specific tag) [] (tag.isNone || tag == some "!")
    else refuse "expected the node content"

/-- Read a node, unless one of some tokens shows that it is not written. -/
def nodeUnless : (fuel : Nat) → (inBlock dashed : Bool) → List Token → Reading Node
  | 0, _, _, _ => refuse "the document is too deep"
  | fuel + 1, inBlock, dashed, stops => do
      match ← peek with
      | some token => if stops.contains token then return absent else node fuel inBlock dashed
      | none => node fuel inBlock dashed

/-- Read the items of a block sequence. -/
def blockItems : (fuel : Nat) → Reading (List Node)
  | 0 => refuse "the document is too long"
  | fuel + 1 => do
      if ← passIf .entry then
        let item ← nodeUnless fuel true false [.entry, .blockEnd]
        return item :: (← blockItems fuel)
      else if ← passIf .blockEnd then return []
      else refuse "expected <block end>"

/-- Read the items of a sequence at the indentation of its key. -/
def dashedItems : (fuel : Nat) → Reading (List Node)
  | 0 => refuse "the document is too long"
  | fuel + 1 => do
      if ← passIf .entry then
        let item ← nodeUnless fuel true false [.entry, .key, .value, .blockEnd]
        return item :: (← dashedItems fuel)
      else return []

/-- Read the entries of a block mapping. -/
def blockEntries : (fuel : Nat) → Reading (List (Node × Node))
  | 0 => refuse "the document is too long"
  | fuel + 1 => do
      if ← passIf .key then
        let key ← nodeUnless fuel true true [.key, .value, .blockEnd]
        let value ← if ← passIf .value then nodeUnless fuel true true [.key, .value, .blockEnd]
          else pure absent
        return (key, value) :: (← blockEntries fuel)
      else if ← passIf .blockEnd then return []
      else refuse "expected <block end>"

/-- Read the items of a sequence in brackets. An item may be a single entry of a mapping. -/
def flowItems : (fuel : Nat) → (isFirst : Bool) → Reading (List Node)
  | 0, _ => refuse "the document is too long"
  | fuel + 1, isFirst => do
      if ← passIf .closeSequence then return []
      if !isFirst then
        if !(← passIf .separator) then refuse "expected ',' or ']'"
      if ← passIf .key then
        let key ← nodeUnless fuel false false [.value, .separator, .closeSequence]
        let value ← if ← passIf .value then
            nodeUnless fuel false false [.separator, .closeSequence]
          else pure absent
        return .mapping none [(key, value)] :: (← flowItems fuel false)
      else if ← passIf .closeSequence then return []
      else
        let item ← node fuel false false
        return item :: (← flowItems fuel false)

/-- Read the entries of a mapping in brackets. -/
def flowEntries : (fuel : Nat) → (isFirst : Bool) → Reading (List (Node × Node))
  | 0, _ => refuse "the document is too long"
  | fuel + 1, isFirst => do
      if ← passIf .closeMapping then return []
      if !isFirst then
        if !(← passIf .separator) then refuse "expected ',' or a closing brace"
      if ← passIf .key then
        let key ← nodeUnless fuel false false [.value, .separator, .closeMapping]
        let value ← if ← passIf .value then
            nodeUnless fuel false false [.separator, .closeMapping]
          else pure absent
        return (key, value) :: (← flowEntries fuel false)
      else if ← passIf .closeMapping then return []
      else
        let key ← node fuel false false
        return (key, absent) :: (← flowEntries fuel false)

end

/-- What handles mean unless a directive says otherwise. -/
def defaultHandles : List (Text × Text) :=
  [(['!'], ['!']), (['!', '!'], "tag:yaml.org,2002:".toList)]

/-- Read the directives before a document. -/
def directives : (fuel : Nat) → (hasVersion : Bool) → (handles : List (Text × Text)) →
    Reading (List (Text × Text))
  | 0, _, _ => refuse "the document is too long"
  | fuel + 1, hasVersion, handles => do
      match ← peek with
      | some (.directive read) =>
          pass
          match read with
          | .version major _ =>
              if hasVersion then refuse "found duplicate YAML directive"
              else if major != 1 then refuse "found incompatible YAML document"
              else directives fuel true handles
          | .tag handle meaning =>
              if (handles.lookup handle).isSome then refuse "duplicate tag handle"
              else directives fuel hasVersion ((handle, meaning) :: handles)
          | .other _ => directives fuel hasVersion handles
      | _ => return handles ++ defaultHandles

/-- Pass the ends of documents. -/
def documentEnds : (fuel : Nat) → Reading Unit
  | 0 => return
  | fuel + 1 => do
      if ← passIf .documentEnd then documentEnds fuel

/-- Read the only document of a text, if there is one. -/
def document (fuel : Nat) : Reading (Option Node) := do
  match ← peek with
  | none => return none
  | some token =>
      let isMarked := match token with
        | .directive _ | .documentStart => true
        | _ => false
      if isMarked then
        let handles ← directives fuel false []
        modify fun source => { source with handles := handles }
        if !(← passIf .documentStart) then refuse "expected '<document start>'"
      let isEmpty := isMarked && (match ← peek with
        | none | some (.directive _) | some .documentStart | some .documentEnd => true
        | _ => false)
      let root ← if isEmpty then pure absent else node fuel true false
      documentEnds fuel
      match ← peek with
      | none => return some root
      | some _ => refuse "expected a single document in the stream"

end Reading

/-- The node of the only document of a text, if there is one. -/
def Node.ofText (text : Text) : Except Fault (Option Node) :=
  let (tokens, fault) := tokens text
  (Reading.document (4 * tokens.length + 8)).run' ⟨tokens, fault, Reading.defaultHandles, []⟩

end DocBinder.Yaml
