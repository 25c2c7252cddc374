import FeatureFlags.Yaml.Node
import FeatureFlags.Yaml.Token

/-! An anchor names a node and an alias stands for the node of that name. A collection may hold an alias of
itself; its value would have no end, so it is unfolded a few times only. -/

set_option autoImplicit false

namespace FeatureFlags.Yaml

structure TokenSource where
  tokens : List Token
  anchors : List (String × Node) := []
  handles : List (String × String) := []

abbrev NodeReader := StateT TokenSource (Except Failure)

namespace NodeReader

def refuse {α : Type} : NodeReader α := do
  match (← get).tokens with
  | .broken failure :: _ => throw failure
  | _ => throw .malformed

def advance : NodeReader Unit := modify fun source => { source with tokens := source.tokens.drop 1 }

def next : NodeReader (Option Token) := return (← get).tokens.head?

def accept (token : Token) : NodeReader Bool := do
  if (← next) == some token then
    advance
    return true
  else return false

def expect (token : Token) : NodeReader Unit := do
  if !(← accept token) then refuse

/-! Properties -/

def commonHandles : List (String × String) := [("!", "!"), ("!!", Tag.family)]

def tagName (tag : WrittenTag) : NodeReader String := do
  match tag.handle with
  | none => return tag.rest
  | some handle => match ((← get).handles ++ commonHandles).lookup handle with
    | some stands => return stands ++ tag.rest
    | none => throw .malformed

def acceptAnchor : NodeReader (Option String) := do
  match ← next with
  | some (.anchor name) =>
      advance
      return some name
  | _ => return none

def acceptTag : NodeReader (Option WrittenTag) := do
  match ← next with
  | some (.tag tag) =>
      advance
      return some tag
  | _ => return none

structure Properties where
  anchor : Option String
  tag : Option String

def readProperties : NodeReader Properties := do
  let before ← acceptAnchor
  let tag ← acceptTag
  let anchor ← if before.isNone && tag.isSome then acceptAnchor else pure before
  return ⟨anchor, ← tag.mapM tagName⟩

def plainTag : String := "!"

def collectionTag (name : Option String) (standard : Tag) : Tag :=
  match name with
  | none => standard
  | some name => if name = plainTag then standard else .ofName name

def scalarTag (name : Option String) (plain : Bool) (text : Option String) : Tag :=
  match name with
  | none => if plain then Scalar.formTag (text.getD Scalar.replacement) else .text
  | some name =>
      if name = plainTag then Scalar.formTag (text.getD Scalar.replacement) else .ofName name

/-! Collections -/

def endsBlockNode : Token → Bool
  | .key | .value | .blockEnd => true
  | _ => false

def endsFlowNode : Token → Bool
  | .value | .comma | .flowListEnd | .flowMapEnd => true
  | _ => false

def readUnless (ends : Token → Bool) (node : NodeReader Node) : NodeReader Node := do
  if (← next).any ends then return Node.absent else node

def readBlockItems (node : NodeReader Node) : Nat → List Node → NodeReader (List Node)
  | 0, _ => refuse
  | fuel + 1, items => do
      if ← accept .item then
        let item ← readUnless (fun token => token == .item || endsBlockNode token) node
        readBlockItems node fuel (item :: items)
      else return items.reverse

def readBlockEntries (node : NodeReader Node) : Nat → Node.Entries → NodeReader Node.Entries
  | 0, _ => refuse
  | fuel + 1, entries => do
      if ← accept .key then
        let key ← readUnless endsBlockNode node
        let value ← if ← accept .value then readUnless endsBlockNode node else pure Node.absent
        readBlockEntries node fuel ((key, value) :: entries)
      else return entries.reverse

def readFlowValue (node : NodeReader Node) : NodeReader Node := do
  if ← accept .value then readUnless endsFlowNode node else return Node.absent

def readFlowEntry (node : NodeReader Node) : NodeReader (Node × Node) := do
  let key ← readUnless endsFlowNode node
  return (key, ← readFlowValue node)

def readFlow {α : Type} (stop : Token) (element : NodeReader α) :
    Nat → List α → NodeReader (List α)
  | 0, _ => refuse
  | fuel + 1, elements => do
      if ← accept stop then return elements.reverse
      else
        let elements := (← element) :: elements
        if ← accept stop then return elements.reverse
        else
          expect .comma
          readFlow stop element fuel elements

def readFlowItem (node : NodeReader Node) : NodeReader Node := do
  if ← accept .key then return Node.ofEntries .map [← readFlowEntry node] else node

def readFlowMapEntry (node : NodeReader Node) : NodeReader (Node × Node) := do
  if ← accept .key then readFlowEntry node else return (← node, Node.absent)

/-! Nodes -/

def unfoldings : Nat := 3

def unfold (name : String) (source : TokenSource) (node : NodeReader Node) :
    Nat → Node → NodeReader Node
  | 0, known => return known
  | count + 1, known => do
      set { source with anchors := (name, known) :: source.anchors }
      unfold name source node count (← node)

-- Inside the node the name stands for `start`.
def readNamed (anchor : Option String) (start : Node) (node : NodeReader Node) : NodeReader Node := do
  match anchor with
  | none => node
  | some name =>
      let source ← get
      if (source.anchors.lookup name).isSome then throw .malformed
      let known ← unfold name source node 1 start
      let used := source.tokens.take (source.tokens.length - (← get).tokens.length)
      let known ←
        if used.contains (.aliasOf name) then unfold name source node unfoldings known else pure known
      modify fun source => { source with anchors := (name, known) :: source.anchors }
      return known

def readAlias (name : String) : NodeReader Node := do
  advance
  match (← get).anchors.lookup name with
  | some node => return node
  | none => throw .malformed

-- More than the tokens that are left.
def fuel : NodeReader Nat := return (← get).tokens.length + 1

structure Inner where
  flow : NodeReader Node
  block : NodeReader Node
  entry : NodeReader Node

def readContent (properties : Properties) (block beside : Bool) (inner : Inner) : NodeReader Node := do
  let listOf (items : NodeReader (List Node)) : NodeReader Node :=
    let tag := collectionTag properties.tag .list
    readNamed properties.anchor (Node.ofItems tag []) (return Node.ofItems tag (← items))
  let mapOf (entries : NodeReader Node.Entries) : NodeReader Node :=
    let tag := collectionTag properties.tag .map
    readNamed properties.anchor (Node.ofEntries tag []) (return Node.ofEntries tag (← entries))
  let scalarOf (plain : Bool) (content : Option String) : NodeReader Node :=
    readNamed properties.anchor Node.absent
      (return Node.ofScalar (scalarTag properties.tag plain content) content)
  match ← next with
  | some (.scalar plain content) =>
      advance
      scalarOf plain content
  | some .flowListStart =>
      advance
      listOf (do readFlow .flowListEnd (readFlowItem inner.flow) (← fuel) [])
  | some .flowMapStart =>
      advance
      mapOf (do readFlow .flowMapEnd (readFlowMapEntry inner.flow) (← fuel) [])
  | token =>
      if token = some .item ∧ beside then
        listOf (do readBlockItems inner.block (← fuel) [])
      else if token = some .blockListStart ∧ block then do
        advance
        listOf (do
          let items ← readBlockItems inner.block (← fuel) []
          expect .blockEnd
          return items)
      else if token = some .blockMapStart ∧ block then do
        advance
        mapOf (do
          let entries ← readBlockEntries inner.entry (← fuel) []
          expect .blockEnd
          return entries)
      else if properties.anchor.isNone && properties.tag.isNone || token.any Token.isBroken then refuse
      else scalarOf true (some "")

def readNode : Nat → Bool → Bool → NodeReader Node
  | 0, _, _ => throw (.defective .tooDeep)
  | depth + 1, block, beside => do
      match ← next with
      | some (.aliasOf name) => readAlias name
      | _ =>
          readContent (← readProperties) block beside
            { flow := readNode depth false false
              block := readNode depth true false
              entry := readNode depth true true }

/-! Documents -/

def readDirectives : Nat → Bool → NodeReader Unit
  | 0, _ => refuse
  | fuel + 1, hasVersion => do
      match ← next with
      | some (.directive directive) =>
          advance
          match directive with
          | .version major =>
              if hasVersion || major != 1 then throw .malformed else readDirectives fuel true
          | .handle name stands =>
              let source ← get
              if (source.handles.lookup name).isSome then throw .malformed
              set { source with handles := (name, stands) :: source.handles }
              readDirectives fuel hasVersion
          | .other => readDirectives fuel hasVersion
      | _ => return

def endsDocument : Token → Bool
  | .directive _ | .documentStart | .documentEnd => true
  | _ => false

def depthLimit : Nat := 491

def readRoot : NodeReader Node := do
  let root := readNode (depthLimit + 1) true false
  match ← next with
  | none => return Node.absent
  | some (.directive _) | some .documentStart =>
      readDirectives (← fuel) false
      expect .documentStart
      if (← next).all endsDocument then return Node.absent else root
  | _ => root

def dropDocumentEnds : Nat → NodeReader Unit
  | 0 => return
  | fuel + 1 => do if ← accept .documentEnd then dropDocumentEnds fuel

def readDocument : NodeReader Node := do
  let root ← readRoot
  dropDocumentEnds (← fuel)
  if (← next).isNone then return root
  else
    modify fun source => { source with handles := [] }
    readDirectives (← fuel) false
    refuse

end NodeReader

namespace Node

def ofTokens (tokens : List Token) : Except Failure Node :=
  (NodeReader.readDocument.run { tokens }).map Prod.fst

end Node
end FeatureFlags.Yaml
