import CleanSql.Yaml.Node
import CleanSql.Yaml.Token

/-!
# Reading YAML text

The tokens of a text are read into a tree once, from left to right. A node goes as far as the
tokens do, and the first fault ends all nodes that are open.
-/
namespace CleanSql.Yaml

/-- The tokens ahead and what is known from those before. -/
structure Reading where
  tokens : TokenStream
  handles : List (String × String) := []
  /-- The anchors that have been seen, each with its number. -/
  names : List (String × Nat) := []
  anchors : Anchors := {}

/-- What was read, and the fault that ended the reading, if one did. -/
structure Outcome (α : Type) where
  value : α
  reading : Reading
  fault : Option Fault := none

namespace Reading

def peek (r : Reading) : Except Fault (Token × Reading) :=
  r.tokens.peek.map fun (t, tokens) => (t, { r with tokens := tokens })

def drop (r : Reading) : Reading := { r with tokens := r.tokens.drop }

def advance (r : Reading) : Except Fault (Token × Reading) := r.drop.peek

/-- Gives an anchor the next number, if there is one, for the node that starts here. -/
def bind (r : Reading) : Option String → Option Nat × Reading
  | none => (none, r)
  | some name =>
    let number := (r.names.map (·.1)).eraseDups.length
    let order := r.anchors.orders.length
    (some order, { r with
      names := (name, number) :: r.names
      anchors := { r.anchors with orders := (number, order) :: r.anchors.orders } })

def keep (r : Reading) (order : Option Nat) (node : Node) : Reading :=
  match order with
  | none => r
  | some n => { r with anchors := { r.anchors with nodes := (n, node) :: r.anchors.nodes } }

end Reading

structure Properties where
  start : Mark
  anchor : Option String := none
  /-- The handle and the rest of the tag, and its place. -/
  tag : Option (String × String × Mark) := none

/-- Reads what stands before a node, at most one anchor and one tag. -/
def readProperties (r : Reading) : Except Fault (Properties × Token × Reading) := do
  let (t, r) ← r.peek
  match t.kind with
  | .anchor name =>
    let (u, r) ← r.advance
    match u.kind with
    | .tag handle suffix =>
      let (v, r) ← r.advance
      pure (⟨t.start, some name, some (handle, suffix, u.start)⟩, v, r)
    | _ => pure (⟨t.start, some name, none⟩, u, r)
  | .tag handle suffix =>
    let (u, r) ← r.advance
    match u.kind with
    | .anchor name =>
      let (v, r) ← r.advance
      pure (⟨t.start, some name, some (handle, suffix, t.start)⟩, v, r)
    | _ => pure (⟨t.start, none, some (handle, suffix, t.start)⟩, u, r)
  | _ => pure (⟨t.start, none, none⟩, t, r)

def Properties.fullTag (p : Properties) (handles : List (String × String)) :
    Except Fault (Option String) :=
  match p.tag with
  | none => .ok none
  | some ("", suffix, _) => .ok (some suffix)
  | some (handle, suffix, place) =>
    match handles.lookup handle with
    | some uri => .ok (some (uri ++ suffix))
    | none => .error (.spelling .unknownHandle place (some (.node, p.start)))

structure Surroundings where
  inBlock : Bool
  /-- A list may stand here without further indentation. -/
  beforeEntries : Bool := false

/-- What a node turns out to be at its first token. -/
inductive NodeStart where
  | reference (name : String)
  | scalar (style : Style) (text : String)
  | empty
  | flatList
  | blockList
  | blockMap
  | flowList
  | flowMap

/-- What a node is, from the first token behind its properties. -/
def NodeStart.of? (s : Surroundings) (p : Properties) (t : Token) : Option NodeStart :=
  match t.kind with
  | .reference name =>
    if p.anchor.isNone && p.tag.isNone then some (.reference name) else some .empty
  | .blockEntry =>
    if s.beforeEntries then some .flatList
    else if p.anchor.isSome || p.tag.isSome then some .empty else none
  | .scalar style text => some (.scalar style text)
  | .flowListStart => some .flowList
  | .flowMapStart => some .flowMap
  | .blockListStart =>
    if s.inBlock then some .blockList
    else if p.anchor.isSome || p.tag.isSome then some .empty else none
  | .blockMapStart =>
    if s.inBlock then some .blockMap
    else if p.anchor.isSome || p.tag.isSome then some .empty else none
  | _ => if p.anchor.isSome || p.tag.isSome then some .empty else none

/-- A tag that is a single mark says nothing about a scalar. -/
def scalarTag (tag : Option String) : Option String := if tag = some "!" then none else tag

def emptyScalar (place : Mark) : Node := .scalar place none .plain ""

def stopped {α : Type} (value : α) (r : Reading) (f : Fault) : Outcome α := ⟨value, r, some f⟩

def noNode (r : Reading) (f : Fault) : Outcome Node := stopped (.missing f) r f

/-- Puts an item before the rest of a list, unless the reading has stopped at it. -/
def Outcome.cons {α : Type} (item : Outcome α) (rest : Reading → Outcome (List α)) :
    Outcome (List α) :=
  match item.fault with
  | some f => stopped [item.value] item.reading f
  | none =>
    let o := rest item.reading
    { o with value := item.value :: o.value }

def Outcome.pair (key : Outcome Node) (value : Reading → Outcome Node) : Outcome (Node × Node) :=
  match key.fault with
  | some f => stopped (key.value, .missing f) key.reading f
  | none =>
    let o := value key.reading
    ⟨(key.value, o.value), o.reading, o.fault⟩

/-- Looks at the next token; it may not be readable. -/
def Outcome.look {α : Type} (o : Outcome α) : Outcome α :=
  match o.fault with
  | some _ => o
  | none =>
    match o.reading.peek with
    | .error f => { o with fault := some f }
    | .ok (_, r) => { o with reading := r }

def TokenKind.isOneOf (k : TokenKind) (kinds : List TokenKind) : Bool := kinds.contains k

mutual

def parseNode : Nat → Surroundings → Reading → Outcome Node
  | 0, _, r => ⟨emptyScalar {}, r, none⟩
  | fuel + 1, s, r =>
    match readProperties r with
    | .error f => noNode r f
    | .ok (p, t, r) =>
      match p.fullTag r.handles with
      | .error f => noNode r f
      | .ok tag =>
        match NodeStart.of? s p t with
        | none =>
          noNode r (.spelling .noContent t.start
            (some (if s.inBlock then .blockNode else .flowNode, p.start)))
        | some (.reference name) =>
          match r.names.lookup name with
          | none => noNode r (.unknownAnchor t.start)
          | some number => ⟨.reference t.start number, r.drop, none⟩
        | some (.scalar style text) =>
          let (order, r) := r.bind p.anchor
          let node := .scalar p.start (scalarTag tag) style text
          ⟨node, (r.keep order node).drop, none⟩
        | some .empty =>
          let (order, r) := r.bind p.anchor
          let node := .scalar p.start tag .plain ""
          ⟨node, r.keep order node, none⟩
        | some .flatList =>
          let (order, r) := r.bind p.anchor
          let o := parseFlatItems fuel r
          let node := .list p.start tag o.value o.fault
          ⟨node, o.reading.keep order node, o.fault⟩
        | some .blockList =>
          let (order, r) := r.bind p.anchor
          let o := parseBlockItems fuel t.start r.drop
          let node := .list p.start tag o.value o.fault
          ⟨node, o.reading.keep order node, o.fault⟩
        | some .blockMap =>
          let (order, r) := r.bind p.anchor
          let o := parseBlockEntries fuel t.start r.drop
          let node := .map p.start tag o.value o.fault
          ⟨node, o.reading.keep order node, o.fault⟩
        | some .flowList =>
          let (order, r) := r.bind p.anchor
          let o := parseFlowItems fuel t.start true r.drop
          let node := .list p.start tag o.value o.fault
          ⟨node, o.reading.keep order node, o.fault⟩
        | some .flowMap =>
          let (order, r) := r.bind p.anchor
          let o := parseFlowEntries fuel t.start true r.drop
          let node := .map p.start tag o.value o.fault
          ⟨node, o.reading.keep order node, o.fault⟩

/-- A node behind a mark that has been taken, unless one of some tokens comes next, in which case
the node is empty and stands at a place. -/
def parseNodeUnless :
    Nat → List TokenKind → Option Mark → Surroundings → Reading → Outcome Node
  | 0, _, _, _, r => ⟨emptyScalar {}, r, none⟩
  | fuel + 1, kinds, place, s, r =>
    match r.peek with
    | .error f => noNode r f
    | .ok (t, r) =>
      if t.kind.isOneOf kinds then ⟨emptyScalar (place.getD t.start), r, none⟩
      else parseNode fuel s r

def parseBlockItems : Nat → Mark → Reading → Outcome (List Node)
  | 0, _, r => ⟨[], r, none⟩
  | fuel + 1, start, r =>
    match r.peek with
    | .error f => stopped [] r f
    | .ok (t, r) =>
      match t.kind with
      | .blockEntry =>
        (parseNodeUnless fuel [.blockEntry, .blockEnd] (some t.stop) ⟨true, false⟩ r.drop).cons
          (parseBlockItems fuel start)
      | .blockEnd => ⟨[], r.drop, none⟩
      | _ => stopped [] r (.spelling .noEntry t.start (some (.blockList, start)))

/-- The items of a list in a map that is indented no less. -/
def parseFlatItems : Nat → Reading → Outcome (List Node)
  | 0, r => ⟨[], r, none⟩
  | fuel + 1, r =>
    match r.peek with
    | .error f => stopped [] r f
    | .ok (t, r) =>
      match t.kind with
      | .blockEntry =>
        (parseNodeUnless fuel [.blockEntry, .key, .value, .blockEnd] (some t.stop) ⟨true, false⟩
          r.drop).cons (parseFlatItems fuel)
      | _ => ⟨[], r, none⟩

def parseBlockEntries : Nat → Mark → Reading → Outcome (List (Node × Node))
  | 0, _, r => ⟨[], r, none⟩
  | fuel + 1, start, r =>
    match r.peek with
    | .error f => stopped [] r f
    | .ok (t, r) =>
      match t.kind with
      | .key =>
        ((parseNodeUnless fuel [.key, .value, .blockEnd] (some t.stop) ⟨true, true⟩ r.drop).pair
          (parseBlockValue fuel)).cons (parseBlockEntries fuel start)
      | .blockEnd => ⟨[], r.drop, none⟩
      | _ => stopped [] r (.spelling .noKey t.start (some (.blockMap, start)))

def parseBlockValue : Nat → Reading → Outcome Node
  | 0, r => ⟨emptyScalar {}, r, none⟩
  | fuel + 1, r =>
    match r.peek with
    | .error f => noNode r f
    | .ok (t, r) =>
      if t.kind = .value then
        parseNodeUnless fuel [.key, .value, .blockEnd] (some t.stop) ⟨true, true⟩ r.drop
      else ⟨emptyScalar t.start, r, none⟩

/-- The items between brackets, from where a comma or the bracket is due. -/
def parseFlowItems : Nat → Mark → Bool → Reading → Outcome (List Node)
  | 0, _, _, r => ⟨[], r, none⟩
  | fuel + 1, start, first, r =>
    match r.peek with
    | .error f => stopped [] r f
    | .ok (t, r) =>
      if t.kind = .flowListEnd then ⟨[], r.drop, none⟩
      else if first then parseFlowItem fuel start t r
      else if t.kind = .flowEntry then
        match r.advance with
        | .error f => stopped [] r f
        | .ok (t, r) => parseFlowItem fuel start t r
      else stopped [] r (.spelling .noListComma t.start (some (.flowList, start)))

/-- The items between brackets, from where an item or the bracket is due. -/
def parseFlowItem : Nat → Mark → Token → Reading → Outcome (List Node)
  | 0, _, _, r => ⟨[], r, none⟩
  | fuel + 1, start, t, r =>
    match t.kind with
    | .flowListEnd => ⟨[], r.drop, none⟩
    | .key =>
      let o := ((parsePairKey fuel r.drop).pair (parsePairValue fuel)).look
      let entries := [o.value]
      (Outcome.mk (Node.map t.start none entries o.fault) o.reading o.fault).cons
        (parseFlowItems fuel start false)
    | _ => (parseNode fuel ⟨false, false⟩ r).cons (parseFlowItems fuel start false)

/-- The key of a single entry between brackets. Where it is missing, the token in its place is
passed over. -/
def parsePairKey : Nat → Reading → Outcome Node
  | 0, r => ⟨emptyScalar {}, r, none⟩
  | fuel + 1, r =>
    match r.peek with
    | .error f => noNode r f
    | .ok (t, r) =>
      if t.kind.isOneOf [.value, .flowEntry, .flowListEnd] then
        ⟨emptyScalar t.stop, r.drop, none⟩
      else parseNode fuel ⟨false, false⟩ r

def parsePairValue : Nat → Reading → Outcome Node
  | 0, r => ⟨emptyScalar {}, r, none⟩
  | fuel + 1, r =>
    match r.peek with
    | .error f => noNode r f
    | .ok (t, r) =>
      if t.kind = .value then
        parseNodeUnless fuel [.flowEntry, .flowListEnd] none ⟨false, false⟩ r.drop
      else ⟨emptyScalar t.start, r, none⟩

/-- The entries between braces, from where a comma or the brace is due. -/
def parseFlowEntries : Nat → Mark → Bool → Reading → Outcome (List (Node × Node))
  | 0, _, _, r => ⟨[], r, none⟩
  | fuel + 1, start, first, r =>
    match r.peek with
    | .error f => stopped [] r f
    | .ok (t, r) =>
      if t.kind = .flowMapEnd then ⟨[], r.drop, none⟩
      else if first then parseFlowEntry fuel start t r
      else if t.kind = .flowEntry then
        match r.advance with
        | .error f => stopped [] r f
        | .ok (t, r) => parseFlowEntry fuel start t r
      else stopped [] r (.spelling .noMapComma t.start (some (.flowMap, start)))

/-- The entries between braces, from where an entry or the brace is due. -/
def parseFlowEntry : Nat → Mark → Token → Reading → Outcome (List (Node × Node))
  | 0, _, _, r => ⟨[], r, none⟩
  | fuel + 1, start, t, r =>
    match t.kind with
    | .flowMapEnd => ⟨[], r.drop, none⟩
    | .key =>
      ((parseNodeUnless fuel [.value, .flowEntry, .flowMapEnd] none ⟨false, false⟩ r.drop).pair
        (parseFlowValue fuel)).cons (parseFlowEntries fuel start false)
    | _ =>
      ((parseNode fuel ⟨false, false⟩ r).pair (parseNoValue fuel)).cons
        (parseFlowEntries fuel start false)

/-- The value of an entry between braces, which may be missing. -/
def parseFlowValue : Nat → Reading → Outcome Node
  | 0, r => ⟨emptyScalar {}, r, none⟩
  | fuel + 1, r =>
    match r.peek with
    | .error f => noNode r f
    | .ok (t, r) =>
      if t.kind = .value then
        parseNodeUnless fuel [.flowEntry, .flowMapEnd] none ⟨false, false⟩ r.drop
      else ⟨emptyScalar t.start, r, none⟩

def parseNoValue : Nat → Reading → Outcome Node
  | 0, r => ⟨emptyScalar {}, r, none⟩
  | _ + 1, r =>
    match r.peek with
    | .error f => noNode r f
    | .ok (t, r) => ⟨emptyScalar t.start, r, none⟩

end

def commonHandles : List (String × String) := [("!", "!"), ("!!", "tag:yaml.org,2002:")]

/-- The meaning of the tag of a kind of scalar. -/
def commonTag (name : String) : String := "tag:yaml.org,2002:" ++ name

/-- Reads the directives before a document, each at most once, and gives its handles. -/
def parseDirectives :
    Nat → Bool → List (String × String) → Token → Reading → Except Fault (Token × Reading)
  | 0, _, _, t, r => .ok (t, r)
  | fuel + 1, versioned, handles, t, r =>
    match t.kind with
    | .directive (.version major minor) => do
      if versioned then throw (.spelling .twoVersions t.start none)
      if major ≠ 1 ∨ (minor ≠ 1 ∧ minor ≠ 2) then throw (.spelling .otherVersion t.start none)
      let (t, r) ← r.advance
      parseDirectives fuel true handles t r
    | .directive (.handle handle uri) => do
      if (handles.lookup handle).isSome then throw (.spelling .twoHandles t.start none)
      let (t, r) ← r.advance
      parseDirectives fuel versioned (handles ++ [(handle, uri)]) t r
    | _ => .ok (t, { r with handles := handles ++ commonHandles })

def TokenKind.isOutside : TokenKind → Bool
  | .directive _ | .documentStart | .documentEnd | .streamEnd => true
  | _ => false

/-- The root of the first document. A text without one has an empty root at its end. -/
def parseRoot (fuel : Nat) (r : Reading) : Outcome Node :=
  match r.peek with
  | .error f => noNode r f
  | .ok (t, r) =>
    if t.kind = .streamEnd then ⟨emptyScalar t.start, r, none⟩
    else if !t.kind.isOutside || t.kind = .documentEnd then
      parseNode fuel ⟨true, false⟩ { r with handles := commonHandles }
    else
      match parseDirectives fuel false [] t r with
      | .error f => noNode r f
      | .ok (t, r) =>
        if t.kind ≠ .documentStart then noNode r (.spelling .noDocumentStart t.start none)
        else
          match r.advance with
          | .error f => noNode r f
          | .ok (t, r) =>
            if t.kind.isOutside then ⟨emptyScalar t.start, r, none⟩
            else parseNode fuel ⟨true, false⟩ r

/-- Whether nothing but marks of its end follows a document. -/
def isLast : Nat → Reading → Bool
  | 0, _ => true
  | fuel + 1, r =>
    match r.peek with
    | .error _ => false
    | .ok (t, r) =>
      if t.kind = .documentEnd then isLast fuel r.drop else t.kind = .streamEnd

def trailingFault? (fuel : Nat) (o : Outcome Node) : Option Fault :=
  match o.fault with
  | some f => some f
  | none =>
    match o.reading.peek with
    | .error f => some f
    | .ok (_, r) => if isLast fuel r then none else some .moreDocuments

def isDocumentChar (c : Char) : Bool :=
  let n := c.toNat
  n = 0x09 || n = 0x0A || n = 0x0D || 0x20 ≤ n && n ≤ 0x7E || n = 0x85
    || 0xA0 ≤ n && n ≤ 0xFFFD || 0x10000 ≤ n

/-- Reads a text. No character that documents may not hold may be anywhere in it. -/
def Document.parse (text : String) : Document :=
  let cs := text.toList
  let good := cs.takeWhile isDocumentChar
  if good.length < cs.length then
    let f := Fault.controlCharacter (good.foldl (fun n c => n + c.utf8Size) 0)
    ⟨.missing f, {}, some f⟩
  else
    let fuel := 16 * cs.length + 64
    let o := parseRoot fuel { tokens := { cursor := ⟨cs, {}⟩ } }
    ⟨o.value, o.reading.anchors, trailingFault? fuel o⟩

end CleanSql.Yaml
