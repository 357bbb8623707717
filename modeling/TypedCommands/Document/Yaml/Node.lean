import TypedCommands.Document.Yaml.PlainScalar
import TypedCommands.Document.Yaml.Token

/-!
# Nodes of YAML documents

Tokens as a tree of scalars, sequences and mappings, and the values that the nodes
stand for.  A node that is left out is an empty plain scalar.

Main definitions:

- Definition `Node.ofText?`: the one document of a text, if it has one.
- Definition `Node.value`: the value that a node stands for.
- Definition `Yaml.read`: the value that a text stands for.
-/

namespace TypedCommands.Yaml

/-- A node of a document. -/
inductive Node where
  /-- A scalar: whether it is plain, and its text. -/
  | scalar (plain : Bool) (text : String)
  /-- A sequence. -/
  | sequence (items : List Node)
  /-- A mapping. -/
  | mapping (pairs : List (Node × Node))

/-- A node that is left out. -/
def Node.empty : Node := .scalar true ""

/-! ## Nodes of tokens -/

/-- What was read of tokens, and the tokens that follow. -/
abbrev Parsed (α : Type) := Except Fault (α × List Token)

/-- The places a node can stand at, by what may begin it there. -/
inductive Position where
  /-- Between brackets. -/
  | flow
  /-- In a block, as an item or as the whole document. -/
  | block
  /-- In a block mapping, where a sequence may stand without being moved in. -/
  | entry
  deriving DecidableEq, Repr

/--
Read a node unless one of the tokens that may follow it comes first; then it was left
out.  `last` is the fault behind the last token.
-/
def orEmpty (read : List Token → Parsed Node) (last : Fault) (follow : List Token)
    (ts : List Token) : Parsed Node :=
  match ts with
  | [] => .error last
  | t :: _ => if follow.contains t then .ok (.empty, ts) else read ts

/-- Read a value if its mark comes first; otherwise it was left out. -/
def valueOrEmpty (read : List Token → Parsed Node) (last : Fault) (follow : List Token)
    (ts : List Token) : Parsed Node :=
  match ts with
  | .value :: rest => orEmpty read last follow rest
  | [] => .error last
  | _ => .ok (.empty, ts)

mutual

/-- Read a node. -/
def readNode (last : Fault) : Nat → Position → List Token → Parsed Node
  | 0, _, _ => .error .arrangement
  | fuel + 1, position, ts =>
    match ts with
    | [] => .error last
    | .item :: _ =>
      if position = .entry then
        (readEntryItems last fuel ts).map fun r => (.sequence r.1, r.2)
      else .error .arrangement
    | .scalar plain text :: rest => .ok (.scalar plain text, rest)
    | .openBracket :: rest =>
      (readFlowItems last fuel true rest).map fun r => (.sequence r.1, r.2)
    | .openBrace :: rest =>
      (readFlowPairs last fuel true rest).map fun r => (.mapping r.1, r.2)
    | .blockSequence :: rest =>
      if position = .flow then .error .arrangement
      else (readBlockItems last fuel rest).map fun r => (.sequence r.1, r.2)
    | .blockMapping :: rest =>
      if position = .flow then .error .arrangement
      else (readBlockPairs last fuel rest).map fun r => (.mapping r.1, r.2)
    | _ => .error .arrangement

/-- Read the items of a block sequence and its end. -/
def readBlockItems (last : Fault) : Nat → List Token → Parsed (List Node)
  | 0, _ => .error .arrangement
  | fuel + 1, ts =>
    match ts with
    | [] => .error last
    | .item :: rest =>
      match orEmpty (readNode last fuel .block) last [.item, .blockEnd] rest with
      | .error fault => .error fault
      | .ok (node, rest) => (readBlockItems last fuel rest).map fun r => (node :: r.1, r.2)
    | .blockEnd :: rest => .ok ([], rest)
    | _ => .error .arrangement

/-- Read the items of a block sequence that is not moved in; anything else ends it. -/
def readEntryItems (last : Fault) : Nat → List Token → Parsed (List Node)
  | 0, _ => .error .arrangement
  | fuel + 1, ts =>
    match ts with
    | [] => .error last
    | .item :: rest =>
      match orEmpty (readNode last fuel .block) last [.item, .key, .value, .blockEnd] rest with
      | .error fault => .error fault
      | .ok (node, rest) => (readEntryItems last fuel rest).map fun r => (node :: r.1, r.2)
    | _ => .ok ([], ts)

/-- Read the pairs of a block mapping and its end. -/
def readBlockPairs (last : Fault) : Nat → List Token → Parsed (List (Node × Node))
  | 0, _ => .error .arrangement
  | fuel + 1, ts =>
    match ts with
    | [] => .error last
    | .key :: rest =>
      let follow : List Token := [.key, .value, .blockEnd]
      match orEmpty (readNode last fuel .entry) last follow rest with
      | .error fault => .error fault
      | .ok (key, rest) =>
        match valueOrEmpty (readNode last fuel .entry) last follow rest with
        | .error fault => .error fault
        | .ok (value, rest) =>
          (readBlockPairs last fuel rest).map fun r => ((key, value) :: r.1, r.2)
    | .blockEnd :: rest => .ok ([], rest)
    | _ => .error .arrangement

/-- Read the items of a sequence in brackets and the closing bracket. -/
def readFlowItems (last : Fault) : Nat → Bool → List Token → Parsed (List Node)
  | 0, _, _ => .error .arrangement
  | fuel + 1, first, ts =>
    let start : Parsed Unit :=
      match first, ts with
      | _, [] => .error last
      | true, ts => .ok ((), ts)
      | false, .closeBracket :: rest => .ok ((), .closeBracket :: rest)
      | false, .comma :: rest => .ok ((), rest)
      | false, _ => .error .arrangement
    match start with
    | .error fault => .error fault
    | .ok (_, []) => .error last
    | .ok (_, .closeBracket :: rest) => .ok ([], rest)
    | .ok (_, .key :: rest) =>
      match orEmpty (readNode last fuel .flow) last [.value, .comma, .closeBracket] rest with
      | .error fault => .error fault
      | .ok (key, rest) =>
        match valueOrEmpty (readNode last fuel .flow) last [.comma, .closeBracket] rest with
        | .error fault => .error fault
        | .ok (value, rest) =>
          (readFlowItems last fuel false rest).map fun r => (.mapping [(key, value)] :: r.1, r.2)
    | .ok (_, rest) =>
      match readNode last fuel .flow rest with
      | .error fault => .error fault
      | .ok (node, rest) => (readFlowItems last fuel false rest).map fun r => (node :: r.1, r.2)

/-- Read the pairs of a mapping in braces and the closing brace. -/
def readFlowPairs (last : Fault) : Nat → Bool → List Token → Parsed (List (Node × Node))
  | 0, _, _ => .error .arrangement
  | fuel + 1, first, ts =>
    let start : Parsed Unit :=
      match first, ts with
      | _, [] => .error last
      | true, ts => .ok ((), ts)
      | false, .closeBrace :: rest => .ok ((), .closeBrace :: rest)
      | false, .comma :: rest => .ok ((), rest)
      | false, _ => .error .arrangement
    match start with
    | .error fault => .error fault
    | .ok (_, []) => .error last
    | .ok (_, .closeBrace :: rest) => .ok ([], rest)
    | .ok (_, .key :: rest) =>
      match orEmpty (readNode last fuel .flow) last [.value, .comma, .closeBrace] rest with
      | .error fault => .error fault
      | .ok (key, rest) =>
        match valueOrEmpty (readNode last fuel .flow) last [.comma, .closeBrace] rest with
        | .error fault => .error fault
        | .ok (value, rest) =>
          (readFlowPairs last fuel false rest).map fun r => ((key, value) :: r.1, r.2)
    | .ok (_, rest) =>
      match readNode last fuel .flow rest with
      | .error fault => .error fault
      | .ok (key, rest) =>
        (readFlowPairs last fuel false rest).map fun r => ((key, .empty) :: r.1, r.2)

end

/-! ## Documents -/

/--
Skip directives, which have to be followed by the start of a document.  There may be one
version, which has to be a first one, and one meaning for each short form of tags.
-/
def afterDirectives (last : Fault) (versioned : Bool) (handles : List (List Char)) :
    List Token → Except Fault (List Token)
  | [] => .error last
  | .documentStart :: rest => .ok rest
  | .directive .reserved :: rest => afterDirectives last versioned handles rest
  | .directive (.version major) :: rest =>
    if versioned || major != 1 then .error .arrangement
    else afterDirectives last true handles rest
  | .directive (.handle name) :: rest =>
    if handles.contains name then .error .arrangement
    else afterDirectives last versioned (name :: handles) rest
  | _ => .error .arrangement

/-- Check that no document follows one that was read. -/
def checkEnd (last : Fault) (ts : List Token) : Except Fault Unit :=
  match ts.dropWhile (· == .documentEnd) with
  | [] => .error last
  | .streamEnd :: _ => .ok ()
  | ts =>
    match afterDirectives last false [] ts with
    | .error fault => .error fault
    | .ok _ => .error .documents

/-- Read the node of a document behind its start, where it may be left out. -/
def readContent (read : List Token → Parsed Node) (last : Fault) (ts : List Token) : Parsed Node :=
  match ts with
  | .directive _ :: _ => .ok (.empty, ts)
  | ts => orEmpty read last [.documentStart, .documentEnd, .streamEnd] ts

/-- The one document of the tokens, if there is one; `last` is the fault behind them. -/
def document (last : Fault) (ts : List Token) : Except Fault (Option Node) :=
  let read := readNode last (4 * ts.length + 4) .block
  let begun : Parsed Node :=
    match afterDirectives last false [] ts with
    | .error fault => .error fault
    | .ok rest => readContent read last rest
  let found : Parsed Node :=
    match ts with
    | .directive _ :: _ => begun
    | .documentStart :: _ => begun
    | ts => read ts
  match ts with
  | .streamEnd :: _ => .ok none
  | _ =>
    match found with
    | .error fault => .error fault
    | .ok (node, rest) => (checkEnd last rest).map fun _ => some node

/-- The one document of a text, if there is one. -/
def Node.ofText? (text : String) : Except Fault (Option Node) :=
  if text.toList.all isAllowed then
    let ts := tokens text.toList
    document (ts.2.getD .token) ts.1
  else .error .character

/-! ## Merged mappings -/

namespace Node

/-- Whether a node is the mark of mappings that are merged into the one around it. -/
def isMerge : Node → Bool
  | scalar true text => text == "<<"
  | _ => false

/-- A node as a key: the mark of a default stands for itself there. -/
def asKey : Node → Node
  | scalar plain text => scalar (plain && text != "=") text
  | n => n

/-- Whether a node holds other nodes. -/
def isCollection : Node → Bool
  | scalar _ _ => false
  | _ => true

/-- The pairs of a mapping: those merged into it and its own. -/
structure Merging where
  /-- The pairs merged into it. -/
  merged : List (Node × Node) := []
  /-- Its own. -/
  own : List (Node × Node) := []

/-- All pairs, the merged ones first. -/
def Merging.all (m : Merging) : List (Node × Node) := m.merged ++ m.own

mutual

/-- The pairs of a mapping with the pairs of the mappings merged into it. -/
def merging : List (Node × Node) → Except Fault Merging
  | [] => .ok {}
  | (k, v) :: rest =>
    if k.isMerge then
      match mergedPairs v with
      | .error fault => .error fault
      | .ok more => (merging rest).map fun m => { m with merged := more ++ m.merged }
    else (merging rest).map fun m => { m with own := (k.asKey, v) :: m.own }

/-- The pairs that a node merges into a mapping: a mapping's, or those of several. -/
def mergedPairs : Node → Except Fault (List (Node × Node))
  | mapping pairs => (merging pairs).map Merging.all
  | sequence items => mergedPairsOfAll items
  | scalar _ _ => .error .construction

/-- The pairs of several mappings, those of the last one first. -/
def mergedPairsOfAll : List Node → Except Fault (List (Node × Node))
  | [] => .ok []
  | mapping pairs :: rest =>
    match merging pairs with
    | .error fault => .error fault
    | .ok m => (mergedPairsOfAll rest).map (· ++ m.all)
  | _ :: _ => .error .construction

end

/-! ## Faults of nodes -/

/-- The fault of a scalar that stands for no value. -/
def scalarFault? : Node → Option Fault
  | scalar true text =>
    match Plain.value text with
    | .error fault => some fault
    | .ok _ => none
  | _ => none

/--
The nodes inside a node, each key in front of its value.  A mapping that cannot be merged
has a fault instead, and so has a key that holds other nodes.
-/
def parts : Node → List (Except Fault Node)
  | scalar _ _ => []
  | sequence items => items.map .ok
  | mapping pairs =>
    match merging pairs with
    | .error fault => [.error fault]
    | .ok m =>
      m.all.flatMap fun p =>
        [if p.1.isCollection then .error .construction else .ok p.1, .ok p.2]

/-- The fault of a part. -/
def partFault? : Except Fault Node → Option Fault
  | .error fault => some fault
  | .ok n => n.scalarFault?

/-- The parts of a part. -/
def innerParts : Except Fault Node → List (Except Fault Node)
  | .error _ => []
  | .ok n => n.parts

/-- The first fault of parts, level by level: those inside them count after all of them. -/
def firstFault? : Nat → List (Except Fault Node) → Option Fault
  | 0, level => level.findSome? partFault?
  | depth + 1, level =>
    match level.findSome? partFault? with
    | some fault => some fault
    | none => firstFault? depth (level.flatMap innerParts)

mutual

/-- The number of levels of a node. -/
def depth : Node → Nat
  | scalar _ _ => 1
  | sequence items => depthOfAll items + 1
  | mapping pairs => depthOfPairs pairs + 1

/-- The greatest number of levels of items. -/
def depthOfAll : List Node → Nat
  | [] => 0
  | n :: rest => max n.depth (depthOfAll rest)

/-- The greatest number of levels of pairs. -/
def depthOfPairs : List (Node × Node) → Nat
  | [] => 0
  | (k, v) :: rest => max (max k.depth v.depth) (depthOfPairs rest)

end

/-! ## Values of nodes -/

/-- The value of a scalar, if it stands for one. -/
def scalarValue (plain : Bool) (text : String) : Value :=
  if plain then (Plain.value text).toOption.getD .null else .text text

/-- Whether two values are the same key; all numbers that are no number are one. -/
def sameEntry (a b : Value) : Bool := sameKey a b || (isNotANumber a && isNotANumber b)

/-- The value that a node of at most so many levels stands for, if no fault is in it. -/
def valueWithin : Nat → Node → Value
  | _, scalar plain text => scalarValue plain text
  | 0, _ => .null
  | levels + 1, sequence items => .list (items.map (valueWithin levels))
  | levels + 1, mapping pairs =>
    match merging pairs with
    | .error _ => .null
    | .ok m =>
      .dict (assocOfPairs sameEntry
        (m.all.map fun p => (valueWithin levels p.1, valueWithin levels p.2)))

/-- The value that a node stands for. -/
def value (n : Node) : Except Fault Value :=
  match firstFault? n.depth [.ok n] with
  | some fault => .error fault
  | none => .ok (valueWithin n.depth n)

end Node

/-- The value of the one document of a text; without a document it is nothing. -/
def read (text : String) : Except Fault Value :=
  match Node.ofText? text with
  | .error fault => .error fault
  | .ok none => .ok .null
  | .ok (some node) => node.value

end TypedCommands.Yaml
