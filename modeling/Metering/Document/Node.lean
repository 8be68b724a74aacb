import Metering.Document.Token

/-!
Documents: nested mappings and lists of scalars, given by indentation or by brackets.

A node is read from the tokens at the front, and the tokens after it are given back. What may be
left out stands as an empty plain scalar. A reference is kept in place of the node it refers to,
which `Node.resolve` finds.
-/

namespace Metering.Document

/-- What a document holds. -/
inductive Node where
  /-- A scalar. Tags of collections are of no interest. -/
  | scalar (text : String) (style : Style) (tag : Option String)
  | list (items : List Node)
  | map (entries : List (Node × Node))
  /-- A node that can be referred to. -/
  | anchored (id : Nat) (node : Node)
  | reference (id : Nat)
deriving Repr

def Node.empty : Node := .scalar "" .plain none

/-! ### References -/

mutual

/-- The nodes that can be referred to, in the order in which they start. -/
def Node.anchors : Node → List (Nat × Node)
  | .scalar .. | .reference _ => []
  | .list items => itemAnchors items
  | .map entries => entryAnchors entries
  | .anchored id node => (id, node) :: node.anchors

def itemAnchors : List Node → List (Nat × Node)
  | [] => []
  | item :: rest => item.anchors ++ itemAnchors rest

def entryAnchors : List (Node × Node) → List (Nat × Node)
  | [] => []
  | (key, value) :: rest => key.anchors ++ value.anchors ++ entryAnchors rest

end

/-- What a node of the document with the given root stands for: of the nodes that a reference may
mean, the last one. -/
def Node.resolve (root : Node) : Node → Node
  | .anchored _ node => node
  | .reference id => ((root.anchors.filter (·.1 == id)).getLast?.map (·.2)).getD .empty
  | node => node

/-! ### Reading -/

/-- Where a node stands. -/
inductive Place where
  /-- Inside brackets, where indentation does not count. -/
  | bracket
  /-- After a dash, or alone in a document. -/
  | block
  /-- The key or the value of an entry that is shown by indentation. The dashes of a list may stand
  there at the column of the entry. -/
  | entry
deriving DecidableEq, Repr

/-- A node without the properties before it starts with this token. -/
def Token.startsNode (place : Place) : Token → Bool
  | .scalar .. | .openList | .openMap => true
  | .startList | .startMap => place != .bracket
  | .item => place == .entry
  | _ => false

/-- A node that ends before this token, without one of its own, is left out. -/
def Token.endsNode (place : Place) : Token → Bool
  | .key | .value | .endBlock | .comma | .closeMap | .closeList => true
  | .item => place != .entry
  | _ => false

/-- The anchor and the tag that stand before a node. -/
structure Properties where
  anchor : Option Nat := none
  tag : Option String := none
deriving DecidableEq, Repr

/-- Takes the properties away, which may stand in either order. -/
def takeProperties : List Token → Properties × List Token
  | .anchor id :: .tag text :: rest | .tag text :: .anchor id :: rest => (⟨id, text⟩, rest)
  | .anchor id :: rest => (⟨id, none⟩, rest)
  | .tag text :: rest => (⟨none, text⟩, rest)
  | tokens => ({}, tokens)

/-- The tag of a scalar. An exclamation mark alone says nothing. -/
def Properties.scalarTag (p : Properties) : Option String :=
  p.tag.filter (· != "!")

def Properties.attach (p : Properties) (node : Node) : Node :=
  match p.anchor with
  | some id => .anchored id node
  | none => node

mutual

/-- A node, or the reference to one. Properties without a node belong to one that is left out. -/
def readNode? : (fuel : Nat) → Place → List Token → Option (Node × List Token)
  | 0, _, _ => none
  | _, _, .reference id :: rest => some (.reference id, rest)
  | fuel + 1, place, tokens =>
    let (properties, rest) := takeProperties tokens
    if rest.head?.any (·.startsNode place) then
      (readContent? fuel properties.scalarTag rest).map fun (node, rest) =>
        (properties.attach node, rest)
    else if properties == {} then none
    else some (properties.attach (.scalar "" .plain properties.scalarTag), rest)

/-- A node without the properties before it. -/
def readContent? : (fuel : Nat) → (tag : Option String) → List Token → Option (Node × List Token)
  | 0, _, _ => none
  | fuel + 1, tag, tokens =>
    match tokens with
    | .scalar text style :: rest => some (.scalar text style tag, rest)
    | .openList :: rest => (readItems? fuel rest).map fun (items, rest) => (.list items, rest)
    | .openMap :: rest => (readEntries? fuel rest).map fun (entries, rest) => (.map entries, rest)
    | .startList :: rest =>
      (readDashes? fuel true rest).map fun (items, rest) => (.list items, rest)
    | .startMap :: rest => (readPairs? fuel rest).map fun (entries, rest) => (.map entries, rest)
    | .item :: _ => (readDashes? fuel false tokens).map fun (items, rest) => (.list items, rest)
    | _ => none

/-- A node that may be left out. -/
def readOptional? : (fuel : Nat) → Place → List Token → Option (Node × List Token)
  | 0, _, _ => none
  | fuel + 1, place, tokens =>
    if tokens.head?.any (·.endsNode place) then some (.empty, tokens)
    else readNode? fuel place tokens

/-- The value of an entry, which may be left out together with its mark. -/
def readValue? : (fuel : Nat) → Place → List Token → Option (Node × List Token)
  | 0, _, _ => none
  | fuel + 1, place, .value :: rest => readOptional? fuel place rest
  | _, _, tokens => some (.empty, tokens)

/-- The items up to a closing bracket. An item with a key is a mapping of one entry. Where its key
is left out, the mark that shows this is taken up with it. -/
def readItems? : (fuel : Nat) → List Token → Option (List Node × List Token)
  | 0, _ => none
  | _, .closeList :: rest => some ([], rest)
  | fuel + 1, tokens => do
    let (item, rest) ←
      match tokens with
      | .key :: rest =>
        let (key, rest) ←
          match rest with
          | .value :: rest | .comma :: rest | .closeList :: rest => some (.empty, rest)
          | _ => readNode? fuel .bracket rest
        let (value, rest) ← readValue? fuel .bracket rest
        some (Node.map [(key, value)], rest)
      | _ => readNode? fuel .bracket tokens
    match rest with
    | .comma :: rest =>
      let (items, rest) ← readItems? fuel rest
      some (item :: items, rest)
    | .closeList :: rest => some ([item], rest)
    | _ => none

/-- The entries up to a closing brace. A node without the mark of a key is the key of an entry
without a value. -/
def readEntries? : (fuel : Nat) → List Token → Option (List (Node × Node) × List Token)
  | 0, _ => none
  | _, .closeMap :: rest => some ([], rest)
  | fuel + 1, tokens => do
    let (entry, rest) ←
      match tokens with
      | .key :: rest =>
        let (key, rest) ← readOptional? fuel .bracket rest
        let (value, rest) ← readValue? fuel .bracket rest
        some ((key, value), rest)
      | _ => (readNode? fuel .bracket tokens).map fun (key, rest) => ((key, Node.empty), rest)
    match rest with
    | .comma :: rest =>
      let (entries, rest) ← readEntries? fuel rest
      some (entry :: entries, rest)
    | .closeMap :: rest => some ([entry], rest)
    | _ => none

/-- The items after dashes. A list with bounds of its own goes up to its end, another one up to the
first token that is no dash. -/
def readDashes? : (fuel : Nat) → (bounded : Bool) → List Token → Option (List Node × List Token)
  | 0, _, _ => none
  | fuel + 1, bounded, tokens =>
    match tokens with
    | .item :: rest => do
      let (item, rest) ← readOptional? fuel .block rest
      let (items, rest) ← readDashes? fuel bounded rest
      some (item :: items, rest)
    | .endBlock :: rest => some ([], if bounded then rest else tokens)
    | _ => if bounded then none else some ([], tokens)

/-- The entries of a mapping that is shown by indentation. -/
def readPairs? : (fuel : Nat) → List Token → Option (List (Node × Node) × List Token)
  | 0, _ => none
  | fuel + 1, .key :: rest => do
    let (key, rest) ← readOptional? fuel .entry rest
    let (value, rest) ← readValue? fuel .entry rest
    let (entries, rest) ← readPairs? fuel rest
    some ((key, value) :: entries, rest)
  | _, .endBlock :: rest => some ([], rest)
  | _, _ => none

end

/-- The root of a document, which a divider may come before. Without content it is left out. -/
def readRoot? : List Token → Option (Node × List Token)
  | [] | [.contentStart] => some (.empty, [])
  | .contentStart :: .contentEnd :: rest => some (.empty, rest)
  | .contentStart :: rest | rest => readNode? (4 * rest.length + 4) .block rest

/-- The root of the document that the tokens give. A divider comes after directives, and nothing
comes after the document but dividers that close it. -/
def nodeOfTokens? (tokens : List Token) : Option Node := do
  let content := tokens.dropWhile (· == .directive)
  let (node, rest) ← readRoot? content
  if (content == tokens || content.head? == some .contentStart) && rest.all (· == .contentEnd) then
    some node
  else none

/-- The node that a text gives. -/
def read? (text : String) : Option Node :=
  if text.toList.all isDocumentChar then (tokens? (unifyBreaks text.toList)).bind nodeOfTokens?
  else none

end Metering.Document
