import SearchQuery.Yaml.Scan

/-!
# YAML documents

A document is a tree of scalars, sequences and mappings. Missing keys and values are empty plain
scalars.
-/

set_option autoImplicit false

namespace SearchQuery.Yaml

inductive Node where
  | scalar (text : String) (plain : Bool)
  | sequence (items : List Node)
  | mapping (entries : List (Node × Node))

namespace Node

def missing : Node := .scalar "" true

mutual

/-- Reads a node. Blocks are read only outside brackets, and a sequence without indentation only as
part of a mapping. The fuel bounds the number of steps. -/
def read : Nat → Bool → Bool → List Token → Option (Node × List Token)
  | 0, _, _, _ => none
  | fuel + 1, inBlock, inMapping, tokens =>
    match tokens with
    | .scalar text plain :: rest => some (.scalar text plain, rest)
    | .flowSequenceStart :: rest =>
      (readFlowItems fuel true rest).map fun (items, after) => (.sequence items, after)
    | .flowMappingStart :: rest =>
      (readFlowEntries fuel true rest).map fun (entries, after) => (.mapping entries, after)
    | .blockSequenceStart :: rest =>
      if inBlock then
        (readBlockItems fuel rest).map fun (items, after) => (.sequence items, after)
      else
        none
    | .blockMappingStart :: rest =>
      if inBlock then
        (readBlockEntries fuel rest).map fun (entries, after) => (.mapping entries, after)
      else
        none
    | .blockEntry :: _ =>
      if inMapping then
        (readLooseItems fuel tokens).map fun (items, after) => (.sequence items, after)
      else
        none
    | _ => none

def readBlockItems : Nat → List Token → Option (List Node × List Token)
  | 0, _ => none
  | fuel + 1, tokens =>
    match tokens with
    | .blockEnd :: rest => some ([], rest)
    | .blockEntry :: .blockEntry :: rest =>
      (readBlockItems fuel (.blockEntry :: rest)).map fun (items, after) =>
        (missing :: items, after)
    | .blockEntry :: .blockEnd :: rest => some ([missing], rest)
    | .blockEntry :: rest =>
      match read fuel true false rest with
      | none => none
      | some (item, afterItem) =>
        (readBlockItems fuel afterItem).map fun (items, after) => (item :: items, after)
    | _ => none

/-- Reads the items of a sequence that has no indentation of its own. -/
def readLooseItems : Nat → List Token → Option (List Node × List Token)
  | 0, _ => none
  | fuel + 1, tokens =>
    match tokens with
    | .blockEntry :: rest =>
      let isMissing :=
        match rest with
        | .blockEntry :: _ => true
        | .key :: _ => true
        | .value :: _ => true
        | .blockEnd :: _ => true
        | _ => false
      if isMissing then
        (readLooseItems fuel rest).map fun (items, after) => (missing :: items, after)
      else
        match read fuel true false rest with
        | none => none
        | some (item, afterItem) =>
          (readLooseItems fuel afterItem).map fun (items, after) => (item :: items, after)
    | _ => some ([], tokens)

def readBlockEntries : Nat → List Token → Option (List (Node × Node) × List Token)
  | 0, _ => none
  | fuel + 1, tokens =>
    match tokens with
    | .blockEnd :: rest => some ([], rest)
    | .key :: rest =>
      match readBlockPart fuel rest with
      | none => none
      | some (name, afterName) =>
        match afterName with
        | .value :: valueTokens =>
          match readBlockPart fuel valueTokens with
          | none => none
          | some (content, afterValue) =>
            (readBlockEntries fuel afterValue).map fun (entries, after) =>
              ((name, content) :: entries, after)
        | _ =>
          (readBlockEntries fuel afterName).map fun (entries, after) =>
            ((name, missing) :: entries, after)
    | _ => none

def readBlockPart : Nat → List Token → Option (Node × List Token)
  | 0, _ => none
  | fuel + 1, tokens =>
    match tokens with
    | .key :: _ => some (missing, tokens)
    | .value :: _ => some (missing, tokens)
    | .blockEnd :: _ => some (missing, tokens)
    | _ => read fuel true true tokens

def readFlowItems : Nat → Bool → List Token → Option (List Node × List Token)
  | 0, _, _ => none
  | fuel + 1, first, tokens =>
    match tokens with
    | .flowSequenceEnd :: rest => some ([], rest)
    | _ =>
      let items :=
        if first then some tokens
        else
          match tokens with
          | .flowEntry :: rest => some rest
          | _ => none
      match items with
      | none => none
      | some (.flowSequenceEnd :: rest) => some ([], rest)
      | some (.key :: rest) =>
        match readItemKey fuel rest with
        | none => none
        | some (name, afterName) =>
          match readFlowValue fuel afterName with
          | none => none
          | some (content, afterValue) =>
            (readFlowItems fuel false afterValue).map fun (items, after) =>
              (.mapping [(name, content)] :: items, after)
      | some itemTokens =>
        match read fuel false false itemTokens with
        | none => none
        | some (item, afterItem) =>
          (readFlowItems fuel false afterItem).map fun (items, after) => (item :: items, after)

def readFlowEntries : Nat → Bool → List Token → Option (List (Node × Node) × List Token)
  | 0, _, _ => none
  | fuel + 1, first, tokens =>
    match tokens with
    | .flowMappingEnd :: rest => some ([], rest)
    | _ =>
      let entries :=
        if first then some tokens
        else
          match tokens with
          | .flowEntry :: rest => some rest
          | _ => none
      match entries with
      | none => none
      | some (.flowMappingEnd :: rest) => some ([], rest)
      | some (.key :: rest) =>
        match readFlowPart fuel rest with
        | none => none
        | some (name, afterName) =>
          match readFlowValue fuel afterName with
          | none => none
          | some (content, afterValue) =>
            (readFlowEntries fuel false afterValue).map fun (entries, after) =>
              ((name, content) :: entries, after)
      | some nameTokens =>
        match read fuel false false nameTokens with
        | none => none
        | some (name, afterName) =>
          (readFlowEntries fuel false afterName).map fun (entries, after) =>
            ((name, missing) :: entries, after)

/-- Reads the key of an item in brackets. Where the key is missing, the mark that stands in its place
is passed over with it. -/
def readItemKey : Nat → List Token → Option (Node × List Token)
  | 0, _ => none
  | fuel + 1, tokens =>
    match tokens with
    | .value :: rest => some (missing, rest)
    | .flowEntry :: rest => some (missing, rest)
    | .flowSequenceEnd :: rest => some (missing, rest)
    | _ => read fuel false false tokens

def readFlowValue : Nat → List Token → Option (Node × List Token)
  | 0, _ => none
  | fuel + 1, tokens =>
    match tokens with
    | .value :: rest => readFlowPart fuel rest
    | _ => some (missing, tokens)

def readFlowPart : Nat → List Token → Option (Node × List Token)
  | 0, _ => none
  | fuel + 1, tokens =>
    match tokens with
    | .value :: _ => some (missing, tokens)
    | .flowEntry :: _ => some (missing, tokens)
    | .flowMappingEnd :: _ => some (missing, tokens)
    | .flowSequenceEnd :: _ => some (missing, tokens)
    | _ => read fuel false false tokens

end

def readContent (fuel : Nat) (tokens : List Token) : Option (Node × List Token) :=
  match tokens with
  | [] => some (missing, tokens)
  | .documentStart :: _ => some (missing, tokens)
  | .documentEnd :: _ => some (missing, tokens)
  | _ => read fuel true false tokens

/-- The document of a text, which must hold only one. The end of a document may be marked only after
its start or its content. -/
def ofTokens? (tokens : List Token) : Option Node :=
  let fuel := 4 * tokens.length + 4
  let document :=
    match tokens with
    | [] => some (missing, [])
    | .documentStart :: rest => readContent fuel rest
    | _ => read fuel true false tokens
  match document with
  | none => none
  | some (node, rest) => if rest.all (· == .documentEnd) then some node else none

def ofText? (text : String) : Option Node :=
  (scan? text).bind ofTokens?

end Node

end SearchQuery.Yaml
