import Replatform.Toml.Number

/-!
# TOML Documents

A document is read in two steps. The first one finds its statements: a key with a value,
or a header that opens a table or a new item of an array of tables. The second one puts
them together. A table may be opened by one header only, a key may be set once, and a
table that a dotted key has made can be filled by dotted keys only. What is only
implied by a longer key or header may still be opened later.

## Main definitions

* `Toml.readValue?`, `Toml.readPath?`: Values and keys.
* `Toml.Statement`, `Toml.readStatements?`: The statements of a document.
* `Toml.Node`, `Toml.setPath?`, `Toml.openTable?`: Tables in the making.
* `Toml.read?`: The table of a document.
-/

namespace Replatform

namespace Toml

/-! ## Tables in the making -/

/-- How a table came to be. -/
inductive Origin where
  /-- By a header of its own, or as a value. -/
  | opened
  /-- By the header of a table inside of it. -/
  | implied
  /-- By a dotted key. -/
  | dotted
deriving DecidableEq, Repr

/-- What stands under a key of a table in the making. -/
inductive Node where
  | value (value : Value)
  | table (origin : Origin) (entries : List (String × Node))
  /-- An array of tables, the first one and the later ones, the latest first. -/
  | tables (latest : List (String × Node)) (earlier : List (List (String × Node)))

/-- The entries of a table in the making. -/
abbrev Entries := List (String × Node)

/-- Set the node of a key. -/
def put (key : String) (node : Node) : Entries → Entries
  | [] => [(key, node)]
  | e :: es => if e.1 = key then (key, node) :: es else e :: put key node es

/-- Set the value under a path of keys, where `dotted` says that the table at hand was made by
    a dotted key and `whole` that no part of the path has been followed yet. -/
def setPath? (value : Value) (dotted whole : Bool) : (path : List String) → Entries → Option Entries
  | [], _ => none
  | [key], es =>
    if dotted == whole then none
    else if (List.lookup key es).isSome then none
    else some (put key (.value value) es)
  | key :: path, es =>
    match List.lookup key es with
    | none => do
      return put key (.table .dotted (← setPath? value true false path [])) es
    -- What a header has opened is closed to dotted keys.
    | some (.table .opened _) | some (.value _) => none
    | some (.table origin inner) => do
      return put key (.table origin (← setPath? value (origin == .dotted) false path inner)) es
    | some (.tables latest earlier) => do
      return put key (.tables (← setPath? value false false path latest) earlier) es

/-- Set the values under several paths. -/
def setAll? : List (List String × Value) → Entries → Option Entries
  | [], es => some es
  | (path, value) :: pairs, es => do setAll? pairs (← setPath? value false true path es)

/-- Open the table under a path, or a new item of the array of tables there, and fill it. -/
def openTable? (isItem : Bool) (pairs : List (List String × Value)) :
    (path : List String) → Entries → Option Entries
  | [], _ => none
  | [key], es =>
    match isItem, List.lookup key es with
    -- A table that is new or was only implied so far.
    | false, none => do
      return put key (.table .opened (← setAll? pairs [])) es
    | false, some (.table .implied inner) => do
      return put key (.table .opened (← setAll? pairs inner)) es
    -- The first item of an array, or one more.
    | true, none => do
      return put key (.tables (← setAll? pairs []) []) es
    | true, some (.tables latest earlier) => do
      return put key (.tables (← setAll? pairs []) (latest :: earlier)) es
    | _, _ => none
  | key :: path, es =>
    match List.lookup key es with
    | none => do
      return put key (.table .implied (← openTable? isItem pairs path [])) es
    | some (.value _) => none
    | some (.table origin inner) => do
      return put key (.table origin (← openTable? isItem pairs path inner)) es
    | some (.tables latest earlier) => do
      return put key (.tables (← openTable? isItem pairs path latest) earlier) es

mutual

/-- The value that a node stands for. -/
def Node.toValue : Node → Value
  | .value v => v
  | .table _ entries => .table (toValues entries)
  | .tables latest earlier => .array (toTables earlier [.table (toValues latest)])

/-- The values of entries. -/
def toValues : List (String × Node) → List (String × Value)
  | [] => []
  | (key, node) :: es => (key, node.toValue) :: toValues es

/-- The tables of an array before those in `later`, the latest first. -/
def toTables : List (List (String × Node)) → (later : List Value) → List Value
  | [], later => later
  | es :: ess, later => toTables ess (.table (toValues es) :: later)

end

/-! ## Keys and values -/

/-- The character may stand in a key without quotes. -/
def isKeyChar (c : Char) : Bool :=
  c.isAlphanum || c == '_' || c == '-'

/-- A part of a key, and what follows. -/
def readKey? (cs : List Char) : Option (String × List Char) :=
  match cs with
  | '"' :: _ | '\'' :: _ => readLine? cs
  | _ =>
    let key := cs.takeWhile isKeyChar
    if key = [] then none else some (String.ofList key, cs.dropWhile isKeyChar)

/-- A key of so many parts at most, with the blanks around them, and what follows. -/
def readPath? : Nat → List Char → Option (List String × List Char)
  | 0, _ => none
  | parts + 1, cs => do
    let (key, rest) ← readKey? (skipBlanks cs)
    match skipBlanks rest with
    | '.' :: rest => do
      let (path, rest) ← readPath? parts rest
      return (key :: path, rest)
    | rest => return ([key], rest)

/-- A key with a value, blanks around them, and what follows. -/
def readPair? (value : List Char → Option (Value × List Char)) (cs : List Char) :
    Option ((List String × Value) × List Char) := do
  let (path, rest) ← readPath? maxDepth cs
  let (v, rest) ← value (skipBlanks (← readMark? '=' rest))
  return ((path, v), skipBlanks rest)

/-- The pairs of an inline table, of which there is at least one, and what follows its
    closing brace. The number of characters is fuel enough. -/
def readPairs? (value : List Char → Option (Value × List Char)) :
    Nat → List Char → Option (List (List String × Value) × List Char)
  | 0, _ => none
  | fuel + 1, cs => do
    let (pair, rest) ← readPair? value cs
    match rest with
    | ',' :: rest => do
      let (pairs, rest) ← readPairs? value fuel rest
      return (pair :: pairs, rest)
    | '\x7d' :: rest => return ([pair], rest)
    | _ => none

/-- What follows blanks, line ends and comments. -/
def skipFiller : (inComment : Bool) → List Char → List Char
  | _, [] => []
  | _, '\n' :: rest => skipFiller false rest
  | _, '\r' :: '\n' :: rest => skipFiller false rest
  | inComment, c :: rest =>
    if inComment && isVisible c || isBlank c then skipFiller inComment rest
    else if c == '#' then skipFiller true rest
    else c :: rest

/-- The items of an array, and what follows its closing bracket. The number of characters is
    fuel enough. -/
def readItems? (value : List Char → Option (Value × List Char)) :
    Nat → List Char → Option (List Value × List Char)
  | 0, _ => none
  | fuel + 1, cs =>
    match skipFiller false cs with
    | ']' :: rest => some ([], rest)
    | cs => do
      let (item, rest) ← value cs
      match skipFiller false rest with
      | ',' :: rest => do
        let (items, rest) ← readItems? value fuel rest
        return (item :: items, rest)
      | ']' :: rest => return ([item], rest)
      | _ => none

/-- A value that nests to the given depth at most, and what follows. -/
def readValue? : Nat → List Char → Option (Value × List Char)
  | depth, cs =>
    match cs with
    | '"' :: _ | '\'' :: _ => (readString? cs).map fun (text, rest) => (.string text, rest)
    | 't' :: 'r' :: 'u' :: 'e' :: rest => some (.bool true, rest)
    | 'f' :: 'a' :: 'l' :: 's' :: 'e' :: rest => some (.bool false, rest)
    | '[' :: rest =>
      match depth with
      | 0 => none
      | depth + 1 =>
        (readItems? (readValue? depth) (rest.length + 1) rest).map fun (items, rest) =>
          (.array items, rest)
    | '\x7b' :: rest =>
      match depth with
      | 0 => none
      | depth + 1 =>
        match skipBlanks rest with
        | '\x7d' :: rest => some (.table [], rest)
        | _ => do
          let (pairs, rest) ← readPairs? (readValue? depth) (rest.length + 1) rest
          return (.table (toValues (← setAll? pairs [])), rest)
    | _ =>
      -- A date begins like a number, so it is looked for first.
      match readMoment? cs with
      | some rest => some (.moment, rest)
      | none => readNumber? cs

/-! ## Documents -/

/-- A statement of a document. -/
inductive Statement where
  | pair (path : List String) (value : Value)
  /-- The header of a table, or of an item of an array of tables. -/
  | header (path : List String) (isItem : Bool)

/-- What follows the end of a line with nothing but a comment before it. -/
def readLineEnd? (cs : List Char) : Option (List Char) :=
  let rest := match skipBlanks cs with
    | '#' :: rest => rest.dropWhile isVisible
    | rest => rest
  if rest = [] then some [] else readNewline? rest

/-- A statement, and what follows. -/
def readStatement? : List Char → Option (Statement × List Char)
  | '[' :: '[' :: rest => do
    let (path, rest) ← readPath? maxDepth rest
    return (.header path true, ← readMark? ']' (← readMark? ']' rest))
  | '[' :: rest => do
    let (path, rest) ← readPath? maxDepth rest
    return (.header path false, ← readMark? ']' rest)
  | cs => do
    let ((path, value), rest) ← readPair? (readValue? maxDepth) cs
    return (.pair path value, rest)

/-- All statements. The number of characters is fuel enough. -/
def readStatements? : Nat → List Char → Option (List Statement)
  | 0, _ => none
  | fuel + 1, cs =>
    match skipBlanks cs with
    | [] => some []
    | cs =>
      match readLineEnd? cs with
      | some rest => readStatements? fuel rest
      | none => do
        let (statement, rest) ← readStatement? cs
        return statement :: (← readStatements? fuel (← readLineEnd? rest))

/-- The pairs up to the next header, and the statements from there on. -/
def leadingPairs : List Statement → List (List String × Value) × List Statement
  | .pair path value :: rest => ((path, value) :: (leadingPairs rest).1, (leadingPairs rest).2)
  | rest => ([], rest)

/-- Open and fill the tables of some statements. -/
def openAll? : List Statement → Entries → Option Entries
  | [], es => some es
  | .header path isItem :: rest, es => do
    openAll? rest (← openTable? isItem (leadingPairs rest).1 path es)
  | .pair _ _ :: rest, es => openAll? rest es

/-- The table of a document, which may begin with a byte order mark. -/
def read? (text : String) : Option Value := do
  let cs := match text.toList with
    | '\ufeff' :: cs => cs
    | cs => cs
  let statements ← readStatements? (cs.length + 1) cs
  let root ← setAll? (leadingPairs statements).1 []
  return .table (toValues (← openAll? statements root))

end Toml

end Replatform
