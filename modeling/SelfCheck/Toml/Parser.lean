import SelfCheck.Toml.Date
import SelfCheck.Toml.Number
import SelfCheck.Toml.Table

/-!
# Reading TOML

A document is a list of statements: a header opens a table, or one more table of an array, and an
entry gives a key its value. Values nest less than eighty deep and keys have fewer than eighty
parts.

## Main definitions

* `Toml.path?` — a dotted key
* `Toml.value?` — a value
* `Toml.Statement`, `Toml.statements?` — the statements of a document
* `Toml.parse?` — the entries of a whole document
-/

namespace SelfCheck.Toml

/-! ### Blanks, comments, ends of lines -/

/-- What follows blanks, line ends and comments; `inComment` says that the characters stand in a
comment. -/
def skipBlank (inComment : Bool) : List Char → List Char
  | [] => []
  | '\r' :: '\n' :: rest => skipBlank false rest
  | c :: rest =>
    if c = '\n' then skipBlank false rest
    else if inComment then if isPlain c then skipBlank true rest else c :: rest
    else if isSpace c then skipBlank false rest
    else if c = '#' then skipBlank true rest
    else c :: rest

/-- What follows the end of a line, or of the document. -/
def newline? : List Char → Option (List Char)
  | [] => some []
  | '\n' :: rest => some rest
  | '\r' :: '\n' :: rest => some rest
  | _ => none

/-- What follows the rest of a line that holds nothing more, except a comment. -/
def lineEnd? (cs : List Char) : Option (List Char) :=
  match skipSpace cs with
  | '#' :: rest => newline? (rest.dropWhile isPlain)
  | rest => newline? rest

/-! ### Keys -/

/-- A character of a key without quotes. -/
def isKey (c : Char) : Bool := c.isAlphanum || c = '-' || c = '_'

/-- One part of a key, and what follows it. -/
def key? : List Char → Option (List Char × List Char)
  | '"' :: rest => basic? rest
  | '\'' :: rest => literal? rest
  | cs =>
    let key := cs.takeWhile isKey
    if key.isEmpty then none else some (key, cs.dropWhile isKey)

/-- A key of at most `parts` parts with points between them, and what follows it and the blanks
around it. -/
def path? : Nat → List Char → Option (List String × List Char)
  | 0, _ => none
  | parts + 1, cs => do
    let (key, rest) ← key? (skipSpace cs)
    match skipSpace rest with
    | '.' :: rest =>
      let (path, rest) ← path? parts rest
      some (String.ofList key :: path, rest)
    | rest => some ([String.ofList key], rest)

/-- How many parts a key may have, and how deep a value may nest. -/
def maxDepth : Nat := 79

/-! ### Values -/

/-- A value that holds no other, and what follows it. -/
def scalar? (cs : List Char) : Option (Toml × List Char) :=
  match cs with
  | 't' :: 'r' :: 'u' :: 'e' :: rest => some (.bool true, rest)
  | 'f' :: 'a' :: 'l' :: 's' :: 'e' :: rest => some (.bool false, rest)
  | _ =>
    match string? cs with
    | some (text, rest) => some (.string (String.ofList text), rest)
    | none =>
      match moment? cs with
      | some rest => some (.moment, rest)
      | none => number? cs

/-- The elements of an array, after its opening bracket, and what follows its closing one. A comma
may stand after the last element. `fuel` bounds their count. -/
def elements? (value : List Char → Option (Toml × List Char)) :
    Nat → List Char → Option (List Toml × List Char)
  | 0, _ => none
  | fuel + 1, cs =>
    match skipBlank false cs with
    | ']' :: rest => some ([], rest)
    | cs => do
      let (element, rest) ← value cs
      match skipBlank false rest with
      | ']' :: rest => some ([element], rest)
      | ',' :: rest =>
        let (elements, rest) ← elements? value fuel rest
        some (element :: elements, rest)
      | _ => none

/-- A key and its value, and what follows them. -/
def keyValue? (value : List Char → Option (Toml × List Char)) (cs : List Char) :
    Option (Entry × List Char) := do
  let (path, rest) ← path? maxDepth cs
  let (value, rest) ← value (skipSpace (← after? '=' rest))
  some (⟨path, value⟩, rest)

/-- The entries of a table between braces, and what follows the closing one. No comma may stand
after the last entry. `fuel` bounds their count. -/
def entries? (value : List Char → Option (Toml × List Char)) :
    Nat → List Char → Option (List Entry × List Char)
  | 0, _ => none
  | fuel + 1, cs => do
    let (first, rest) ← keyValue? value cs
    match skipSpace rest with
    | '}' :: rest => some ([first], rest)
    | ',' :: rest =>
      let (more, rest) ← entries? value fuel rest
      some (first :: more, rest)
    | _ => none

/-- A table between braces, after the opening one, and what follows it. -/
def braces? (value : List Char → Option (Toml × List Char)) (cs : List Char) :
    Option (Toml × List Char) :=
  match skipSpace cs with
  | '}' :: rest => some (.table .inline [], rest)
  | _ => do
    let (entries, rest) ← entries? value cs.length cs
    let table ← entries.foldlM (fun table e => insert? e table) []
    some (.table .inline table, rest)

/-- A value that nests at most `depth` deep, and what follows it. -/
def value? : Nat → List Char → Option (Toml × List Char)
  | 0, '[' :: _ => none
  | 0, '{' :: _ => none
  | depth + 1, '[' :: rest =>
    (elements? (value? depth) rest.length rest).map fun (elements, rest) => (.array elements, rest)
  | depth + 1, '{' :: rest => braces? (value? depth) rest
  | _, cs => scalar? cs

/-! ### Statements -/

/-- A statement of a document. -/
inductive Statement where
  /-- A table of its own. -/
  | header (path : List String)
  /-- One more table of an array. -/
  | element (path : List String)
  | entry (e : Entry)

/-- A statement, and what follows its line. -/
def statement? : List Char → Option (Statement × List Char)
  | '[' :: '[' :: rest => do
    let (path, rest) ← path? maxDepth rest
    let rest ← lineEnd? (← after? ']' (← after? ']' rest))
    some (.element path, rest)
  | '[' :: rest => do
    let (path, rest) ← path? maxDepth rest
    let rest ← lineEnd? (← after? ']' rest)
    some (.header path, rest)
  | cs => do
    let (e, rest) ← keyValue? (value? maxDepth) cs
    let rest ← lineEnd? rest
    some (.entry e, rest)

/-- The statements of a document; `fuel` bounds the count of its lines. -/
def statements? : Nat → List Char → Option (List Statement)
  | 0, _ => none
  | fuel + 1, cs =>
    match skipSpace cs with
    | [] => some []
    | c :: rest =>
      if c = '#' || c = '\r' || c = '\n' then (lineEnd? (c :: rest)).bind (statements? fuel)
      else do
        let (s, rest) ← statement? (c :: rest)
        let more ← statements? fuel rest
        some (s :: more)

/-- What a document means so far: the table that the last header opened, and all entries. -/
structure Draft where
  place : List String := []
  root : Entries := []

/-- A document with one more statement. -/
def Draft.add? (d : Draft) : Statement → Option Draft
  | .header path => (open? path d.root).map (⟨path, ·⟩)
  | .element path => (append? path d.root).map (⟨path, ·⟩)
  | .entry e => (within? false (fun _ => insert? e) d.place .header d.root).map (⟨d.place, ·⟩)

/-- The entries of a document. A byte order mark in front of it is passed over. -/
def parse? (text : String) : Option Entries := do
  let cs := match text.toList with
    | '\uFEFF' :: rest => rest
    | cs => cs
  let statements ← statements? (cs.length + 1) cs
  let draft ← statements.foldlM Draft.add? {}
  some draft.root

end SelfCheck.Toml
