import L10nLint.Toml.Value

/-!
# Assembling a TOML document

A document is written as lines: key/value pairs, `[table]` headers and `[[array]]` headers.
Each line adds to a tree of `Node`s; this module holds the rules for what a line may add.

* A table remembers how it came into being (`Origin`). A header may declare a table that so
  far was only named on the way to another header's table, but never one that a header
  declared already or that dotted keys made.
* Dotted keys (`a.b.c = 1`) walk through, and make, tables of origin `dotted` only; they may not
  reach into a table that a header declared or named.
* A header walks through any table, and through an array of tables into its last element;
  a plain value in its way is an error.
* A plain value (inline tables and arrays included) is closed: nothing is added to it later.
* A key is written once in a table.

Inline tables are assembled by the same rule for dotted keys (`Entries.insertValue`), from an
empty table: their own dotted keys make tables of origin `dotted`, and a table written out as
a value inside them is closed.
-/

namespace L10nLint.Toml

/-- Why a document is not TOML. -/
inductive Error where
  /-- The text breaks the grammar. -/
  | malformed
  /-- A key or a table is defined twice. -/
  | duplicateKey (key : String)
  /-- A key names a value where a table is needed. -/
  | notATable (key : String)
  deriving DecidableEq, Repr

/-- How a table came into being. -/
inductive Origin where
  /-- Declared by a header, or the root, or an element of an array of tables. -/
  | declared
  /-- Named only on the way to a header's table. -/
  | implied
  /-- Made by a dotted key. -/
  | dotted
  deriving DecidableEq, Repr

/-- A node of a document under assembly. -/
inductive Node where
  /-- A value written out in full. -/
  | leaf (v : Value)
  /-- A table, open to later lines as its origin allows. -/
  | table (origin : Origin) (entries : List (String × Node))
  /-- An array of tables, in order; later lines add to the last one. -/
  | tables (elements : List (List (String × Node)))

/-- The entries of a table under assembly. -/
abbrev Entries := List (String × Node)

namespace Entries

/-- Replaces the node under `key`. -/
def replace (es : Entries) (key : String) (n : Node) : Entries :=
  es.map fun (k, m) => if k = key then (k, n) else (k, m)

/-- Runs `f` on the entries of the table that a header names by `path`, below `es`: missing
tables are made with origin `implied`, an array of tables stands for its last element, and a
plain value in the way is an error. -/
def alterAlong (f : Entries → Except Error Entries) :
    List String → Entries → Except Error Entries
  | [], es => f es
  | k :: ks, es =>
    match es.lookup k with
    | none => do
      let inner ← alterAlong f ks []
      pure (es ++ [(k, .table .implied inner)])
    | some (.leaf _) => throw (.notATable k)
    | some (.table origin inner) => do
      let inner ← alterAlong f ks inner
      pure (es.replace k (.table origin inner))
    | some (.tables elements) =>
      match elements.getLast? with
      | none => throw (.notATable k)
      | some last => do
        let last ← alterAlong f ks last
        pure (es.replace k (.tables (elements.dropLast ++ [last])))

/-- Declares the table `key` by a `[table]` header. -/
def declareTable (key : String) (es : Entries) : Except Error Entries :=
  match es.lookup key with
  | none => pure (es ++ [(key, .table .declared [])])
  | some (.table .implied inner) => pure (es.replace key (.table .declared inner))
  | some _ => throw (.duplicateKey key)

/-- Starts a new element of the array of tables `key` by an `[[array]]` header. -/
def appendTable (key : String) (es : Entries) : Except Error Entries :=
  match es.lookup key with
  | none => pure (es ++ [(key, .tables [[]])])
  | some (.tables elements) => pure (es.replace key (.tables (elements ++ [[]])))
  | some _ => throw (.duplicateKey key)

/-- Inserts `key = v` after the dotted `path` into the entries of a table; `isDotted` says
whether that table was made by dotted keys. Dotted keys walk only through tables they made;
the key lands in such a table when it has a path, and in another table when it has none.
`wantDotted` is whether the path was not empty. -/
def insertValue (wantDotted : Bool) (key : String) (v : Value) :
    Bool → List String → Entries → Except Error Entries
  | isDotted, [], es =>
    if isDotted != wantDotted then throw (.duplicateKey key)
    else if (es.lookup key).isSome then throw (.duplicateKey key)
    else pure (es ++ [(key, .leaf v)])
  | _, k :: ks, es =>
    match es.lookup k with
    | none => do
      let inner ← insertValue wantDotted key v true ks []
      pure (es ++ [(k, .table .dotted inner)])
    | some (.leaf _) => throw (.notATable k)
    | some (.table .declared _) => throw (.duplicateKey k)
    | some (.table origin inner) => do
      let inner ← insertValue wantDotted key v (origin = .dotted) ks inner
      pure (es.replace k (.table origin inner))
    | some (.tables elements) =>
      match elements.getLast? with
      | none => throw (.notATable k)
      | some last => do
        let last ← insertValue wantDotted key v false ks last
        pure (es.replace k (.tables (elements.dropLast ++ [last])))

/-- Inserts a key/value line `path.key = v` into a table that is not dotted. -/
def insertLine (path : List String) (key : String) (v : Value) (es : Entries) :
    Except Error Entries :=
  insertValue (!path.isEmpty) key v false path es

end Entries

mutual

/-- The value a node stands for. -/
def Node.toValue : Node → Value
  | .leaf v => v
  | .table _ entries => .table (Node.entriesValue entries)
  | .tables elements => .array (Node.tablesValue elements)

/-- The values of a table's entries. -/
def Node.entriesValue : List (String × Node) → List (String × Value)
  | [] => []
  | (k, n) :: rest => (k, n.toValue) :: Node.entriesValue rest

/-- The tables of an array of tables. -/
def Node.tablesValue : List (List (String × Node)) → List Value
  | [] => []
  | es :: rest => .table (Node.entriesValue es) :: Node.tablesValue rest

end

/-- A document under assembly: the root table and the path of the table that key/value lines
go into (through an array of tables, its last element). -/
structure Builder where
  root : Entries := []
  current : List String := []

namespace Builder

/-- A `[path]` header. -/
def header (b : Builder) (path : List String) : Except Error Builder :=
  match path.reverse with
  | [] => throw .malformed
  | key :: parents => do
    let root ← Entries.alterAlong (Entries.declareTable key) parents.reverse b.root
    pure { root, current := path }

/-- An `[[path]]` header. -/
def arrayHeader (b : Builder) (path : List String) : Except Error Builder :=
  match path.reverse with
  | [] => throw .malformed
  | key :: parents => do
    let root ← Entries.alterAlong (Entries.appendTable key) parents.reverse b.root
    pure { root, current := path }

/-- A key/value line `path.key = v`. -/
def keyValue (b : Builder) (path : List String) (key : String) (v : Value) :
    Except Error Builder := do
  let root ← Entries.alterAlong (Entries.insertLine path key v) b.current b.root
  pure { b with root }

/-- The document as a table. -/
def toValue (b : Builder) : Value := .table (Node.entriesValue b.root)

end Builder

/-- Assembles an inline table from its key/value pairs, each a dotted path, a key and a value. -/
def inlineTable (pairs : List (List String × String × Value)) : Except Error Value := do
  let es ← pairs.foldlM (fun es (path, key, v) => Entries.insertLine path key v es) []
  pure (.table (Node.entriesValue es))

end L10nLint.Toml
