
/-!
# Paths

Files are named by slash-separated paths, kept as written. Two things need their structure:
the order of locations in a report, and a file's extension.

A path is read as a list of `Component`s: a leading `/` is the root; a leading `.` segment is
the current directory; `..` is the parent; other segments are names; empty segments and any
later `.` segment are dropped. So `a/b`, `a/./b` and `a//b` have the same components, and
compare equal.

* `Path.compare` orders paths by their components, one by one: the root before `.`, before
  `..`, before names, and names by code points; a path that is a proper prefix of another comes
  first. So `a/b` comes before `a.b`, since `a` comes before `a.b`.
* `Path.extension?` is the text after the last dot of the last component, if that component
  is a name with a dot that is not its first character: `a.b.strings` has `strings`, `.strings`
  and `Makefile` have none, and `a.` has the empty extension.
-/

namespace L10nLint.Path

/-- A component of a path. -/
inductive Component where
  | root
  | current
  | parent
  | normal (name : String)
  deriving DecidableEq, Repr

namespace Component

/-- The rank of a component's kind in the order. -/
def rank : Component → Nat
  | .root => 0
  | .current => 1
  | .parent => 2
  | .normal _ => 3

/-- Components by kind (root, current, parent, name), and names by code points. -/
def compare (a b : Component) : Ordering :=
  match a, b with
  | .normal x, .normal y => Ord.compare x y
  | _, _ => Ord.compare a.rank b.rank

end Component

/-- The components of the segments after the start of a path. -/
def body (cs : List Char) : List Component :=
  (cs.splitOn '/').filterMap fun segment =>
    match segment with
    | [] => none
    | ['.'] => none
    | ['.', '.'] => some .parent
    | name => some (.normal (String.ofList name))

/-- The components of a path. -/
def components (path : String) : List Component :=
  match path.toList with
  | '/' :: rest => .root :: body rest
  | ['.'] => [.current]
  | '.' :: '/' :: rest => .current :: body rest
  | cs => body cs

/-- Paths by their components. -/
def compare (a b : String) : Ordering :=
  List.compareLex Component.compare (components a) (components b)

/-- The last component of a path, if it is a name. -/
def fileName? (path : String) : Option String :=
  match (components path).getLast? with
  | some (.normal name) => some name
  | _ => none

/-- The extension of a file name: the text after its last dot, unless it has no dot or its
only dot is its first character. -/
def nameExtension? (name : String) : Option String :=
  match (name.toList.splitOn '.').reverse with
  | [] => none
  | [_] => none
  | [_, []] => none
  | ext :: _ => some (String.ofList ext)

/-- The extension of a path's file name. -/
def extension? (path : String) : Option String := (fileName? path).bind nameExtension?

example : components "a//./b/" = [.normal "a", .normal "b"] := by decide
example : components "./a/.." = [.current, .normal "a", .parent] := by decide
example : extension? "dir/a.b.strings" = some "strings" ∧ extension? "dir/.strings" = none ∧
    extension? "a." = some "" := by decide

end L10nLint.Path
