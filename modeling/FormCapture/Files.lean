import FormCapture.Error
import FormCapture.Text.Utf8

/-! # Files

What a path leads to. A path is a text cut at its slashes; each name but the last leads through a
directory, a blank name and `.` stay where they are, `..` leads back. A path that is too long leads
nowhere. A tree of files is the list of what it holds, by place; every directory on the way to a file
is there with it. Of what lies around the tree nothing is known but that it is made of directories.

A walk through a tree (`Tree.walk`) ends nowhere as soon as a name is met that is not there or that
follows a file. -/

namespace FormCapture

inductive Entry
  | file (content : Bytes)
  | directory
  deriving DecidableEq, Repr

def Entry.text : Entry → Except SystemFault Text
  | file content =>
    match Utf8.decode? content with
    | some t => .ok t
    | none => .error .invalidUtf8
  | directory => .error .isDirectory

abbrev Files := Text → Option Entry

/-! ### Trees -/

/-- The files and directories under a starting directory, each with the names that lead to it. -/
structure Tree where
  entries : List (List Text × Entry)

inductive Place
  /-- At the end of these names. -/
  | inside (names : List Text)
  /-- In a directory around the tree. -/
  | outside
  deriving DecidableEq, Repr

namespace Tree

/-- What stands at the end of names that are walked from the starting directory. -/
def at? (tree : Tree) (names : List Text) : Option Entry :=
  match tree.entries.lookup names with
  | some entry => some entry
  | none =>
    if names.isEmpty || tree.entries.any fun e => names.isPrefixOf e.1 then some .directory
    else none

def entry? (tree : Tree) : Place → Option Entry
  | .inside names => tree.at? names
  | .outside => some .directory

def follow (place : Place) (name : Text) : Option Place :=
  match String.ofList name, place with
  | "", _ | ".", _ => some place
  | "..", .inside (n :: names) => some (.inside (n :: names).dropLast)
  | "..", _ => some .outside
  | _, .inside names => some (.inside (names ++ [name]))
  | _, .outside => none

def walk (tree : Tree) (place : Place) : List Text → Option Place
  | [] => some place
  | name :: names =>
    if tree.entry? place = some .directory then
      (follow place name).bind fun next => tree.walk next names
    else none

/-- The greatest length of a path, in bytes. -/
def maxPathLength : Nat := 4095

/-- What a path leads to: from the starting directory, or from outside if it starts with a slash. -/
def find? (tree : Tree) (path : Text) : Option Entry :=
  if maxPathLength < (Utf8.encode path).length then none
  else
    match path with
    | [] => none
    | '/' :: rest => (tree.walk .outside (Text.split '/' rest)).bind tree.entry?
    | _ => (tree.walk (.inside []) (Text.split '/' path)).bind tree.entry?

/-! ### Building a tree -/

/-- The places of an entry that is put at the end of some names, after a walk to `place`: its own, and
those of the directories that the names lead into and out of again. -/
def placesFrom (place : List Text) (entry : Entry) : List Text → List (List Text × Entry)
  | [] => [(place, entry)]
  | name :: names =>
    match String.ofList name with
    | "" | "." => placesFrom place entry names
    | ".." => (place, .directory) :: placesFrom place.dropLast entry names
    | _ => placesFrom (place ++ [name]) entry names

def ofPaths (entries : List (Text × Entry)) : Tree :=
  ⟨entries.flatMap fun (path, entry) => placesFrom [] entry (Text.split '/' path)⟩

end Tree

end FormCapture
