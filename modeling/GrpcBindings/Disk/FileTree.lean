import GrpcBindings.Disk
import GrpcBindings.Disk.Path

/-!
A tree of files as a disk. Paths are followed name by name through directories that exist, names and
paths have a greatest length, and a file is not replaced by a directory nor a directory by a file.
-/

namespace GrpcBindings

namespace Disk

inductive Fault where
  | notFound
  | alreadyExists
  | notADirectory
  | isADirectory
  | nameTooLong
  | nulInPath
  deriving DecidableEq, Repr

namespace Fault

def message : Fault → Text
  | notFound => "No such file or directory (os error 2)"
  | alreadyExists => "File exists (os error 17)"
  | notADirectory => "Not a directory (os error 20)"
  | isADirectory => "Is a directory (os error 21)"
  | nameTooLong => "File name too long (os error 36)"
  | nulInPath => "file name contained an unexpected NUL byte"

end Fault

/-- A file, or a directory with the names in it and what they name. -/
inductive Node where
  | file (content : Octets)
  | directory (entries : List (Text × Node))

abbrev Entries := List (Text × Node)

namespace Node

def isDirectory : Node → Bool
  | directory _ => true
  | file _ => false

/-- A file has no entries. -/
def entries : Node → Entries
  | directory entries => entries
  | file _ => []

end Node

namespace Entries

/-- The entries with a name for a node. What it named before is gone. -/
def put (name : Text) (node : Node) : Entries → Entries
  | [] => [(name, node)]
  | (other, old) :: rest =>
      if other = name then (name, node) :: rest else (other, old) :: put name node rest

/-- The entries with a node where names lead to, and with the directories on the way. -/
def plant (entries : Entries) (node : Node) : (names : List Text) → Entries
  | [] => entries
  | [name] => put name node entries
  | name :: names =>
      let inner := (entries.lookup name).elim [] Node.entries
      put name (.directory (plant inner node names)) entries

end Entries

/-- Where a path has led: what is there, if anything, and the directories around it, the innermost
first, each with the name in it that was followed. -/
structure Position where
  node : Option Node
  around : List (Text × Entries) := []

namespace Position

def ofRoot (root : Entries) : Position :=
  { node := some (.directory root) }

/-- The entries of the root, from those of a directory and what is around it. -/
def rootOf (entries : Entries) : (around : List (Text × Entries)) → Entries
  | [] => entries
  | (name, outer) :: rest => rootOf (Entries.put name (.directory entries) outer) rest

/-- The entries of the root with a node at a position, unless that is the root itself. -/
def put? (position : Position) (node : Node) : Option Entries :=
  match position.around with
  | [] => none
  | (name, outer) :: rest => some (rootOf (Entries.put name node outer) rest)

end Position

/-- The greatest number of octets in a name, and in a path. -/
def nameLimit : Nat := 255
def pathLimit : Nat := 4095

namespace Position

/-- Follows one segment of a path from a position that must be a directory. -/
def step (position : Position) (segment : Text) : Except Fault Position :=
  match position.node with
  | none => .error .notFound
  | some (.file _) => .error .notADirectory
  | some (.directory entries) =>
      if Path.isIdle segment then .ok position
      else if segment = ".." then
        match position.around with
        | [] => .ok position
        | (_, outer) :: rest => .ok { node := some (.directory outer), around := rest }
      else if nameLimit < segment.utf8.length then .error .nameTooLong
      else .ok { node := entries.lookup segment, around := (segment, entries) :: position.around }

end Position
end Disk

open Disk

structure FileTree where
  root : Entries := []
  /-- The names that lead from the root to where relative paths start. -/
  workingDirectory : List Text := []

namespace FileTree

/-- Where a path leads to. There need not be anything. -/
def locate (tree : FileTree) (path : Text) : Except Fault Position :=
  if '\x00' ∈ path then .error .nulInPath
  else if path = [] then .error .notFound
  else if pathLimit < path.utf8.length then .error .nameTooLong
  else
    let start := if Path.isAbsolute path then [] else tree.workingDirectory
    (start ++ path.pieces '/').foldlM Position.step (.ofRoot tree.root)

def load (tree : FileTree) (path : Text) : Except Fault Octets := do
  match (← tree.locate path).node with
  | none => throw .notFound
  | some (.directory _) => throw .isADirectory
  | some (.file content) => return content

def save (tree : FileTree) (path : Text) (content : Octets) : Except Fault FileTree := do
  let position ← tree.locate path
  match position.node, position.put? (.file content) with
  | some (.directory _), _ | _, none => throw .isADirectory
  | _, some root => return { tree with root }

def createDirectory (tree : FileTree) (path : Text) : Except Fault FileTree := do
  let position ← tree.locate path
  match position.node, position.put? (.directory []) with
  | none, some root => return { tree with root }
  | _, _ => throw .alreadyExists

def isDirectory (tree : FileTree) (path : Text) : Bool :=
  match tree.locate path with
  | .ok position => position.node.any Node.isDirectory
  | .error _ => false

/-- Creates a directory unless it is there. -/
def ensureDirectory (tree : FileTree) (path : Text) : Except Fault FileTree :=
  match tree.createDirectory path with
  | .ok tree => .ok tree
  | .error fault => if tree.isDirectory path then .ok tree else .error fault

/-- Creates directories from the outermost that is missing to the innermost, which comes first. What
was created remains if a later one fails. -/
def createDirectories (tree : FileTree) : (paths : List Text) → FileTree × Except Fault Unit
  | [] => (tree, .ok ())
  | path :: outer =>
      match tree.createDirectory path with
      | .ok tree => (tree, .ok ())
      | .error .notFound =>
          match tree.createDirectories outer with
          | (tree, .ok ()) =>
              match tree.ensureDirectory path with
              | .ok tree => (tree, .ok ())
              | .error fault => (tree, .error fault)
          | (tree, .error fault) => (tree, .error fault)
      | .error fault => (tree, if tree.isDirectory path then .ok () else .error fault)

/-- The tree as a disk. -/
def disk : Disk (StateM FileTree) where
  load path := do
    return ((← get).load path).mapError Fault.message
  createDirectories paths := modifyGet fun tree =>
    let (tree, result) := tree.createDirectories paths
    (result.mapError Fault.message, tree)
  save path content := modifyGet fun tree =>
    match tree.save path content with
    | .ok tree => (.ok (), tree)
    | .error fault => (.error fault.message, tree)

end FileTree
end GrpcBindings
