import SatelliteWindows.NameMap
import SatelliteWindows.Yaml.Node

/-!
# Documents

In a document every alias has been linked to an anchor. Anchors are numbered: an anchor gets as its
number how many names are known before it, and an alias refers to the number that its name has at
that point. So when a name is used again, the next new name gets the same number, and of several
anchors with one number the last one counts.
-/

namespace SatelliteWindows.Yaml

mutual
/-- How many marks a node takes: one for a scalar or an alias, two for a list or a record besides
what is inside. -/
def Node.marks {ι : Type} : Node ι → Nat
  | .alias _ | .scalar .. => 1
  | .list _ items => marksOfItems items + 2
  | .record _ entries => marksOfEntries entries + 2

/-- How many marks the items of a list take. -/
def marksOfItems {ι : Type} : List (Node ι) → Nat
  | [] => 0
  | item :: rest => item.marks + marksOfItems rest

/-- How many marks the entries of a record take. -/
def marksOfEntries {ι : Type} : List (Node ι × Node ι) → Nat
  | [] => 0
  | (k, v) :: rest => k.marks + v.marks + marksOfEntries rest
end

/-- What is known of anchors in the part of a document that was read. -/
structure Anchors where
  /-- The number of each name. -/
  names : NameMap Nat := NameMap.empty
  /-- For each number, which anchored node it refers to, the last one first. -/
  owners : List (Nat × Nat) := []
  /-- The anchored nodes. -/
  nodes : List (Nat × Node Nat) := []
  /-- How many anchored nodes there were. -/
  count : Nat := 0

/-- What links the aliases of a document. -/
abbrev Linker (α : Type) := StateT Anchors (Except SyntaxError) α

namespace Linker

/-- Number an anchor; the anchored node is known by its place among the anchored nodes. -/
def enter (p : Properties) : Linker (Option Nat) := do
  match p.anchor with
  | none => return none
  | some name =>
    let a ← get
    let number := a.names.size
    set { a with
      names := a.names.put name number
      owners := (number, a.count) :: a.owners
      count := a.count + 1 }
    return some a.count

/-- Keep an anchored node. -/
def keep (place : Option Nat) (n : Node Nat) : Linker (Node Nat) := do
  match place with
  | none => return n
  | some i =>
    modify fun a => { a with nodes := (i, n) :: a.nodes }
    return n

mutual
/-- Link the aliases of a node. -/
def node : Node String → Linker (Node Nat)
  | .alias name => do
    match (← get).names.get? name with
    | some number => return .alias number
    | none => throw .undefinedAlias
  | .scalar p style text => do
    let place ← enter p
    keep place (.scalar p style text)
  | .list p items => do
    let place ← enter p
    let items ← itemNodes items
    keep place (.list p items)
  | .record p entries => do
    let place ← enter p
    let entries ← entryNodes entries
    keep place (.record p entries)

/-- Link the aliases of the items of a list. -/
def itemNodes : List (Node String) → Linker (List (Node Nat))
  | [] => return []
  | item :: rest => do
    let item ← node item
    let rest ← itemNodes rest
    return item :: rest

/-- Link the aliases of the entries of a record. -/
def entryNodes : List (Node String × Node String) → Linker (List (Node Nat × Node Nat))
  | [] => return []
  | (k, v) :: rest => do
    let k ← node k
    let v ← node v
    let rest ← entryNodes rest
    return (k, v) :: rest
end

end Linker

/-- A document whose aliases are linked. -/
structure Document where
  /-- The node of the document. -/
  root : Node Nat
  /-- What its anchors refer to. -/
  anchors : Anchors

namespace Document

/-- The node that an alias refers to. -/
def target? (d : Document) (number : Nat) : Option (Node Nat) :=
  (d.anchors.owners.lookup number).bind fun i => d.anchors.nodes.lookup i

/-- The document that a text holds, none if it holds nothing. -/
def ofText (text : String) : Except SyntaxError (Option Document) := do
  match ← Node.ofText text with
  | none => return none
  | some n =>
    let (root, anchors) ← (Linker.node n).run {}
    return some ⟨root, anchors⟩

end Document

end SatelliteWindows.Yaml
