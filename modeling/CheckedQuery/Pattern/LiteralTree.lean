import CheckedQuery.Pattern.Program.Meter

/-!
# Trees of literals

A choice among literals as a tree of their bytes.  The order of the literals
matters, so where one of them ends the branches of the tree are closed: what
later literals add goes into new branches behind the end.
-/

namespace CheckedQuery.Pattern

/-- A tree of literals: the groups of branches that an end has closed, from the
last one, and the branches that are still open. -/
inductive LiteralTree where
  | node (closed : List (List (UInt8 × LiteralTree))) (branches : List (UInt8 × LiteralTree))

namespace LiteralTree

def empty : LiteralTree :=
  .node [] []

/-- Whether no literal goes on from here. -/
def isLeaf : LiteralTree → Bool
  | .node closed branches => closed.all List.isEmpty && branches.isEmpty

/-- Let a literal end here.  A second end changes nothing where no literal goes
on. -/
def close : LiteralTree → LiteralTree
  | .node [] branches => .node [branches] []
  | .node (group :: groups) branches =>
      if isLeaf (.node (group :: groups) branches) then .node (group :: groups) branches
      else .node (branches :: group :: groups) []

/-- Put a tree behind a byte, in the place of the one that stands there. -/
def put (byte : UInt8) (tree : LiteralTree) :
    List (UInt8 × LiteralTree) → List (UInt8 × LiteralTree)
  | [] => [(byte, tree)]
  | (other, found) :: rest =>
      if other = byte then (byte, tree) :: rest else (other, found) :: put byte tree rest

/-- Add a literal behind all others. -/
def add : List UInt8 → LiteralTree → LiteralTree
  | [], tree => tree.close
  | byte :: bytes, .node closed branches =>
      .node closed (put byte (add bytes ((branches.lookup byte).getD empty)) branches)

def ofLiterals (literals : List (List UInt8)) : LiteralTree :=
  literals.foldl (fun tree bytes => add bytes tree) empty

mutual

/-- The states of a tree: a choice among its groups, with an entry for each group
with branches and for each end, and the states of the groups. -/
def addTo : LiteralTree → Meter → Meter
  | .node closed branches, meter =>
      let meter := addGroups closed (addGroup branches meter)
      (meter.addStates 1).addEntries (closed.length + (if branches.isEmpty then 0 else 1))

/-- The states of closed groups, and an entry for each with branches. -/
def addGroups : List (List (UInt8 × LiteralTree)) → Meter → Meter
  | [], meter => meter
  | group :: groups, meter =>
      let meter := addGroups groups (addGroup group meter)
      if group.isEmpty then meter else meter.addEntries 1

/-- The state of a group, a list of byte spans if it has several branches, and the
states behind it. -/
def addGroup : List (UInt8 × LiteralTree) → Meter → Meter
  | [], meter => meter
  | [(_, tree)], meter => (addBehind tree meter).addStates 1
  | branch :: branches, meter =>
      (addEach (branch :: branches) meter).addSpans (branches.length + 1)

/-- The states behind all branches of a group. -/
def addEach : List (UInt8 × LiteralTree) → Meter → Meter
  | [], meter => meter
  | (_, tree) :: branches, meter => addEach branches (addBehind tree meter)

/-- The states behind one branch.  Behind a leaf there are none. -/
def addBehind (tree : LiteralTree) (meter : Meter) : Meter :=
  if tree.isLeaf then meter else addTo tree meter

end

end LiteralTree

end CheckedQuery.Pattern
