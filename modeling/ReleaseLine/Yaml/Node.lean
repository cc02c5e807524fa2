import ReleaseLine.Yaml.Token

namespace ReleaseLine.Yaml

/-- A scalar: its text, how it is written, and its tag unless that is left to the reader. -/
structure Scalar where
  text : String
  style : Style
  tag : Option String
deriving DecidableEq

/-- A tree. One whose text could not be read to its end ends in a cut; aliases refer to anchored
nodes by number. -/
inductive Node where
  | scalar (mark : Mark) (anchor : Option Nat) (content : Scalar)
  | sequence (mark : Mark) (anchor : Option Nat) (items : List Node)
  | mapping (mark : Mark) (anchor : Option Nat) (entries : List (Node × Node))
  | alias (mark : Mark) (number : Nat)
  | cut

namespace Node

def plain (mark : Mark) (text : String) : Node := .scalar mark none ⟨text, .plain, none⟩

mutual

/-- Whether a tree has no cut. -/
def isWhole : Node → Bool
  | .scalar .. | .alias .. => true
  | .sequence _ _ items => allWhole items
  | .mapping _ _ entries => allPairsWhole entries
  | .cut => false

def allWhole : List Node → Bool
  | [] => true
  | node :: rest => isWhole node && allWhole rest

def allPairsWhole : List (Node × Node) → Bool
  | [] => true
  | (key, value) :: rest => isWhole key && isWhole value && allPairsWhole rest

end

mutual

/-- The anchored nodes of a tree with their numbers, each before the nodes inside it. -/
def anchored : Node → List (Nat × Node)
  | .scalar mark anchor content => (anchor.map (·, .scalar mark anchor content)).toList
  | .sequence mark anchor items =>
    (anchor.map (·, .sequence mark anchor items)).toList ++ allAnchored items
  | .mapping mark anchor entries =>
    (anchor.map (·, .mapping mark anchor entries)).toList ++ allPairsAnchored entries
  | .alias .. | .cut => []

def allAnchored : List Node → List (Nat × Node)
  | [] => []
  | node :: rest => anchored node ++ allAnchored rest

def allPairsAnchored : List (Node × Node) → List (Nat × Node)
  | [] => []
  | (key, value) :: rest => anchored key ++ anchored value ++ allPairsAnchored rest

end

end Node

structure Document where
  /-- Nothing at all, or a tree. -/
  root : Option Node
  /-- Why the tree has a cut, or what follows it cannot be read. -/
  error : Option Error
  /-- Whether anything but the end of the text follows the document. -/
  followed : Bool

namespace Document

/-- The node that an alias refers to: the last one with its number. -/
def target? (d : Document) (number : Nat) : Option Node :=
  let nodes := (d.root.map Node.anchored).getD []
  (nodes.reverse.find? (·.1 = number)).map (·.2)

end Document

end ReleaseLine.Yaml
