import Furthest.Regex.Node

/-!
# Normal forms

In the normal form of a regular expression no choice is larger than it has to be. What all
alternatives start with stands before the choice, as far as it is a single character, a
condition or a reference; and a choice between single characters is one set of characters.
The normal form matches what the expression does, but fewer alternatives are tried.

## Main definitions

* `Regex.Node.parts`: the nodes that an expression matches one after the other.
* `Regex.Node.normal`: the normal form.
-/

namespace Furthest.Regex

namespace Node

/-- The nodes that an expression matches one after the other. -/
def parts : Node → List Node
  | empty => []
  | seq first second => parts first ++ parts second
  | node => [node]

/-- Matches several nodes, one after the other. -/
def ofParts : List Node → Node
  | [] => empty
  | [node] => node
  | node :: nodes => seq node (ofParts nodes)

/-- Whether a node may be moved out of the alternatives that start with it. -/
def isShared : Node → Bool
  | chars _ | anchor _ | backref .. => true
  | _ => false

/-- Splits alternatives, given by their parts, into what all of them start with and the
rests. -/
def splitStart : List Node → List (List Node) → List Node × List (List Node)
  | [], others => ([], [] :: others)
  | node :: nodes, others =>
    if node.isShared && others.all fun o => o.head? == some node then
      let (start, rests) := splitStart nodes (others.map List.tail)
      (node :: start, rests)
    else ([], (node :: nodes) :: others)

/-- The set of the characters that one of the alternatives matches, if each of them matches
a character of some set. -/
def unionSet? : List (List Node) → Option CharSet
  | [] => none
  | [[chars s]] => if s.negated then none else some s
  | [chars s] :: others =>
    if s.negated then none
    else (unionSet? others).map fun u =>
      { u with items := s.items ++ u.items, ignoreCase := s.ignoreCase || u.ignoreCase }
  | _ => none

/-- The choice between several alternatives in normal form. -/
def normalChoice : List Node → Node
  | [] => empty
  | [node] => node
  | node :: nodes =>
    let (start, rests) := splitStart node.parts (nodes.map parts)
    match unionSet? rests with
    | some s => ofParts (start ++ [chars s])
    | none => ofParts (start ++ [ofAlternatives (rests.map ofParts)])

/-- The alternatives of an expression in normal form, of which there is just one if the
expression is no choice. -/
def normalAlternatives : Node → List Node
  | alt first second => normalChoice (normalAlternatives first) :: normalAlternatives second
  | seq first second =>
    [seq (normalChoice (normalAlternatives first)) (normalChoice (normalAlternatives second))]
  | conditional index present absent =>
    [conditional index (normalChoice (normalAlternatives present))
      (normalChoice (normalAlternatives absent))]
  | group index body => [group index (normalChoice (normalAlternatives body))]
  | repeated style least extra body =>
    [repeated style least extra (normalChoice (normalAlternatives body))]
  | atomic body => [atomic (normalChoice (normalAlternatives body))]
  | look behind negated body => [look behind negated (normalChoice (normalAlternatives body))]
  | node => [node]

/-- The normal form. -/
def normal (node : Node) : Node := normalChoice (normalAlternatives node)

end Node

end Furthest.Regex
