import ChartParsing.Sentence.Tokens
import ChartParsing.Tree

/-!
Contract: trees as text.

Owns the two forms in which trees are written. The bracketed form puts a tree on one line,
`(S (NP (DET the) (NOUN dog)) (VP (VERB barks)))`, and shows no weights and no notes. The indented
form puts every node on a line of its own, two spaces to the right of its parent, with its weight
unless that is zero and its note unless that is empty.
-/

set_option autoImplicit false

namespace ChartParsing

/-- The forms in which trees are written. -/
inductive TreeFormat where
  | bracketed
  | indented
deriving DecidableEq, Repr

namespace Tree

/-- What a node shows of itself: its category, and for a leaf the word it matched, if any. -/
def caption (tree : Tree) : String :=
  if tree.isLeaf then
    if tree.label.isEmpty then tree.category else tree.category ++ " " ++ tree.label
  else tree.label

/-! ## The bracketed form -/

mutual

def bracketed : Tree → String
  | ⟨label, category, weight, note, children⟩ =>
    "(" ++ caption ⟨label, category, weight, note, children⟩ ++ bracketedAll children ++ ")"

def bracketedAll : List Tree → String
  | [] => ""
  | tree :: others => " " ++ bracketed tree ++ bracketedAll others

end

/-! ## The indented form -/

def weightMark (weight : Int) : String :=
  if weight = 0 then "" else s!" [{weight}]"

def noteMark (note : String) : String :=
  if note.isEmpty then "" else " \x7b" ++ note ++ "\x7d"

/-- The spaces in front of a node of some depth. -/
def margin (depth : Nat) : String :=
  String.ofList (List.replicate (2 * depth) ' ')

mutual

/-- The lines of a tree whose root has some depth. -/
def linesAt (depth : Nat) : Tree → List String
  | ⟨label, category, weight, note, children⟩ =>
    (margin depth ++ caption ⟨label, category, weight, note, children⟩ ++ weightMark weight
      ++ noteMark note ++ "\n") :: linesAllAt (depth + 1) children

/-- The lines of trees whose roots have one depth. -/
def linesAllAt (depth : Nat) : List Tree → List String
  | [] => []
  | tree :: others => linesAt depth tree ++ linesAllAt depth others

end

/-! ## Whole outputs -/

/-- The lines that are written for a tree. -/
def linesIn (format : TreeFormat) (tree : Tree) : List String :=
  match format with
  | .bracketed => [tree.bracketed ++ "\n"]
  | .indented => linesAt 0 tree

def written (format : TreeFormat) (tree : Tree) : String :=
  String.join (tree.linesIn format)

/-- Trees as they are written out, one after the other. -/
def writtenAll (format : TreeFormat) : List Tree → String
  | [] => ""
  | tree :: others => written format tree ++ writtenAll format others

end Tree

/-- What stands for the trees of a sentence that has none. -/
def noParse (words : List String) : String :=
  match words with
  | [] => "(NOPARSE)"
  | _ => "(NOPARSE " ++ Sentence.spaced words ++ ")"

end ChartParsing
