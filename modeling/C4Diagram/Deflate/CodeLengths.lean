/-!
Code lengths from the counts of symbols. Merging the two lightest trees again and again gives the
depths of the symbols; depths past the limit are cut and the code is made complete again; and the
lengths go to the symbols in the order of their counts, the longest to the rarest.
-/

namespace C4Diagram.Deflate

inductive WeightTree where
  | leaf (weight : Nat)
  | fork (weight : Nat) (left right : WeightTree)

namespace WeightTree

def weight : WeightTree → Nat
  | leaf w => w
  | fork w _ _ => w

def depths (depth : Nat) : WeightTree → List Nat
  | leaf _ => [depth]
  | fork _ l r => l.depths (depth + 1) ++ r.depths (depth + 1)

/-- The lightest tree of two queues, each in rising order, and what is left of them. A leaf goes
before a fork of the same weight. -/
def lightest? : (leaves forks : List WeightTree) → Option (WeightTree × List WeightTree × List WeightTree)
  | [], [] => none
  | l :: ls, [] => some (l, ls, [])
  | [], f :: fs => some (f, [], fs)
  | l :: ls, f :: fs => if f.weight < l.weight then some (f, l :: ls, fs) else some (l, ls, f :: fs)

/-- Merges the two lightest trees until one is left. Forks come in rising order of weight, so they
form a queue. At most `merges` merges are made. -/
def merge : (merges : Nat) → (leaves forks : List WeightTree) → Option WeightTree
  | 0, leaves, forks => (lightest? leaves forks).map Prod.fst
  | n + 1, leaves, forks =>
    match lightest? leaves forks with
    | none => none
    | some (a, leaves, forks) =>
      match lightest? leaves forks with
      | none => some a
      | some (b, leaves, forks) => merge n leaves (forks ++ [fork (a.weight + b.weight) a b])

end WeightTree

/-- The depths of symbols with the given weights, which are in rising order. One symbol alone still
has one bit. -/
def leafDepths (weights : List Nat) : List Nat :=
  match weights with
  | [] => []
  | [_] => [1]
  | _ => ((WeightTree.merge weights.length (weights.map .leaf) []).map (·.depths 0)).getD []

/-- How many depths equal 1, 2, … up to the limit, where deeper ones count as the limit. -/
def depthCounts (limit : Nat) (depths : List Nat) : List Nat :=
  (List.range' 1 limit).map fun l => depths.countP fun d => min d limit == l

/-- The part of all words of length `limit` that the counts of lengths 1, 2, … `limit` take. -/
def countsCoverage (limit : Nat) (counts : List Nat) : Nat :=
  (counts.mapIdx fun i c => c <<< (limit - (i + 1))).foldr (· + ·) 0

/-- Takes one word from the longest non-empty length below the limit and puts two behind it. The
counts come from the longest length down, the limit itself left out; the second part is what the
length one longer gains. -/
def splitOne : List Nat → Nat × List Nat
  | [] => (0, [])
  | 0 :: rest =>
    let (gain, rest) := splitOne rest
    (0, gain :: rest)
  | (n + 1) :: rest => (2, n :: rest)

/-- One word of the limit's length less, and one word below it made two of the next length: the
coverage falls by one. -/
def shedOne (counts : List Nat) : List Nat :=
  match counts.reverse with
  | [] => []
  | deepest :: rest =>
    let (gain, rest) := splitOne rest
    ((deepest - 1 + gain) :: rest).reverse

def balanced (limit : Nat) (counts : List Nat) : List Nat :=
  Nat.repeat shedOne (countsCoverage limit counts - 1 <<< limit) counts

def lengthsDescending (counts : List Nat) : List Nat :=
  (counts.mapIdx fun i c => List.replicate c (i + 1)).reverse.flatten

/-- The lengths of the words of all symbols, from their counts. A symbol that never occurs has
length 0. -/
def codeLengths (limit : Nat) (counts : List Nat) : List Nat :=
  let used := (counts.zipIdx.filter (0 < ·.1)).mergeSort (fun a b => a.1 ≤ b.1)
  let perLength := depthCounts limit (leafDepths (used.map Prod.fst))
  let given := (used.map Prod.snd).zip (lengthsDescending (balanced limit perLength))
  (List.range counts.length).map fun symbol => (given.lookup symbol).getD 0

end C4Diagram.Deflate
