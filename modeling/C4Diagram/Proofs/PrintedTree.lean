import C4Diagram.Outline.Tree
import C4Diagram.Proofs.BraceNesting
import Mathlib.Data.List.Sort

/-! The printed tree lists the nodes in their own order. It is put together from the children of one
node after the other, so this takes two facts on the nesting: the nodes between a boundary and one
of its children lie in that boundary, so what is printed under a node stands in front of the next
one at its level; and every node has a boundary or the document level above it, so none is left
out. -/

namespace C4Diagram

/-! Nodes and what is above them. -/

/-- Every node stands behind the boundary around it, and the nodes between the two lie in that
boundary or in one further down. -/
structure InBlocks (nodes : List Node) : Prop where
  parent : ∀ {j q : Nat} {n : Node}, nodes[j]? = some n → n.parentPosition = some q →
    q < j ∧ ∃ b, nodes[q]? = some b ∧ b.opensBlock = true
  between : ∀ {j k q : Nat} {n m : Node}, nodes[j]? = some n → n.parentPosition = some q →
    nodes[k]? = some m → q < k → k < j → ∃ r, m.parentPosition = some r ∧ q ≤ r

theorem Nesting.Describes.inBlocks {ls : List Line} {s : Nesting} (h : Describes ls s) :
    InBlocks s.nodes where
  parent {j q n} hn hq := by
    obtain ⟨b, hb, hopens, hline, -⟩ := ((h.parents hn q).1 hq).1
    refine ⟨?_, b, hb, hopens⟩
    by_contra hle
    rcases Nat.eq_or_lt_of_le (Nat.not_lt.1 hle) with rfl | hlt
    · rw [hn, Option.some.injEq] at hb
      exact absurd hline (hb ▸ lt_irrefl _)
    · exact absurd hline (h.line_lt_line hn hb hlt).not_gt
  between {j k q n m} hn hq hm hqk hkj := by
    obtain ⟨b, hb, hopens, -, hclosing⟩ := ((h.parents hn q).1 hq).1
    have hline := h.line_lt_line hm hn hkj
    have hopen : OpenAt s.nodes m.line q :=
      ⟨b, hb, hopens, h.line_lt_line hb hm hqk, fun c hc => hline.le.trans (hclosing c hc)⟩
    obtain ⟨r, hr⟩ := exists_greatest_open hopen
    exact ⟨r, (h.parents hm r).2 hr, hr.2 hopen⟩

/-- From the node at a position it takes so many steps to parents to come to a node right under
`parent`. -/
inductive Below (nodes : List Node) (parent : Option Nat) : Nat → Nat → Prop
  | child {j : Nat} {n : Node} : nodes[j]? = some n → n.parentPosition = parent →
    Below nodes parent j 0
  | deeper {j q d : Nat} {n : Node} : nodes[j]? = some n → n.parentPosition = some q →
    Below nodes parent q d → Below nodes parent j (d + 1)

namespace Below

variable {nodes : List Node} {parent : Option Nat} {c j d : Nat}

/-- The last step, from the one under `parent`, in place of the first. -/
theorem succ_iff : Below nodes parent j (d + 1) ↔
    ∃ c n, nodes[c]? = some n ∧ n.parentPosition = parent ∧ Below nodes (some c) j d := by
  constructor
  · intro h
    induction d generalizing j with
    | zero =>
      obtain _ | ⟨hj, hq, hbelow⟩ := h
      obtain ⟨hc, hparent⟩ | _ := hbelow
      exact ⟨_, _, hc, hparent, .child hj hq⟩
    | succ d ih =>
      obtain _ | ⟨hj, hq, hbelow⟩ := h
      obtain ⟨c, n, hc, hparent, hrest⟩ := ih hbelow
      exact ⟨c, n, hc, hparent, .deeper hj hq hrest⟩
  · rintro ⟨c, n, hc, hparent, h⟩
    induction h with
    | child hj hq => exact .deeper hj hq (.child hc hparent)
    | deeper hj hq _ ih => exact .deeper hj hq ih

theorem unique {e : Nat} (hd : Below nodes none j d) (he : Below nodes none j e) : d = e := by
  induction hd generalizing e with
  | child hj hroot =>
    obtain _ | ⟨hj', hq, -⟩ := he
    · rfl
    · rw [hj, Option.some.injEq] at hj'
      rw [← hj', hroot] at hq
      cases hq
  | deeper hj hq _ ih =>
    obtain ⟨hj', hroot⟩ | ⟨hj', hq', hrest⟩ := he
    · rw [hj, Option.some.injEq] at hj'
      rw [← hj', hq] at hroot
      cases hroot
    · rw [hj, Option.some.injEq] at hj'
      rw [← hj', hq, Option.some.injEq] at hq'
      rw [ih (hq' ▸ hrest)]

section InBlocks

variable (h : InBlocks nodes)

include h

theorem le (hj : Below nodes none j d) : d ≤ j := by
  induction hj with
  | child => exact Nat.zero_le _
  | deeper hj hq _ ih => exact ih.trans_lt (h.parent hj hq).1

theorem exists_of_lt (hj : j < nodes.length) : ∃ d, Below nodes none j d := by
  induction j using Nat.strong_induction_on with
  | h j ih =>
    have hn : nodes[j]? = some nodes[j] := List.getElem?_eq_getElem hj
    cases hq : nodes[j].parentPosition with
    | none => exact ⟨0, .child hn hq⟩
    | some q =>
      have hlt := (h.parent hn hq).1
      obtain ⟨d, hd⟩ := ih q hlt (hlt.trans hj)
      exact ⟨d + 1, .deeper hn hq hd⟩

/-- Every node has one depth. -/
theorem exists_depth : ∃ depth : Nat → Nat,
    ∀ p < nodes.length, ∀ d, Below nodes none p d ↔ d = depth p := by
  have hexists (p : Nat) : ∃ d, p < nodes.length → Below nodes none p d := by
    by_cases hp : p < nodes.length
    · obtain ⟨d, hd⟩ := exists_of_lt h hp
      exact ⟨d, fun _ => hd⟩
    · exact ⟨0, fun hlt => absurd hlt hp⟩
  choose depth hdepth using hexists
  refine ⟨depth, fun p hp d => ⟨fun hd => hd.unique (hdepth p hp), ?_⟩⟩
  rintro rfl
  exact hdepth p hp

theorem lt (hj : Below nodes (some c) j d) : c < j := by
  induction hj with
  | child hj hq => exact (h.parent hj hq).1
  | deeper hj hq _ ih => exact ih.trans (h.parent hj hq).1

/-- Down to a node below `c`, every node behind `c` lies in it. -/
theorem exists_parent {k : Nat} {m : Node} (hj : Below nodes (some c) j d)
    (hm : nodes[k]? = some m) (hck : c < k) (hkj : k ≤ j) :
    ∃ r, m.parentPosition = some r ∧ c ≤ r := by
  -- up the parents of the last node: what is not between a node and its parent is between the
  -- parent and `c`
  induction hj with
  | child hj hq =>
    rcases hkj.eq_or_lt with rfl | hlt
    · rw [hm, Option.some.injEq] at hj
      exact ⟨c, hj ▸ hq, le_rfl⟩
    · exact h.between hj hq hm hck hlt
  | @deeper j q _ _ hj hq hbelow ih =>
    have hcq := hbelow.lt h
    rcases Nat.lt_or_ge q k with hqk | hkq
    · rcases hkj.eq_or_lt with rfl | hlt
      · rw [hm, Option.some.injEq] at hj
        exact ⟨q, hj ▸ hq, hcq.le⟩
      · obtain ⟨r, hr, hqr⟩ := h.between hj hq hm hqk hlt
        exact ⟨r, hr, hcq.le.trans hqr⟩
    · exact ih hkq

/-- What lies below a node stands in front of the next one at its level. -/
theorem lt_sibling {k : Nat} {n m : Node} (hj : Below nodes (some c) j d) (hc : nodes[c]? = some n)
    (hm : nodes[k]? = some m) (hparent : m.parentPosition = n.parentPosition) (hck : c < k) :
    j < k := by
  by_contra hle
  obtain ⟨r, hr, hcr⟩ := hj.exists_parent h hm hck (Nat.not_lt.1 hle)
  have hrc := (h.parent hc (hparent ▸ hr)).1
  exact absurd hcr hrc.not_ge

end InBlocks
end Below

/-! The nodes in the order in which they are printed. -/

structure Visit where
  node : Node
  position : Nat
  depth : Nat

namespace Outline

variable {o : Outline} {parent : Option Nat}

theorem mem_childrenAt {n : Node} {p : Nat} :
    (n, p) ∈ o.childrenAt parent ↔ o.nodes[p]? = some n ∧ n.parentPosition = parent := by
  unfold childrenAt
  rw [List.mem_filter, List.mem_zipIdx_iff_getElem?, beq_iff_eq]

theorem zipIdx_ordered {α : Type} (xs : List α) : xs.zipIdx.Pairwise fun a b => a.2 < b.2 := by
  have hpositions : (xs.zipIdx.map Prod.snd).Pairwise (· < ·) := by
    rw [List.zipIdx_map_snd]
    exact List.pairwise_lt_range'
  exact List.pairwise_map.1 hpositions

theorem childrenAt_ordered (o : Outline) (parent : Option Nat) :
    (o.childrenAt parent).Pairwise fun a b => a.2 < b.2 := (zipIdx_ordered o.nodes).filter _

def visits (o : Outline) (parent : Option Nat) (depth : Nat) : (levels : Nat) → List Visit
  | 0 => []
  | levels + 1 =>
    (o.childrenAt parent).flatMap fun (node, position) =>
      ⟨node, position, depth⟩ ::
        if node.opensBlock then o.visits (some position) (depth + 1) levels else []

theorem treeUnder_eq (o : Outline) (parent : Option Nat) (depth levels : Nat) :
    o.treeUnder parent depth levels =
      (o.visits parent depth levels).flatMap fun v => v.node.treeLine v.depth := by
  induction levels generalizing parent depth with
  | zero => rfl
  | succ levels ih =>
    rw [treeUnder, visits, List.flatMap_assoc]
    refine List.flatMap_congr fun ⟨n, p⟩ _ => ?_
    change n.treeLine depth ++ (if n.opensBlock then _ else []) =
      List.flatMap _ (_ :: if n.opensBlock then _ else [])
    rw [List.flatMap_cons]
    cases n.opensBlock with
    | true => rw [if_pos rfl, if_pos rfl, ih]
    | false => rfl

section InBlocks

variable (h : InBlocks o.nodes)

include h

theorem childrenAt_of_leaf {p : Nat} {n : Node} (hn : o.nodes[p]? = some n)
    (hleaf : n.opensBlock = false) : o.childrenAt (some p) = [] := by
  refine List.eq_nil_iff_forall_not_mem.2 fun ⟨m, j⟩ hm => ?_
  obtain ⟨hj, hp⟩ := mem_childrenAt.1 hm
  obtain ⟨-, b, hb, hopens⟩ := h.parent hj hp
  rw [hn, Option.some.injEq] at hb
  rw [← hb, hleaf] at hopens
  cases hopens

/-- Nothing is left out under a node that opens no block. -/
theorem visits_succ (parent : Option Nat) (depth levels : Nat) :
    o.visits parent depth (levels + 1) = (o.childrenAt parent).flatMap fun c =>
      ⟨c.1, c.2, depth⟩ :: o.visits (some c.2) (depth + 1) levels := by
  rw [visits]
  refine List.flatMap_congr fun ⟨n, p⟩ hc => ?_
  change _ :: (if n.opensBlock then _ else []) = _
  cases hopens : n.opensBlock with
  | true => rfl
  | false =>
    cases levels with
    | zero => rfl
    | succ levels =>
      rw [visits, childrenAt_of_leaf h (mem_childrenAt.1 hc).1 hopens]
      rfl

/-- Visited are the nodes from which the parent is not too many steps away. -/
theorem mem_visits {v : Visit} {depth levels : Nat} : v ∈ o.visits parent depth levels ↔
    o.nodes[v.position]? = some v.node ∧
      ∃ d < levels, v.depth = depth + d ∧ Below o.nodes parent v.position d := by
  induction levels generalizing parent depth with
  | zero => simp [visits]
  | succ levels ih =>
    rw [visits_succ h, List.mem_flatMap]
    constructor
    · rintro ⟨⟨n, p⟩, hc, hv⟩
      obtain ⟨hp, hparent⟩ := mem_childrenAt.1 hc
      rcases List.mem_cons.1 hv with rfl | hv
      · exact ⟨hp, 0, levels.succ_pos, rfl, .child hp hparent⟩
      · obtain ⟨hnode, d, hd, hdepth, hbelow⟩ := ih.1 hv
        exact ⟨hnode, d + 1, Nat.succ_lt_succ hd, by omega,
          Below.succ_iff.2 ⟨p, n, hp, hparent, hbelow⟩⟩
    · rintro ⟨hnode, d, hd, hdepth, hbelow⟩
      cases d with
      | zero =>
        obtain ⟨hp, hparent⟩ | _ := hbelow
        rw [hnode, Option.some.injEq] at hp
        refine ⟨(v.node, v.position), mem_childrenAt.2 ⟨hnode, hp ▸ hparent⟩, ?_⟩
        rw [← Nat.add_zero depth, ← hdepth]
        exact List.mem_cons_self
      | succ d =>
        obtain ⟨c, n, hc, hparent, hrest⟩ := Below.succ_iff.1 hbelow
        refine ⟨(n, c), mem_childrenAt.2 ⟨hc, hparent⟩, List.mem_cons_of_mem _ (ih.2 ?_)⟩
        exact ⟨hnode, d, Nat.lt_of_succ_lt_succ hd, by omega, hrest⟩

/-- What is visited under a node stands behind it and in front of the next one. -/
theorem visits_ordered (parent : Option Nat) (depth levels : Nat) :
    (o.visits parent depth levels).Pairwise fun v w => v.position < w.position := by
  have hbehind {c : Node × Nat} {depth levels : Nat} {v : Visit}
      (hv : v ∈ (⟨c.1, c.2, depth⟩ : Visit) :: o.visits (some c.2) (depth + 1) levels) :
      c.2 = v.position ∨ ∃ d, Below o.nodes (some c.2) v.position d := by
    rcases List.mem_cons.1 hv with rfl | hv
    · exact .inl rfl
    · obtain ⟨-, d, -, -, hbelow⟩ := (mem_visits h).1 hv
      exact .inr ⟨d, hbelow⟩
  induction levels generalizing parent depth with
  | zero => exact List.Pairwise.nil
  | succ levels ih =>
    rw [visits_succ h, List.pairwise_flatMap]
    refine ⟨fun c _ => List.pairwise_cons.2 ⟨fun v hv => ?_, ih _ _⟩, ?_⟩
    · obtain ⟨-, d, -, -, hbelow⟩ := (mem_visits h).1 hv
      exact hbelow.lt h
    · refine (o.childrenAt_ordered parent).imp_of_mem fun {c k} hc hk hck v hv w hw => ?_
      obtain ⟨hnode, hparent⟩ := mem_childrenAt.1 hc
      obtain ⟨hnode', hparent'⟩ := mem_childrenAt.1 hk
      have hv : v.position < k.2 := by
        rcases hbehind hv with heq | ⟨d, hbelow⟩
        · exact heq ▸ hck
        · exact hbelow.lt_sibling h hnode hnode' (hparent'.trans hparent.symm) hck
      have hw : k.2 ≤ w.position := by
        rcases hbehind hw with heq | ⟨d, hbelow⟩
        · exact heq.le
        · exact (hbelow.lt h).le
      exact hv.trans_le hw

/-- Every position is visited once, and in order. -/
theorem map_position_visits :
    (o.visits none 0 o.nodes.length).map Visit.position = List.range o.nodes.length := by
  refine (List.pairwise_map.2 (visits_ordered h _ _ _)).eq_of_mem_iff List.pairwise_lt_range
    fun p => ?_
  rw [List.mem_map, List.mem_range]
  constructor
  · rintro ⟨v, hv, rfl⟩
    exact (List.getElem?_eq_some_iff.1 ((mem_visits h).1 hv).1).1
  · intro hp
    obtain ⟨d, hd⟩ := Below.exists_of_lt h hp
    refine ⟨⟨o.nodes[p], p, 0 + d⟩, (mem_visits h).2 ⟨List.getElem?_eq_getElem hp, d, ?_, rfl, hd⟩,
      rfl⟩
    exact (hd.le h).trans_lt hp

theorem map_visits :
    (o.visits none 0 o.nodes.length).map (fun v => (v.node, v.position)) = o.nodes.zipIdx := by
  refine List.ext_getElem? fun p => ?_
  have hposition := congrArg (·[p]?) (map_position_visits h)
  simp only [List.getElem?_map] at hposition
  rw [List.getElem?_map, List.getElem?_zipIdx]
  cases hv : (o.visits none 0 o.nodes.length)[p]? with
  | none =>
    rw [hv, Option.map_none, eq_comm, List.getElem?_eq_none_iff, List.length_range] at hposition
    rw [List.getElem?_eq_none hposition]
    rfl
  | some v =>
    rw [hv, Option.map_some, eq_comm, List.getElem?_eq_some_iff] at hposition
    obtain ⟨_, hp⟩ := hposition
    rw [List.getElem_range] at hp
    have hnode := ((mem_visits h).1 (List.mem_of_getElem? hv)).1
    rw [← hp] at hnode
    rw [hnode, hp, Option.map_some, Option.map_some, Nat.zero_add]

end InBlocks

/-! Printing without a limit on the levels. -/

/-- Printing some nodes and all that they hold comes to an end with the text. -/
inductive Prints (o : Outline) : Nat → List (Node × Nat) → Text → Prop
  | done {depth : Nat} : Prints o depth [] []
  | leaf {depth p : Nat} {n : Node} {rest : List (Node × Nat)} {after : Text} :
    n.opensBlock = false → Prints o depth rest after →
      Prints o depth ((n, p) :: rest) (n.treeLine depth ++ after)
  | block {depth p : Nat} {n : Node} {rest : List (Node × Nat)} {inner after : Text} :
    n.opensBlock = true → Prints o (depth + 1) (o.childrenAt (some p)) inner →
      Prints o depth rest after → Prints o depth ((n, p) :: rest) (n.treeLine depth ++ inner ++ after)

theorem Prints.unique {depth : Nat} {cs : List (Node × Nat)} {t u : Text}
    (ht : o.Prints depth cs t) (hu : o.Prints depth cs u) : t = u := by
  induction ht generalizing u with
  | done =>
    cases hu
    rfl
  | leaf hleaf _ ih =>
    cases hu with
    | leaf _ hrest => rw [ih hrest]
    | block hopens => rw [hleaf] at hopens; cases hopens
  | block hopens _ _ ihinner ih =>
    cases hu with
    | leaf hleaf => rw [hleaf] at hopens; cases hopens
    | block _ hinner hrest => rw [ihinner hinner, ih hrest]

theorem prints_flatMap {depth : Nat} {inner : Node × Nat → Text} {cs : List (Node × Nat)}
    (h : ∀ c ∈ cs, o.Prints (depth + 1) (o.childrenAt (some c.2)) (inner c)) :
    o.Prints depth cs
      (cs.flatMap fun c => c.1.treeLine depth ++ if c.1.opensBlock then inner c else []) := by
  induction cs with
  | nil => exact .done
  | cons c cs ih =>
    have hrest := ih fun c hc => h c (List.mem_cons_of_mem _ hc)
    rw [List.flatMap_cons]
    cases hopens : c.1.opensBlock with
    | true => exact .block hopens (h c List.mem_cons_self) hrest
    | false =>
      rw [if_neg Bool.false_ne_true, List.append_nil]
      exact .leaf hopens hrest

/-- As many levels are enough as there are nodes from the first child on. -/
theorem prints_treeUnder (h : InBlocks o.nodes) {depth levels first : Nat}
    (hfirst : ∀ c ∈ o.childrenAt parent, first ≤ c.2) (hlevels : o.nodes.length ≤ first + levels) :
    o.Prints depth (o.childrenAt parent) (o.treeUnder parent depth levels) := by
  induction levels generalizing parent depth first with
  | zero =>
    have hnone : o.childrenAt parent = [] := by
      refine List.eq_nil_iff_forall_not_mem.2 fun c hc => ?_
      have hlt := (List.getElem?_eq_some_iff.1 (mem_childrenAt.1 hc).1).1
      exact absurd (hfirst c hc) (hlt.trans_le hlevels).not_ge
    rw [hnone]
    exact .done
  | succ levels ih =>
    refine prints_flatMap fun c hc => ?_
    have hbehind : ∀ k ∈ o.childrenAt (some c.2), c.2 + 1 ≤ k.2 := by
      intro k hk
      obtain ⟨hnode, hparent⟩ := mem_childrenAt.1 hk
      exact (h.parent hnode hparent).1
    have := hfirst c hc
    exact ih hbehind (by omega)

/-- The tree has a line for each node, in the order of the nodes, indented by two blanks for each
boundary around the node; a line has the alias, the macro, the label in quotes and the number of the
node's line, counted from 1. It is what printing without a limit on the levels comes to. -/
theorem tree_read (source : Text) :
    let o := read source
    ∃ depth : Nat → Nat,
      (∀ p < o.nodes.length, ∀ d, Below o.nodes none p d ↔ d = depth p) ∧
        o.tree = o.nodes.zipIdx.flatMap (fun c =>
          List.replicate (2 * depth c.2) ' ' ++ c.1.aliasName ++ [' '] ++ c.1.macroName ++
            " \"".toList ++ c.1.label ++ "\" (line ".toList ++ Text.ofNat (c.1.line + 1) ++
            ")\n".toList) ∧
        ∀ t, o.Prints 0 (o.childrenAt none) t ↔ t = o.tree := by
  intro o
  have h : InBlocks o.nodes := (describes_read source).inBlocks
  obtain ⟨depth, hdepth⟩ := Below.exists_depth h
  refine ⟨depth, hdepth, ?_, fun t => ?_⟩
  · change o.tree = o.nodes.zipIdx.flatMap fun c => c.1.treeLine (depth c.2)
    rw [tree, treeUnder_eq, ← map_visits h, List.flatMap_map]
    refine List.flatMap_congr fun v hv => ?_
    obtain ⟨hnode, d, -, hd, hbelow⟩ := (mem_visits h).1 hv
    rw [hd, Nat.zero_add, (hdepth _ (List.getElem?_eq_some_iff.1 hnode).1 d).1 hbelow]
  · have hprints : o.Prints 0 (o.childrenAt none) o.tree :=
      prints_treeUnder h (fun _ _ => Nat.zero_le _) (Nat.zero_add _).ge
    refine ⟨fun ht => ht.unique hprints, ?_⟩
    rintro rfl
    exact hprints

/-- Boundaries with one alias stay apart, and the inner one is not even closed. -/
example :
    (read "System_Boundary(a, \"A\") \x7b\n  System_Boundary(a, \"B\") \x7b\n".toList).tree =
      "a System_Boundary \"A\" (line 1)\n  a System_Boundary \"B\" (line 2)\n".toList := by
  decide +kernel

end Outline
end C4Diagram
