import C4Diagram.Proofs.Check
import C4Diagram.Proofs.PrintedTree

/-! The views of an outline by alias agree with the views by position, also where boundaries share
an alias. Both kinds of children come from one lemma: the children at several positions, put
together, are the nodes with one of these positions as parent. An alias only names a list of
positions, and the document level and all boundaries are the positions that there are. -/

namespace C4Diagram

/-! First declarations. -/

/-- The nodes in front of which no node has the same alias. -/
def firstDeclared (ns : List Node) : List Node :=
  (ns.zipIdx.filter fun c => (ns.take c.2).all (·.aliasName != c.1.aliasName)).map Prod.fst

theorem firstDeclared_concat (ns : List Node) (n : Node) :
    firstDeclared (ns ++ [n]) =
      firstDeclared ns ++ if ns.all (·.aliasName != n.aliasName) then [n] else [] := by
  have hold : ns.zipIdx.filter
      (fun c => ((ns ++ [n]).take c.2).all (·.aliasName != c.1.aliasName)) =
      ns.zipIdx.filter fun c => (ns.take c.2).all (·.aliasName != c.1.aliasName) := by
    refine List.filter_congr fun c hc => ?_
    have hlt := (List.getElem?_eq_some_iff.1 (List.mem_zipIdx_iff_getElem?.1 hc)).1
    rw [List.take_append_of_le_length hlt.le]
  unfold firstDeclared
  rw [List.zipIdx_append, List.filter_append, hold, List.map_append, Nat.zero_add,
    List.zipIdx_singleton, List.filter_cons, List.filter_nil]
  dsimp only
  rw [List.take_left' rfl]
  split <;> rfl

/-- Each alias is added by the first node that has it. -/
theorem foldl_withAlias_eq (ns : List Node) :
    (ns.map Node.aliasName).foldl Nesting.withAlias [] = (firstDeclared ns).map Node.aliasName := by
  induction ns using List.reverseRecOn with
  | nil => rfl
  | append_singleton ns n ih =>
    have hknown : ((ns.map Node.aliasName).foldl Nesting.withAlias []).contains n.aliasName =
        !ns.all (·.aliasName != n.aliasName) := by
      rw [Bool.eq_iff_iff, List.contains_iff_mem, Nesting.mem_foldl_withAlias]
      simp
    rw [List.map_append, List.foldl_append, List.map_singleton, List.foldl_cons, List.foldl_nil,
      Nesting.withAlias, hknown, ih, firstDeclared_concat]
    cases ns.all (·.aliasName != n.aliasName) <;> simp

theorem nodup_foldl_withAlias {aliases : List Text} (h : aliases.Nodup) (declared : List Text) :
    (declared.foldl Nesting.withAlias aliases).Nodup := by
  induction declared generalizing aliases with
  | nil => exact h
  | cons a declared ih =>
    refine ih ?_
    unfold Nesting.withAlias
    split
    · exact h
    · next ha =>
      rw [List.contains_iff_mem] at ha
      rw [← List.concat_eq_append]
      exact h.concat ha

namespace Outline

variable {o : Outline}

/-- A first declaration is what its alias is looked up as. -/
theorem node?_of_mem_firstDeclared {n : Node} (h : n ∈ firstDeclared o.nodes) :
    o.node? n.aliasName = some n := by
  obtain ⟨⟨m, p⟩, hm, rfl⟩ := List.mem_map.1 h
  obtain ⟨hp, hfirst⟩ := List.mem_filter.1 hm
  obtain ⟨hlt, hget⟩ := List.getElem?_eq_some_iff.1 (List.mem_zipIdx_iff_getElem?.1 hp)
  refine List.find?_eq_some_iff_append.2 ⟨beq_self_eq_true _, o.nodes.take p,
    o.nodes.drop (p + 1), ?_, fun b hb => List.all_eq_true.1 hfirst b hb⟩
  rw [← hget, List.getElem_cons_drop, List.take_append_drop]

/-! Children. -/

def inOrder (cs : List (Node × Nat)) : List (Node × Nat) := cs.mergeSort fun c d => c.2 ≤ d.2

theorem inOrder_perm (cs : List (Node × Nat)) : (inOrder cs).Perm cs := List.mergeSort_perm ..

theorem inOrder_ordered (cs : List (Node × Nat)) :
    (inOrder cs).Pairwise fun c d => c.2 ≤ d.2 := by
  have htrans : ∀ a b c : Node × Nat, decide (a.2 ≤ b.2) = true → decide (b.2 ≤ c.2) = true →
      decide (a.2 ≤ c.2) = true := by
    intro a b c hab hbc
    rw [decide_eq_true_eq] at hab hbc ⊢
    exact hab.trans hbc
  have htotal : ∀ a b : Node × Nat, (decide (a.2 ≤ b.2) || decide (b.2 ≤ a.2)) = true := by
    intro a b
    rw [Bool.or_eq_true, decide_eq_true_eq, decide_eq_true_eq]
    exact le_total a.2 b.2
  exact (List.pairwise_mergeSort htrans htotal cs).imp of_decide_eq_true

theorem map_fst_filter_zipIdx (f : Node → Bool) (ns : List Node) :
    (ns.zipIdx.filter fun c => f c.1).map Prod.fst = ns.filter f := by
  conv_rhs => rw [← List.zipIdx_map_fst 0 ns, List.filter_map]
  rfl

theorem nodup_zipIdx (ns : List Node) : ns.zipIdx.Nodup :=
  (zipIdx_ordered ns).imp fun hlt he => absurd hlt (by rw [he]; exact lt_irrefl _)

/-- The children at several positions are the nodes that have one of them as parent. -/
theorem flatMap_childrenAt_perm (o : Outline) {parents : List (Option Nat)}
    (h : parents.Nodup) : (parents.flatMap o.childrenAt).Perm
      (o.nodes.zipIdx.filter fun c => parents.contains c.1.parentPosition) := by
  have hnodup : (parents.flatMap o.childrenAt).Nodup := by
    refine List.nodup_flatMap.2 ⟨fun p _ => (nodup_zipIdx o.nodes).filter _, ?_⟩
    refine h.imp fun {p q} hne => ?_
    rintro ⟨n, i⟩ hp hq
    exact hne ((mem_childrenAt.1 hp).2.symm.trans (mem_childrenAt.1 hq).2)
  rw [List.perm_ext_iff_of_nodup hnodup ((nodup_zipIdx o.nodes).filter _)]
  rintro ⟨n, p⟩
  rw [List.mem_flatMap, List.mem_filter, List.contains_iff_mem, List.mem_zipIdx_iff_getElem?]
  simp only [mem_childrenAt]
  constructor
  · rintro ⟨parent, hmem, hn, rfl⟩
    exact ⟨hn, hmem⟩
  · rintro ⟨hn, hmem⟩
    exact ⟨_, hmem, hn, rfl⟩

/-- Put in order, they are those nodes as they stand in the outline: at each position there is one
node, so nothing but their order can differ. -/
theorem inOrder_flatMap_childrenAt (o : Outline) {parents : List (Option Nat)}
    (h : parents.Nodup) : (inOrder (parents.flatMap o.childrenAt)).map Prod.fst =
      o.nodes.filter fun n => parents.contains n.parentPosition := by
  have hperm := (inOrder_perm _).trans (o.flatMap_childrenAt_perm h)
  have hordered : (o.nodes.zipIdx.filter fun c => parents.contains c.1.parentPosition).Pairwise
      fun c d => c.2 ≤ d.2 := ((zipIdx_ordered o.nodes).imp fun hlt => hlt.le).filter _
  have hsame : ∀ c d, c ∈ inOrder (parents.flatMap o.childrenAt) →
      d ∈ o.nodes.zipIdx.filter (fun c => parents.contains c.1.parentPosition) →
      c.2 ≤ d.2 → d.2 ≤ c.2 → c = d := by
    rintro ⟨n, p⟩ ⟨m, q⟩ hn hm hpq hqp
    obtain rfl : p = q := le_antisymm hpq hqp
    have hn := List.mem_zipIdx_iff_getElem?.1 (List.mem_filter.1 (hperm.subset hn)).1
    have hm := List.mem_zipIdx_iff_getElem?.1 (List.mem_filter.1 hm).1
    exact Prod.ext (Option.some.inj (hn.symm.trans hm)) rfl
  rw [List.Perm.eq_of_pairwise hsame (inOrder_ordered _) hordered hperm,
    map_fst_filter_zipIdx fun n => parents.contains n.parentPosition]

def boundaryPositionsOf (o : Outline) (a : Text) : List Nat :=
  o.boundaryPositions.filter fun i => (o.nodes[i]?).any (·.aliasName == a)

section Read

variable {source : Text}

theorem inBlocks_read (source : Text) : InBlocks (read source).nodes :=
  (describes_read source).inBlocks

theorem boundaryPositions_read (source : Text) :
    (read source).boundaryPositions = (List.range (read source).nodes.length).filter
      fun p => ((read source).nodes[p]?).any (·.opensBlock) := (describes_read source).boundaries

theorem mem_boundaryPositions_of_parent {n : Node} (hn : n ∈ (read source).nodes) {i : Nat}
    (hi : n.parentPosition = some i) : i ∈ (read source).boundaryPositions := by
  obtain ⟨j, hj⟩ := List.mem_iff_getElem?.1 hn
  obtain ⟨-, b, hb, hopens⟩ := (inBlocks_read source).parent hj hi
  rw [boundaryPositions_read, List.mem_filter, List.mem_range, hb]
  exact ⟨(List.getElem?_eq_some_iff.1 hb).1, hopens⟩

theorem nodup_boundaryPositions (source : Text) : (read source).boundaryPositions.Nodup := by
  rw [boundaryPositions_read]
  exact List.nodup_range.filter _

/-- The alias of a node's parent is that of the node at its parent's position. -/
theorem parent_eq_some_iff {n : Node} (hn : n ∈ (read source).nodes) {a : Text} :
    n.parent = some a ↔ ∃ i b, n.parentPosition = some i ∧ (read source).nodes[i]? = some b ∧
      b.aliasName = a := by
  obtain ⟨j, hj⟩ := List.mem_iff_getElem?.1 hn
  rw [(describes_read source).parentAlias hj]
  change (n.parentPosition.bind ((read source).nodes[·]?)).map Node.aliasName = some a ↔ _
  simp only [Option.map_eq_some_iff, Option.bind_eq_some_iff]
  constructor
  · rintro ⟨b, ⟨i, hi, hb⟩, ha⟩
    exact ⟨i, b, hi, hb, ha⟩
  · rintro ⟨i, b, hi, hb, ha⟩
    exact ⟨b, ⟨i, hi, hb⟩, ha⟩

theorem parent_eq_none_iff {n : Node} (hn : n ∈ (read source).nodes) :
    n.parent = none ↔ n.parentPosition = none := by
  cases hi : n.parentPosition with
  | none =>
    obtain ⟨j, hj⟩ := List.mem_iff_getElem?.1 hn
    rw [(describes_read source).parentAlias hj, hi]
    exact iff_of_true rfl rfl
  | some i =>
    obtain ⟨j, hj⟩ := List.mem_iff_getElem?.1 hn
    obtain ⟨-, b, hb, -⟩ := (inBlocks_read source).parent hj hi
    rw [parent_eq_some_iff hn |>.2 ⟨i, b, hi, hb, rfl⟩]
    exact iff_of_false nofun nofun

theorem aliases_eq_firstDeclared (source : Text) :
    (read source).aliases = (firstDeclared (read source).nodes).map Node.aliasName := by
  rw [aliases_read, ← aliasNames_read, foldl_withAlias_eq]

/-- One node for each alias, its first declaration. -/
theorem nodeOptions_read (source : Text) :
    (read source).nodeOptions = firstDeclared (read source).nodes := by
  rw [nodeOptions, aliases_eq_firstDeclared, List.filterMap_map]
  refine (List.filterMap_congr fun n hn => ?_).trans List.filterMap_some
  exact node?_of_mem_firstDeclared hn

theorem children_none_read (source : Text) :
    (read source).children none = ((read source).childrenAt none).map Prod.fst := by
  rw [childrenAt, map_fst_filter_zipIdx (·.parentPosition == none)]
  refine List.filter_congr fun n hn => ?_
  rw [Bool.eq_iff_iff, beq_iff_eq, beq_iff_eq]
  exact parent_eq_none_iff hn

theorem parent_eq_some_iff_mem {n : Node} (hn : n ∈ (read source).nodes) {a : Text} :
    n.parent = some a ↔
      n.parentPosition ∈ ((read source).boundaryPositionsOf a).map some := by
  rw [parent_eq_some_iff hn, List.mem_map]
  constructor
  · rintro ⟨i, b, hi, hb, ha⟩
    refine ⟨i, List.mem_filter.2 ⟨mem_boundaryPositions_of_parent hn hi, ?_⟩, hi.symm⟩
    rw [hb]
    exact beq_iff_eq.2 ha
  · rintro ⟨i, hmem, hi⟩
    obtain ⟨b, hb, ha⟩ := (Option.any_eq_true _ _).1 (List.mem_filter.1 hmem).2
    exact ⟨i, b, hi.symm, hb, beq_iff_eq.1 ha⟩

theorem children_some_read (source a : Text) :
    (read source).children (some a) =
      (inOrder (((read source).boundaryPositionsOf a).flatMap fun i =>
        (read source).childrenAt (some i))).map Prod.fst := by
  have hnodup : (((read source).boundaryPositionsOf a).map some).Nodup :=
    ((nodup_boundaryPositions source).filter _).map (Option.some_injective _)
  rw [← List.flatMap_map some (read source).childrenAt, inOrder_flatMap_childrenAt _ hnodup]
  refine List.filter_congr fun n hn => ?_
  rw [Bool.eq_iff_iff, beq_iff_eq, List.contains_iff_mem]
  exact parent_eq_some_iff_mem hn

/-- Every node is a child at document level or of one boundary. -/
theorem partition_read (source : Text) :
    ((read source).childrenAt none ++
      (read source).boundaryPositions.flatMap fun i => (read source).childrenAt (some i)).Perm
      (read source).nodes.zipIdx := by
  have hnodup : (none :: (read source).boundaryPositions.map some).Nodup :=
    List.nodup_cons.2 ⟨by simp,
      (nodup_boundaryPositions source).map (Option.some_injective _)⟩
  have hperm := (read source).flatMap_childrenAt_perm hnodup
  rw [List.flatMap_cons, List.flatMap_map, List.filter_eq_self.2] at hperm
  · exact hperm
  · rintro ⟨n, p⟩ hn
    have hn := List.mem_of_getElem? (List.mem_zipIdx_iff_getElem?.1 hn)
    rw [List.contains_iff_mem, List.mem_cons, List.mem_map]
    cases hi : n.parentPosition with
    | none => exact .inl rfl
    | some i => exact .inr ⟨i, mem_boundaryPositions_of_parent hn hi, rfl⟩

end Read

/-- What is told by alias is what is told by position. -/
structure ViewsAgree (o : Outline) : Prop where
  boundaryPositions : o.boundaryPositions =
    (List.range o.nodes.length).filter fun p => (o.nodes[p]?).any (·.opensBlock)
  aliases : o.aliases = (firstDeclared o.nodes).map Node.aliasName
  aliases_distinct : o.aliases.Nodup
  containsAlias_iff : ∀ a, o.containsAlias a = true ↔ ∃ n ∈ o.nodes, n.aliasName = a
  nodeOptions : o.nodeOptions = firstDeclared o.nodes
  children_root : o.children none = (o.childrenAt none).map Prod.fst
  children_alias : ∀ a, o.children (some a) =
    (inOrder ((o.boundaryPositionsOf a).flatMap fun i => o.childrenAt (some i))).map Prod.fst
  partition : (o.childrenAt none ++
    o.boundaryPositions.flatMap fun i => o.childrenAt (some i)).Perm o.nodes.zipIdx

/-- The views of any text's outline agree, whatever aliases it declares again. -/
theorem viewsAgree_read (source : Text) : (read source).ViewsAgree where
  boundaryPositions := boundaryPositions_read source
  aliases := aliases_eq_firstDeclared source
  aliases_distinct := by
    rw [aliases_read]
    exact nodup_foldl_withAlias List.nodup_nil _
  containsAlias_iff a := by rw [containsAlias_read, ← aliasNames_read, List.mem_map]
  nodeOptions := nodeOptions_read source
  children_root := children_none_read source
  children_alias := children_some_read source
  partition := partition_read source

/-- A boundary in another one of the same alias, which a leaf has too. -/
example :
    let o := read
      ("System_Boundary(b, \"1\") \x7b\nSystem_Boundary(b, \"2\") \x7b\n".toList ++
        "System(b, \"3\")\n\x7d\nSystem(a, \"4\")\n\x7d".toList)
    (o.children (some "b".toList)).map Node.line = [1, 2, 4] ∧
      o.boundaryPositionsOf "b".toList = [0, 1] ∧
      (o.childrenAt (some 0)).map Prod.snd = [1, 3] ∧ (o.childrenAt (some 1)).map Prod.snd = [2] ∧
      o.nodeOptions.map Node.line = [0, 4] := by
  decide +kernel

end Outline
end C4Diagram
