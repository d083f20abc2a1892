import C4Diagram.Proofs.Edit.AddRelation

/-! Relations go behind relations. The editor finds the relation lines by a name of its vocabulary,
the outline by a naming convention that is wider, so no line that the editor takes for a relation is
one that declares a node, and the line that it adds stands behind all others of its kind. -/

namespace C4Diagram

def Text.relations (t : Text) : List RelationKind := t.lines.filterMap relationCall?

theorem Text.relations_eq (t : Text) : t.relations = t.rawLines.filterMap relationCall? := by
  unfold Text.relations Text.lines
  rw [List.filterMap_map]
  exact List.filterMap_congr fun l _ => relationCall?_withoutReturn l

/-- The line of a relation calls it, whatever its values hold. -/
theorem NewRelation.relationCall?_written (r : NewRelation) :
    relationCall? r.written = some r.kind := by
  have hhead := callHead?_printed (fun c (hc : c ∈ ([] : Text)) => absurd hc List.not_mem_nil)
    r.kind.isIdentifier_name (Text.join ", ".toList r.arguments ++ [')'])
  have hline : r.written =
      [] ++ (r.kind.name ++ '(' :: (Text.join ", ".toList r.arguments ++ [')'])) := by
    simp [written]
  rw [relationCall?, hline, hhead]
  exact RelationKind.ofName?_name r.kind

namespace Placement

/-- No relation stands behind the place of a new one. -/
theorem relationCall?_of_mem_drop {lines : List Text} {l : Text}
    (h : l ∈ lines.drop (relationIndex lines)) : relationCall? l = none := by
  have hnot : isRelationLine l = false := by
    unfold relationIndex at h
    split at h
    · next after hafter =>
      obtain ⟨_, -, hbefore⟩ := List.findIdx?_eq_some_iff_getElem.1 hafter
      have hmem : l ∈ lines.reverse.take after := by
        rw [List.take_reverse]
        exact List.mem_reverse.2 h
      obtain ⟨j, hj, rfl⟩ := List.mem_take_iff_getElem.1 hmem
      exact Bool.eq_false_iff.2 (hbefore j (by omega))
    · next hnone =>
      exact List.findIdx?_eq_none_iff.1 hnone l (List.mem_reverse.2 (List.mem_of_mem_drop h))
  exact Option.isNone_iff_eq_none.1 (by simpa [isRelationLine] using hnot)

theorem relations_splice {source line : Text} {k : RelationKind} (hfeed : '\n' ∉ line)
    (hk : relationCall? line = some k) :
    (splice source.lines (relationIndex source.lines) [line]).relations =
      source.relations ++ [k] := by
  have hbehind : (source.lines.drop (relationIndex source.lines)).filterMap relationCall? = [] :=
    List.filterMap_eq_nil_iff.2 fun l hl => relationCall?_of_mem_drop hl
  have hold : source.relations =
      (source.lines.take (relationIndex source.lines)).filterMap relationCall? := by
    rw [Text.relations, ← List.take_append_drop (relationIndex source.lines) source.lines,
      List.filterMap_append, List.take_append_drop, hbehind, List.append_nil]
  rw [Text.relations_eq, rawLines_splice source (List.forall_mem_singleton.2 hfeed)
    (List.cons_ne_nil _ _), List.filterMap_append, List.filterMap_append, hbehind,
    List.append_nil, ← hold]
  simp [hk]

end Placement

namespace Outline

/-- No node is declared on a line that calls a relation. -/
theorem relationCall?_of_mem_nodes {source : Text} {n : Node} (hn : n ∈ (read source).nodes)
    {l : Text} (hl : (read source).lines[n.line]? = some l) : relationCall? l = none := by
  obtain ⟨p, hp⟩ := List.mem_iff_getElem?.1 hn
  obtain ⟨c, hc, hdeclares⟩ := (describes_read source).declared hp
  rw [List.getElem?_map, hl, Option.map_some, Option.some.injEq] at hc
  refine Option.eq_none_iff_forall_ne_some.2 fun k hk => ?_
  have hrelation := isRelation_of_relationCall? (read?_of_classify hc) hk
  rw [hdeclares.isElement] at hrelation
  cases hrelation

end Outline

/-! What stays of the elements. -/

namespace Node

theorem renamed_id (n : Node) : n.renamed id id = n := by
  simp [renamed]

theorem renamed_renamed (f g : Nat → Nat) (n : Node) :
    (n.renamed f id).renamed g id = n.renamed (g ∘ f) id := by
  simp [renamed]

end Node

namespace Outline

/-- The outline `o'` has the elements of `o`, with the lines renumbered in order. -/
structure KeepsElements (line : Nat → Nat) (o o' : Outline) : Prop where
  increasing : StrictMono line
  nodes : o'.nodes = o.nodes.map (Node.renamed line id)
  boundaries : o'.boundaries = o.boundaries.map (Node.renamed line id)
  aliases : o'.aliases = o.aliases
  strayClosings : o'.strayClosings = o.strayClosings.map line

namespace KeepsElements

theorem refl (o : Outline) : KeepsElements id o o := by
  have hid : Node.renamed id id = id := funext Node.renamed_id
  refine ⟨strictMono_id, ?_, ?_, rfl, (List.map_id _).symm⟩ <;> rw [hid, List.map_id]

theorem trans {f g : Nat → Nat} {a b c : Outline} (hab : KeepsElements f a b)
    (hbc : KeepsElements g b c) : KeepsElements (g ∘ f) a c := by
  have hcomp : Node.renamed g id ∘ Node.renamed f id = Node.renamed (g ∘ f) id :=
    funext fun n => n.renamed_renamed f g
  refine ⟨hbc.increasing.comp hab.increasing, ?_, ?_, hbc.aliases.trans hab.aliases, ?_⟩
  · rw [hbc.nodes, hab.nodes, List.map_map, hcomp]
  · rw [hbc.boundaries, hab.boundaries, List.map_map, hcomp]
  · rw [hbc.strayClosings, hab.strayClosings, List.map_map]

end KeepsElements

/-- A line that adds nothing and declares nothing renumbers what stands below it. -/
theorem keepsElements_splice {source line : Text} {index : Nat} (hi : index ≤ source.lines.length)
    (hfeed : '\n' ∉ line) (hadds : ∀ s i, Nesting.Adds [] s (s.run i ([line].map classify)))
    (hnone : (classify line).declared? = none) :
    KeepsElements (shiftFrom index 1) (read source)
      (read (Placement.splice source.lines index [line])) := by
  have hclasses := Placement.map_classify_splice source index (List.forall_mem_singleton.2 hfeed)
    (List.cons_ne_nil _ _)
  have hle : index ≤ (source.lines.map classify).length := by rwa [List.length_map]
  have hrenamed := Nesting.renamed_splice hle (hadds _ index)
  rw [← hclasses, List.length_nil, shiftFrom_zero] at hrenamed
  have hnodes := hrenamed.nodes_map
  refine ⟨shiftFrom_strictMono index 1, hnodes, ?_, ?_, hrenamed.strayClosings⟩
  · rw [boundaries_read, boundaries_read]
    change List.filter _ (Nesting.nodes _) = _
    rw [hnodes, List.filter_map]
    rfl
  · have hdeclared : (Placement.splice source.lines index [line]).declared = source.declared := by
      unfold Text.declared Text.classes
      rw [hclasses, List.filterMap_append, List.filterMap_append, List.map_singleton,
        List.filterMap_cons, hnone, List.filterMap_nil, List.append_nil, ← List.filterMap_append,
        List.take_append_drop]
    rw [aliases_read, aliases_read, hdeclared]

end Outline

namespace Editor

/-- One accepted relation. -/
theorem keepsElements_addRelation {source result : Text} {r : NewRelation}
    (h : addRelation source r = .ok result) :
    (Outline.read source).KeepsElements (shiftFrom (Placement.relationIndex source.lines) 1)
      (Outline.read result) := by
  obtain ⟨hfeed, rfl⟩ := addRelation_lines h
  exact Outline.keepsElements_splice (Placement.relationIndex_le _) hfeed
    (NewRelation.adds_written _) (NewRelation.declared?_written _)

theorem relations_addRelation {source result : Text} {r : NewRelation}
    (h : addRelation source r = .ok result) : result.relations = source.relations ++ [r.kind] := by
  obtain ⟨hfeed, rfl⟩ := addRelation_lines h
  exact Placement.relations_splice hfeed (NewRelation.relationCall?_written _)

/-- A run of accepted relations. -/
theorem addRelations_run {rs : List NewRelation} {source result : Text}
    (h : rs.foldlM addRelation source = .ok result) :
    result.relations = source.relations ++ rs.map NewRelation.kind ∧
      ∃ line, (Outline.read source).KeepsElements line (Outline.read result) := by
  induction rs generalizing source with
  | nil =>
    cases h
    exact ⟨(List.append_nil _).symm, id, .refl _⟩
  | cons r rs ih =>
    obtain ⟨next, hnext, hrest⟩ := bind_eq_ok_iff.1 h
    obtain ⟨hrelations, line, hkeeps⟩ := ih hrest
    refine ⟨?_, _, (keepsElements_addRelation hnext).trans hkeeps⟩
    rw [hrelations, relations_addRelation hnext, List.append_assoc]
    rfl

/-- An accepted relation is one new line that is listed behind all relations of the text and moves
the elements below it by one line; no relation line declares an element. A run of accepted relations
lists them in its order and changes the elements in their line numbers only. -/
theorem addRelation_appends (source : Text) :
    (∀ r result, addRelation source r = .ok result →
      let index := Placement.relationIndex source.lines
      index ≤ source.lines.length ∧
      result.rawLines = source.lines.take index ++ [(trimmedRelation r).written] ++
        source.lines.drop index ∧
      (Outline.read source).KeepsElements (shiftFrom index 1) (Outline.read result) ∧
      result.relations = source.relations ++ [r.kind]) ∧
    (∀ n ∈ (Outline.read source).nodes, ∀ l, (Outline.read source).lines[n.line]? = some l →
      relationCall? l = none) ∧
    ∀ (rs : List NewRelation) result, rs.foldlM addRelation source = .ok result →
      result.relations = source.relations ++ rs.map NewRelation.kind ∧
      ∃ line, (Outline.read source).KeepsElements line (Outline.read result) := by
  refine ⟨fun r result h => ?_, fun n hn l hl => Outline.relationCall?_of_mem_nodes hn hl,
    fun rs result h => addRelations_run h⟩
  obtain ⟨hfeed, hresult⟩ := addRelation_lines h
  refine ⟨Placement.relationIndex_le _, ?_, keepsElements_addRelation h, relations_addRelation h⟩
  rw [hresult]
  exact Placement.rawLines_splice source (List.forall_mem_singleton.2 hfeed)
    (List.cons_ne_nil _ _)

/-- The last relation stands inside a block, above a stray block end, and the new labels would be
arguments and the start of a block outside quotes. -/
theorem addRelation_appends_nested :
    let source : Text :=
      "Boundary(b, \"B\") \x7b\r\nRel_U(a, b, \"x\")\n System(a, \"A\")\n\x7d\n\x7d\n".toList
    let r : NewRelation :=
      ⟨.biRel, " a ".toList, "b".toList, "\", $alias=c, \"".toList, some "t".toList, none⟩
    let rs : List NewRelation := [r, ⟨.rel, "b".toList, "a".toList, "y) \x7b".toList, none, none⟩]
    let index := Placement.relationIndex source.lines
    index = 2 ∧ source.relations = [.relUp] ∧
      (∃ result, addRelation source r = .ok result ∧
        index ≤ source.lines.length ∧
        result.rawLines = source.lines.take index ++ [(trimmedRelation r).written] ++
          source.lines.drop index ∧
        (Outline.read source).KeepsElements (shiftFrom index 1) (Outline.read result) ∧
        result.relations = source.relations ++ [r.kind]) ∧
      (∃ n l, n ∈ (Outline.read source).nodes ∧ (Outline.read source).lines[n.line]? = some l ∧
        relationCall? l = none) ∧
      ∃ result, rs.foldlM addRelation source = .ok result ∧
        result.relations = source.relations ++ rs.map NewRelation.kind ∧
        ∃ line, (Outline.read source).KeepsElements line (Outline.read result) := by
  intro source r rs index
  have happends := addRelation_appends source
  have hone : addRelation source r = .ok
      ("Boundary(b, \"B\") \x7b\nRel_U(a, b, \"x\")\n".toList ++
        "BiRel($from=a, $to=b, $label=\"\\\", $alias=c, \\\"\", $techn=\"t\")\n".toList ++
        " System(a, \"A\")\n\x7d\n\x7d\n".toList) := by decide +kernel
  have hboth : rs.foldlM addRelation source = .ok
      ("Boundary(b, \"B\") \x7b\nRel_U(a, b, \"x\")\n".toList ++
        "BiRel($from=a, $to=b, $label=\"\\\", $alias=c, \\\"\", $techn=\"t\")\n".toList ++
        "Rel($from=b, $to=a, $label=\"y) \x7b\")\n".toList ++
        " System(a, \"A\")\n\x7d\n\x7d\n".toList) := by decide +kernel
  have hnode : ∃ n ∈ (Outline.read source).nodes,
      (Outline.read source).lines[n.line]? = some " System(a, \"A\")".toList := by
    decide +kernel
  obtain ⟨n, hn, hl⟩ := hnode
  exact ⟨by decide +kernel, by decide +kernel, ⟨_, hone, happends.1 r _ hone⟩,
    ⟨n, _, hn, hl, happends.2.1 n hn _ hl⟩, _, hboth, happends.2.2 rs _ hboth⟩

end Editor
end C4Diagram
