import C4Diagram.Proofs.Edit.Session

/-! Under which block an inserted element comes to stand. What is open at a line is settled by the
lines above it, so the run reaches the place of the new lines with the stack of the blocks that are
open there in the whole outline, and the innermost of them is the parent. At document level the
place is found without a look at the blocks. -/

namespace C4Diagram

namespace Nesting

variable {ls : List Line} {s : Nesting}

/-- A line has no say in what is open on it or above it. -/
theorem Describes.openAt_step (h : Describes ls s) (l : Line) {i p : Nat} (hi : i ≤ ls.length) :
    OpenAt (s.step ls.length l).nodes i p ↔ OpenAt s.nodes i p := by
  cases l with
  | call c =>
    rw [Nesting.step]
    split
    · rfl
    · exact openAt_concat hi
  | blockEnd =>
    rw [Nesting.step]
    cases hs : s.openPositions with
    | nil => rw [close_of_nil hs]
    | cons q rest =>
      rw [close_of_cons hs]
      exact openAt_ended rfl h (by simp [hs]) hi
  | directive => rfl
  | text => rfl

theorem openAt_run_take (ls : List Line) {i p : Nat} (hi : i ≤ ls.length) :
    OpenAt (empty.run 0 (ls.take i)).nodes i p ↔ OpenAt (empty.run 0 ls).nodes i p := by
  -- one line more at the end, as long as the place is above it
  induction ls using List.reverseRecOn with
  | nil => rw [List.take_nil]
  | append_singleton ls l ih =>
    rcases Nat.lt_or_ge ls.length i with hlt | hle
    · rw [List.take_of_length_le (by simpa using Nat.succ_le_of_lt hlt)]
    · rw [List.take_append_of_le_length hle, ih hle, run_append, Nat.zero_add]
      exact ((describes_run ls).openAt_step l hle).symm

/-- The top of the stack at a line is the innermost of the blocks that are open there in the end. -/
theorem head?_open_take_iff (ls : List Line) {i q : Nat} (hi : i ≤ ls.length) :
    (empty.run 0 (ls.take i)).openPositions.head? = some q ↔
      IsGreatest {q | OpenAt (empty.run 0 ls).nodes i q} q := by
  have hhead := (describes_run (ls.take i)).head?_open_iff (q := q)
  rw [List.length_take, Nat.min_eq_left hi] at hhead
  simp only [openAt_run_take ls hi] at hhead
  exact hhead

end Nesting

/-! The nodes around a new one. -/

namespace Outline.InsertsNode

variable {old new : Outline} {index width position p : Nat} {node n : Node}

theorem getElem?_position (h : old.InsertsNode new index width position node) :
    new.nodes[position]? = some node := by
  rw [h.nodes, List.getElem?_insertIdx_self, if_pos (by simpa using h.position_le)]

theorem getElem?_of_lt (h : old.InsertsNode new index width position node) (hp : p < position) :
    new.nodes[p]? =
      (old.nodes[p]?).map (Node.renamed (shiftFrom index width) (shiftFrom position 1)) := by
  rw [h.nodes, List.getElem?_insertIdx_of_lt hp, List.getElem?_map]

theorem getElem?_succ (h : old.InsertsNode new index width position node) (hp : position ≤ p) :
    new.nodes[p + 1]? =
      (old.nodes[p]?).map (Node.renamed (shiftFrom index width) (shiftFrom position 1)) := by
  rw [h.nodes, List.getElem?_insertIdx_of_gt (Nat.lt_succ_of_le hp), List.getElem?_map]
  rfl

/-- The new node stands behind exactly the nodes of the lines above it. -/
theorem lt_position_iff {source result : Text}
    (h : (read source).InsertsNode (read result) index width position node)
    (hline : node.line = index) (hn : (read source).nodes[p]? = some n) :
    p < position ↔ n.line < index := by
  have hd := describes_read result
  refine ⟨?_, ?_⟩
  · intro hp
    have hnew := h.getElem?_of_lt hp
    rw [hn, Option.map_some] at hnew
    have hlt := hd.line_lt_line hnew h.getElem?_position hp
    rw [hline] at hlt
    change shiftFrom index width n.line < index at hlt
    by_contra hge
    rw [shiftFrom_of_le (Nat.not_lt.1 hge)] at hlt
    omega
  · intro hlt
    by_contra hp
    have hnew := h.getElem?_succ (Nat.not_lt.1 hp)
    rw [hn, Option.map_some] at hnew
    have hgt := hd.line_lt_line h.getElem?_position hnew (Nat.lt_succ_of_le (Nat.not_lt.1 hp))
    rw [hline] at hgt
    change index < shiftFrom index width n.line at hgt
    rw [shiftFrom_of_lt hlt] at hgt
    omega

end Outline.InsertsNode

/-! The node of an accepted element. -/

namespace Editor

/-- The text with the element is the old one with some lines put in at `index`, and these declare
the node at `position`, under the innermost block that is open at the place. -/
structure PutsElement (source result : Text) (e : NewElement) (index : Nat) (inserted : List Text)
    (position : Nat) (node : Node) : Prop where
  index_le : index ≤ source.lines.length
  rawLines : result.rawLines = source.lines.take index ++ inserted ++ source.lines.drop index
  inserts : (Outline.read source).InsertsNode (Outline.read result) index inserted.length position
    node
  line : node.line = index
  aliasName : node.aliasName = e.aliasName.trim
  closingLine : node.closingLine = if e.kind.isBoundary then some (index + 1) else none
  parent : ∀ q, node.parentPosition = some q ↔
    IsGreatest {q | Nesting.OpenAt (Outline.read source).nodes index q} q

variable {level : Level} {source result : Text} {e : NewElement} {index : Nat}
  {inserted : List Text}

theorem addElement_puts (h : addElement level source e = .ok result)
    (hback : (trimmedElement e).ReadsBack)
    (hplace : Placement.ofElement (Outline.read source) (trimmedElement e) =
      .ok (index, inserted)) :
    ∃ position node, PutsElement source result e index inserted position node := by
  have ha := (validateElement_eq_ok_iff.1 (addElement_eq_ok_iff.1 h).1).1
  obtain ⟨c, hc, halias⟩ := (NewElement.readsBack_iff (ne_nil_of_isIdentifier ha)).1 hback
  obtain ⟨i, indent, hplaced, hindex, hindent, hfeed, rfl⟩ := addElement_lines h
  cases hplaced.symm.trans hplace
  have hne := NewElement.map_lines_ne_nil (trimmedElement e) indent
  have hblock := NewElement.map_classify_lines hindent hc
  have hrelation := ElementKind.isRelation_of_ofArguments? (k := e.kind) hc
  have hopens : c.opensBlock = e.kind.isBoundary := (Call.of_ofArguments? hc).2
  refine ⟨_, _, hindex, Placement.rawLines_splice source hfeed hne,
    Outline.insertsNode_splice hindex hfeed hne hblock hrelation, rfl, halias, ?_, fun q => ?_⟩
  · rw [← hopens]
    rfl
  · exact Nesting.head?_open_take_iff (source.lines.map classify) (by rwa [List.length_map])

/-- The element stands at document level iff every block that starts above it ends above it. -/
theorem PutsElement.parentPosition_eq_none_iff {position : Nat} {node : Node}
    (h : PutsElement source result e index inserted position node) :
    node.parentPosition = none ↔ ∀ b ∈ (Outline.read source).boundaries, b.line < index →
      ∃ c, b.closingLine = some c ∧ c < index := by
  rw [← Outline.not_openAt_iff, Option.eq_none_iff_forall_ne_some]
  refine ⟨fun hnone p hp => ?_, fun hall p hp => hall p ((h.parent p).1 hp).1⟩
  obtain ⟨q, hq⟩ := Nesting.exists_greatest_open hp
  exact hnone q ((h.parent q).2 hq)

end Editor

/-! Elements at document level. -/

namespace Placement

theorem ofElement_documentLevel {o : Outline} {e : NewElement} (h : e.place = .documentLevel) :
    ofElement o e = .ok (rootIndex o.lines, e.lines) := by
  unfold ofElement
  rw [h]

theorem rootIndex_of_plain {lines : List Text}
    (h : ∀ l ∈ lines, isRelationLine l = false ∧ isEndLine l = false) :
    rootIndex lines = endOfDocument lines := by
  have hrelation : lines.findIdx? isRelationLine = none :=
    List.findIdx?_eq_none_iff.2 fun l hl => (h l hl).1
  have hend : lines.findIdx? isEndLine = none :=
    List.findIdx?_eq_none_iff.2 fun l hl => (h l hl).2
  rw [rootIndex, hrelation, hend, Option.or_none, Option.getD_none]

/-- No block ends at the end of the document or below it. -/
theorem closing_lt_endOfDocument {source : Text} {b : Node} (hb : b ∈ (Outline.read source).nodes)
    {c : Nat} (hc : b.closingLine = some c) : c < endOfDocument source.lines := by
  obtain ⟨-, l, hl, htrim⟩ := Outline.closing_brace_read hb hc
  change source.lines[c]? = some l at hl
  have hlt := (List.getElem?_eq_some_iff.1 hl).1
  unfold endOfDocument
  split
  · next hlast =>
    have hne : c ≠ source.lines.length - 1 := by
      rintro rfl
      rw [List.getLast?_eq_getElem?, hl, Option.some.injEq] at hlast
      rw [hlast] at htrim
      cases htrim
    omega
  · exact hlt

end Placement

theorem Outline.exists_closingLine {source : Text} {warnings : List Finding}
    (h : (read source).check = .ok warnings) {b : Node} (hb : b ∈ (read source).boundaries) :
    ∃ c, b.closingLine = some c := by
  have hnone := (openPositions_eq_nil_iff source).1 (check_eq_ok_iff.1 h).1
  rw [← Option.ne_none_iff_exists']
  simpa using List.filter_eq_nil_iff.1 hnone b hb

namespace Editor

/-- The place of an element at document level is the first relation line or, if there is none, the
first line that names the end marker. It has the innermost block that reaches across this line for
its parent, and none iff no block does. At the end of a text that passes the check there is none. -/
theorem addElement_documentLevel_iff {level : Level} {source result : Text} {e : NewElement}
    (h : addElement level source e = .ok result) (hplace : e.place = .documentLevel)
    (hq : e.Avoids '"') :
    let index := Placement.rootIndex source.lines
    ∃ (position : Nat) (node : Node),
      (Outline.read result).nodes[position]? = some node ∧ node.line = index ∧
      node.aliasName = e.aliasName.trim ∧
      (∀ p, node.parentPosition = some p ↔
        IsGreatest {p | Nesting.OpenAt (Outline.read source).nodes index p} p) ∧
      (node.parentPosition = none ↔ ∀ b ∈ (Outline.read source).boundaries, b.line < index →
        ∃ c, b.closingLine = some c ∧ c < index) ∧
      ((∀ l ∈ source.lines, Placement.isRelationLine l = false ∧ Placement.isEndLine l = false) →
        ∀ warnings, (Outline.read source).check = .ok warnings → node.parentPosition = none) := by
  intro index
  have hindex := Placement.ofElement_documentLevel (o := Outline.read source)
    (e := trimmedElement e) hplace
  obtain ⟨position, node, hputs⟩ := addElement_puts h (readsBack_of_quoteFree h hq) hindex
  have hnone := hputs.parentPosition_eq_none_iff
  refine ⟨position, node, hputs.inserts.getElem?_position, hputs.line, hputs.aliasName,
    hputs.parent, hnone, fun hplain warnings hcheck => hnone.2 fun b hb _ => ?_⟩
  obtain ⟨c, hc⟩ := Outline.exists_closingLine hcheck hb
  rw [Outline.boundaries_read] at hb
  have hlt := Placement.closing_lt_endOfDocument (List.mem_filter.1 hb).1 hc
  rw [← Placement.rootIndex_of_plain hplain] at hlt
  exact ⟨c, hc, hlt⟩

/-- The relation stands inside the inner one of two blocks. -/
theorem addElement_documentLevel_iff_nested :
    let source : Text := ("Boundary(a, \"A\") \x7b\n Boundary(b, \"B\") \x7b\n" ++
      "Rel(a, b, \"x\")\n \x7d\n\x7d\n@enduml").toList
    let e : NewElement :=
      ⟨.systemBoundary, " u ".toList, "\x7d) \x7b".toList, none, none, .documentLevel⟩
    let index := Placement.rootIndex source.lines
    ∃ result, addElement .context source e = .ok result ∧ e.place = .documentLevel ∧
      e.Avoids '"' ∧
      ∃ (position : Nat) (node : Node),
        (Outline.read result).nodes[position]? = some node ∧ node.line = index ∧
        node.aliasName = e.aliasName.trim ∧
        (∀ p, node.parentPosition = some p ↔
          IsGreatest {p | Nesting.OpenAt (Outline.read source).nodes index p} p) ∧
        (node.parentPosition = none ↔ ∀ b ∈ (Outline.read source).boundaries, b.line < index →
          ∃ c, b.closingLine = some c ∧ c < index) ∧
        ((∀ l ∈ source.lines, Placement.isRelationLine l = false ∧ Placement.isEndLine l = false) →
          ∀ warnings, (Outline.read source).check = .ok warnings → node.parentPosition = none) := by
  intro source e index
  have hresult : addElement .context source e = .ok
      ("Boundary(a, \"A\") \x7b\n Boundary(b, \"B\") \x7b\n".toList ++
        "System_Boundary($alias=u, $label=\"\x7d) \x7b\") \x7b\n\x7d\n".toList ++
        "Rel(a, b, \"x\")\n \x7d\n\x7d\n@enduml".toList) := by decide +kernel
  have hquote : e.Avoids '"' := ⟨by decide +kernel, by simp [e], by simp [e]⟩
  exact ⟨_, hresult, rfl, hquote, addElement_documentLevel_iff hresult rfl hquote⟩

/-- The text passes the check, and the only relation stands inside a block. -/
theorem relation_in_block_draws_element :
    let source : Text := "Boundary(b, \"B\") \x7b\nRel(b, b, \"x\")\n\x7d".toList
    let e : NewElement := ⟨.system, "s".toList, "S".toList, none, none, .documentLevel⟩
    (Outline.read source).check = .ok [] ∧ e.Avoids '"' ∧
      ∃ result, addElement .context source e = .ok result ∧
        ∃ node ∈ (Outline.read result).nodes, node.line = Placement.rootIndex source.lines ∧
          node.parentPosition = some 0 := by
  intro source e
  have hresult : addElement .context source e = .ok
      "Boundary(b, \"B\") \x7b\nSystem($alias=s, $label=\"S\")\nRel(b, b, \"x\")\n\x7d".toList := by
    decide +kernel
  have hquote : e.Avoids '"' := ⟨by decide +kernel, by simp [e], by simp [e]⟩
  exact ⟨by decide +kernel, hquote, _, hresult, by decide +kernel⟩

end Editor
end C4Diagram
