import C4Diagram.Proofs.Edit.Parents

/-! Elements that are put into a boundary. Where the block of the boundary ends on a line of its
own, it is the innermost one there, so the new node is its last child. Where it does not, the editor
counts braces, and so do labels and comments: the line that it comes to may stand above the
boundary's own or in a block that the outline takes to be open still. -/

namespace C4Diagram

namespace Outline

variable {source : Text} {b : Node}

theorem exists_position_of_boundary? {p : Text} (h : (read source).boundary? p = some b) :
    ∃ q : Nat, (read source).nodes[q]? = some b ∧ b.opensBlock = true := by
  have hmem := List.mem_of_find?_eq_some h
  rw [boundaries_read] at hmem
  obtain ⟨hnode, hopens⟩ := List.mem_filter.1 hmem
  obtain ⟨q, hq⟩ := List.mem_iff_getElem?.1 hnode
  exact ⟨q, hq, hopens⟩

/-- An open block is the innermost one iff all blocks that start below it have ended. -/
theorem isGreatest_openAt_iff {i q : Nat} (hb : (read source).nodes[q]? = some b)
    (hopen : Nesting.OpenAt (read source).nodes i q) :
    IsGreatest {q | Nesting.OpenAt (read source).nodes i q} q ↔
      ∀ d ∈ (read source).boundaries, b.line < d.line → d.line < i →
        ∃ c, d.closingLine = some c ∧ c < i := by
  have hd := describes_read source
  rw [boundaries_read]
  refine ⟨?_, ?_⟩
  · intro hgreatest d hmem hbelow hlt
    obtain ⟨hnode, hopens⟩ := List.mem_filter.1 hmem
    obtain ⟨p, hp⟩ := List.mem_iff_getElem?.1 hnode
    by_contra hnone
    have hle : p ≤ q := hgreatest.2 ⟨d, hp, hopens, hlt, fun c hc => by
      by_contra hci
      exact hnone ⟨c, hc, Nat.not_le.1 hci⟩⟩
    rcases hle.lt_or_eq with hle | rfl
    · exact Nat.lt_asymm hbelow (hd.line_lt_line hp hb hle)
    · cases hp.symm.trans hb
      exact Nat.lt_irrefl _ hbelow
  · intro hall
    refine ⟨hopen, fun p hp => ?_⟩
    obtain ⟨d, hnode, hopens, hlt, hclosing⟩ := hp
    by_contra hgt
    obtain ⟨c, hc, hci⟩ := hall d (List.mem_filter.2 ⟨List.mem_of_getElem? hnode, hopens⟩)
      (hd.line_lt_line hb hnode (Nat.not_le.1 hgt)) hlt
    exact Nat.not_le.2 hci (hclosing c hc)

end Outline

namespace Placement

def innerIndent (o : Outline) (boundary : Node) : Text :=
  indentation (o.lines.getD boundary.line []) ++ "  ".toList

theorem ofElement_boundary {o : Outline} {e : NewElement} {p : Text} {b : Node}
    (hplace : e.place = .boundary p) (hb : o.boundary? p = some b) :
    ofElement o e = match closingLine? o b with
      | none => .error (.unterminatedBoundary p)
      | some index => .ok (index, e.lines.map (innerIndent o b ++ ·)) := by
  unfold ofElement
  rw [hplace]
  simp only [hb]
  rfl

/-! Counting braces. -/

theorem le_of_balancingLine? {depth : Int} {first i : Nat} {ls : List Text}
    (h : balancingLine? depth first ls = some i) : first ≤ i := by
  induction ls generalizing depth first with
  | nil => cases h
  | cons l ls ih =>
    rw [balancingLine?] at h
    split at h
    · cases h
      exact le_rfl
    · exact (Nat.le_succ first).trans (ih h)

/-- The count comes to an end below its first line iff this line leaves its braces unbalanced. -/
theorem lt_of_balancingLine?_iff {first i : Nat} {l : Text} {ls : List Text} (hl : '\x7b' ∈ l)
    (h : balancingLine? 0 first (l :: ls) = some i) :
    first < i ↔ l.count '\x7b' ≠ l.count '\x7d' := by
  have hopens := List.count_pos_iff.2 hl
  rw [balancingLine?] at h
  split at h
  · next hbalanced =>
    cases h
    exact iff_of_false (Nat.lt_irrefl _) (not_not_intro (by omega))
  · next hunbalanced =>
    refine iff_of_true (le_of_balancingLine? h) fun heq => hunbalanced ⟨by omega, by omega⟩

end Placement

/-- The line that declares a boundary has a brace. -/
theorem Outline.exists_declaration {source : Text} {q : Nat} {b : Node}
    (hb : (read source).nodes[q]? = some b) (hopens : b.opensBlock = true) :
    ∃ l, source.lines[b.line]? = some l ∧ '\x7b' ∈ l := by
  obtain ⟨c, hc, hdeclares⟩ := (describes_read source).declared hb
  obtain ⟨l, hl, hclass⟩ := classified hc
  exact ⟨l, hl, brace_mem_of_opensBlock (read?_of_classify hclass)
    (hdeclares.opensBlock.symm.trans hopens)⟩

namespace Editor

variable {level : Level} {source result : Text} {e : NewElement} {index position : Nat}
  {inserted : List Text} {node : Node}

theorem addElement_of_place
    (hvalid : validateElement level (Outline.read source) (trimmedElement e) = .ok ())
    (hplace : Placement.ofElement (Outline.read source) (trimmedElement e) =
      .ok (index, inserted)) :
    addElement level source e = .ok (Placement.splice source.lines index inserted) :=
  addElement_eq_ok_iff.2 ⟨hvalid, index, inserted, hplace, rfl⟩

theorem addElement_of_no_place {error : PlacementError}
    (hvalid : validateElement level (Outline.read source) (trimmedElement e) = .ok ())
    (hplace : Placement.ofElement (Outline.read source) (trimmedElement e) = .error error) :
    addElement level source e = .error (.placement error) := by
  unfold addElement Outline.insertElement
  simp only [hvalid, hplace]
  rfl

namespace PutsElement

/-- A boundary that is open at the place keeps all but its closing line. -/
theorem getElem?_of_openAt (h : PutsElement source result e index inserted position node) {q : Nat}
    {b : Node} (hb : (Outline.read source).nodes[q]? = some b) (hlt : b.line < index) :
    (Outline.read result).nodes[q]? =
      some { b with closingLine := b.closingLine.map (shiftFrom index inserted.length) } := by
  have hd := Outline.describes_read source
  have hparent : b.parentPosition.map (shiftFrom position 1) = b.parentPosition := by
    cases hr : b.parentPosition with
    | none => rfl
    | some r =>
      obtain ⟨d, hnode, -, hline, -⟩ := ((hd.parents hb r).1 hr).1
      have hr' := (h.inserts.lt_position_iff h.line hnode).2 (hline.trans hlt)
      rw [Option.map_some, shiftFrom_of_lt hr']
  rw [h.inserts.getElem?_of_lt ((h.inserts.lt_position_iff h.line hb).2 hlt), hb, Option.map_some]
  unfold Node.renamed
  rw [hparent, shiftFrom_of_lt hlt]

end PutsElement

/-- Where the end of the boundary is not recorded, the element has no place, or it has one where the
braces balance. It comes to stand below the line of the boundary and right under it iff that line
does not balance its own braces and all blocks that start between have ended. -/
theorem addElement_scanned_iff {p : Text} {b : Node}
    (hvalid : validateElement level (Outline.read source) (trimmedElement e) = .ok ())
    (hplace : e.place = .boundary p) (hq : e.Avoids '"')
    (hb : (Outline.read source).boundary? p = some b) (hopen : b.closingLine = none) :
    let declaration := source.lines.getD b.line []
    let scanned := Placement.balancingLine? 0 b.line (source.lines.drop b.line)
    (scanned = none →
      addElement level source e = .error (.placement (.unterminatedBoundary p))) ∧
    ∀ index, scanned = some index →
      ∃ (result : Text) (q position : Nat) (node : Node), addElement level source e = .ok result ∧
        (Outline.read source).nodes[q]? = some b ∧
        (Outline.read result).nodes[position]? = some node ∧ node.line = index ∧
        node.aliasName = e.aliasName.trim ∧
        (b.line < index ∧ (Outline.read result).nodes[q]? = some b ∧
            node.parentPosition = some q ↔
          declaration.count '\x7b' ≠ declaration.count '\x7d' ∧
            ∀ d ∈ (Outline.read source).boundaries, b.line < d.line → d.line < index →
              ∃ c, d.closingLine = some c ∧ c < index) := by
  intro declaration scanned
  obtain ⟨q, hnode, hopens⟩ := Outline.exists_position_of_boundary? hb
  obtain ⟨l, hl, hbrace⟩ := Outline.exists_declaration hnode hopens
  have hdeclaration : declaration = l := by
    show source.lines.getD b.line [] = l
    rw [List.getD_eq_getElem?_getD, hl, Option.getD_some]
  have hat := Placement.ofElement_boundary (e := trimmedElement e) hplace hb
  unfold Placement.closingLine? at hat
  rw [hopen, Option.none_or] at hat
  change _ = match scanned with | none => _ | some index => _ at hat
  refine ⟨fun hnone => ?_, fun index hsome => ?_⟩
  · rw [hnone] at hat
    exact addElement_of_no_place hvalid hat
  · have hfirst : b.line < index ↔ declaration.count '\x7b' ≠ declaration.count '\x7d' := by
      obtain ⟨hlt, rfl⟩ := List.getElem?_eq_some_iff.1 hl
      rw [hdeclaration]
      apply Placement.lt_of_balancingLine?_iff hbrace
      rwa [← List.drop_eq_getElem_cons hlt]
    rw [hsome] at hat
    have hadd := addElement_of_place hvalid hat
    obtain ⟨position, node, hputs⟩ := addElement_puts hadd (readsBack_of_quoteFree hadd hq) hat
    refine ⟨_, q, position, node, hadd, hnode, hputs.inserts.getElem?_position, hputs.line,
      hputs.aliasName, ?_⟩
    rw [← hfirst]
    refine and_congr_right fun hlt => ?_
    have hkept := hputs.getElem?_of_openAt hnode hlt
    rw [hopen, Option.map_none, ← hopen] at hkept
    have hopenAt : Nesting.OpenAt (Outline.read source).nodes index q :=
      ⟨b, hnode, hopens, hlt, by simp [hopen]⟩
    rw [hputs.parent q, Outline.isGreatest_openAt_iff hnode hopenAt]
    exact and_iff_right hkept

/-- The block ends in a comment, below an inner block that ends on a line of its own. -/
theorem addElement_scanned_iff_decorated :
    let source : Text := ("Boundary(b, \"\x7b\x7d\") \x7b\n Boundary(d, \"D\") \x7b\n \x7d\n" ++
      "System(a, \"A\")\n\x7d ' end of b").toList
    let e : NewElement :=
      ⟨.person, " u ".toList, "\x7d".toList, some "t".toList, none, .boundary "b".toList⟩
    ∃ b, validateElement .context (Outline.read source) (trimmedElement e) = .ok () ∧
      e.place = .boundary "b".toList ∧ e.Avoids '"' ∧
      (Outline.read source).boundary? "b".toList = some b ∧ b.closingLine = none ∧
      let declaration := source.lines.getD b.line []
      let scanned := Placement.balancingLine? 0 b.line (source.lines.drop b.line)
      (scanned = none →
        addElement .context source e =
          .error (.placement (.unterminatedBoundary "b".toList))) ∧
      ∀ index, scanned = some index →
        ∃ (result : Text) (q position : Nat) (node : Node),
          addElement .context source e = .ok result ∧
          (Outline.read source).nodes[q]? = some b ∧
          (Outline.read result).nodes[position]? = some node ∧ node.line = index ∧
          node.aliasName = e.aliasName.trim ∧
          (b.line < index ∧ (Outline.read result).nodes[q]? = some b ∧
              node.parentPosition = some q ↔
            declaration.count '\x7b' ≠ declaration.count '\x7d' ∧
              ∀ d ∈ (Outline.read source).boundaries, b.line < d.line → d.line < index →
                ∃ c, d.closingLine = some c ∧ c < index) := by
  intro source e
  have hvalid : validateElement .context (Outline.read source) (trimmedElement e) = .ok () := by
    decide +kernel
  have hquote : e.Avoids '"' := ⟨by decide +kernel, by simp [e], by simp [e]⟩
  have hboundary : ((Outline.read source).boundary? "b".toList).map Node.closingLine =
      some none := by decide +kernel
  obtain ⟨b, hb, hc⟩ := Option.map_eq_some_iff.1 hboundary
  exact ⟨b, hvalid, rfl, hquote, hb, hc, addElement_scanned_iff hvalid rfl hquote hb hc⟩

/-- The label of the boundary balances the brace behind it, so the element goes above the boundary
and under nothing. -/
theorem brace_in_label_misplaces_element :
    let source : Text := "Boundary(b, \"a \x7d b\") \x7b".toList
    let e : NewElement :=
      ⟨.system, "s".toList, "S".toList, none, none, .boundary "b".toList⟩
    ((Outline.read source).boundary? "b".toList).map Node.closingLine = some none ∧
      e.Avoids '"' ∧ ∃ result, addElement .context source e = .ok result ∧
        (Outline.read result).nodes.map (fun n => (n.aliasName, n.line, n.parentPosition)) =
          [("s".toList, 0, none), ("b".toList, 1, none)] := by
  intro source e
  have hresult : addElement .context source e = .ok
      "  System($alias=s, $label=\"S\")\nBoundary(b, \"a \x7d b\") \x7b".toList := by
    decide +kernel
  have hquote : e.Avoids '"' := ⟨by decide +kernel, by simp [e], by simp [e]⟩
  exact ⟨by decide +kernel, hquote, _, hresult, by decide +kernel⟩

end Editor
end C4Diagram
