import C4Diagram.Proofs.Edit.Accepted

/-! An element that was accepted, read back from the new text. Its values hold no double quote,
so nothing leaks out of their quotes: the new lines are one call and, for a boundary, the end of
its block. The old nodes are renamed, and the new node stands between them with all that was
asked for. -/

namespace C4Diagram

/-- The outline `new` is the outline `old` after `width` lines were put in at `index`, with one
more node. -/
structure Outline.InsertsNode (old new : Outline) (index width position : Nat) (node : Node) :
    Prop where
  position_le : position ≤ old.nodes.length
  nodes : new.nodes =
    (old.nodes.map (Node.renamed (shiftFrom index width) (shiftFrom position 1))).insertIdx
      position node
  strayClosings : new.strayClosings = old.strayClosings.map (shiftFrom index width)

/-- The node is the element, declared on the line, with the end of its block right below if it
has one. -/
structure NewElement.DeclaredAs (e : NewElement) (index : Nat) (node : Node) : Prop where
  aliasName : node.aliasName = e.aliasName.trim
  label : node.label = withBackslashesDoubled e.label.trim
  kind : node.kind? = some e.kind
  opensBlock : node.opensBlock = e.kind.isBoundary
  line : node.line = index
  closingLine : node.closingLine = if e.kind.isBoundary then some (index + 1) else none

/-- Lines that are read as a block with a single call insert its node. -/
theorem Outline.insertsNode_splice {source : Text} {inserted : List Text} {index : Nat} {c : Call}
    (hindex : index ≤ source.lines.length) (hfeed : ∀ l ∈ inserted, '\n' ∉ l) (hne : inserted ≠ [])
    (hblock : inserted.map classify = Nesting.blockOf c) (hc : c.isRelation = false) :
    let above := Nesting.empty.run 0 ((source.lines.map classify).take index)
    (read source).InsertsNode (read (Placement.splice source.lines index inserted)) index
      inserted.length above.nodes.length (above.blockNode index c) := by
  intro above
  have hclasses := Placement.map_classify_splice source index hfeed hne
  have hlen : (Nesting.blockOf c).length = inserted.length := by rw [← hblock, List.length_map]
  have hle : index ≤ (source.lines.map classify).length := by rwa [List.length_map]
  obtain ⟨hposition, hnodes, hstray⟩ := Nesting.nodes_insert hle hc
  rw [hlen] at hnodes hstray
  rw [hblock] at hclasses
  refine ⟨hposition, ?_, ?_⟩
  · show (Nesting.empty.run 0
      ((Placement.splice source.lines index inserted).lines.map classify)).nodes = _
    rw [hclasses]
    exact hnodes
  · show (Nesting.empty.run 0
      ((Placement.splice source.lines index inserted).lines.map classify)).strayClosings = _
    rw [hclasses]
    exact hstray

namespace NewElement

variable {e : NewElement}

theorem length_lines (e : NewElement) : e.lines.length = if e.kind.isBoundary then 2 else 1 := by
  unfold lines
  split <;> rfl

theorem map_lines_ne_nil (e : NewElement) (indent : Text) : e.lines.map (indent ++ ·) ≠ [] := by
  unfold lines
  split <;> simp

theorem lineBreak_not_mem_lines {c : Char} (hc : IsLineBreak c) (h : e.Avoids c)
    (ha : isIdentifier e.aliasName = true) : ∀ l ∈ e.lines, c ∉ l := by
  have hwritten := lineBreak_not_mem_written hc h ha
  unfold lines
  split
  · intro l hl
    rcases List.mem_cons.1 hl with rfl | hl
    · exact hwritten
    · rw [List.mem_singleton.1 hl]
      rcases hc with rfl | rfl <;> decide
  · intro l hl
    rw [List.mem_singleton.1 hl]
    exact hwritten

/-- The lines of an element are a block, if its call is read back as a call. -/
theorem map_classify_lines {indent : Text} (hi : ∀ c ∈ indent, isSpacing c = true) {c : Call}
    (hc : Call.ofArguments? e.kind.name e.readBack e.kind.isBoundary = some c) :
    (e.lines.map (indent ++ ·)).map classify = Nesting.blockOf c := by
  have hopens : c.opensBlock = e.kind.isBoundary := (Call.of_ofArguments? hc).2
  have hcall : classify (indent ++ e.written) = .call c := by
    rw [classify_written e hi, hc]
    rfl
  unfold lines Nesting.blockOf
  rw [hopens]
  split
  · rw [List.map_cons, List.map_cons, List.map_cons, hcall]
    exact congrArg (fun l => [Line.call c, l]) (classify_blockEnd hi)
  · rw [List.map_cons, List.map_cons, hcall]
    rfl

/-- The call of a quote-free element. -/
theorem ofArguments?_of_quoteFree (h : e.Avoids '"') (ha : isIdentifier e.aliasName = true)
    (hl : e.label.trim ≠ [])
    (opensBlock : Bool) : Call.ofArguments? e.kind.name e.readBack opensBlock =
      some ⟨e.kind.name, e.readBack, e.aliasName, withBackslashesDoubled e.label.trim,
        opensBlock⟩ := by
  obtain ⟨halias, hlabel⟩ := resolve_of_quoteFree h ha
  unfold Call.ofArguments?
  rw [halias, hlabel, if_neg]
  rw [Bool.or_eq_true, List.isEmpty_iff, List.isEmpty_iff, not_or]
  exact ⟨ne_nil_of_isIdentifier ha, withBackslashesDoubled_ne_nil hl⟩

end NewElement

namespace Editor

theorem avoids_trimmedElement {e : NewElement} {c : Char} (h : e.Avoids c) :
    (trimmedElement e).Avoids c where
  label := h.not_mem_trim (.inl rfl)
  technology t ht := by
    obtain ⟨s, hs, rfl⟩ := Option.map_eq_some_iff.1 ht
    exact h.not_mem_trim (.inr (.inl hs))
  description d hd := by
    obtain ⟨s, hs, rfl⟩ := Option.map_eq_some_iff.1 hd
    exact h.not_mem_trim (.inr (.inr hs))

/-- The lines of an element bring no line break along that the text does not have. -/
theorem lineBreak_not_mem_inserted {c : Char} (hc : IsLineBreak c) {level : Level} {source : Text}
    {e : NewElement} (hvalid : validateElement level (Outline.read source) e = .ok ())
    {index : Nat} {inserted : List Text}
    (hplace : Placement.ofElement (Outline.read source) e = .ok (index, inserted))
    (hsource : ∀ l ∈ source.lines, c ∉ l) : ∀ l ∈ inserted, c ∉ l := by
  obtain ⟨ha, -, honeLine, -⟩ := validateElement_eq_ok_iff.1 hvalid
  obtain ⟨-, indent, hindent, rfl⟩ := Placement.ofElement_read hplace
  obtain ⟨hlabel, htech, hdescr⟩ := lineBreak_not_mem_of_oneLineEach hc honeLine
  intro line hline
  obtain ⟨l, hl, rfl⟩ := List.mem_map.1 hline
  have hno := NewElement.lineBreak_not_mem_lines hc ⟨hlabel, htech, hdescr⟩ ha l hl
  rw [List.mem_append, not_or]
  refine ⟨fun hm => ?_, hno⟩
  obtain ⟨-, rfl | ⟨old, hold, hmem⟩⟩ := hindent _ hm
  · rcases hc with hc | hc <;> cases hc
  · exact hsource old hold hmem

/-- What the text of an accepted element is made of. -/
theorem addElement_lines {level : Level} {source result : Text} {e : NewElement}
    (h : addElement level source e = .ok result) :
    ∃ index indent, Placement.ofElement (Outline.read source) (trimmedElement e) =
        .ok (index, (trimmedElement e).lines.map (indent ++ ·)) ∧
      index ≤ source.lines.length ∧ (∀ c ∈ indent, isSpacing c = true) ∧
      (∀ l ∈ (trimmedElement e).lines.map (indent ++ ·), '\n' ∉ l) ∧
      result =
        Placement.splice source.lines index ((trimmedElement e).lines.map (indent ++ ·)) := by
  obtain ⟨hvalid, index, inserted, hplace, rfl⟩ := addElement_eq_ok_iff.1 h
  have hfeed := lineBreak_not_mem_inserted (.inl rfl) hvalid hplace
    fun l hl => Text.lineFeed_not_mem_lines hl
  obtain ⟨hindex, indent, hindent, rfl⟩ := Placement.ofElement_read hplace
  exact ⟨index, indent, hplace, hindex, fun c hc => (hindent c hc).1, hfeed, rfl⟩

/-- An accepted element without double quotes is read back as it was asked for, among the old
nodes. -/
theorem addElement_inserts {level : Level} {source result : Text} {e : NewElement}
    (h : addElement level source e = .ok result) (hq : e.Avoids '"') :
    ∃ index inserted position node,
      Placement.ofElement (Outline.read source) (trimmedElement e) = .ok (index, inserted) ∧
      index ≤ source.lines.length ∧ inserted.length = (if e.kind.isBoundary then 2 else 1) ∧
      result.rawLines = source.lines.take index ++ inserted ++ source.lines.drop index ∧
      (Outline.read source).InsertsNode (Outline.read result) index inserted.length position node ∧
      e.DeclaredAs index node := by
  obtain ⟨ha, hlabel, -⟩ := validateElement_eq_ok_iff.1 (addElement_eq_ok_iff.1 h).1
  obtain ⟨index, indent, hplace, hindex, hindent, hfeed, rfl⟩ := addElement_lines h
  have htrim : (trimmedElement e).label.trim = e.label.trim := Text.trim_trim _
  let c : Call := ⟨e.kind.name, (trimmedElement e).readBack, e.aliasName.trim,
    withBackslashesDoubled e.label.trim, e.kind.isBoundary⟩
  have hcall : Call.ofArguments? e.kind.name (trimmedElement e).readBack e.kind.isBoundary =
      some c := by
    have := NewElement.ofArguments?_of_quoteFree (avoids_trimmedElement hq) ha
      (htrim ▸ hlabel) e.kind.isBoundary
    rw [htrim] at this
    exact this
  have hblock : ((trimmedElement e).lines.map (indent ++ ·)).map classify = Nesting.blockOf c :=
    NewElement.map_classify_lines (e := trimmedElement e) hindent hcall
  have hne := NewElement.map_lines_ne_nil (trimmedElement e) indent
  refine ⟨index, _, _, _, hplace, hindex, ?_, ?_,
    Outline.insertsNode_splice hindex hfeed hne hblock e.kind.isRelationName_name, ?_⟩
  · rw [List.length_map]
    exact NewElement.length_lines _
  · exact Placement.rawLines_splice source hfeed hne
  · exact ⟨rfl, rfl, ElementKind.ofName?_name e.kind, rfl, rfl, rfl⟩

/-- A boundary put into a boundary, above a stray block end, with values that would be calls
outside quotes. -/
theorem addElement_inserts_nested :
    let source : Text := "  System_Boundary(b, \"B\") \x7b\r\n  \x7d\n\x7d\nSystem(s, \"S\")".toList
    let e : NewElement :=
      ⟨.boundary, " u ".toList, "a\\b, $alias=s) \x7b ".toList, none, some "=, ".toList,
      .boundary "b".toList⟩
    ∃ result, addElement .context source e = .ok result ∧ e.Avoids '"' ∧
      ∃ index inserted position node,
        Placement.ofElement (Outline.read source) (trimmedElement e) = .ok (index, inserted) ∧
        index ≤ source.lines.length ∧ inserted.length = (if e.kind.isBoundary then 2 else 1) ∧
        result.rawLines = source.lines.take index ++ inserted ++ source.lines.drop index ∧
        (Outline.read source).InsertsNode (Outline.read result) index inserted.length
          position node ∧
        e.DeclaredAs index node := by
  intro source e
  have hresult : addElement .context source e = .ok
      ("  System_Boundary(b, \"B\") \x7b\n    Boundary($alias=u, $label=\"a\\\\b, $alias=s) \x7b\", $descr=\"=,\") \x7b\n" ++
        "    \x7d\n  \x7d\n\x7d\nSystem(s, \"S\")").toList := by decide +kernel
  have hquote : e.Avoids '"' := ⟨by decide +kernel, by simp [e], by simp [e]⟩
  exact ⟨_, hresult, hquote, addElement_inserts hresult hquote⟩

end Editor
end C4Diagram
