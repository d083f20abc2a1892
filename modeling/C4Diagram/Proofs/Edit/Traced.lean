import C4Diagram.Proofs.Edit.Session

/-! Which lines of a text a session has put in. An accepted edit prints its lines in one place and
keeps all others. In a traced session each line knows whether an edit has printed it: without the
traces it is the session itself, and without the printed lines the text it began with is left. No
carriage return may stand in that text, as an edit reads lines without the one at their end. -/

namespace C4Diagram

namespace Edit

def width : Edit → Nat
  | element e => if e.kind.isBoundary then 2 else 1
  | relation _ => 1

/-- The lines print the edit with its values trimmed, those of an element behind an indent. -/
def PrintedAs : Edit → List Text → Prop
  | element e, block => ∃ indent : Text, (∀ c ∈ indent, isSpacing c = true) ∧
      block = (Editor.trimmedElement e).lines.map (indent ++ ·)
  | relation r, block => block = [(Editor.trimmedRelation r).written]

theorem length_of_printedAs {d : Edit} {block : List Text} (h : d.PrintedAs block) :
    block.length = d.width := by
  cases d with
  | element e =>
    obtain ⟨indent, -, rfl⟩ := h
    rw [List.length_map, NewElement.length_lines]
    rfl
  | relation r =>
    cases h
    rfl

theorem ne_nil_of_printedAs {d : Edit} {block : List Text} (h : d.PrintedAs block) :
    block ≠ [] := by
  have hlength := length_of_printedAs h
  rintro rfl
  cases d with
  | element e =>
    rw [width] at hlength
    split at hlength <;> cases hlength
  | relation r => cases hlength

end Edit

/-! Texts with traces. -/

/-- A line of a text, and whether an edit has printed it. -/
structure TracedLine where
  line : Text
  printed : Bool
deriving DecidableEq

abbrev TracedText := List TracedLine

namespace TracedText

def ofText (t : Text) : TracedText := t.rawLines.map (⟨·, false⟩)

def text (ls : TracedText) : Text := Text.joinLines (ls.map TracedLine.line)

def withoutPrinted (ls : TracedText) : TracedText := ls.filter (!·.printed)

def insert (ls : TracedText) (index : Nat) (block : List Text) : TracedText :=
  ls.take index ++ block.map (⟨·, true⟩) ++ ls.drop index

structure IsSplit (ls : TracedText) : Prop where
  ne_nil : ls ≠ []
  lineBreak_not_mem : ∀ c, IsLineBreak c → ∀ l ∈ ls, c ∉ l.line

variable {ls : TracedText}

theorem isSplit_ofText {t : Text} (h : '\r' ∉ t) : (ofText t).IsSplit where
  ne_nil := by simp [ofText, Text.rawLines_ne_nil]
  lineBreak_not_mem := by
    rintro c (rfl | rfl) l hl
    · obtain ⟨raw, hraw, rfl⟩ := List.mem_map.1 hl
      exact Text.lineFeed_not_mem hraw
    · obtain ⟨raw, hraw, rfl⟩ := List.mem_map.1 hl
      exact fun hc => h (Text.mem_of_mem_rawLines hraw hc)

theorem text_ofText (t : Text) : (ofText t).text = t := by
  unfold ofText text
  rw [List.map_map]
  exact (congrArg Text.joinLines (List.map_id _)).trans (Text.joinLines_rawLines t)

theorem withoutPrinted_ofText (t : Text) : (ofText t).withoutPrinted = ofText t := by
  unfold withoutPrinted
  rw [List.filter_eq_self]
  intro l hl
  obtain ⟨_, -, rfl⟩ := List.mem_map.1 hl
  rfl

theorem lines_text (h : ls.IsSplit) : ls.text.lines = ls.map TracedLine.line := by
  have hbreak {c : Char} (hc : IsLineBreak c) : ∀ l ∈ ls.map TracedLine.line, c ∉ l := by
    intro l hl
    obtain ⟨traced, htraced, rfl⟩ := List.mem_map.1 hl
    exact h.lineBreak_not_mem c hc traced htraced
  have hraw : ls.text.rawLines = ls.map TracedLine.line :=
    Text.rawLines_joinLines (hbreak (.inl rfl)) (by simpa using h.ne_nil)
  rw [Text.lines_eq_rawLines, hraw]
  rw [hraw]
  exact fun l hl hlast => hbreak (.inr rfl) l hl (List.mem_of_getLast? hlast)

theorem text_insert (ls : TracedText) (index : Nat) (block : List Text) :
    (ls.insert index block).text = Placement.splice (ls.map TracedLine.line) index block := by
  have hblock : (block.map fun l => TracedLine.mk l true).map TracedLine.line = block := by
    rw [List.map_map]
    exact List.map_id block
  unfold text insert Placement.splice
  rw [List.map_append, List.map_append, hblock, List.map_take, List.map_drop]

theorem withoutPrinted_insert (ls : TracedText) (index : Nat) (block : List Text) :
    (ls.insert index block).withoutPrinted = ls.withoutPrinted := by
  have hblock : withoutPrinted (block.map fun l => TracedLine.mk l true) = [] := by
    unfold withoutPrinted
    rw [List.filter_eq_nil_iff]
    intro l hl
    obtain ⟨_, -, rfl⟩ := List.mem_map.1 hl
    exact Bool.false_ne_true
  unfold withoutPrinted at hblock ⊢
  unfold insert
  rw [List.filter_append, List.filter_append, hblock, List.append_nil, ← List.filter_append,
    List.take_append_drop]

theorem isSplit_insert (h : ls.IsSplit) {block : List Text}
    (hblock : ∀ c, IsLineBreak c → ∀ l ∈ block, c ∉ l) (index : Nat) :
    (ls.insert index block).IsSplit where
  ne_nil hnil := by
    obtain ⟨hfront, hdrop⟩ := List.append_eq_nil_iff.1 hnil
    obtain ⟨htake, -⟩ := List.append_eq_nil_iff.1 hfront
    apply h.ne_nil
    rw [← List.take_append_drop index ls, htake, hdrop, List.append_nil]
  lineBreak_not_mem c hc l hl := by
    rcases List.mem_append.1 hl with hl | hl
    · rcases List.mem_append.1 hl with hl | hl
      · exact h.lineBreak_not_mem c hc l (List.mem_of_mem_take hl)
      · obtain ⟨raw, hraw, rfl⟩ := List.mem_map.1 hl
        exact hblock c hc raw hraw
    · exact h.lineBreak_not_mem c hc l (List.mem_of_mem_drop hl)

end TracedText

namespace Editor

/-- Where an edit puts its lines, and the lines; a rejected edit puts none in. -/
def insertion? (level : Level) (source : Text) (d : Edit) : Option (Nat × List Text) :=
  match answer level source d, d with
  | .ok _, .element e => (Placement.ofElement (Outline.read source) (trimmedElement e)).toOption
  | .ok _, .relation r => some (Placement.relationIndex source.lines, [(trimmedRelation r).written])
  | .error _, _ => none

def tracedEdits (level : Level) (ls : TracedText) (edits : List Edit) : TracedText :=
  edits.foldl (fun ls d =>
    match insertion? level ls.text d with
    | some (index, block) => ls.insert index block
    | none => ls) ls

variable {level : Level} {source result : Text} {d : Edit}

/-- An accepted edit puts its lines into the text, and no line break that the text does not have. -/
theorem answer_eq_splice (h : answer level source d = .ok result) :
    ∃ index block, insertion? level source d = some (index, block) ∧ d.PrintedAs block ∧
      index ≤ source.lines.length ∧
      (∀ c, IsLineBreak c → (∀ l ∈ source.lines, c ∉ l) → ∀ l ∈ block, c ∉ l) ∧
      result = Placement.splice source.lines index block := by
  cases d with
  | element e =>
    obtain ⟨hvalid, index, inserted, hplace, rfl⟩ := addElement_eq_ok_iff.1 h
    obtain ⟨hindex, indent, hindent, hinserted⟩ := Placement.ofElement_read hplace
    refine ⟨index, inserted, ?_, ⟨indent, fun c hc => (hindent c hc).1, hinserted⟩, hindex,
      fun c hc => lineBreak_not_mem_inserted hc hvalid hplace, rfl⟩
    unfold insertion?
    rw [h]
    simp only [hplace]
    rfl
  | relation r =>
    obtain ⟨hvalid, rfl⟩ := addRelation_eq_ok_iff.1 h
    refine ⟨_, _, ?_, rfl, Placement.relationIndex_le _, fun c hc hlines => ?_, rfl⟩
    · unfold insertion?
      rw [h]
    · exact List.forall_mem_singleton.2 (lineBreak_not_mem_relation hc hvalid hlines)

/-- One step of a traced session is a step of the session, and keeps what is not printed. -/
theorem tracedEdits_singleton (level : Level) {ls : TracedText} (h : ls.IsSplit) (d : Edit) :
    (tracedEdits level ls [d]).IsSplit ∧
      (tracedEdits level ls [d]).text = afterEdit level ls.text d ∧
      (tracedEdits level ls [d]).withoutPrinted = ls.withoutPrinted := by
  unfold tracedEdits afterEdit
  rw [List.foldl_cons, List.foldl_nil]
  cases hanswer : answer level ls.text d with
  | error _ =>
    have hnone : insertion? level ls.text d = none := by
      unfold insertion?
      rw [hanswer]
    rw [hnone]
    exact ⟨h, rfl, rfl⟩
  | ok result =>
    obtain ⟨index, block, hsome, -, -, hbreak, rfl⟩ := answer_eq_splice hanswer
    rw [hsome]
    simp only
    rw [TracedText.lines_text h] at hbreak ⊢
    refine ⟨ls.isSplit_insert h (fun c hc => hbreak c hc fun l hl => ?_) index,
      ls.text_insert index block, ls.withoutPrinted_insert index block⟩
    obtain ⟨traced, htraced, rfl⟩ := List.mem_map.1 hl
    exact h.lineBreak_not_mem c hc traced htraced

theorem tracedEdits_spec (level : Level) {ls : TracedText} (h : ls.IsSplit) (edits : List Edit) :
    (tracedEdits level ls edits).text = afterEdits level ls.text edits ∧
      (tracedEdits level ls edits).withoutPrinted = ls.withoutPrinted := by
  induction edits generalizing ls with
  | nil => exact ⟨rfl, rfl⟩
  | cons d ds ih =>
    obtain ⟨hsplit, htext, hkept⟩ := tracedEdits_singleton level h d
    obtain ⟨htexts, hkepts⟩ := ih hsplit
    rw [htext] at htexts
    exact ⟨htexts, hkepts.trans hkept⟩

/-- An accepted edit puts the lines that print it between the lines of the text, and a session on
a text without carriage returns gives that text back once the printed lines are deleted. -/
theorem edits_keep_lines (level : Level) (source : Text) :
    (∀ d result, answer level source d = .ok result →
      ∃ index block, insertion? level source d = some (index, block) ∧ d.PrintedAs block ∧
        block.length = d.width ∧ index ≤ (Outline.read source).lines.length ∧
        result.rawLines = (Outline.read source).lines.take index ++ block ++
          (Outline.read source).lines.drop index) ∧
    ('\r' ∉ source → ∀ edits,
      (tracedEdits level (.ofText source) edits).text = afterEdits level source edits ∧
      (tracedEdits level (.ofText source) edits).withoutPrinted.text = source) := by
  refine ⟨fun d result h => ?_, fun h edits => ?_⟩
  · obtain ⟨index, block, hsome, hprinted, hindex, hbreak, rfl⟩ := answer_eq_splice h
    have hlines : ∀ l ∈ source.lines, '\n' ∉ l := fun l hl => Text.lineFeed_not_mem_lines hl
    exact ⟨index, block, hsome, hprinted, Edit.length_of_printedAs hprinted, hindex,
      Placement.rawLines_splice source (hbreak _ (.inl rfl) hlines)
        (Edit.ne_nil_of_printedAs hprinted)⟩
  · obtain ⟨htext, hkept⟩ := tracedEdits_spec level (TracedText.isSplit_ofText h) edits
    rw [TracedText.text_ofText] at htext
    rw [hkept, TracedText.withoutPrinted_ofText, TracedText.text_ofText]
    exact ⟨htext, rfl⟩

/-- A boundary put into one that ends in the middle of the text, then an alias that is taken, a
relation, and an element above it; the text ends in a line feed. -/
theorem edits_keep_lines_nested :
    let source : Text := "\tSystem_Boundary(b, \"B\") \x7b\n\x7d\n\n@enduml\n".toList
    let inner : Edit :=
      .element ⟨.boundary, "i".toList, " I, \"1\" ".toList, none, none, .boundary "b".toList⟩
    let edits : List Edit :=
      [inner, .element ⟨.system, "i".toList, "again".toList, none, none, .documentLevel⟩,
      .relation ⟨.rel, "i".toList, "b".toList, "in".toList, none, none⟩,
      .element ⟨.system, "s".toList, "S".toList, none, some " ) \x7b ".toList, .documentLevel⟩]
    ∃ result, answer .context source inner = .ok result ∧
      (∃ index block, insertion? .context source inner = some (index, block) ∧
        inner.PrintedAs block ∧ block.length = inner.width ∧
        index ≤ (Outline.read source).lines.length ∧
        result.rawLines = (Outline.read source).lines.take index ++ block ++
          (Outline.read source).lines.drop index) ∧
      '\r' ∉ source ∧
      (tracedEdits .context (.ofText source) edits).text = afterEdits .context source edits ∧
      (tracedEdits .context (.ofText source) edits).withoutPrinted.text = source := by
  intro source inner edits
  have hresult : answer .context source inner = .ok
      ("\tSystem_Boundary(b, \"B\") \x7b\n\t  Boundary($alias=i, $label=\"I, \\\"1\\\"\") \x7b\n" ++
        "\t  \x7d\n\x7d\n\n@enduml\n").toList := by decide +kernel
  have hreturn : '\r' ∉ source := by decide +kernel
  exact ⟨_, hresult, (edits_keep_lines .context source).1 inner _ hresult, hreturn,
    (edits_keep_lines .context source).2 hreturn edits⟩

end Editor
end C4Diagram
