import C4Diagram.Proofs.Call.Values
import C4Diagram.Proofs.Check
import C4Diagram.Proofs.Edit.Accepted

/-! A relation that was accepted is one new line, and whatever its values hold, that line says
nothing about elements and blocks: it is read as a call of a relation or, where nothing sensible
is read back, as text. -/

namespace C4Diagram

namespace RelationKind

theorem isIdentifier_name (k : RelationKind) : isIdentifier k.name = true := by cases k <;> decide

theorem no_directiveMark (k : RelationKind) (rest : Text) :
    directiveMarks.any (fun mark => mark.isPrefixOf (k.name ++ rest)) = false := by cases k <;> rfl

end RelationKind

namespace NewRelation

variable {r : NewRelation}

def namedValues (r : NewRelation) : List (Text × Text) :=
  [("from".toList, r.source), ("to".toList, r.target), ("label".toList, quote r.label.trim)] ++
    ((present? r.technology).toList.map fun v => ("techn".toList, quote v)) ++
    (present? r.description).toList.map fun v => ("descr".toList, quote v)

theorem arguments_eq (r : NewRelation) :
    r.arguments = r.namedValues.map fun p => namedArgument ('$' :: p.1) p.2 := by
  unfold arguments namedValues
  simp only [List.map_append, List.map_map]
  rfl

theorem written_eq (r : NewRelation) :
    r.written = printedCall r.kind.name (Text.join ", ".toList r.arguments) false := by
  simp [written, printedCall]

theorem mem_namedValues {p : Text × Text} (hp : p ∈ r.namedValues) :
    isIdentifier p.1 = true ∧ (p.2 = r.source ∨ p.2 = r.target ∨
      ∃ t, p.2 = quote t.trim ∧ (t = r.label ∨ t ∈ r.technology ∨ t ∈ r.description)) := by
  rcases List.mem_append.1 hp with hp | hp
  · rcases List.mem_append.1 hp with hp | hp
    · rcases List.mem_cons.1 hp with rfl | hp
      · exact ⟨rfl, .inl rfl⟩
      · rcases List.mem_cons.1 hp with rfl | hp
        · exact ⟨rfl, .inr (.inl rfl)⟩
        · rw [List.mem_singleton.1 hp]
          exact ⟨rfl, .inr (.inr ⟨r.label, rfl, .inl rfl⟩)⟩
    · obtain ⟨v, hv, rfl⟩ := List.mem_map.1 hp
      obtain ⟨t, ht, rfl⟩ := mem_of_mem_present? (Option.mem_toList.1 hv)
      exact ⟨rfl, .inr (.inr ⟨t, rfl, .inr (.inl ht)⟩)⟩
  · obtain ⟨v, hv, rfl⟩ := List.mem_map.1 hp
    obtain ⟨d, hd, rfl⟩ := mem_of_mem_present? (Option.mem_toList.1 hv)
    exact ⟨rfl, .inr (.inr ⟨d, rfl, .inr (.inr hd)⟩)⟩

theorem lineBreak_not_mem_written {c : Char} (hc : IsLineBreak c) (hsource : c ∉ r.source)
    (htarget : c ∉ r.target) (hlabel : c ∉ r.label) (htech : ∀ t ∈ r.technology, c ∉ t)
    (hdescr : ∀ d ∈ r.description, c ∉ d) : c ∉ r.written := by
  rw [written_eq, arguments_eq]
  refine lineBreak_not_mem_printedCall hc r.kind.isIdentifier_name (fun p hp => ?_) _
  obtain ⟨hkey, hv | hv | ⟨t, hv, ht⟩⟩ := mem_namedValues hp
  · exact ⟨hkey, hv ▸ hsource⟩
  · exact ⟨hkey, hv ▸ htarget⟩
  · refine ⟨hkey, hv ▸ lineBreak_not_mem_quote_trim hc ?_⟩
    rcases ht with rfl | ht | ht
    · exact hlabel
    · exact htech t ht
    · exact hdescr t ht

/-- The line of a relation is a relation or text. -/
theorem classify_written (r : NewRelation) :
    classify r.written = .text ∨
      ∃ c : Call, classify r.written = .call c ∧ c.isRelation = true := by
  have hclass := classify_printedCall (fun c (hc : c ∈ ([] : Text)) => absurd hc List.not_mem_nil)
    r.kind.isIdentifier_name
    r.kind.no_directiveMark (Text.join ", ".toList r.arguments) false
  rw [List.nil_append, ← written_eq] at hclass
  rw [hclass]
  unfold Call.ofArguments?
  split
  · exact .inl rfl
  · exact .inr ⟨_, rfl, r.kind.isRelationName_name⟩

theorem step_written (r : NewRelation) (s : Nesting) (i : Nat) :
    s.step i (classify r.written) = s := by
  rcases classify_written r with h | ⟨c, h, hc⟩
  · rw [h, Nesting.step]
  · rw [h, Nesting.step, if_pos hc]

/-- The line of a relation adds nothing. -/
theorem adds_written (r : NewRelation) (s : Nesting) (i : Nat) :
    Nesting.Adds [] s (s.run i ([r.written].map classify)) := by
  rw [List.map_cons, List.map_nil, Nesting.run, Nesting.run, step_written]
  exact ⟨(List.append_nil _).symm, rfl, rfl⟩

theorem declared?_written (r : NewRelation) : (classify r.written).declared? = none := by
  rcases classify_written r with h | ⟨c, h, hc⟩
  · rw [h, Line.declared?]
  · rw [h, Line.declared?, if_pos hc]

theorem declared_written (r : NewRelation) :
    ([r.written].map classify).filterMap Line.declared? = [] := by
  rw [List.map_cons, List.map_nil, List.filterMap_cons, declared?_written]
  rfl

end NewRelation

/-- Each alias was read from a line. -/
theorem Text.exists_line_of_declared {source a : Text} (h : a ∈ source.declared) :
    ∃ l ∈ source.lines, ∀ x ∈ a, x ∈ l := by
  obtain ⟨line, hline, ha⟩ := List.mem_filterMap.1 h
  obtain ⟨l, hl, rfl⟩ := List.mem_map.1 hline
  cases hc : classify l with
  | call c =>
    rw [hc, Line.declared?] at ha
    split at ha
    · cases ha
    · cases ha
      exact ⟨l, hl, fun x hx => mem_of_mem_aliasName (read?_of_classify hc) hx⟩
  | directive => rw [hc] at ha; cases ha
  | blockEnd => rw [hc] at ha; cases ha
  | text => rw [hc] at ha; cases ha

namespace Editor

/-- The line of a relation brings no line break along that the text does not have. -/
theorem lineBreak_not_mem_relation {c : Char} (hc : IsLineBreak c) {source : Text} {r : NewRelation}
    (hvalid : validateRelation (Outline.read source) r = .ok ())
    (hlines : ∀ l ∈ source.lines, c ∉ l) : c ∉ r.written := by
  obtain ⟨-, -, -, honeLine, hsource, htarget⟩ := validateRelation_eq_ok_iff.1 hvalid
  obtain ⟨hlabel, htech, hdescr⟩ := lineBreak_not_mem_of_oneLineEach hc honeLine
  rw [Outline.containsAlias_read] at hsource htarget
  have hdeclared {a : Text} (ha : a ∈ source.declared) : c ∉ a := by
    obtain ⟨l, hl, hmem⟩ := Text.exists_line_of_declared ha
    exact fun hca => hlines l hl (hmem c hca)
  exact NewRelation.lineBreak_not_mem_written hc (hdeclared hsource) (hdeclared htarget) hlabel
    htech hdescr

theorem addRelation_lines {source result : Text} {r : NewRelation}
    (h : addRelation source r = .ok result) :
    '\n' ∉ (trimmedRelation r).written ∧
      result = Placement.splice source.lines
        (Placement.relationIndex source.lines) [(trimmedRelation r).written] := by
  obtain ⟨hvalid, rfl⟩ := addRelation_eq_ok_iff.1 h
  exact ⟨lineBreak_not_mem_relation (.inl rfl) hvalid fun l hl => Text.lineFeed_not_mem_lines hl,
    rfl⟩

end Editor
end C4Diagram
