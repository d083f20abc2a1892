import C4Diagram.Editor
import C4Diagram.Proofs.BraceNesting
import C4Diagram.Proofs.Edit.Insertion
import C4Diagram.Proofs.Edit.Printed

/-! What is known of an edit that was accepted: its values passed every check, and its lines
were put at an index of the text behind an indent of spacing. -/

namespace C4Diagram

namespace Editor

/-! Checks in a row. -/

section Checks

variable {ε α β : Type} {p : Prop} [Decidable p] {e : ε}

theorem bind_eq_ok_iff {x : Except ε α} {f : α → Except ε β} {b : β} :
    (x >>= f) = .ok b ↔ ∃ a, x = .ok a ∧ f a = .ok b := by
  cases x with
  | error e => simp [bind, Except.bind]
  | ok a => simp [bind, Except.bind]

theorem check_eq_ok_iff {rest : Except ε β} {b : β} :
    (if p then (do (throw e : Except ε Unit); rest) else rest) = .ok b ↔ ¬ p ∧ rest = .ok b := by
  split
  · next h => simp [h, throw, throwThe, MonadExceptOf.throw, bind, Except.bind]
  · next h => simp [h]

theorem lastCheck_eq_ok_iff : (if p then throw e else pure () : Except ε Unit) = .ok () ↔ ¬ p := by
  split
  · next h => simp [h, throw, throwThe, MonadExceptOf.throw]
  · next h => simp [h, pure, Except.pure]

end Checks

theorem oneLine_eq_ok_iff {field : Field} {value : Text} {u : Unit} :
    oneLine field value = .ok u ↔ '\n' ∉ value ∧ '\r' ∉ value := by
  unfold oneLine
  split
  · next h =>
    simp only [Bool.or_eq_true, List.contains_iff_mem] at h
    simp only [reduceCtorEq, false_iff, not_and_or, not_not]
    exact h
  · next h => simpa using h

theorem lineBreak_not_mem_of_oneLineEach {c : Char} (hc : IsLineBreak c) {label : Text}
    {technology description : Option Text}
    (h : oneLineEach label technology description = .ok ()) :
    c ∉ label ∧ (∀ t ∈ technology, c ∉ t) ∧ ∀ d ∈ description, c ∉ d := by
  have hvalue {value : Text} (hv : '\n' ∉ value ∧ '\r' ∉ value) : c ∉ value := by
    rcases hc with rfl | rfl
    · exact hv.1
    · exact hv.2
  unfold oneLineEach at h
  simp only [bind_eq_ok_iff, oneLine_eq_ok_iff] at h
  obtain ⟨_, hl, _, ht, hd⟩ := h
  refine ⟨hvalue hl, fun t hmem => ?_, fun d hmem => ?_⟩
  · rw [hmem] at ht
    exact hvalue ht
  · rw [hmem] at hd
    exact hvalue hd

theorem validateElement_eq_ok_iff {level : Level} {o : Outline} {e : NewElement} :
    validateElement level o e = .ok () ↔ isIdentifier e.aliasName = true ∧ e.label ≠ [] ∧
      oneLineEach e.label e.technology e.description = .ok () ∧ level.allows e.kind = true ∧
      o.containsAlias e.aliasName = false := by
  unfold validateElement
  simp only [check_eq_ok_iff, bind_eq_ok_iff, lastCheck_eq_ok_iff]
  refine ⟨?_, ?_⟩
  · intro hok
    obtain ⟨-, hl, ha, _, ho, hk, hd⟩ := hok
    exact ⟨by simpa using ha, by simpa using hl, ho, by simpa using hk, by simpa using hd⟩
  · intro hok
    obtain ⟨ha, hl, ho, hk, hd⟩ := hok
    exact ⟨by simpa using ne_nil_of_isIdentifier ha, by simpa using hl, by simpa using ha, (), ho,
      by simpa using hk, by simpa using hd⟩

theorem validateRelation_eq_ok_iff {o : Outline} {r : NewRelation} :
    validateRelation o r = .ok () ↔ r.source ≠ [] ∧ r.target ≠ [] ∧ r.label ≠ [] ∧
      oneLineEach r.label r.technology r.description = .ok () ∧
      o.containsAlias r.source = true ∧ o.containsAlias r.target = true := by
  unfold validateRelation
  simp only [check_eq_ok_iff, bind_eq_ok_iff, lastCheck_eq_ok_iff]
  refine ⟨?_, ?_⟩
  · intro hok
    obtain ⟨hends, hl, _, ho, hs, ht⟩ := hok
    rw [Bool.or_eq_true, not_or] at hends
    exact ⟨by simpa using hends.1, by simpa using hends.2, by simpa using hl, ho, by simpa using hs,
      by simpa using ht⟩
  · intro hok
    obtain ⟨hsource, htarget, hl, ho, hs, ht⟩ := hok
    refine ⟨?_, by simpa using hl, (), ho, by simpa using hs, by simpa using ht⟩
    rw [Bool.or_eq_true, not_or]
    exact ⟨by simpa using hsource, by simpa using htarget⟩

theorem addElement_eq_ok_iff {level : Level} {source result : Text} {e : NewElement} :
    addElement level source e = .ok result ↔
      validateElement level (Outline.read source) (trimmedElement e) = .ok () ∧
        ∃ index inserted, Placement.ofElement (Outline.read source) (trimmedElement e) =
          .ok (index, inserted) ∧
          result = Placement.splice source.lines index inserted := by
  unfold addElement Outline.insertElement
  simp only [bind_eq_ok_iff]
  refine ⟨?_, ?_⟩
  · intro hok
    obtain ⟨_, hv, hp⟩ := hok
    refine ⟨hv, ?_⟩
    cases ho : Placement.ofElement (Outline.read source) (trimmedElement e) with
    | error _ =>
      rw [ho] at hp
      cases hp
    | ok place =>
      rw [ho] at hp
      cases hp
      exact ⟨place.1, place.2, rfl, rfl⟩
  · intro hok
    obtain ⟨hv, index, inserted, ho, rfl⟩ := hok
    refine ⟨(), hv, ?_⟩
    rw [ho]
    rfl

theorem addRelation_eq_ok_iff {source result : Text} {r : NewRelation} :
    addRelation source r = .ok result ↔
      validateRelation (Outline.read source) (trimmedRelation r) = .ok () ∧
        result = Placement.splice source.lines
          (Placement.relationIndex source.lines) [(trimmedRelation r).written] := by
  unfold addRelation
  simp only [bind_eq_ok_iff]
  refine ⟨?_, ?_⟩
  · intro hok
    obtain ⟨_, hv, hp⟩ := hok
    cases hp
    exact ⟨hv, rfl⟩
  · intro hok
    obtain ⟨hv, rfl⟩ := hok
    exact ⟨(), hv, rfl⟩

end Editor

/-! Places. -/

namespace Placement

theorem findIdx?_lt {p : Text → Bool} {lines : List Text} {i : Nat}
    (h : lines.findIdx? p = some i) :
    i < lines.length := (List.findIdx?_eq_some_iff_getElem.1 h).1

theorem rootIndex_le (lines : List Text) : rootIndex lines ≤ lines.length := by
  have hend : endOfDocument lines ≤ lines.length := by
    unfold endOfDocument
    split <;> omega
  unfold rootIndex
  cases hr : lines.findIdx? isRelationLine with
  | some i => exact (findIdx?_lt hr).le
  | none =>
    cases he : lines.findIdx? isEndLine with
    | some i => exact (findIdx?_lt he).le
    | none => exact hend

theorem relationIndex_le (lines : List Text) : relationIndex lines ≤ lines.length := by
  unfold relationIndex
  split
  · exact Nat.sub_le _ _
  · exact rootIndex_le lines

theorem balancingLine?_lt {depth : Int} {first i : Nat} {ls : List Text}
    (h : balancingLine? depth first ls = some i) : i < first + ls.length := by
  induction ls generalizing depth first with
  | nil => cases h
  | cons l ls ih =>
    rw [balancingLine?] at h
    split at h
    · cases h
      rw [List.length_cons]
      omega
    · have := ih h
      rw [List.length_cons]
      omega

theorem closingLine?_lt {source : Text} {boundary : Node} {i : Nat}
    (hb : boundary ∈ (Outline.read source).nodes)
    (h : closingLine? (Outline.read source) boundary = some i) : i < source.lines.length := by
  have hd := Outline.describes_read source
  obtain ⟨p, hp⟩ := List.mem_iff_getElem?.1 hb
  have hline := hd.line_lt hp
  rw [List.length_map] at hline
  unfold closingLine? at h
  rcases Option.or_eq_some_iff.1 h with hc | ⟨-, hc⟩
  · have := hd.closing_lt ⟨boundary, hp, hc⟩
    rwa [List.length_map] at this
  · have := balancingLine?_lt hc
    rw [List.length_drop] at this
    change boundary.line < source.lines.length at hline
    change i < boundary.line + (source.lines.length - boundary.line) at this
    omega

/-- The line of a node starts with spacing alone. -/
theorem indentation_read {source : Text} {n : Node} (hn : n ∈ (Outline.read source).nodes) :
    ∀ c ∈ indentation (source.lines.getD n.line []),
      isSpacing c = true ∧ ∃ l ∈ source.lines, c ∈ l := by
  obtain ⟨p, hp⟩ := List.mem_iff_getElem?.1 hn
  obtain ⟨call, hcall, -⟩ := (Outline.describes_read source).declared hp
  obtain ⟨l, hl, hclass⟩ := Outline.classified hcall
  have hread := read?_of_classify hclass
  obtain ⟨head, hhead, -⟩ := Option.bind_eq_some_iff.1 hread
  change source.lines[n.line]? = some l at hl
  rw [List.getD_eq_getElem?_getD, hl, Option.getD_some]
  intro c hc
  exact ⟨isSpacing_of_mem_indentation hhead hc, l, List.mem_of_getElem? hl,
    (List.takeWhile_prefix _).subset hc⟩

/-- An element goes to an index of the text, and its lines behind an indent of spaces and of what
stands on the lines of the text. -/
theorem ofElement_read {source : Text} {e : NewElement} {index : Nat} {inserted : List Text}
    (h : ofElement (Outline.read source) e = .ok (index, inserted)) :
    index ≤ source.lines.length ∧ ∃ indent : Text,
      (∀ c ∈ indent, isSpacing c = true ∧ (c = ' ' ∨ ∃ l ∈ source.lines, c ∈ l)) ∧
      inserted = e.lines.map (indent ++ ·) := by
  unfold ofElement at h
  split at h
  · cases h
    refine ⟨rootIndex_le _, [], fun c hc => absurd hc List.not_mem_nil, ?_⟩
    exact (List.map_id _).symm
  · next aliasName _ =>
    split at h
    · cases h
    · next boundary hb =>
      have hmem : boundary ∈ (Outline.read source).nodes := by
        have hfind := List.mem_of_find?_eq_some hb
        rw [Outline.boundaries_read] at hfind
        exact (List.mem_filter.1 hfind).1
      split at h
      · cases h
      · next i hi =>
        cases h
        refine ⟨(closingLine?_lt hmem hi).le, _, fun c hc => ?_, rfl⟩
        rcases List.mem_append.1 hc with hc | hc
        · obtain ⟨hspacing, hline⟩ := indentation_read hmem c hc
          exact ⟨hspacing, .inr hline⟩
        · obtain rfl : c = ' ' := by simpa using hc
          exact ⟨rfl, .inl rfl⟩

end Placement
end C4Diagram
