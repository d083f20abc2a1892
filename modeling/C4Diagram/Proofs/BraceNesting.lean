import C4Diagram.Proofs.Nesting
import Mathlib.Order.Lattice.Nat

/-! An outline is the brace nesting of its lines: what the run keeps, read at the end of the
run. Two clauses need an argument of their own. A line that some block spans has an innermost
such block, since positions are bounded; and blocks nest because a block end closes the
innermost block that spans it. -/

namespace C4Diagram

namespace Outline

/-- The block of the node at `p` starts above line `i` and does not end on or above it. -/
def Spans (o : Outline) (i p : Nat) : Prop :=
  ∃ b, o.nodes[p]? = some b ∧ b.opensBlock = true ∧ b.line < i ∧ ∀ c, b.closingLine = some c → i < c

/-- Line `i` ends the block of the boundary at `p`. -/
def Closes (o : Outline) (i p : Nat) : Prop :=
  ∃ b, o.nodes[p]? = some b ∧ b.opensBlock = true ∧ b.closingLine = some i

/-- What the outline of a text says about the braces of the text's lines. -/
structure BraceNesting (o : Outline) (source : Text) : Prop where
  lines_eq : o.lines = source.lines
  boundaries_eq : o.boundaries = o.nodes.filter (·.opensBlock)
  lines_increasing : o.nodes.Pairwise fun a b => a.line < b.line
  closing_brace : ∀ b ∈ o.boundaries, ∀ c, b.closingLine = some c →
    b.line < c ∧ ∃ l, source.lines[c]? = some l ∧ l.trim = ['}']
  closes_or_stray : ∀ i l, source.lines[i]? = some l → classify l = .blockEnd →
    (∃! p, o.Closes i p) ∧ i ∉ o.strayClosings ∨ (∀ p, ¬ o.Closes i p) ∧ i ∈ o.strayClosings
  strays_increasing : o.strayClosings.Pairwise (· < ·)
  stray_iff : ∀ i l, source.lines[i]? = some l → classify l = .blockEnd →
    (i ∈ o.strayClosings ↔ ∀ b ∈ o.boundaries, b.line < i → ∃ c, b.closingLine = some c ∧ c < i)
  nested : ∀ b₁ ∈ o.boundaries, ∀ b₂ ∈ o.boundaries, ∀ c₁, b₁.closingLine = some c₁ →
    b₁.line < b₂.line → b₂.line < c₁ → ∃ c₂, b₂.closingLine = some c₂ ∧ c₂ < c₁
  parent_greatest : ∀ n ∈ o.nodes, ∀ p, n.parentPosition = some p ↔
    IsGreatest {q | o.Spans n.line q} p
  parent_none : ∀ n ∈ o.nodes, n.parentPosition = none ↔ ∀ q, ¬ o.Spans n.line q
  parent_alias : ∀ n ∈ o.nodes, n.parent = (n.parentPosition.bind (o.nodes[·]?)).map Node.aliasName

end Outline

theorem trim_of_isBlockEnd {l : Text} (h : classify l = .blockEnd) : l.trim = ['}'] := by
  unfold classify at h
  split at h
  · cases h
  · split at h
    · cases h
    · split at h
      · next hb => simpa [isBlockEnd] using hb
      · cases h

/-- Picking the elements at the positions where a test holds is filtering by the test. -/
theorem filterMap_positions {α : Type} (f : α → Bool) (xs : List α) :
    ((List.range xs.length).filter fun p => (xs[p]?).any f).filterMap (xs[·]?) = xs.filter f := by
  induction xs using List.reverseRecOn with
  | nil => rfl
  | append_singleton xs x ih =>
    have hold : ((List.range xs.length).filter fun p => ((xs ++ [x])[p]?).any f).filterMap
        ((xs ++ [x])[·]?) =
        xs.filter f := by
      rw [← ih]
      have hlt : ∀ p ∈ List.range xs.length, (xs ++ [x])[p]? = xs[p]? :=
        fun p hp => List.getElem?_append_left (List.mem_range.1 hp)
      rw [List.filter_congr fun p hp => by rw [hlt p hp]]
      exact List.filterMap_congr fun p hp => hlt p (List.mem_filter.1 hp).1
    rw [List.length_append, List.length_singleton, List.range_succ, List.filter_append,
      List.filterMap_append, hold, List.filter_append]
    cases hx : f x <;> simp [hx]

namespace Nesting

theorem exists_greatest_open {nodes : List Node} {i p : Nat} (h : OpenAt nodes i p) :
    ∃ q, IsGreatest {q | OpenAt nodes i q} q := by
  have hbound : BddAbove {q | OpenAt nodes i q} :=
    ⟨nodes.length, fun q hq => (Describes.openAt_lt hq).le⟩
  exact ⟨_, Nat.sSup_mem ⟨p, h⟩ hbound, fun q hq => le_csSup hbound hq⟩

end Nesting

namespace Outline

theorem describes_read (source : Text) : Nesting.Describes ((read source).lines.map classify)
    (Nesting.empty.run 0 ((read source).lines.map classify)) := Nesting.describes_run _

section Read

variable {source : Text}

theorem boundaries_read (source : Text) :
    (read source).boundaries = (read source).nodes.filter (·.opensBlock) := by
  have h := (describes_read source).boundaries
  change (read source).boundaryPositions = _ at h
  rw [boundaries, h]
  exact filterMap_positions _ _

theorem classified {i : Nat} {x : Line} (h : ((read source).lines.map classify)[i]? = some x) :
    ∃ l, (read source).lines[i]? = some l ∧ classify l = x := by
  rwa [List.getElem?_map, Option.map_eq_some_iff] at h

theorem closes_iff {i p : Nat} :
    (read source).Closes i p ↔ Nesting.ClosedAt (read source).nodes i p := by
  refine ⟨?_, ?_⟩
  · intro hcloses
    obtain ⟨b, hb, -, hc⟩ := hcloses
    exact ⟨b, hb, hc⟩
  · intro hclosed
    obtain ⟨b, hb, hc⟩ := hclosed
    obtain ⟨b', hb', ho, -⟩ := ((describes_read source).closed.1 ⟨b, hb, hc⟩).2.1
    cases hb.symm.trans hb'
    exact ⟨b, hb, ho, hc⟩

/-- A node stands on a line that ends no block. -/
theorem spans_iff {n : Node} (hn : n ∈ (read source).nodes) {p : Nat} :
    (read source).Spans n.line p ↔ Nesting.OpenAt (read source).nodes n.line p := by
  have h := describes_read source
  obtain ⟨q, hq⟩ := List.mem_iff_getElem?.1 hn
  obtain ⟨d, hd, -⟩ := h.declared hq
  refine ⟨?_, ?_⟩
  · intro hspans
    obtain ⟨b, hb, ho, hlt, hc⟩ := hspans
    exact ⟨b, hb, ho, hlt, fun c hbc => (hc c hbc).le⟩
  · intro hopen
    obtain ⟨b, hb, ho, hlt, hc⟩ := hopen
    refine ⟨b, hb, ho, hlt, fun c hbc => lt_of_le_of_ne (hc c hbc) ?_⟩
    rintro rfl
    have hend := (h.closed.1 ⟨b, hb, hbc⟩).1
    rw [hd] at hend
    cases hend

theorem stray_iff_read {i : Nat} {l : Text} (hl : (read source).lines[i]? = some l)
    (hb : classify l = .blockEnd) :
    i ∈ (read source).strayClosings ↔ ∀ p, ¬ Nesting.OpenAt (read source).nodes i p := by
  have hend : ((read source).lines.map classify)[i]? = some .blockEnd := by
    rw [List.getElem?_map, hl, Option.map_some, hb]
  exact (describes_read source).mem_stray.trans (and_iff_right hend)

theorem closed_iff_read {i p : Nat} {l : Text} (hl : (read source).lines[i]? = some l)
    (hb : classify l = .blockEnd) :
    Nesting.ClosedAt (read source).nodes i p ↔
      IsGreatest {q | Nesting.OpenAt (read source).nodes i q} p := by
  have hend : ((read source).lines.map classify)[i]? = some .blockEnd := by
    rw [List.getElem?_map, hl, Option.map_some, hb]
  exact (describes_read source).closed.trans (and_iff_right hend)

theorem not_openAt_iff {i : Nat} : (∀ p, ¬ Nesting.OpenAt (read source).nodes i p) ↔
    ∀ b ∈ (read source).boundaries, b.line < i → ∃ c, b.closingLine = some c ∧ c < i := by
  rw [boundaries_read]
  refine ⟨?_, ?_⟩
  · intro hnone b hb hlt
    obtain ⟨hmem, ho⟩ := List.mem_filter.1 hb
    obtain ⟨p, hp⟩ := List.mem_iff_getElem?.1 hmem
    by_contra hc
    refine hnone p ⟨b, hp, ho, hlt, fun c hbc => ?_⟩
    by_contra hci
    exact hc ⟨c, hbc, by omega⟩
  · rintro hall p ⟨b, hb, ho, hlt, hc⟩
    obtain ⟨c, hbc, hci⟩ := hall b (List.mem_filter.2 ⟨List.mem_of_getElem? hb, ho⟩) hlt
    have := hc c hbc
    omega

/-- A block that starts inside another one ends before it: the end of the outer block would
otherwise have closed the inner one. -/
theorem nested_read {b₁ b₂ : Node} (h₁ : b₁ ∈ (read source).nodes)
    (h₂ : b₂ ∈ (read source).boundaries) {c₁ : Nat}
    (hc₁ : b₁.closingLine = some c₁) (hlt : b₁.line < b₂.line) (hin : b₂.line < c₁) :
    ∃ c₂, b₂.closingLine = some c₂ ∧ c₂ < c₁ := by
  have h := describes_read source
  rw [boundaries_read] at h₂
  obtain ⟨p₁, hp₁⟩ := List.mem_iff_getElem?.1 h₁
  obtain ⟨hmem, ho⟩ := List.mem_filter.1 h₂
  obtain ⟨p₂, hp₂⟩ := List.mem_iff_getElem?.1 hmem
  by_contra hc
  have hopen : Nesting.OpenAt (read source).nodes c₁ p₂ := by
    refine ⟨b₂, hp₂, ho, hin, fun c hbc => ?_⟩
    by_contra hci
    exact hc ⟨c, hbc, by omega⟩
  have hle : p₂ ≤ p₁ := (h.closed.1 ⟨b₁, hp₁, hc₁⟩).2.2 hopen
  rcases hle.lt_or_eq with hle | rfl
  · have := h.line_lt_line hp₂ hp₁ hle
    omega
  · cases hp₁.symm.trans hp₂
    omega

theorem closing_brace_read {b : Node} (hb : b ∈ (read source).nodes) {c : Nat}
    (hc : b.closingLine = some c) :
    b.line < c ∧ ∃ l, (read source).lines[c]? = some l ∧ l.trim = ['}'] := by
  obtain ⟨p, hp⟩ := List.mem_iff_getElem?.1 hb
  obtain ⟨hend, ⟨b', hb', -, hlt, -⟩, -⟩ := (describes_read source).closed.1 ⟨b, hp, hc⟩
  cases hp.symm.trans hb'
  obtain ⟨l, hl, hcl⟩ := classified hend
  exact ⟨hlt, l, hl, trim_of_isBlockEnd hcl⟩

theorem closes_or_stray_read {i : Nat} {l : Text} (hl : (read source).lines[i]? = some l)
    (hb : classify l = .blockEnd) :
    (∃! p, (read source).Closes i p) ∧ i ∉ (read source).strayClosings ∨
      (∀ p, ¬ (read source).Closes i p) ∧ i ∈ (read source).strayClosings := by
  rw [stray_iff_read hl hb]
  simp only [closes_iff, closed_iff_read hl hb]
  by_cases hopen : ∃ p, Nesting.OpenAt (read source).nodes i p
  · left
    obtain ⟨p, hp⟩ := hopen
    obtain ⟨q, hq⟩ := Nesting.exists_greatest_open hp
    exact ⟨⟨q, hq, fun r hr => hr.unique hq⟩, fun hnone => hnone p hp⟩
  · right
    rw [not_exists] at hopen
    exact ⟨fun p hp => hopen p hp.1, hopen⟩

theorem parent_greatest_read {n : Node} (hn : n ∈ (read source).nodes) (p : Nat) :
    n.parentPosition = some p ↔ IsGreatest {q | (read source).Spans n.line q} p := by
  obtain ⟨q, hq⟩ := List.mem_iff_getElem?.1 hn
  simp only [spans_iff hn]
  exact (describes_read source).parents hq p

theorem parent_none_read {n : Node} (hn : n ∈ (read source).nodes) :
    n.parentPosition = none ↔ ∀ q, ¬ (read source).Spans n.line q := by
  refine ⟨?_, ?_⟩
  · intro hnone p hp
    obtain ⟨r, hr⟩ := Nesting.exists_greatest_open ((spans_iff hn).1 hp)
    simp only [← spans_iff hn] at hr
    have hparent := (parent_greatest_read hn r).2 hr
    rw [hnone] at hparent
    cases hparent
  · intro hall
    by_contra hsome
    obtain ⟨p, hp⟩ := Option.ne_none_iff_exists'.1 hsome
    exact hall p ((parent_greatest_read hn p).1 hp).1

end Read

/-- Every text, well-formed or not, has the outline that its braces give. -/
theorem braceNesting_read (source : Text) : (read source).BraceNesting source where
  lines_eq := rfl
  boundaries_eq := boundaries_read source
  lines_increasing := (describes_read source).ordered
  closing_brace := by
    intro b hb c hc
    rw [boundaries_read] at hb
    exact closing_brace_read (List.mem_filter.1 hb).1 hc
  closes_or_stray _ _ hl hb := closes_or_stray_read hl hb
  strays_increasing := (describes_read source).strayOrdered
  stray_iff := by
    intro i l hl hb
    rw [stray_iff_read hl hb, not_openAt_iff]
  nested := by
    intro b₁ h₁ b₂ h₂ c₁ hc₁ hlt hin
    rw [boundaries_read] at h₁
    exact nested_read (List.mem_filter.1 h₁).1 h₂ hc₁ hlt hin
  parent_greatest _ hn p := parent_greatest_read hn p
  parent_none _ hn := parent_none_read hn
  parent_alias := by
    intro n hn
    obtain ⟨q, hq⟩ := List.mem_iff_getElem?.1 hn
    exact (describes_read source).parentAlias hq

end Outline
end C4Diagram
