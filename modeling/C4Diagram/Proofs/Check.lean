import C4Diagram.Lint
import C4Diagram.Proofs.BraceNesting

/-! When the check passes: every block that was opened is closed, and the lines declare no alias
twice. The aliases are read off the lines in order, so an edit changes them where it changes the
lines. -/

namespace C4Diagram

def Line.declared? : Line → Option Text
  | .call c => if c.isRelation then none else some c.aliasName
  | .directive | .blockEnd | .text => none

namespace Text

def classes (source : Text) : List Line := source.lines.map classify

def declared (source : Text) : List Text := source.classes.filterMap Line.declared?

def nesting (source : Text) : Nesting := Nesting.empty.run 0 source.classes

end Text

namespace Nesting

theorem aliasNames_step (s : Nesting) (i : Nat) (l : Line) :
    (s.step i l).nodes.map Node.aliasName = s.nodes.map Node.aliasName ++ l.declared?.toList := by
  cases l with
  | call c =>
    rw [step, Line.declared?]
    split
    · simp
    · rw [nodes_declare, List.map_append]
      rfl
  | blockEnd =>
    rw [step, close, Line.declared?]
    split
    · rw [Describes.map_ended Node.aliasName fun _ => rfl]
      simp
    · simp
  | directive => simp [step, Line.declared?]
  | text => simp [step, Line.declared?]

theorem aliasNames_run (s : Nesting) (i : Nat) (ls : List Line) :
    (s.run i ls).nodes.map Node.aliasName =
      s.nodes.map Node.aliasName ++ ls.filterMap Line.declared? := by
  induction ls generalizing s i with
  | nil => simp [run]
  | cons l ls ih =>
    rw [run, ih, aliasNames_step, List.append_assoc, List.filterMap_cons]
    cases l.declared? <;> rfl

def withAlias (aliases : List Text) (a : Text) : List Text :=
  if aliases.contains a then aliases else aliases ++ [a]

theorem mem_withAlias {aliases : List Text} {a b : Text} :
    b ∈ withAlias aliases a ↔ b ∈ aliases ∨ b = a := by
  unfold withAlias
  simp only [List.contains_iff_mem]
  split
  · next ha => exact ⟨.inl, fun h => h.elim id fun h => h ▸ ha⟩
  · rw [List.mem_append, List.mem_singleton]

theorem mem_foldl_withAlias {declared aliases : List Text} {a : Text} :
    a ∈ declared.foldl withAlias aliases ↔ a ∈ aliases ∨ a ∈ declared := by
  induction declared generalizing aliases with
  | nil => simp
  | cons b declared ih => rw [List.foldl_cons, ih, mem_withAlias, or_assoc, List.mem_cons]

theorem aliases_step (s : Nesting) (i : Nat) (l : Line) :
    (s.step i l).aliases = l.declared?.toList.foldl withAlias s.aliases := by
  cases l with
  | call c =>
    rw [step, Line.declared?]
    split <;> rfl
  | blockEnd =>
    rw [step, close]
    split <;> rfl
  | directive => rfl
  | text => rfl

theorem aliases_run (s : Nesting) (i : Nat) (ls : List Line) :
    (s.run i ls).aliases = (ls.filterMap Line.declared?).foldl withAlias s.aliases := by
  induction ls generalizing s i with
  | nil => rfl
  | cons l ls ih =>
    rw [run, ih, aliases_step, ← List.foldl_append, List.filterMap_cons]
    cases l.declared? <;> rfl

end Nesting

namespace Outline

theorem aliasNames_read (source : Text) :
    (read source).nodes.map Node.aliasName = source.declared :=
  Nesting.aliasNames_run Nesting.empty 0 source.classes

theorem aliases_read (source : Text) :
    (read source).aliases = source.declared.foldl Nesting.withAlias [] :=
  Nesting.aliases_run Nesting.empty 0 source.classes

theorem containsAlias_read {source a : Text} :
    (read source).containsAlias a = true ↔ a ∈ source.declared := by
  rw [containsAlias, List.contains_iff_mem, aliases_read, Nesting.mem_foldl_withAlias]
  exact or_iff_right List.not_mem_nil

/-- Nothing is found as long as no alias was seen before. -/
theorem repeats_eq_nil_iff (o : Outline) (seen : List (Text × Nat)) (ns : List Node) :
    Lint.repeats o seen ns = [] ↔
      (ns.map Node.aliasName).Nodup ∧ ∀ n ∈ ns, n.aliasName ∉ seen.map Prod.fst := by
  induction ns generalizing seen with
  | nil => simp [Lint.repeats]
  | cons n ns ih =>
    rw [Lint.repeats, List.map_cons, List.nodup_cons, List.forall_mem_cons]
    cases hseen : seen.find? (·.1 == n.aliasName) with
    | some first =>
      have hmem : n.aliasName ∈ seen.map Prod.fst := by
        have hkey : first.1 = n.aliasName := by simpa using List.find?_some hseen
        exact List.mem_map.2 ⟨first, List.mem_of_find?_eq_some hseen, hkey⟩
      exact iff_of_false (by simp) fun h => h.2.1 hmem
    | none =>
      have hnew : n.aliasName ∉ seen.map Prod.fst := by
        rw [List.mem_map]
        rintro ⟨entry, hentry, hkey⟩
        have := List.find?_eq_none.1 hseen entry hentry
        simp [hkey] at this
      simp only [ih, List.map_append, List.map_cons, List.map_nil, List.mem_append,
        List.mem_singleton, not_or]
      refine ⟨?_, ?_⟩
      · intro hfresh
        obtain ⟨hnodup, hall⟩ := hfresh
        refine ⟨⟨fun hmem => ?_, hnodup⟩, hnew, fun m hm => (hall m hm).1⟩
        obtain ⟨m, hm, he⟩ := List.mem_map.1 hmem
        exact (hall m hm).2 he
      · intro hfresh
        obtain ⟨⟨hnot, hnodup⟩, -, hall⟩ := hfresh
        exact ⟨hnodup, fun m hm => ⟨hall m hm, fun he => hnot (he ▸ List.mem_map_of_mem hm)⟩⟩

theorem isError_repeats (o : Outline) {seen : List (Text × Nat)} {ns : List Node} :
    ∀ f ∈ Lint.repeats o seen ns, f.isError = true := by
  induction ns generalizing seen with
  | nil => simp [Lint.repeats]
  | cons n ns ih =>
    rw [Lint.repeats]
    split
    · rw [List.forall_mem_cons]
      exact ⟨rfl, ih⟩
    · exact ih

def unclosed (o : Outline) : List Node :=
  o.nodes.filter fun n => n.opensBlock && n.closingLine.isNone

/-- The positions that are left open are those of the unclosed boundaries. -/
theorem length_unclosed (source : Text) :
    (read source).unclosed.length = source.nesting.openPositions.length := by
  have h := describes_read source
  let nodes := (read source).nodes
  let positions := (List.range nodes.length).filter fun p =>
    (nodes[p]?).any fun n => n.opensBlock && n.closingLine.isNone
  have hpicked : positions.filterMap (nodes[·]?) = (read source).unclosed := filterMap_positions _ _
  have hall : ∀ p ∈ positions, (nodes[p]?).isSome = true := by
    intro p hp
    rw [List.getElem?_eq_getElem (List.mem_range.1 (List.mem_filter.1 hp).1)]
    rfl
  have hopen : source.nesting.openPositions.reverse = positions := by
    refine (List.pairwise_reverse.2 h.openOrdered).eq_of_mem_iff
      (List.pairwise_lt_range.filter _) fun p => ?_
    rw [List.mem_reverse]
    refine h.mem_open.trans ((h.openAt_iff le_rfl).trans ?_)
    rw [List.mem_filter, List.mem_range, Option.any_eq_true]
    constructor
    · rintro ⟨b, hb, ho, hc⟩
      exact ⟨(List.getElem?_eq_some_iff.1 hb).1, b, hb, by simp [ho, hc]⟩
    · rintro ⟨-, b, hb, ho⟩
      simp only [Bool.and_eq_true, Option.isNone_iff_eq_none] at ho
      exact ⟨b, hb, ho⟩
  rw [← hpicked, List.filterMap_length_eq_length.2 hall, ← hopen, List.length_reverse]

theorem unclosed_eq (source : Text) :
    (read source).boundaries.filter (fun b => b.closingLine.isNone) = (read source).unclosed := by
  rw [boundaries_read, List.filter_filter]
  exact List.filter_congr fun n _ => Bool.and_comm _ _

/-- No block is open at the end iff every boundary has the line that closes it. -/
theorem openPositions_eq_nil_iff (source : Text) :
    source.nesting.openPositions = [] ↔
      (read source).boundaries.filter (fun b => b.closingLine.isNone) = [] := by
  rw [unclosed_eq, ← List.length_eq_zero_iff, ← List.length_eq_zero_iff, length_unclosed]

/-- The check passes iff all blocks are closed and all aliases differ. It warns of the stray
block ends. -/
theorem check_eq_ok_iff {source : Text} {warnings : List Finding} :
    (read source).check = .ok warnings ↔ source.nesting.openPositions = [] ∧ source.declared.Nodup ∧
      warnings = source.nesting.strayClosings.map (Lint.closesNothing (read source)) := by
  have hunclosed := openPositions_eq_nil_iff source
  have hrepeats := repeats_eq_nil_iff (read source) [] (read source).nodes
  rw [aliasNames_read] at hrepeats
  unfold check
  rw [Findings.verdict_eq_ok_iff, hunclosed]
  unfold lint
  refine ⟨?_, ?_⟩
  · intro hclean
    obtain ⟨rfl, hall⟩ := hclean
    have hno : (read source).boundaries.filter (fun b => b.closingLine.isNone) = [] := by
      refine List.eq_nil_iff_forall_not_mem.2 fun b hb => ?_
      have := hall (Lint.neverClosed (read source) b)
        (by simp only [List.mem_append, List.mem_map]; exact .inl (.inl ⟨b, hb, rfl⟩))
      cases this
    have hdistinct : Lint.repeats (read source) [] (read source).nodes = [] := by
      refine List.eq_nil_iff_forall_not_mem.2 fun f hf => ?_
      have := hall f (List.mem_append_right _ hf)
      rw [isError_repeats _ f hf] at this
      cases this
    refine ⟨hno, (hrepeats.1 hdistinct).1, ?_⟩
    rw [hno, hdistinct, List.append_nil]
    rfl
  · intro hclean
    obtain ⟨hno, hdistinct, rfl⟩ := hclean
    rw [hno, hrepeats.2 ⟨hdistinct, fun n _ => List.not_mem_nil⟩, List.append_nil]
    refine ⟨rfl, fun f hf => ?_⟩
    obtain ⟨i, -, rfl⟩ := List.mem_map.1 hf
    rfl

end Outline
end C4Diagram
