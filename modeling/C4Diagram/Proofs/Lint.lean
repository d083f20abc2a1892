import C4Diagram.Proofs.Check

/-! The lint finds what is wrong and nothing else. What it looks at is left behind by one run over
the lines, so its findings are told here by the nodes and the lines alone; that as many blocks stay
open as the braces leave over is a balance that every line keeps. -/

namespace C4Diagram

/-! What there is to find. -/

namespace Outline

def unmatched (o : Outline) (source : Text) : List Nat :=
  (List.range source.lines.length).filter fun i =>
    (source.lines[i]?).any (fun l => classify l == .blockEnd) &&
      o.nodes.all fun n => n.closingLine != some i

/-- The nodes whose alias an earlier node has, each behind the first node that has it. -/
def redeclared (o : Outline) : List (Node × Node) :=
  o.nodes.zipIdx.filterMap fun c =>
    ((o.nodes.take c.2).find? (·.aliasName == c.1.aliasName)).map (·, c.1)

end Outline

/-- Starts a block that a block end has to close: relations start none. -/
def Line.opens : Line → Bool
  | .call c => !c.isRelation && c.opensBlock
  | .directive | .blockEnd | .text => false

/-! Open blocks. -/

namespace Nesting

end Nesting

namespace Outline

theorem unmatched_eq (source : Text) : (read source).strayClosings = (read source).unmatched source := by
  refine (describes_read source).strayOrdered.eq_of_mem_iff (List.pairwise_lt_range.filter _)
    fun i => ?_
  rw [unmatched, List.mem_filter, List.mem_range, Bool.and_eq_true, Option.any_eq_true,
    List.all_eq_true]
  constructor
  · intro hi
    obtain ⟨hend, -⟩ := (describes_read source).mem_stray.1 hi
    obtain ⟨l, hl, hclass⟩ := classified hend
    refine ⟨(List.getElem?_eq_some_iff.1 hl).1, ⟨l, hl, by simp [hclass]⟩, fun n hn => ?_⟩
    obtain ⟨p, hp⟩ := List.mem_iff_getElem?.1 hn
    rw [bne_iff_ne]
    intro hc
    rcases closes_or_stray_read hl hclass with ⟨-, hno⟩ | ⟨hno, -⟩
    · exact hno hi
    · exact hno p (closes_iff.2 ⟨n, hp, hc⟩)
  · rintro ⟨-, ⟨l, hl, hclass⟩, hno⟩
    rw [beq_iff_eq] at hclass
    rcases closes_or_stray_read hl hclass with ⟨⟨p, hp, -⟩, -⟩ | ⟨-, hi⟩
    · obtain ⟨n, hn, hc⟩ := closes_iff.1 hp
      have := hno n (List.mem_of_getElem? hn)
      rw [hc] at this
      simp at this
    · exact hi

/-! Aliases that are declared again. -/

/-- The lint sees an alias again iff it is that of a node before. -/
theorem repeats_eq (o : Outline) {seen : List (Text × Nat)} (before : List Node) {ns : List Node}
    (hseen : ∀ a, seen.find? (·.1 == a) =
      (before.find? (·.aliasName == a)).map fun n => (n.aliasName, n.line)) :
    Lint.repeats o seen ns =
      ((ns.zipIdx before.length).filterMap fun c =>
        (((before ++ ns).take c.2).find? (·.aliasName == c.1.aliasName)).map (·, c.1)).map
          fun d => Lint.declaredAgain o d.2.aliasName d.2.line d.1.line := by
  induction ns generalizing seen before with
  | nil => rfl
  | cons n ns ih =>
    rw [Lint.repeats, hseen, List.zipIdx_cons, List.filterMap_cons, List.take_left' rfl]
    have hnext : before ++ n :: ns = (before ++ [n]) ++ ns := List.append_cons ..
    have hlength : before.length + 1 = (before ++ [n]).length := by simp
    cases hfirst : before.find? (·.aliasName == n.aliasName) with
    | some first =>
      have hseen' : ∀ a, seen.find? (·.1 == a) =
          ((before ++ [n]).find? (·.aliasName == a)).map fun n => (n.aliasName, n.line) := by
        intro a
        rw [hseen, List.find?_append]
        by_cases ha : n.aliasName = a
        · rw [← ha, hfirst]
          rfl
        · simp [ha]
      rw [hnext, hlength]
      simp only [Option.map_some, List.map_cons]
      rw [ih _ hseen']
    | none =>
      have hseen' : ∀ a, (seen ++ [(n.aliasName, n.line)]).find? (·.1 == a) =
          ((before ++ [n]).find? (·.aliasName == a)).map fun n => (n.aliasName, n.line) := by
        intro a
        rw [List.find?_append, List.find?_append, hseen]
        by_cases ha : n.aliasName = a <;>
          cases before.find? (·.aliasName == a) <;> simp [ha]
      rw [hnext, hlength]
      simp only [Option.map_none]
      rw [ih _ hseen']

theorem lint_eq (source : Text) :
    let o := read source
    o.lint = o.unclosed.map (Lint.neverClosed o) ++ (o.unmatched source).map (Lint.closesNothing o) ++
      o.redeclared.map fun d => Lint.declaredAgain o d.2.aliasName d.2.line d.1.line := by
  intro o
  rw [lint, unclosed_eq, unmatched_eq, repeats_eq o [] fun _ => rfl]
  rfl

theorem mem_redeclared_iff {o : Outline} {first n : Node} :
    (first, n) ∈ o.redeclared ↔ ∃ p, o.nodes[p]? = some n ∧
      (o.nodes.take p).find? (·.aliasName == n.aliasName) = some first := by
  rw [redeclared, List.mem_filterMap]
  constructor
  · rintro ⟨⟨m, p⟩, hm, hfirst⟩
    obtain ⟨first', hfind, hpair⟩ := Option.map_eq_some_iff.1 hfirst
    cases hpair
    exact ⟨p, List.mem_zipIdx_iff_getElem?.1 hm, hfind⟩
  · rintro ⟨p, hp, hfind⟩
    exact ⟨(n, p), List.mem_zipIdx_iff_getElem?.2 hp, by rw [hfind]; rfl⟩

theorem check_eq_ok_or_error (o : Outline) : o.check = .ok o.lint ∨ o.check = .error o.lint := by
  unfold check Findings.verdict
  split
  · exact .inr rfl
  · exact .inl rfl

/-- All repetitions point to the first declaration. -/
example :
    let source : Text := "System(a, \"1\")\nSystem(a, \"2\")\n\x7d\nSystem(a, \"3\") \x7b".toList
    let o := read source
    o.redeclared.map (fun d => (d.1.line, d.2.line)) = [(0, 1), (0, 3)] ∧ o.unmatched source = [2] ∧
      o.unclosed.map Node.line = [3] := by
  decide +kernel

end Outline
end C4Diagram
