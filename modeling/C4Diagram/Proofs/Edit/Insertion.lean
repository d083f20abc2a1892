import C4Diagram.Edit.Placement
import C4Diagram.Proofs.Call.Shape
import C4Diagram.Proofs.Renaming
import C4Diagram.Proofs.Text.Lines

/-! What lines that are put in between do to an outline. The lines of the new text are the old
ones with the new ones among them, and if the new ones leave the open blocks as they are, the
old nodes keep all but their numbers. -/

namespace C4Diagram

/-! Lines. -/

theorem Text.lineFeed_not_mem_lines {t l : Text} (h : l ∈ t.lines) : '\n' ∉ l := by
  obtain ⟨raw, hraw, rfl⟩ := List.mem_map.1 h
  have hno := Text.lineFeed_not_mem hraw
  rcases raw.eq_withoutReturn with hr | hr
  · rwa [← hr]
  · exact fun hm => hno (by rw [hr]; exact List.mem_append_left _ hm)

theorem map_classify_lines (t : Text) : t.lines.map classify = t.rawLines.map classify := by
  unfold Text.lines
  rw [List.map_map]
  exact List.map_congr_left fun l _ => classify_withoutReturn l

namespace Placement

section

variable {ls block : List Text} {index : Nat}

theorem take_inserted (h : index ≤ ls.length) :
    (ls.take index ++ block ++ ls.drop index).take index = ls.take index := by
  rw [List.append_assoc, List.take_append_of_le_length (List.length_take_of_le h).ge, List.take_take,
    Nat.min_self]

theorem drop_inserted (h : index ≤ ls.length) :
    (ls.take index ++ block ++ ls.drop index).drop (index + block.length) = ls.drop index :=
  List.drop_left' (by rw [List.length_append, List.length_take_of_le h])

end

theorem rawLines_splice (t : Text) {inserted : List Text} {index : Nat}
    (hi : ∀ l ∈ inserted, '\n' ∉ l) (hne : inserted ≠ []) :
    (splice t.lines index inserted).rawLines =
      t.lines.take index ++ inserted ++ t.lines.drop index := by
  refine Text.rawLines_joinLines (fun l hm => ?_) (by simp [hne])
  rcases List.mem_append.1 hm with hm | hm
  · rcases List.mem_append.1 hm with hm | hm
    · exact Text.lineFeed_not_mem_lines (List.mem_of_mem_take hm)
    · exact hi l hm
  · exact Text.lineFeed_not_mem_lines (List.mem_of_mem_drop hm)

/-- What the lines of a text mean after others were put between them. -/
theorem map_classify_splice (t : Text) {inserted : List Text} (index : Nat)
    (hi : ∀ l ∈ inserted, '\n' ∉ l) (hne : inserted ≠ []) :
    (splice t.lines index inserted).lines.map classify =
      (t.lines.map classify).take index ++ inserted.map classify ++
        (t.lines.map classify).drop index := by
  rw [map_classify_lines, rawLines_splice t hi hne, List.map_append, List.map_append,
    List.map_take, List.map_drop]

end Placement

namespace Nesting

/-! Lines that only add nodes. -/

theorem run_splice (ls block : List Line) {index : Nat} (hi : index ≤ ls.length) :
    empty.run 0 (ls.take index ++ block ++ ls.drop index) =
      ((empty.run 0 (ls.take index)).run index block).run (index + block.length)
        (ls.drop index) := by
  have hlen : (ls.take index).length = index := by rw [List.length_take, Nat.min_eq_left hi]
  rw [run_append, run_append, List.length_append, hlen, Nat.zero_add, Nat.zero_add]

theorem renamed_splice {ls block : List Line} {index : Nat} {extra : List Node}
    (hi : index ≤ ls.length)
    (ha : Adds extra (empty.run 0 (ls.take index))
      ((empty.run 0 (ls.take index)).run index block)) :
    Renamed (shiftFrom index block.length)
      (shiftFrom (empty.run 0 (ls.take index)).nodes.length extra.length)
      (empty.run 0 ls) (empty.run 0 (ls.take index ++ block ++ ls.drop index)) := by
  have hlen : (ls.take index).length = index := by rw [List.length_take, Nat.min_eq_left hi]
  have hold : empty.run 0 ls = (empty.run 0 (ls.take index)).run index (ls.drop index) := by
    conv_lhs => rw [← List.take_append_drop index ls, run_append, hlen, Nat.zero_add]
  have hstart := ha.renamed (describes_run (ls.take index)) block.length
  rw [hlen] at hstart
  rw [run_splice ls block hi, hold]
  refine hstart.run (shiftFrom_injective _ _) (fun k => ?_) _
  rw [shiftFrom_of_le (Nat.le_add_right _ _)]
  omega

/-! A call that declares an element, and the end of its block if it opens one. -/

def blockOf (c : Call) : List Line := .call c :: if c.opensBlock then [.blockEnd] else []

def blockNode (s : Nesting) (i : Nat) (c : Call) : Node :=
  { s.nodeOf i c with closingLine := if c.opensBlock then some (i + 1) else none }

theorem modify_concat {α : Type} (xs : List α) (x : α) (f : α → α) :
    (xs ++ [x]).modify xs.length f = xs ++ [f x] := by
  induction xs with
  | nil => rfl
  | cons y xs ih =>
    rw [List.cons_append, List.length_cons, List.modify_succ_cons, ih, List.cons_append]

theorem adds_blockOf (s : Nesting) (i : Nat) {c : Call} (hc : c.isRelation = false) :
    Adds [s.blockNode i c] s (s.run i (blockOf c)) := by
  have hdeclare : s.step i (.call c) = s.declare i c := by rw [step, hc, if_neg Bool.false_ne_true]
  unfold blockOf blockNode
  cases ho : c.opensBlock with
  | false =>
    rw [if_neg Bool.false_ne_true, if_neg Bool.false_ne_true, run, run, hdeclare]
    refine ⟨nodes_declare s i c, rfl, ?_⟩
    rw [openPositions_declare, ho, if_neg Bool.false_ne_true]
  | true =>
    have hopen : (s.declare i c).openPositions = s.nodes.length :: s.openPositions := by
      rw [openPositions_declare, ho, if_pos rfl]
    rw [if_pos rfl, if_pos rfl, run, run, run, hdeclare, step, close_of_cons hopen]
    refine ⟨?_, rfl, rfl⟩
    show (s.declare i c).nodes.modify s.nodes.length _ = _
    rw [nodes_declare, modify_concat]

/-- A block put in between adds its node, and the other nodes are renamed. -/
theorem nodes_insert {ls : List Line} {index : Nat} (hi : index ≤ ls.length) {c : Call}
    (hc : c.isRelation = false) :
    let above := empty.run 0 (ls.take index)
    let line := shiftFrom index (blockOf c).length
    let position := shiftFrom above.nodes.length 1
    above.nodes.length ≤ (empty.run 0 ls).nodes.length ∧
      (empty.run 0 (ls.take index ++ blockOf c ++ ls.drop index)).nodes =
        ((empty.run 0 ls).nodes.map (Node.renamed line position)).insertIdx above.nodes.length
          (above.blockNode index c) ∧
      (empty.run 0 (ls.take index ++ blockOf c ++ ls.drop index)).strayClosings =
        (empty.run 0 ls).strayClosings.map line := by
  intro above line position
  have ha := adds_blockOf above index hc
  have hr := renamed_splice hi ha
  refine ⟨hr.le_length Nat.one_pos, hr.nodes_eq ?_, hr.strayClosings⟩
  rw [run_splice ls _ hi]
  refine getElem?_run ?_ ?_ _ _
  · rw [ha.nodes, List.getElem?_concat_length]
  · rw [ha.openPositions]
    exact fun hp => Nat.lt_irrefl _ ((describes_run (ls.take index)).open_lt hp)

end Nesting
end C4Diagram
