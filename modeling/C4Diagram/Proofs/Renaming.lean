import C4Diagram.Proofs.Nesting

/-! Lines that are put in between leave the nesting of the others as it was. Two runs that are
in the same state up to line numbers and node positions stay so while they read the same lines,
and the node of a block that is closed again changes no more. -/

namespace C4Diagram

/-- Where an index ends up when `width` places are put in at `start`. -/
def shiftFrom (start width i : Nat) : Nat := if i < start then i else i + width

def Node.renamed (line position : Nat → Nat) (n : Node) : Node :=
  { n with
    parentPosition := n.parentPosition.map position
    line := line n.line
    closingLine := n.closingLine.map line }

theorem shiftFrom_of_lt {start width i : Nat} (h : i < start) : shiftFrom start width i = i :=
  if_pos h

theorem shiftFrom_of_le {start width i : Nat} (h : start ≤ i) :
    shiftFrom start width i = i + width :=
  if_neg (Nat.not_lt.2 h)

theorem shiftFrom_zero (start : Nat) : shiftFrom start 0 = id := by
  funext i
  unfold shiftFrom
  split <;> rfl

theorem shiftFrom_strictMono (start width : Nat) : StrictMono (shiftFrom start width) := by
  intro i j h
  unfold shiftFrom
  split <;> split <;> omega

theorem shiftFrom_injective (start width : Nat) : Function.Injective (shiftFrom start width) :=
  (shiftFrom_strictMono start width).injective

namespace Nesting

/-- The state `s'` is `s` with its lines and positions renamed. It may have more nodes than `s`,
but it will declare the next ones at the positions that follow. -/
structure Renamed (line position : Nat → Nat) (s s' : Nesting) : Prop where
  node : ∀ p, s'.nodes[position p]? = (s.nodes[p]?).map (Node.renamed line position)
  next : ∀ k, position (s.nodes.length + k) = s'.nodes.length + k
  strayClosings : s'.strayClosings = s.strayClosings.map line
  openPositions : s'.openPositions = s.openPositions.map position

theorem close_of_nil {s : Nesting} (h : s.openPositions = []) (i : Nat) :
    s.close i = { s with strayClosings := s.strayClosings ++ [i] } := by
  unfold close
  rw [h]

theorem close_of_cons {s : Nesting} {q : Nat} {rest : List Nat} (h : s.openPositions = q :: rest)
    (i : Nat) :
    s.close i =
      { s with
        nodes := s.nodes.modify q fun n => { n with closingLine := some i }
        openPositions := rest } := by
  unfold close
  rw [h]

namespace Renamed

variable {line position : Nat → Nat} {s s' : Nesting} {i i' : Nat}

theorem position_lt (h : Renamed line position s s') {p : Nat} (hp : p < s.nodes.length) :
    position p < s'.nodes.length := by
  have hnode := h.node p
  rw [List.getElem?_eq_getElem hp, Option.map_some] at hnode
  exact (List.getElem?_eq_some_iff.1 hnode).1

theorem nodeOf (h : Renamed line position s s') (hi : line i = i') (c : Call) :
    s'.nodeOf i' c = (s.nodeOf i c).renamed line position := by
  have hparent : (s'.openPositions.head?.bind (s'.nodes[·]?)).map Node.aliasName =
      (s.openPositions.head?.bind (s.nodes[·]?)).map Node.aliasName := by
    rw [h.openPositions, List.head?_map]
    cases s.openPositions.head? with
    | none => rfl
    | some q =>
      rw [Option.map_some, Option.bind_some, Option.bind_some, h.node, Option.map_map]
      rfl
  unfold Nesting.nodeOf Node.renamed
  rw [hparent, h.openPositions, List.head?_map, hi]
  rfl

theorem declare (h : Renamed line position s s') (hi : line i = i') (c : Call) :
    Renamed line position (s.declare i c) (s'.declare i' c) where
  node p := by
    rw [nodes_declare, nodes_declare, h.nodeOf hi]
    rcases Nat.lt_trichotomy p s.nodes.length with hp | rfl | hp
    · rw [List.getElem?_append_left (h.position_lt hp), List.getElem?_append_left hp, h.node]
    · rw [← Nat.add_zero s.nodes.length, h.next, Nat.add_zero, Nat.add_zero,
        List.getElem?_concat_length, List.getElem?_concat_length]
      rfl
    · obtain ⟨k, rfl⟩ := Nat.exists_eq_add_of_lt hp
      rw [Nat.add_assoc, h.next, List.getElem?_eq_none (by simp), List.getElem?_eq_none (by simp)]
      rfl
  next k := by
    have hnext := h.next (1 + k)
    rw [nodes_declare, nodes_declare, List.length_append, List.length_append, List.length_singleton,
      List.length_singleton, Nat.add_assoc, Nat.add_assoc, hnext]
  strayClosings := h.strayClosings
  openPositions := by
    have hnext := h.next 0
    rw [Nat.add_zero, Nat.add_zero] at hnext
    rw [openPositions_declare, openPositions_declare, h.openPositions, ← hnext]
    split <;> rfl

theorem close (h : Renamed line position s s') (hinj : Function.Injective position)
    (hi : line i = i') : Renamed line position (s.close i) (s'.close i') := by
  have hopen := h.openPositions
  cases hs : s.openPositions with
  | nil =>
    rw [hs, List.map_nil] at hopen
    rw [close_of_nil hs, close_of_nil hopen]
    refine ⟨h.node, h.next, ?_, h.openPositions⟩
    change s'.strayClosings ++ [i'] = (s.strayClosings ++ [i]).map line
    rw [h.strayClosings, List.map_append, ← hi]
    rfl
  | cons q rest =>
    rw [hs, List.map_cons] at hopen
    rw [close_of_cons hs, close_of_cons hopen]
    refine ⟨fun p => ?_, fun k => ?_, h.strayClosings, rfl⟩
    · simp only [List.getElem?_modify, h.node, hinj.eq_iff]
      cases s.nodes[p]? with
      | none => rfl
      | some n => split <;> simp [Node.renamed, hi]
    · simp only [List.length_modify]
      exact h.next k

/-- What one line does to two states that differ in names only. -/
theorem step (h : Renamed line position s s') (hinj : Function.Injective position)
    (hi : line i = i') (l : Line) : Renamed line position (s.step i l) (s'.step i' l) := by
  cases l with
  | call c =>
    rw [Nesting.step, Nesting.step]
    split
    · exact h
    · exact h.declare hi c
  | blockEnd => exact h.close hinj hi
  | directive => exact h
  | text => exact h

theorem run (h : Renamed line position s s') (hinj : Function.Injective position)
    (hi : ∀ k, line (i + k) = i' + k) (ls : List Line) :
    Renamed line position (s.run i ls) (s'.run i' ls) := by
  -- both runs read the next line at the next number, so the renaming of line numbers stays the same
  induction ls generalizing s s' i i' with
  | nil => exact h
  | cons l ls ih =>
    refine ih (h.step hinj (hi 0) l) fun k => ?_
    rw [Nat.add_assoc, hi, Nat.add_assoc]

end Renamed

structure Adds (extra : List Node) (s s' : Nesting) : Prop where
  nodes : s'.nodes = s.nodes ++ extra
  strayClosings : s'.strayClosings = s.strayClosings
  openPositions : s'.openPositions = s.openPositions

/-- Lines that only add nodes rename everything that comes after them. -/
theorem Adds.renamed {ls : List Line} {s s' : Nesting} {extra : List Node} (ha : Adds extra s s')
    (h : Describes ls s) (width : Nat) :
    Renamed (shiftFrom ls.length width) (shiftFrom s.nodes.length extra.length) s s' where
  node p := by
    rw [ha.nodes]
    rcases Nat.lt_or_ge p s.nodes.length with hp | hp
    · rw [shiftFrom_of_lt hp, List.getElem?_append_left hp, List.getElem?_eq_getElem hp,
        Option.map_some]
      have hn := List.getElem?_eq_getElem hp
      set n := s.nodes[p]
      have hparent : n.parentPosition.map (shiftFrom s.nodes.length extra.length) =
          n.parentPosition := by
        cases hq : n.parentPosition with
        | none => rfl
        | some q => rw [Option.map_some, shiftFrom_of_lt (h.parent_lt hn hq)]
      have hclosing : n.closingLine.map (shiftFrom ls.length width) = n.closingLine := by
        cases hc : n.closingLine with
        | none => rfl
        | some c => rw [Option.map_some, shiftFrom_of_lt (h.closing_lt ⟨n, hn, hc⟩)]
      unfold Node.renamed
      rw [hparent, hclosing, shiftFrom_of_lt (h.line_lt hn)]
    · rw [shiftFrom_of_le hp, List.getElem?_eq_none (by simp; omega), List.getElem?_eq_none hp]
      rfl
  next k := by
    rw [shiftFrom_of_le (Nat.le_add_right _ _), ha.nodes, List.length_append]
    omega
  strayClosings := by
    rw [ha.strayClosings]
    conv_lhs => rw [← List.map_id s.strayClosings]
    exact List.map_congr_left fun i hi => (shiftFrom_of_lt (h.stray_lt hi)).symm
  openPositions := by
    rw [ha.openPositions]
    conv_lhs => rw [← List.map_id s.openPositions]
    exact List.map_congr_left fun q hq => (shiftFrom_of_lt (h.open_lt hq)).symm

/-- Where no position changes, the nodes are the same but for their lines. -/
theorem Renamed.nodes_map {line : Nat → Nat} {s s' : Nesting} (h : Renamed line id s s') :
    s'.nodes = s.nodes.map (Node.renamed line id) := by
  refine List.ext_getElem? fun p => ?_
  rw [List.getElem?_map]
  exact h.node p

/-- New positions come no later than where the old ones end. -/
theorem Renamed.le_length {line : Nat → Nat} {s s' : Nesting} {q width : Nat}
    (h : Renamed line (shiftFrom q width) s s') (hw : 0 < width) : q ≤ s.nodes.length := by
  by_contra hq
  have h0 := h.next 0
  have h1 := h.next (q - s.nodes.length)
  rw [Nat.add_zero, Nat.add_zero, shiftFrom_of_lt (by omega)] at h0
  rw [shiftFrom_of_le (by omega)] at h1
  omega

/-- A single new position holds a node that is put in between the others. -/
theorem Renamed.nodes_eq {line : Nat → Nat} {s s' : Nesting} {q : Nat} {n : Node}
    (h : Renamed line (shiftFrom q 1) s s') (hn : s'.nodes[q]? = some n) :
    s'.nodes = (s.nodes.map (Node.renamed line (shiftFrom q 1))).insertIdx q n := by
  have hq := h.le_length Nat.one_pos
  refine List.ext_getElem? fun p => ?_
  rw [List.getElem?_insertIdx, List.getElem?_map, List.length_map, List.getElem?_map]
  rcases Nat.lt_trichotomy p q with hp | rfl | hp
  · rw [if_pos hp, ← h.node, shiftFrom_of_lt hp]
  · rw [if_neg (Nat.lt_irrefl _), if_pos rfl, if_pos hq, hn]
  · have hpred : shiftFrom q 1 (p - 1) = p := by
      rw [shiftFrom_of_le (by omega)]
      omega
    rw [if_neg (by omega), if_neg (by omega), ← h.node, hpred]

/-- A node changes only while its block is open. -/
theorem getElem?_step {s : Nesting} {p : Nat} {n : Node} (hn : s.nodes[p]? = some n)
    (hp : p ∉ s.openPositions)
    (i : Nat) (l : Line) : (s.step i l).nodes[p]? = some n ∧ p ∉ (s.step i l).openPositions := by
  have hlt := (List.getElem?_eq_some_iff.1 hn).1
  cases l with
  | call c =>
    rw [Nesting.step]
    split
    · exact ⟨hn, hp⟩
    · refine ⟨?_, ?_⟩
      · rw [nodes_declare, List.getElem?_append_left hlt, hn]
      · rw [openPositions_declare]
        split
        · rw [List.mem_cons, not_or]
          exact ⟨hlt.ne, hp⟩
        · exact hp
  | blockEnd =>
    rw [Nesting.step]
    cases hs : s.openPositions with
    | nil =>
      rw [close_of_nil hs]
      exact ⟨hn, hp⟩
    | cons q rest =>
      rw [hs, List.mem_cons, not_or] at hp
      rw [close_of_cons hs]
      refine ⟨?_, hp.2⟩
      simp only [List.getElem?_modify, if_neg (Ne.symm hp.1), hn]
      rfl
  | directive => exact ⟨hn, hp⟩
  | text => exact ⟨hn, hp⟩

theorem getElem?_run {s : Nesting} {p : Nat} {n : Node} (hn : s.nodes[p]? = some n)
    (hp : p ∉ s.openPositions) (i : Nat) (ls : List Line) : (s.run i ls).nodes[p]? = some n := by
  induction ls generalizing s i with
  | nil => exact hn
  | cons l ls ih =>
    obtain ⟨hn', hp'⟩ := getElem?_step hn hp i l
    exact ih hn' hp' (i + 1)

end Nesting
end C4Diagram
