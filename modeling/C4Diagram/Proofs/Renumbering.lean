import C4Diagram.Proofs.BraceNesting
import C4Diagram.Proofs.Renaming
import Mathlib.Order.Monotone.Basic

/-! Directives say nothing to an outline. Two texts that have the same lines up to directives have
the same nodes under the same boundaries, and the numbers of their lines follow each other. -/

namespace C4Diagram

namespace Text

def structuralLines (t : Text) : List (Text × Nat) :=
  t.lines.zipIdx.filter fun p => !isDirective p.1

def structuralNumbers (t : Text) : Set Nat :=
  {i | ∃ l, t.lines[i]? = some l ∧ isDirective l = false}

theorem mem_structuralLines_iff {t l : Text} {i : Nat} :
    (l, i) ∈ t.structuralLines ↔ t.lines[i]? = some l ∧ isDirective l = false := by
  rw [structuralLines, List.mem_filter, List.mk_mem_zipIdx_iff_getElem?, Bool.not_eq_true']

theorem map_fst_structuralLines (t : Text) :
    t.structuralLines.map Prod.fst = t.lines.filter fun l => !isDirective l := by
  conv_rhs => rw [← List.zipIdx_map_fst 0 t.lines, List.filter_map]
  rfl

theorem structuralLines_ordered (t : Text) :
    (t.structuralLines.map Prod.snd).Pairwise (· < ·) := by
  have hall : (t.lines.zipIdx.map Prod.snd).Pairwise (· < ·) := by
    rw [List.zipIdx_map_snd]
    exact List.pairwise_lt_range'
  rw [List.pairwise_map] at hall ⊢
  exact hall.filter _

/-- Two rising lists of one length are matched by a map that keeps the order. -/
theorem exists_strictMonoOn_map {xs ys : List Nat} (hx : xs.Pairwise (· < ·))
    (hy : ys.Pairwise (· < ·)) (hlen : xs.length = ys.length) :
    ∃ f : Nat → Nat, StrictMonoOn f {i | i ∈ xs} ∧ ys = xs.map f := by
  have hnodup : xs.Nodup := hx.imp Nat.ne_of_lt
  let f (i : Nat) : Nat := ys.getD (xs.idxOf i) 0
  have hf (k : Nat) (hk : k < xs.length) : f xs[k] = ys[k] := by
    show ys.getD (xs.idxOf xs[k]) 0 = _
    rw [hnodup.idxOf_getElem k hk, List.getD_eq_getElem?_getD, List.getElem?_eq_getElem (hlen ▸ hk),
      Option.getD_some]
  refine ⟨f, fun i hi j hj hij => ?_, List.ext_getElem (by simp [hlen]) fun k hk hk' => ?_⟩
  · obtain ⟨k, hk, rfl⟩ := List.mem_iff_getElem.1 hi
    obtain ⟨m, hm, rfl⟩ := List.mem_iff_getElem.1 hj
    have hkm : k < m := by
      by_contra hmk
      rcases (Nat.not_lt.1 hmk).eq_or_lt with rfl | hlt
      · exact Nat.lt_irrefl _ hij
      · exact Nat.lt_asymm hij (List.pairwise_iff_getElem.1 hx m k hm hk hlt)
    rw [hf k hk, hf m hm]
    exact List.pairwise_iff_getElem.1 hy k m _ _ hkm
  · rw [List.getElem_map, hf k (by rwa [List.length_map] at hk')]

/-- Lines that follow in the same order are renumbered by a map that keeps the order. -/
theorem exists_renumbering {s t : Text}
    (h : (s.lines.filter fun l => !isDirective l) = t.lines.filter fun l => !isDirective l) :
    ∃ f : Nat → Nat, StrictMonoOn f s.structuralNumbers ∧
      t.structuralLines = s.structuralLines.map fun p => (p.1, f p.2) := by
  rw [← map_fst_structuralLines, ← map_fst_structuralLines] at h
  obtain ⟨f, hmono, hnumbers⟩ := exists_strictMonoOn_map (structuralLines_ordered s)
    (structuralLines_ordered t) (by simpa using congrArg List.length h)
  have hmem {i : Nat} (hi : i ∈ s.structuralNumbers) : i ∈ s.structuralLines.map Prod.snd := by
    obtain ⟨l, hl⟩ := hi
    exact List.mem_map.2 ⟨_, mem_structuralLines_iff.2 hl, rfl⟩
  refine ⟨f, fun i hi j hj hij => hmono (hmem hi) (hmem hj) hij, ?_⟩
  rw [List.zip_of_prod h.symm hnumbers]
  refine (List.zip_of_prod ?_ ?_).symm
  · rw [List.map_map]
    rfl
  · rw [List.map_map, List.map_map]
    rfl

end Text

namespace Nesting

def runNumbered (s : Nesting) (ls : List (Text × Nat)) : Nesting :=
  ls.foldl (fun s p => s.step p.2 (classify p.1)) s

theorem run_eq_runNumbered (s : Nesting) (first : Nat) (ls : List Text) :
    s.run first (ls.map classify) = s.runNumbered (ls.zipIdx first) := by
  induction ls generalizing s first with
  | nil => rfl
  | cons l ls ih =>
    rw [List.map_cons, run, ih, List.zipIdx_cons, runNumbered, runNumbered, List.foldl_cons]

theorem runNumbered_filter (s : Nesting) (ls : List (Text × Nat)) :
    s.runNumbered (ls.filter fun p => !isDirective p.1) = s.runNumbered ls := by
  induction ls generalizing s with
  | nil => rfl
  | cons p ls ih =>
    rw [List.filter_cons]
    cases hp : isDirective p.1 with
    | true =>
      have hstep : s.step p.2 (classify p.1) = s := by
        rw [classify_eq_directive_iff.2 hp, step]
      have hskip : s.runNumbered (p :: ls) = s.runNumbered ls := by
        rw [runNumbered, List.foldl_cons, hstep, runNumbered]
      rw [hskip]
      exact ih s
    | false => exact ih (s.step p.2 (classify p.1))

theorem run_classes (t : Text) :
    empty.run 0 (t.lines.map classify) = empty.runNumbered t.structuralLines := by
  rw [run_eq_runNumbered, Text.structuralLines, runNumbered_filter]

theorem Renamed.runNumbered {line : Nat → Nat} {s s' : Nesting} (h : Renamed line id s s')
    (ls : List (Text × Nat)) :
    Renamed line id (s.runNumbered ls) (s'.runNumbered (ls.map fun p => (p.1, line p.2))) := by
  induction ls generalizing s s' with
  | nil => exact h
  | cons p ls ih => exact ih (h.step Function.injective_id rfl (classify p.1))

end Nesting

namespace Outline

def NamesStructural (t : Text) : Prop :=
  (∀ n ∈ (read t).nodes, n.line ∈ t.structuralNumbers ∧
    ∀ i ∈ n.closingLine, i ∈ t.structuralNumbers) ∧
  ∀ i ∈ (read t).strayClosings, i ∈ t.structuralNumbers

theorem namesStructural_read (t : Text) : NamesStructural t := by
  have hd := describes_read t
  have hmem {i : Nat} {x : Line} (h : (t.lines.map classify)[i]? = some x)
      (hne : x ≠ .directive) : i ∈ t.structuralNumbers := by
    obtain ⟨l, hl, rfl⟩ := classified h
    exact ⟨l, hl, Bool.eq_false_iff.2 fun hdirective =>
      hne (classify_eq_directive_iff.2 hdirective)⟩
  refine ⟨fun n hn => ⟨?_, fun i hi => ?_⟩, fun i hi => hmem (hd.mem_stray.1 hi).1 nofun⟩
  · obtain ⟨p, hp⟩ := List.mem_iff_getElem?.1 hn
    obtain ⟨c, hc, -⟩ := hd.declared hp
    exact hmem hc nofun
  · obtain ⟨p, hp⟩ := List.mem_iff_getElem?.1 hn
    exact hmem (hd.closed.1 ⟨n, hp, hi⟩).1 nofun

/-- The outlines of texts that have the same lines up to directives differ in line numbers only. -/
theorem read_renumbered {s t : Text}
    (h : (s.lines.filter fun l => !isDirective l) = t.lines.filter fun l => !isDirective l) :
    ∃ f : Nat → Nat, StrictMonoOn f s.structuralNumbers ∧
      (∀ i ∈ s.structuralNumbers, (read t).lines[f i]? = (read s).lines[i]?) ∧
      (read t).nodes = (read s).nodes.map (Node.renamed f id) ∧
      (read t).strayClosings = (read s).strayClosings.map f := by
  obtain ⟨f, hmono, hlines⟩ := Text.exists_renumbering h
  have hempty : Nesting.Renamed f id .empty .empty := ⟨fun _ => rfl, fun _ => rfl, rfl, rfl⟩
  have hrenamed := hempty.runNumbered s.structuralLines
  rw [← hlines, ← Nesting.run_classes, ← Nesting.run_classes] at hrenamed
  refine ⟨f, hmono, fun i hi => ?_, hrenamed.nodes_map, hrenamed.strayClosings⟩
  obtain ⟨l, hl, hd⟩ := hi
  have hmem : (l, f i) ∈ t.structuralLines := by
    rw [hlines]
    exact List.mem_map.2 ⟨(l, i), Text.mem_structuralLines_iff.2 ⟨hl, hd⟩, rfl⟩
  exact (Text.mem_structuralLines_iff.1 hmem).1.trans hl.symm

end Outline
end C4Diagram
