import C4Diagram.Proofs.Edit.Parents
import C4Diagram.Proofs.Edit.Relations
import C4Diagram.Proofs.Normal.Content
import Mathlib.Order.Lattice.Nat

/-! Edits of a normal text and the markers around its diagram. Relations and markers are found line
by line, wherever they stand, so a new line stays between the markers as long as the line that it is
put next to does. -/

namespace C4Diagram

namespace Text

def linesWhere (t : Text) (p : Text → Bool) : Set Nat :=
  {i | ∃ l, t.rawLines[i]? = some l ∧ p l = true}

def startLines (t : Text) : Set Nat := t.linesWhere (·.mentionsLowered startMarker)

def endLines (t : Text) : Set Nat := t.linesWhere (·.mentionsLowered endMarker)

def relationLines (t : Text) : Set Nat := t.linesWhere Placement.isRelationLine

/-- The `width` lines from `index` on stand below the first line that names the start marker and
above the last one that names the end marker. -/
def InDiagram (t : Text) (index width : Nat) : Prop :=
  (∃ first, IsLeast t.startLines first ∧ first < index) ∧
    ∃ last, IsGreatest t.endLines last ∧ index + width ≤ last

variable {t : Text} {p : Text → Bool} {i : Nat}

theorem linesWhere_nonempty_iff : (t.linesWhere p).Nonempty ↔ ∃ l ∈ t.rawLines, p l = true := by
  refine ⟨?_, ?_⟩
  · rintro ⟨i, l, hl, hp⟩
    exact ⟨l, List.mem_of_getElem? hl, hp⟩
  · rintro ⟨l, hl, hp⟩
    obtain ⟨i, hi⟩ := List.mem_iff_getElem?.1 hl
    exact ⟨i, l, hi, hp⟩

theorem lt_length_of_mem_linesWhere (h : i ∈ t.linesWhere p) : i < t.rawLines.length := by
  obtain ⟨l, hl, -⟩ := h
  exact (List.getElem?_eq_some_iff.1 hl).1

theorem exists_first (h : ∃ l ∈ t.rawLines, p l = true) : ∃ first, IsLeast (t.linesWhere p) first :=
  ⟨_, Nat.sInf_mem (linesWhere_nonempty_iff.2 h), fun _ hi => Nat.sInf_le hi⟩

theorem exists_last (h : ∃ l ∈ t.rawLines, p l = true) :
    ∃ last, IsGreatest (t.linesWhere p) last := by
  have hbound : BddAbove (t.linesWhere p) :=
    ⟨t.rawLines.length, fun _ hi => (lt_length_of_mem_linesWhere hi).le⟩
  exact ⟨_, Nat.sSup_mem (linesWhere_nonempty_iff.2 h) hbound, fun _ hi => le_csSup hbound hi⟩

/-- Above an index stands a line that passes the test iff the first of them does. -/
theorem exists_mem_take_iff {first : Nat} (hfirst : IsLeast (t.linesWhere p) first) :
    (∃ l ∈ t.rawLines.take i, p l = true) ↔ first < i := by
  refine ⟨?_, ?_⟩
  · rintro ⟨l, hl, hp⟩
    obtain ⟨j, hj, rfl⟩ := List.mem_take_iff_getElem.1 hl
    have hle := hfirst.2 ⟨_, List.getElem?_eq_getElem (by omega), hp⟩
    omega
  · intro hlt
    obtain ⟨l, hl, hp⟩ := hfirst.1
    exact ⟨l, List.mem_of_getElem? ((List.getElem?_take_of_lt hlt).trans hl), hp⟩

theorem exists_mem_drop_iff {last : Nat} (hlast : IsGreatest (t.linesWhere p) last) :
    (∃ l ∈ t.rawLines.drop i, p l = true) ↔ i ≤ last := by
  refine ⟨?_, ?_⟩
  · rintro ⟨l, hl, hp⟩
    obtain ⟨j, hj⟩ := List.mem_iff_getElem?.1 hl
    rw [List.getElem?_drop] at hj
    exact (Nat.le_add_right i j).trans (hlast.2 ⟨l, hj, hp⟩)
  · intro hle
    obtain ⟨l, hl, hp⟩ := hlast.1
    refine ⟨l, List.mem_of_getElem? (i := last - i) ?_, hp⟩
    rw [List.getElem?_drop, Nat.add_sub_cancel' hle, hl]

theorem inDiagram_iff {index width : Nat} : t.InDiagram index width ↔
    (∃ l ∈ t.rawLines.take index, l.mentionsLowered startMarker = true) ∧
      ∃ l ∈ t.rawLines.drop (index + width), l.mentionsLowered endMarker = true := by
  refine and_congr ⟨?_, ?_⟩ ⟨?_, ?_⟩
  · rintro ⟨first, hfirst, hlt⟩
    exact (exists_mem_take_iff hfirst).2 hlt
  · rintro ⟨l, hl, hp⟩
    obtain ⟨first, hfirst⟩ := exists_first (p := (·.mentionsLowered startMarker))
      ⟨l, List.mem_of_mem_take hl, hp⟩
    exact ⟨first, hfirst, (exists_mem_take_iff hfirst).1 ⟨l, hl, hp⟩⟩
  · rintro ⟨last, hlast, hle⟩
    exact (exists_mem_drop_iff hlast).2 hle
  · rintro ⟨l, hl, hp⟩
    obtain ⟨last, hlast⟩ := exists_last (p := (·.mentionsLowered endMarker))
      ⟨l, List.mem_of_mem_drop hl, hp⟩
    exact ⟨last, hlast, (exists_mem_drop_iff hlast).1 ⟨l, hl, hp⟩⟩

instance (t : Text) (index width : Nat) : Decidable (t.InDiagram index width) :=
  decidable_of_iff' _ inDiagram_iff

/-- Lines that are put in stand in the diagram iff their place does, whatever they name. -/
theorem inDiagram_inserted {s : Text} {index first last : Nat} {block : List Text}
    (hindex : index ≤ s.rawLines.length)
    (ht : t.rawLines = s.rawLines.take index ++ block ++ s.rawLines.drop index)
    (hfirst : IsLeast s.startLines first) (hlast : IsGreatest s.endLines last) :
    t.InDiagram index block.length ↔ first < index ∧ index ≤ last := by
  have htake : t.rawLines.take index = s.rawLines.take index := by
    rw [ht, Placement.take_inserted hindex]
  have hdrop : t.rawLines.drop (index + block.length) = s.rawLines.drop index := by
    rw [ht, Placement.drop_inserted hindex]
  rw [inDiagram_iff, htake, hdrop]
  exact and_congr (exists_mem_take_iff hfirst) (exists_mem_drop_iff hlast)

theorem pos_of_mem_linesWhere {l : Text} {ls : List Text} (ht : t.rawLines = l :: ls)
    (hl : p l = false) (hi : i ∈ t.linesWhere p) : 0 < i := by
  obtain ⟨m, hm, hp⟩ := hi
  refine Nat.pos_of_ne_zero ?_
  rintro rfl
  rw [ht, List.getElem?_cons_zero, Option.some.injEq] at hm
  rw [← hm, hl] at hp
  cases hp

theorem lt_of_mem_linesWhere {l : Text} {ls : List Text} (ht : t.rawLines = ls ++ [l])
    (hl : p l = false) (hi : i ∈ t.linesWhere p) : i < ls.length := by
  have hlt := lt_length_of_mem_linesWhere hi
  obtain ⟨m, hm, hp⟩ := hi
  rw [ht, List.length_append, List.length_singleton] at hlt
  refine (Nat.lt_succ_iff.1 hlt).lt_of_ne ?_
  rintro rfl
  rw [ht, List.getElem?_concat_length, Option.some.injEq] at hm
  rw [← hm, hl] at hp
  cases hp

theorem findIdx?_of_isLeast (h : IsLeast (t.linesWhere p) i) : t.rawLines.findIdx? p = some i := by
  obtain ⟨l, hl, hp⟩ := h.1
  obtain ⟨hi, rfl⟩ := List.getElem?_eq_some_iff.1 hl
  refine List.findIdx?_eq_some_iff_getElem.2 ⟨hi, hp, fun j hj hpj => ?_⟩
  exact Nat.not_le.2 hj (h.2 ⟨_, List.getElem?_eq_getElem (hj.trans hi), hpj⟩)

theorem findIdx?_of_eq_empty (h : t.linesWhere p = ∅) : t.rawLines.findIdx? p = none := by
  rw [List.findIdx?_eq_none_iff]
  intro l hl
  rw [← Bool.not_eq_true]
  exact fun hp => Set.not_nonempty_iff_eq_empty.2 h (linesWhere_nonempty_iff.2 ⟨l, hl, hp⟩)

end Text

/-! Places. -/

namespace Placement

variable {t : Text} {r : Nat}

theorem rootIndex_of_relation (h : IsLeast t.relationLines r) : rootIndex t.rawLines = r := by
  rw [rootIndex, Text.findIdx?_of_isLeast h, Option.some_or, Option.getD_some]

theorem rootIndex_of_no_relation (h : t.relationLines = ∅) (hend : IsLeast t.endLines r) :
    rootIndex t.rawLines = r := by
  have hline : t.rawLines.findIdx? isEndLine = some r := Text.findIdx?_of_isLeast hend
  rw [rootIndex, Text.findIdx?_of_eq_empty h, hline, Option.none_or, Option.getD_some]

theorem relationIndex_of_relation (h : IsGreatest t.relationLines r) :
    relationIndex t.rawLines = r + 1 := by
  obtain ⟨l, hl, hr⟩ := h.1
  have hlt : r < relationIndex t.rawLines := by
    by_contra hge
    have hmem : l ∈ t.rawLines.drop (relationIndex t.rawLines) := by
      refine List.mem_of_getElem? (i := r - relationIndex t.rawLines) ?_
      rw [List.getElem?_drop, Nat.add_sub_cancel' (Nat.not_lt.1 hge), hl]
    rw [isRelationLine, relationCall?_of_mem_drop hmem] at hr
    cases hr
  refine le_antisymm ?_ hlt
  unfold relationIndex
  split
  · next after hafter =>
    obtain ⟨ha, hlast, -⟩ := List.findIdx?_eq_some_iff_getElem.1 hafter
    rw [List.length_reverse] at ha
    rw [List.getElem_reverse] at hlast
    have hle := h.2 ⟨_, List.getElem?_eq_getElem (by omega), hlast⟩
    omega
  · next hnone =>
    have hno := List.findIdx?_eq_none_iff.1 hnone l
      (List.mem_reverse.2 (List.mem_of_getElem? hl))
    rw [hr] at hno
    cases hno

theorem relationIndex_of_no_relation (h : t.relationLines = ∅) :
    relationIndex t.rawLines = rootIndex t.rawLines := by
  have hnone : t.rawLines.reverse.findIdx? isRelationLine = none := by
    rw [List.findIdx?_eq_none_iff]
    exact fun l hl => List.findIdx?_eq_none_iff.1 (Text.findIdx?_of_eq_empty h) l
      (List.mem_reverse.1 hl)
  rw [relationIndex, hnone]

/-- Where no relation stands, a new line goes into the diagram iff it starts above the first end. -/
theorem rootIndex_between_iff {first last : Nat} (h : t.relationLines = ∅)
    (hlast : IsGreatest t.endLines last) :
    first < rootIndex t.rawLines ∧ rootIndex t.rawLines ≤ last ↔ ∀ i ∈ t.endLines, first < i := by
  obtain ⟨l, hl, hp⟩ := hlast.1
  obtain ⟨r, hr⟩ := Text.exists_first (p := (·.mentionsLowered endMarker))
    ⟨l, List.mem_of_getElem? hl, hp⟩
  rw [rootIndex_of_no_relation h hr, and_iff_left (hlast.2 hr.1)]
  exact ⟨fun hlt i hi => hlt.trans_le (hr.2 hi), fun hall => hall r hr.1⟩

end Placement

/-! Normal texts. -/

/-- A text that lacked a marker is wrapped, so all of it stands between the markers. -/
theorem between_of_unwrapped {raw : Text} {level : Level} (h : normalize raw level ≠ [])
    (hw : hasWrappers raw.cleaned = false) {first last : Nat}
    (hfirst : IsLeast (normalize raw level).startLines first)
    (hlast : IsGreatest (normalize raw level).endLines last) :
    (∀ i ∈ (normalize raw level).endLines, first < i) ∧
      ∀ r ∈ (normalize raw level).relationLines, first < r ∧ r < last := by
  obtain ⟨middle, hlines⟩ :=
    rawLines_normalize_of_unwrapped (Text.isClean_cleaned raw) (cleaned_ne_nil h) hw level
  rw [normalize_cleaned] at hlines
  set n := normalize raw level
  have hzero : first = 0 := Nat.le_zero.1 (hfirst.2 ⟨startMarker, by rw [hlines]; rfl, by decide⟩)
  have hend : (startMarker :: middle).length ∈ n.endLines :=
    ⟨endMarker, by rw [hlines, List.getElem?_concat_length], by decide⟩
  refine ⟨fun i hi => ?_, fun r hr => ⟨?_, ?_⟩⟩
  · rw [hzero]
    exact Text.pos_of_mem_linesWhere hlines (by decide) hi
  · rw [hzero]
    exact Text.pos_of_mem_linesWhere hlines (by decide) hr
  · exact (Text.lt_of_mem_linesWhere hlines (by decide) hr).trans_le (hlast.2 hend)

namespace Editor

section

variable {source result : Text} {first last : Nat}

/-- An element at document level goes next to the first relation or the first end of a diagram. -/
theorem addElement_inDiagram_iff {level : Level} {e : NewElement}
    (h : addElement level source e = .ok result) (hplace : e.place = .documentLevel)
    (hlines : source.lines = source.rawLines) (hfirst : IsLeast source.startLines first)
    (hlast : IsGreatest source.endLines last) :
    let index := Placement.rootIndex source.lines
    let block := (trimmedElement e).lines
    result.rawLines = source.lines.take index ++ block ++ source.lines.drop index ∧
      (∀ r, IsLeast source.relationLines r →
        (result.InDiagram index block.length ↔ first < r ∧ r ≤ last)) ∧
      (source.relationLines = ∅ →
        (result.InDiagram index block.length ↔ ∀ i ∈ source.endLines, first < i)) := by
  intro index block
  have hputs : result.rawLines = source.lines.take index ++ block ++ source.lines.drop index := by
    obtain ⟨i, indent, hat, -, -, hfeed, rfl⟩ := addElement_lines h
    have hroot := hat.symm.trans (Placement.ofElement_documentLevel hplace)
    rw [Except.ok.injEq, Prod.mk.injEq] at hroot
    rw [Placement.rawLines_splice source hfeed (NewElement.map_lines_ne_nil _ _), hroot.1, hroot.2]
    rfl
  have hindex : index = Placement.rootIndex source.rawLines := by rw [← hlines]
  have hle : index ≤ source.rawLines.length := hindex ▸ Placement.rootIndex_le _
  have hin := Text.inDiagram_inserted hle (hlines ▸ hputs) hfirst hlast
  refine ⟨hputs, fun r hr => ?_, fun hnone => ?_⟩
  · rw [hin, hindex, Placement.rootIndex_of_relation hr]
  · rw [hin, hindex]
    exact Placement.rootIndex_between_iff hnone hlast

/-- A relation goes behind the last one, or where an element would go. -/
theorem addRelation_inDiagram_iff {r : NewRelation} (h : addRelation source r = .ok result)
    (hlines : source.lines = source.rawLines) (hfirst : IsLeast source.startLines first)
    (hlast : IsGreatest source.endLines last) :
    let index := Placement.relationIndex source.lines
    let block := [(trimmedRelation r).written]
    result.rawLines = source.lines.take index ++ block ++ source.lines.drop index ∧
      (∀ i, IsGreatest source.relationLines i →
        (result.InDiagram index block.length ↔ first ≤ i ∧ i < last)) ∧
      (source.relationLines = ∅ →
        (result.InDiagram index block.length ↔ ∀ i ∈ source.endLines, first < i)) := by
  intro index block
  have hputs : result.rawLines = source.lines.take index ++ block ++ source.lines.drop index := by
    obtain ⟨hfeed, rfl⟩ := addRelation_lines h
    exact Placement.rawLines_splice source (List.forall_mem_singleton.2 hfeed)
      (List.cons_ne_nil _ _)
  have hindex : index = Placement.relationIndex source.rawLines := by rw [← hlines]
  have hle : index ≤ source.rawLines.length := hindex ▸ Placement.relationIndex_le _
  have hin := Text.inDiagram_inserted hle (hlines ▸ hputs) hfirst hlast
  refine ⟨hputs, fun i hi => ?_, fun hnone => ?_⟩
  · rw [hin, hindex, Placement.relationIndex_of_relation hi, Nat.lt_succ_iff, Nat.succ_le_iff]
  · rw [hin, hindex, Placement.relationIndex_of_no_relation hnone]
    exact Placement.rootIndex_between_iff hnone hlast

end

/-- What is put into a normal text at document level stands below the first line that names the
start marker and above the last one that names the end marker iff the line that it is put next to
does. This is the first relation for an element and the last one for a relation; where there is no
relation, it is the first line that names the end marker. If the markers are the normalizer's own,
everything stands between them. -/
theorem rootEdits_inDiagram {raw : Text} {level : Level} (h : normalize raw level ≠ []) :
    let n := normalize raw level
    ∃ first last, IsLeast n.startLines first ∧ IsGreatest n.endLines last ∧
      (∀ (level' : Level) (e : NewElement) (result : Text), e.place = .documentLevel →
        addElement level' n e = .ok result →
        let index := Placement.rootIndex n.lines
        let block := (trimmedElement e).lines
        result.rawLines = n.lines.take index ++ block ++ n.lines.drop index ∧
        (∀ r, IsLeast n.relationLines r →
          (result.InDiagram index block.length ↔ first < r ∧ r ≤ last)) ∧
        (n.relationLines = ∅ →
          (result.InDiagram index block.length ↔ ∀ i ∈ n.endLines, first < i)) ∧
        (hasWrappers raw.cleaned = false → result.InDiagram index block.length)) ∧
      ∀ (r : NewRelation) (result : Text), addRelation n r = .ok result →
        let index := Placement.relationIndex n.lines
        let block := [(trimmedRelation r).written]
        result.rawLines = n.lines.take index ++ block ++ n.lines.drop index ∧
        (∀ i, IsGreatest n.relationLines i →
          (result.InDiagram index block.length ↔ first ≤ i ∧ i < last)) ∧
        (n.relationLines = ∅ →
          (result.InDiagram index block.length ↔ ∀ i ∈ n.endLines, first < i)) ∧
        (hasWrappers raw.cleaned = false → result.InDiagram index block.length) := by
  intro n
  have hlines : n.lines = n.rawLines :=
    Text.lines_eq_rawLines (isClean_normalize raw level).returnFree
  have hwrappers := hasWrappers_normalize h
  rw [hasWrappers, Bool.and_eq_true] at hwrappers
  obtain ⟨first, hfirst⟩ := Text.exists_first
    ((Text.mentionsLowered_iff_rawLines (by decide) (by decide)).1 hwrappers.1)
  obtain ⟨last, hlast⟩ := Text.exists_last
    ((Text.mentionsLowered_iff_rawLines (by decide) (by decide)).1 hwrappers.2)
  refine ⟨first, last, hfirst, hlast, fun level' e result hplace hadd => ?_,
    fun r result hadd => ?_⟩
  · obtain ⟨hputs, hrelation, hnone⟩ :=
      addElement_inDiagram_iff hadd hplace hlines hfirst hlast
    refine ⟨hputs, hrelation, hnone, fun hw => ?_⟩
    obtain ⟨hends, hrelations⟩ := between_of_unwrapped h hw hfirst hlast
    rcases n.relationLines.eq_empty_or_nonempty with hempty | hsome
    · exact (hnone hempty).2 hends
    · obtain ⟨r, hr⟩ := Text.exists_first (Text.linesWhere_nonempty_iff.1 hsome)
      obtain ⟨hbelow, habove⟩ := hrelations r hr.1
      exact (hrelation r hr).2 ⟨hbelow, habove.le⟩
  · obtain ⟨hputs, hrelation, hnone⟩ := addRelation_inDiagram_iff hadd hlines hfirst hlast
    refine ⟨hputs, hrelation, hnone, fun hw => ?_⟩
    obtain ⟨hends, hrelations⟩ := between_of_unwrapped h hw hfirst hlast
    rcases n.relationLines.eq_empty_or_nonempty with hempty | hsome
    · exact (hnone hempty).2 hends
    · obtain ⟨i, hi⟩ := Text.exists_last (Text.linesWhere_nonempty_iff.1 hsome)
      obtain ⟨hbelow, habove⟩ := hrelations i hi.1
      exact (hrelation i hi).2 ⟨hbelow.le, habove⟩

/-- Comments name the markers too, and the only relation, whose label names the end marker, stands
in a block. -/
theorem rootEdits_inDiagram_fenced :
    let raw : Text := ("\x60\x60\x60\r\n' @STARTUML\r\n@startuml\nBoundary(b, \"B\") \x7b\n" ++
      "Rel_U(b, b, \"@enduml\")\n\x7d\n@EndUml\n' @enduml").toList
    let n := normalize raw .container
    let e : NewElement :=
      ⟨.systemBoundary, " u ".toList, "@enduml".toList, none, none, .documentLevel⟩
    let r : NewRelation := ⟨.biRel, "b".toList, " b".toList, "@startuml".toList, none, none⟩
    n ≠ [] ∧ ∃ first last, IsLeast n.startLines first ∧ IsGreatest n.endLines last ∧
      (∃ result, addElement .context n e = .ok result ∧ e.place = .documentLevel ∧
        let index := Placement.rootIndex n.lines
        let block := (trimmedElement e).lines
        result.rawLines = n.lines.take index ++ block ++ n.lines.drop index ∧
        (∀ r, IsLeast n.relationLines r →
          (result.InDiagram index block.length ↔ first < r ∧ r ≤ last)) ∧
        (n.relationLines = ∅ →
          (result.InDiagram index block.length ↔ ∀ i ∈ n.endLines, first < i)) ∧
        (hasWrappers raw.cleaned = false → result.InDiagram index block.length)) ∧
      ∃ result, addRelation n r = .ok result ∧
        let index := Placement.relationIndex n.lines
        let block := [(trimmedRelation r).written]
        result.rawLines = n.lines.take index ++ block ++ n.lines.drop index ∧
        (∀ i, IsGreatest n.relationLines i →
          (result.InDiagram index block.length ↔ first ≤ i ∧ i < last)) ∧
        (n.relationLines = ∅ →
          (result.InDiagram index block.length ↔ ∀ i ∈ n.endLines, first < i)) ∧
        (hasWrappers raw.cleaned = false → result.InDiagram index block.length) := by
  intro raw n e r
  have hne : n ≠ [] := by decide +kernel
  have helement : addElement .context n e = .ok (Placement.splice n.lines
      (Placement.rootIndex n.lines) (trimmedElement e).lines) := by decide +kernel
  have hrelation : addRelation n r = .ok (Placement.splice n.lines
      (Placement.relationIndex n.lines) [(trimmedRelation r).written]) := by decide +kernel
  obtain ⟨first, last, hfirst, hlast, helements, hrelations⟩ := rootEdits_inDiagram hne
  exact ⟨hne, first, last, hfirst, hlast, ⟨_, helement, rfl, helements _ _ _ rfl helement⟩, _,
    hrelation, hrelations _ _ hrelation⟩

/-- The only relation stands below the end of the diagram and draws both edits there. -/
theorem relation_below_diagram_draws_edits :
    let n := normalize "@startuml\nSystem(a, \"A\")\n@enduml\nRel(a, a, \"x\")".toList .context
    let e : NewElement := ⟨.system, "s".toList, "S".toList, none, none, .documentLevel⟩
    let r : NewRelation := ⟨.rel, "a".toList, "a".toList, "y".toList, none, none⟩
    n ≠ [] ∧
      (∃ result index, addElement .context n e = .ok result ∧
        result.rawLines = n.lines.take index ++ (trimmedElement e).lines ++ n.lines.drop index ∧
        ¬ result.InDiagram index (trimmedElement e).lines.length) ∧
      ∃ result index, addRelation n r = .ok result ∧
        result.rawLines =
          n.lines.take index ++ [(trimmedRelation r).written] ++ n.lines.drop index ∧
        ¬ result.InDiagram index 1 := by
  intro n e r
  have helement : addElement .context n e = .ok (Placement.splice n.lines 10
      (trimmedElement e).lines) := by decide +kernel
  have hrelation : addRelation n r = .ok (Placement.splice n.lines 11
      [(trimmedRelation r).written]) := by decide +kernel
  exact ⟨by decide +kernel, ⟨_, 10, helement, by decide +kernel⟩, _, 11, hrelation,
    by decide +kernel⟩

end Editor
end C4Diagram
