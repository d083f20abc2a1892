import C4Diagram.Proofs.Normal.Idempotence
import C4Diagram.Proofs.Renumbering

/-! What normalizing leaves of a text. The lines with something on them stay whole and in order,
whether everything is wrapped or a header goes between two lines, and all that is added is
directives. So the outline stays the same but for the numbers of its lines. -/

namespace C4Diagram

namespace Text

def contentLines (t : Text) : List Text := t.rawLines.filter fun l => !l.isEmpty

theorem contentLines_nil : contentLines [] = [] := rfl

theorem contentLines_append (s t : Text) :
    contentLines (s ++ '\n' :: t) = contentLines s ++ contentLines t := by
  rw [contentLines, rawLines_append, List.filter_append]
  rfl

theorem contentLines_join (parts : List Text) :
    contentLines (join partSeparator parts) = parts.flatMap contentLines := by
  induction parts with
  | nil => rfl
  | cons p ps ih =>
    rw [List.flatMap_cons]
    by_cases hps : ps = []
    · subst hps
      rw [List.flatMap_nil, List.append_nil]
      rfl
    · have hsplit : p ++ partSeparator ++ join partSeparator ps =
          p ++ '\n' :: ([] ++ '\n' :: join partSeparator ps) := by
        rw [partSeparator, List.append_assoc]; rfl
      rw [join_cons _ _ hps, hsplit, contentLines_append, contentLines_append, contentLines_nil,
        List.nil_append, ih]

theorem contentLines_joinLines {ls : List Text} (h : ∀ l ∈ ls, '\n' ∉ l) :
    contentLines (joinLines ls) = ls.filter fun l => !l.isEmpty := by
  by_cases hls : ls = []
  · subst hls
    rfl
  · rw [contentLines, rawLines_joinLines h hls]

/-- Directives aside, a text has the same lines with and without the empty ones. -/
theorem filter_contentLines {t : Text} (h : t.Unmarked) :
    (t.contentLines.filter fun l => !isDirective l) = t.lines.filter fun l => !isDirective l := by
  rw [lines_eq_rawLines h.returnFree, contentLines, List.filter_filter]
  refine List.filter_congr fun l _ => ?_
  cases l with
  | nil => rfl
  | cons c r => rw [List.isEmpty_cons, Bool.not_false, Bool.and_true]

end Text

/-! The lines that are added. -/

structure IsDirectiveLine (l : Text) : Prop where
  lineFeed_not_mem : '\n' ∉ l
  ne_nil : l ≠ []
  isDirective : isDirective l = true

theorem isDirectiveLine_of_mem_missingHeader {t l : Text} {level : Level}
    (h : l ∈ missingHeader t level) : IsDirectiveLine l := by
  have hinclude : ∀ level ∈ Level.all, '\n' ∉ level.includeLine ∧ level.includeLine ≠ [] ∧
      isDirective level.includeLine = true := by decide +kernel
  have hlayout : ∀ l ∈ defaultLayout, '\n' ∉ l ∧ l ≠ [] ∧ isDirective l = true := by
    decide +kernel
  rcases mem_missingHeader h with rfl | h
  · obtain ⟨hfeed, hne, hdirective⟩ := hinclude level level.mem_all
    exact ⟨hfeed, hne, hdirective⟩
  · obtain ⟨hfeed, hne, hdirective⟩ := hlayout l h
    exact ⟨hfeed, hne, hdirective⟩

theorem contentLines_of_isDirectiveLine {l : Text} (h : IsDirectiveLine l) :
    l.contentLines = [l] := by
  have hempty : l.isEmpty = false := List.isEmpty_eq_false_iff.2 h.ne_nil
  rw [Text.contentLines, Text.rawLines, Text.pieces_eq_singleton h.lineFeed_not_mem,
    List.filter_singleton, hempty]
  rfl

theorem flatMap_contentLines {ls : List Text} (h : ∀ l ∈ ls, IsDirectiveLine l) :
    ls.flatMap Text.contentLines = ls := by
  induction ls with
  | nil => rfl
  | cons l ls ih =>
    rw [List.flatMap_cons, contentLines_of_isDirectiveLine (h l List.mem_cons_self),
      ih fun m hm => h m (List.mem_cons_of_mem _ hm)]
    rfl

/-! The two layouts. -/

theorem normalize_of_unwrapped {t : Text} (h : t.IsClean) (hne : t ≠ [])
    (hw : hasWrappers t = false) (level : Level) : normalize t level =
      Text.join partSeparator ([startMarker] ++ missingHeader t level ++ [t, endMarker]) := by
  unfold normalize
  rw [Text.cleaned_of_isClean h]
  simp [hne, hw]

theorem isClean_normalize (raw : Text) (level : Level) : (normalize raw level).IsClean := by
  have hclean := Text.isClean_cleaned raw
  rw [← normalize_cleaned]
  set t := raw.cleaned
  by_cases hne : t = []
  · rw [hne, normalize_nil]
    rwa [hne] at hclean
  · cases hw : hasWrappers t with
    | false =>
      rw [normalize_of_unwrapped hclean hne hw]
      exact (isComplete_wrapped hclean level).toIsClean
    | true =>
      rw [normalize_of_wrapped hclean hw]
      split
      · exact hclean
      · next hheader => exact isClean_insertHeader hclean hw hheader

theorem cleaned_ne_nil {raw : Text} {level : Level} (h : normalize raw level ≠ []) :
    raw.cleaned ≠ [] := by
  intro hnil
  rw [← normalize_cleaned, hnil, normalize_nil] at h
  exact h rfl

theorem hasWrappers_normalize_of_content {raw : Text} (hne : raw.cleaned ≠ []) (level : Level) :
    hasWrappers (normalize raw level) = true := by
  have hclean := Text.isClean_cleaned raw
  rw [← normalize_cleaned]
  set t := raw.cleaned
  cases hw : hasWrappers t with
  | false =>
    rw [normalize_of_unwrapped hclean hne hw]
    exact (isComplete_wrapped hclean level).wrappers
  | true =>
    rw [normalize_of_wrapped hclean hw]
    split
    · exact hw
    · exact hasWrappers_insertHeader _ hw

theorem hasWrappers_normalize {raw : Text} {level : Level} (h : normalize raw level ≠ []) :
    hasWrappers (normalize raw level) = true :=
  hasWrappers_normalize_of_content (cleaned_ne_nil h) level

/-- The markers that are put around a text stand on its first line and on its last one. -/
theorem rawLines_normalize_of_unwrapped {t : Text} (h : t.IsClean) (hne : t ≠ [])
    (hw : hasWrappers t = false) (level : Level) :
    ∃ middle, (normalize t level).rawLines = startMarker :: middle ++ [endMarker] := by
  have hparts : [startMarker] ++ missingHeader t level ++ [t, endMarker] =
      [startMarker] ++ ((missingHeader t level ++ [t]) ++ [endMarker]) := by simp
  have hstart : startMarker.rawLines = [startMarker] := Text.pieces_eq_singleton (by decide)
  have hend : endMarker.rawLines = [endMarker] := Text.pieces_eq_singleton (by decide)
  have hsplit (inner : Text) :
      startMarker ++ partSeparator ++ (inner ++ partSeparator ++ endMarker) =
        startMarker ++ '\n' :: (('\n' :: (inner ++ ['\n'])) ++ '\n' :: endMarker) := by
    simp [partSeparator]
  rw [normalize_of_unwrapped h hne hw, hparts, Text.join_append _ (by simp) (by simp),
    Text.join_append _ (by simp) (by simp)]
  change ∃ middle, Text.rawLines (startMarker ++ partSeparator ++ (_ ++ partSeparator ++ endMarker))
    = _
  rw [hsplit, Text.rawLines_append, Text.rawLines_append, hstart, hend]
  exact ⟨_, rfl⟩

/-- The lines around the header: the text's own, with the markers around them if one is missing. -/
def framedLines (t : Text) : List Text :=
  if hasWrappers t then t.contentLines else startMarker :: t.contentLines ++ [endMarker]

/-- The lines `after` are the lines `before` with the header below the first line that names the
start marker. -/
def PutsHeader (before header after : List Text) : Prop :=
  ∃ above line below, before = above ++ line :: below ∧
    (∀ l ∈ above, l.mentionsLowered startMarker = false) ∧
    line.mentionsLowered startMarker = true ∧ after = above ++ line :: (header ++ below)

/-- Above the header stand the lines down to the first one that names the start marker. -/
theorem contentLines_aboveHeader {t : Text} (hw : hasWrappers t = true) :
    ∃ above line, (aboveHeader t).contentLines = above ++ [line] ∧
      (∀ l ∈ above, l.mentionsLowered startMarker = false) ∧
      line.mentionsLowered startMarker = true := by
  rw [hasWrappers, Bool.and_eq_true] at hw
  have hfound := (Text.mentionsLowered_iff_rawLines (by decide) (by decide)).1 hw.1
  have hlt := List.findIdx_lt_length_of_exists hfound
  have hline := List.findIdx_getElem (w := hlt)
  set n := t.rawLines.findIdx (·.mentionsLowered startMarker) with hn
  have hne : t.rawLines[n].isEmpty = false := by
    rw [List.isEmpty_eq_false_iff]
    intro hnil
    rw [hnil] at hline
    revert hline
    decide
  refine ⟨(t.rawLines.take n).filter fun l => !l.isEmpty, t.rawLines[n], ?_, fun l hl => ?_, hline⟩
  · have hlines : ∀ l ∈ t.rawLines.take (n + 1), '\n' ∉ l := fun l hl =>
      Text.lineFeed_not_mem (List.mem_of_mem_take hl)
    rw [aboveHeader, startCount, ← hn, Text.contentLines_joinLines hlines,
      List.take_succ_eq_append_getElem hlt, List.filter_append, List.filter_singleton, hne]
    rfl
  · obtain ⟨i, hi, rfl⟩ := List.mem_take_iff_getElem.1 (List.mem_filter.1 hl).1
    have hbefore : i < t.rawLines.findIdx (·.mentionsLowered startMarker) := by omega
    exact List.not_of_lt_findIdx hbefore

theorem contentLines_eq_around (t : Text) :
    t.contentLines =
      (aboveHeader t).contentLines ++ (Text.joinLines (lowerLines t)).contentLines := by
  have hlower : ∀ l ∈ lowerLines t, '\n' ∉ l := fun l hl =>
    Text.lineFeed_not_mem (List.mem_of_mem_drop ((List.dropWhile_suffix _).subset hl))
  have hupper : ∀ l ∈ t.rawLines.take (startCount t), '\n' ∉ l := fun l hl =>
    Text.lineFeed_not_mem (List.mem_of_mem_take hl)
  have hdrop (ls : List Text) : ((ls.dropWhile List.isEmpty).filter fun l => !l.isEmpty) =
      ls.filter fun l => !l.isEmpty := by
    induction ls with
    | nil => rfl
    | cons l ls ih =>
      cases l with
      | nil => exact ih
      | cons c r => rfl
  rw [aboveHeader, Text.contentLines_joinLines hupper, Text.contentLines_joinLines hlower,
    lowerLines, hdrop, ← List.filter_append, List.take_append_drop, Text.contentLines]

theorem putsHeader_of_wrapped {t : Text} (hw : hasWrappers t = true) {header after : List Text}
    (hafter : after = (aboveHeader t).contentLines ++ header ++
      (Text.joinLines (lowerLines t)).contentLines) :
    PutsHeader t.contentLines header after := by
  obtain ⟨above, line, hsplit, habove, hline⟩ := contentLines_aboveHeader hw
  refine ⟨above, line, (Text.joinLines (lowerLines t)).contentLines, ?_, habove, hline, ?_⟩
  · rw [contentLines_eq_around, hsplit, List.append_assoc]
    rfl
  · rw [hafter, hsplit, List.append_assoc, List.append_assoc]
    rfl

theorem contentLines_insertHeader {t : Text} {header : List Text}
    (hheader : ∀ l ∈ header, IsDirectiveLine l) :
    (insertHeader t header).contentLines = (aboveHeader t).contentLines ++ header ++
      (Text.joinLines (lowerLines t)).contentLines := by
  rw [insertHeader_eq, Text.contentLines_join, partsWith, List.flatMap_append, List.flatMap_append,
    flatMap_contentLines hheader, List.flatMap_singleton]
  by_cases hlow : lowerLines t = []
  · rw [hlow]
    rfl
  · rw [if_neg (by simpa using hlow), List.flatMap_singleton]

theorem isDirectiveLine_startMarker : IsDirectiveLine startMarker :=
  ⟨by decide, by decide, by decide⟩

theorem isDirectiveLine_endMarker : IsDirectiveLine endMarker := ⟨by decide, by decide, by decide⟩

theorem putsHeader_normalize {t : Text} (h : t.IsClean) (hne : t ≠ []) (level : Level) :
    PutsHeader (framedLines t) (missingHeader t level) (normalize t level).contentLines := by
  have hheader : ∀ l ∈ missingHeader t level, IsDirectiveLine l := fun l hl =>
    isDirectiveLine_of_mem_missingHeader hl
  cases hw : hasWrappers t with
  | false =>
    refine ⟨[], startMarker, t.contentLines ++ [endMarker], ?_,
      fun l hl => absurd hl List.not_mem_nil, by decide, ?_⟩
    · rw [framedLines, hw]
      rfl
    · rw [normalize_of_unwrapped h hne hw, Text.contentLines_join, List.flatMap_append,
        List.flatMap_append, flatMap_contentLines hheader, List.flatMap_singleton,
        contentLines_of_isDirectiveLine isDirectiveLine_startMarker, List.flatMap_cons,
        List.flatMap_singleton, contentLines_of_isDirectiveLine isDirectiveLine_endMarker]
      rfl
  | true =>
    rw [framedLines, hw, if_pos rfl, normalize_of_wrapped h hw]
    apply putsHeader_of_wrapped hw
    split
    · next hnil => rw [hnil, List.append_nil, ← contentLines_eq_around]
    · exact contentLines_insertHeader hheader

/-- Directives aside, normalizing keeps the lines. -/
theorem filter_lines_normalize {t : Text} (h : t.IsClean) (hne : t ≠ []) (level : Level) :
    ((normalize t level).lines.filter fun l => !isDirective l) =
      t.lines.filter fun l => !isDirective l := by
  obtain ⟨above, line, below, hframed, -, -, hafter⟩ := putsHeader_normalize h hne level
  have hdropped {ls : List Text} (hls : ∀ l ∈ ls, IsDirectiveLine l) :
      (ls.filter fun l => !isDirective l) = [] := by
    rw [List.filter_eq_nil_iff]
    intro l hl
    rw [(hls l hl).isDirective]
    exact Bool.false_ne_true
  have hframe : ((framedLines t).filter fun l => !isDirective l) =
      t.contentLines.filter fun l => !isDirective l := by
    unfold framedLines
    split
    · rfl
    · rw [← List.singleton_append, List.filter_append, List.filter_append,
        hdropped (List.forall_mem_singleton.2 isDirectiveLine_startMarker),
        hdropped (List.forall_mem_singleton.2 isDirectiveLine_endMarker), List.append_nil,
        List.nil_append]
  have hclean := isClean_normalize t level
  rw [← Text.filter_contentLines hclean.toUnmarked, ← Text.filter_contentLines h.toUnmarked,
    ← hframe, hafter, hframed, List.filter_append, List.filter_append, List.filter_cons,
    List.filter_cons, List.filter_append,
    hdropped fun l hl => isDirectiveLine_of_mem_missingHeader hl, List.nil_append]

/-- Normalizing a text with content keeps the lines with something on them and adds markers, include
and layout, all in one place but for the markers at the ends; the outline keeps its nodes, its
nesting and its stray block ends, at line numbers that follow each other as before. -/
theorem normalize_keeps_diagram {raw : Text} {level : Level} (h : normalize raw level ≠ []) :
    let clean := raw.cleaned
    let header := (if hasLibraryInclude clean then [] else [level.includeLine]) ++
      if hasLayoutCall clean then [] else
        ["LAYOUT_WITH_LEGEND()".toList, "LAYOUT_LANDSCAPE()".toList]
    let framed := if hasWrappers clean then clean.contentLines else
      "@startuml".toList :: clean.contentLines ++ ["@enduml".toList]
    (∃ above line below, framed = above ++ line :: below ∧
      (∀ l ∈ above, l.mentionsLowered "@startuml".toList = false) ∧
      line.mentionsLowered "@startuml".toList = true ∧
      (normalize raw level).contentLines = above ++ line :: (header ++ below)) ∧
    Outline.NamesStructural clean ∧
    ∃ f : Nat → Nat, StrictMonoOn f clean.structuralNumbers ∧
      (∀ i ∈ clean.structuralNumbers,
        (Outline.read (normalize raw level)).lines[f i]? = (Outline.read clean).lines[i]?) ∧
      (Outline.read (normalize raw level)).nodes =
        (Outline.read clean).nodes.map (Node.renamed f id) ∧
      (Outline.read (normalize raw level)).strayClosings =
        (Outline.read clean).strayClosings.map f := by
  intro clean header framed
  have hclean : clean.IsClean := Text.isClean_cleaned raw
  have hne : clean ≠ [] := by
    intro hnil
    rw [← normalize_cleaned, show raw.cleaned = [] from hnil, normalize_nil] at h
    exact h rfl
  rw [← normalize_cleaned]
  exact ⟨putsHeader_normalize hclean hne level, Outline.namesStructural_read clean,
    Outline.read_renumbered (filter_lines_normalize hclean hne level).symm⟩

/-- A fenced text with a marker below its first line, an include, empty lines and a stray block
end. -/
theorem normalize_keeps_diagram_fenced :
    let raw : Text := ("\x60\x60\x60puml\r\n' c\n@StartUML x\n\n\n!include C4_Context.puml\n" ++
      "Boundary(b, \"B\") \x7b\n  System(s, \"S\")\n\n\x7d\n\x7d\n@enduml\n\x60\x60\x60").toList
    let level : Level := .container
    let clean := raw.cleaned
    let header := (if hasLibraryInclude clean then [] else [level.includeLine]) ++
      if hasLayoutCall clean then [] else
        ["LAYOUT_WITH_LEGEND()".toList, "LAYOUT_LANDSCAPE()".toList]
    let framed := if hasWrappers clean then clean.contentLines else
      "@startuml".toList :: clean.contentLines ++ ["@enduml".toList]
    normalize raw level ≠ [] ∧
    (∃ above line below, framed = above ++ line :: below ∧
      (∀ l ∈ above, l.mentionsLowered "@startuml".toList = false) ∧
      line.mentionsLowered "@startuml".toList = true ∧
      (normalize raw level).contentLines = above ++ line :: (header ++ below)) ∧
    Outline.NamesStructural clean ∧
    ∃ f : Nat → Nat, StrictMonoOn f clean.structuralNumbers ∧
      (∀ i ∈ clean.structuralNumbers,
        (Outline.read (normalize raw level)).lines[f i]? = (Outline.read clean).lines[i]?) ∧
      (Outline.read (normalize raw level)).nodes =
        (Outline.read clean).nodes.map (Node.renamed f id) ∧
      (Outline.read (normalize raw level)).strayClosings =
        (Outline.read clean).strayClosings.map f := by
  intro raw level clean header framed
  have hne : normalize raw level ≠ [] := by decide +kernel
  exact ⟨hne, normalize_keeps_diagram hne⟩

end C4Diagram
