import C4Diagram.Failure
import C4Diagram.Proofs.Lint
import C4Diagram.Proofs.Text.Lines
import Mathlib.Data.String.Basic

/-! The span of a line cuts the trimmed line out of the bytes of the text, whatever ends the lines
and however many bytes a blank takes. Offsets run over the raw lines, so a line is found behind all
raw lines before it and their line feeds. -/

namespace C4Diagram

/-- The span cuts the part out of the text: both of its ends stand between characters. -/
structure Span.Selects (s : Span) (t part : Text) : Prop where
  ordered : s.start ≤ s.stop
  inside : s.stop ≤ t.utf8Size
  starts : String.Pos.Raw.IsValid (String.ofList t) ⟨s.start⟩
  stops : String.Pos.Raw.IsValid (String.ofList t) ⟨s.stop⟩
  text : String.Pos.Raw.extract (String.ofList t) ⟨s.start⟩ ⟨s.stop⟩ = String.ofList part
  length_eq : s.length = part.utf8Size

namespace Text

theorem utf8Len_eq (t : Text) : String.utf8Len t = t.utf8Size := by
  induction t with
  | nil => rfl
  | cons c t ih => rw [String.utf8Len_cons, ih, utf8Size_cons, Nat.add_comm]

theorem isValid_utf8Size (before after : Text) :
    String.Pos.Raw.IsValid (String.ofList (before ++ after)) ⟨before.utf8Size⟩ := by
  rw [String.Pos.Raw.isValid_iff_exists_append]
  refine ⟨String.ofList before, String.ofList after, String.ofList_append, ?_⟩
  rw [String.rawEndPos_ofList, utf8Len_eq]

/-- A part of a text is selected by the bytes in front of it and its own. -/
theorem selects_append {t before part after : Text} (h : t = before ++ (part ++ after)) :
    Span.Selects ⟨before.utf8Size, before.utf8Size + part.utf8Size⟩ t part := by
  subst h
  constructor
  case ordered => exact Nat.le_add_right _ _
  case inside =>
    rw [utf8Size_append, utf8Size_append, ← Nat.add_assoc]
    exact Nat.le_add_right _ _
  case starts => exact isValid_utf8Size before (part ++ after)
  case stops =>
    rw [← utf8Size_append, ← List.append_assoc]
    exact isValid_utf8Size (before ++ part) after
  case text =>
    rw [← utf8Len_eq, ← utf8Len_eq, ← List.append_assoc]
    exact String.extract_of_valid before part after
  case length_eq => exact Nat.add_sub_cancel_left _ _

/-! Where the trimmed line starts and stops. -/

/-- The bytes in front of what trimming leaves. A blank line is trimmed to nothing at its start. -/
theorem exists_trim_offset (t : Text) :
    ∃ before after, t = before ++ (t.trim ++ after) ∧
      min (t.utf8Size - t.trimStart.utf8Size) t.trimEnd.utf8Size = before.utf8Size ∧
      t.trimEnd.utf8Size = before.utf8Size + t.trim.utf8Size := by
  obtain ⟨before, after, ht, hbefore, hafter⟩ := t.exists_eq_append_trim_append
  by_cases hne : t.trim = []
  · have hend : t.trimEnd = [] := trimEnd_append_of_all (trim_eq_nil_iff.1 hne) []
    refine ⟨[], t, ?_, ?_, ?_⟩
    · rw [hne, List.nil_append, List.nil_append]
    · rw [hend, utf8Size_nil, Nat.min_zero]
    · rw [hend, hne, utf8Size_nil]
  · have hstart : t.trimStart = t.trim ++ after := by
      conv_lhs => rw [ht, trimStart_append_of_all hbefore,
        trimStart_append_of_isTrimmed (isTrimmed_trim t) hne]
    have hend : t.trimEnd = before ++ t.trim := by
      conv_lhs => rw [ht, ← List.append_assoc, trimEnd_append_of_all hafter,
        trimEnd_append_of_isTrimmed (isTrimmed_trim t) hne]
    have hsize : t.utf8Size = before.utf8Size + (t.trim.utf8Size + after.utf8Size) := by
      conv_lhs => rw [ht, utf8Size_append, utf8Size_append]
    refine ⟨before, after, ht, ?_, ?_⟩
    · rw [hstart, hend, hsize, utf8Size_append, utf8Size_append]
      omega
    · rw [hend, utf8Size_append]

/-! Where a line starts. -/

theorem exists_lineStart {ls : List Text} {offset start i : Nat} {raw : Text}
    (hstart : (startOffsets offset ls)[i]? = some start) (hraw : ls[i]? = some raw) :
    ∃ before after, joinLines ls = before ++ (raw ++ after) ∧ start = offset + before.utf8Size := by
  induction ls generalizing offset i with
  | nil => cases hraw
  | cons l ls ih =>
    cases i with
    | zero =>
      cases hstart
      cases hraw
      by_cases hls : ls = []
      · subst hls
        exact ⟨[], [], by simp [joinLines, join], rfl⟩
      · refine ⟨[], '\n' :: joinLines ls, ?_, rfl⟩
        rw [joinLines, join_cons _ _ hls, joinLines]
        simp
    | succ i =>
      obtain ⟨before, after, hjoin, hoffset⟩ := ih hstart hraw
      have hls : ls ≠ [] := by
        rintro rfl
        cases hraw
      refine ⟨l ++ '\n' :: before, after, ?_, ?_⟩
      · rw [joinLines, join_cons _ _ hls, ← joinLines, hjoin]
        simp
      · rw [hoffset, utf8Size_append, utf8Size_cons, show '\n'.utf8Size = 1 from rfl]
        omega

theorem length_startOffsets (ls : List Text) (offset : Nat) :
    (startOffsets offset ls).length = ls.length := by
  induction ls generalizing offset with
  | nil => rfl
  | cons l ls ih => rw [startOffsets, List.length_cons, List.length_cons, ih]

theorem le_lineStart {ls : List Text} {offset start j : Nat}
    (h : (startOffsets offset ls)[j]? = some start) : offset ≤ start := by
  induction ls generalizing offset j with
  | nil => cases h
  | cons l ls ih =>
    cases j with
    | zero => exact (Option.some.inj h).le
    | succ j =>
      have := ih h
      omega

/-- A line starts behind all earlier lines. -/
theorem lineStart_lt {ls : List Text} {offset i j start next : Nat} {raw : Text} (hij : i < j)
    (hi : (startOffsets offset ls)[i]? = some start) (hraw : ls[i]? = some raw)
    (hj : (startOffsets offset ls)[j]? = some next) : start + raw.utf8Size < next := by
  induction ls generalizing offset i j with
  | nil => cases hraw
  | cons l ls ih =>
    obtain ⟨j, rfl⟩ := Nat.exists_eq_succ_of_ne_zero (Nat.ne_zero_of_lt hij)
    cases i with
    | zero =>
      cases hi
      cases hraw
      exact le_lineStart hj
    | succ i => exact ih (Nat.lt_of_succ_lt_succ hij) hi hraw hj

end Text

/-! What the span of a line selects. -/

namespace Outline

variable {source : Text} {i j : Nat} {line : Text} {s t : Span}

theorem rawLine_of_line (h : (read source).lines[i]? = some line) :
    ∃ raw, source.rawLines[i]? = some raw ∧ raw.withoutReturn = line := by
  change (source.rawLines.map Text.withoutReturn)[i]? = some line at h
  rwa [List.getElem?_map, Option.map_eq_some_iff] at h

theorem exists_lineStarts (h : (read source).lines[i]? = some line) :
    ∃ start, (read source).lineStarts[i]? = some start := by
  obtain ⟨raw, hraw, -⟩ := rawLine_of_line h
  have hlt : i < (startOffsets 0 source.rawLines).length := by
    rw [Text.length_startOffsets]
    exact (List.getElem?_eq_some_iff.1 hraw).1
  exact ⟨_, List.getElem?_eq_getElem hlt⟩

/-- A line stands in the text where it starts; its carriage return stands behind it. -/
theorem exists_eq_append_line {start : Nat} (h : (read source).lines[i]? = some line)
    (hstart : (read source).lineStarts[i]? = some start) :
    ∃ before after, source = before ++ (line ++ after) ∧ start = before.utf8Size := by
  obtain ⟨raw, hraw, rfl⟩ := rawLine_of_line h
  obtain ⟨before, after, hsource, hoffset⟩ := Text.exists_lineStart hstart hraw
  rw [Text.joinLines_rawLines] at hsource
  rw [Nat.zero_add] at hoffset
  rcases raw.eq_withoutReturn with hr | hr
  · exact ⟨before, after, hr ▸ hsource, hoffset⟩
  · refine ⟨before, '\r' :: after, ?_, hoffset⟩
    rw [List.append_cons, ← hr]
    exact hsource

theorem lineSpan?_eq {start : Nat} (h : (read source).lines[i]? = some line)
    (hstart : (read source).lineStarts[i]? = some start) :
    (read source).lineSpan? i =
      some ⟨start + min (line.utf8Size - line.trimStart.utf8Size) line.trimEnd.utf8Size,
        start + line.trimEnd.utf8Size⟩ := by
  rw [lineSpan?, h, hstart]
  simp only [Nat.add_min_add_left]

theorem exists_selects (h : (read source).lines[i]? = some line) :
    ∃ s, (read source).lineSpan? i = some s ∧ s.Selects source line.trim := by
  obtain ⟨start, hstart⟩ := exists_lineStarts h
  obtain ⟨before, after, hsource, rfl⟩ := exists_eq_append_line h hstart
  obtain ⟨blanks, rest, hline, hfirst, hlast⟩ := line.exists_trim_offset
  refine ⟨_, lineSpan?_eq h hstart, ?_⟩
  have hsplit : source = (before ++ blanks) ++ (line.trim ++ (rest ++ after)) := by
    conv_lhs => rw [hsource, hline]
    simp only [List.append_assoc]
  have hselects := Text.selects_append hsplit
  rwa [Text.utf8Size_append, Nat.add_assoc, ← hlast, ← hfirst] at hselects

/-- The span of a line lies within the raw line. -/
theorem within_rawLine (h : (read source).lineSpan? i = some s) :
    ∃ start raw, (read source).lineStarts[i]? = some start ∧ source.rawLines[i]? = some raw ∧
      start ≤ s.start ∧ s.stop ≤ start + raw.utf8Size := by
  unfold lineSpan? at h
  split at h
  case h_2 => cases h
  case h_1 line start hline hstart =>
    cases h
    obtain ⟨raw, hraw, rfl⟩ := rawLine_of_line hline
    refine ⟨start, raw, hstart, hraw, le_min (Nat.le_add_right _ _) (Nat.le_add_right _ _),
      Nat.add_le_add_left ?_ _⟩
    obtain ⟨blanks, hblanks, -⟩ := raw.withoutReturn.exists_eq_trimEnd_append
    have htrim : raw.withoutReturn.utf8Size =
        raw.withoutReturn.trimEnd.utf8Size + blanks.utf8Size := by
      conv_lhs => rw [hblanks, Text.utf8Size_append]
    have hreturn : raw.withoutReturn.utf8Size ≤ raw.utf8Size := by
      rcases raw.eq_withoutReturn with hr | hr
      · rw [← hr]
      · conv_rhs => rw [hr, Text.utf8Size_append]
        exact Nat.le_add_right _ _
    omega

theorem stop_le_start (hij : i < j) (hs : (read source).lineSpan? i = some s)
    (ht : (read source).lineSpan? j = some t) : s.stop ≤ t.start := by
  obtain ⟨first, raw, hfirst, hraw, -, hstop⟩ := within_rawLine hs
  obtain ⟨next, -, hnext, -, hstart, -⟩ := within_rawLine ht
  have hlt := Text.lineStart_lt hij hfirst hraw hnext
  omega

end Outline

/-! What the labels of a report mark. -/

structure Label.Marks (o : Outline) (l : Label) (i : Nat) (part : Text) : Prop where
  ofLine : o.lineSpan? i = some l.span
  selects : l.span.Selects o.source part

def Label.MarksDeclaration (o : Outline) (l : Label) (n : Node) : Prop :=
  ∃ line, o.lines[n.line]? = some line ∧ (classify line).declared? = some n.aliasName ∧
    l.Marks o n.line line.trim

/-- The report is about what the outline has, and its labels mark that and nothing else. -/
inductive Report.Marks (o : Outline) (r : Report) : Prop
  | neverClosed {b : Node} {l : Label} (hb : b ∈ o.unclosed) (hcode : r.code = some "E100".toList)
      (hlabels : r.labels = some [l]) (hl : l.MarksDeclaration o b)
  | closesNothing {i : Nat} {l : Label} (hi : i ∈ o.unmatched o.source)
      (hcode : r.code = some "E101".toList) (hlabels : r.labels = some [l])
      (hl : l.Marks o i ['}'])
  | declaredAgain {first n : Node} {l m : Label} (hn : (first, n) ∈ o.redeclared)
      (hcode : r.code = some "E200".toList) (hlabels : r.labels = some [l, m])
      (hl : l.MarksDeclaration o n) (hm : m.MarksDeclaration o first)

namespace Outline

variable {source : Text}

theorem marks_line {i : Nat} {line : Text} (h : (read source).lines[i]? = some line)
    (message : Text) (isPrimary : Bool) :
    Label.Marks (read source) ⟨Lint.spanOf (read source) i, message, isPrimary⟩ i line.trim := by
  obtain ⟨s, hs, hselects⟩ := exists_selects h
  rw [Lint.spanOf, hs, Option.getD_some]
  exact ⟨hs, hselects⟩

theorem marks_declaration {n : Node} (hn : n ∈ (read source).nodes) (message : Text)
    (isPrimary : Bool) :
    Label.MarksDeclaration (read source) ⟨Lint.spanOf (read source) n.line, message, isPrimary⟩
      n := by
  obtain ⟨p, hp⟩ := List.mem_iff_getElem?.1 hn
  obtain ⟨c, hc, hdeclares⟩ := (describes_read source).declared hp
  obtain ⟨line, hline, hclass⟩ := classified hc
  refine ⟨line, hline, ?_, marks_line hline _ _⟩
  rw [hclass, Line.declared?, hdeclares.isElement, hdeclares.aliasName]
  rfl

theorem marks_unmatched {i : Nat} (h : i ∈ (read source).unmatched source) (message : Text)
    (isPrimary : Bool) :
    Label.Marks (read source) ⟨Lint.spanOf (read source) i, message, isPrimary⟩ i ['}'] := by
  rw [← unmatched_eq] at h
  obtain ⟨line, hline, hclass⟩ := classified ((describes_read source).mem_stray.1 h).1
  rw [← trim_of_isBlockEnd hclass]
  exact marks_line hline _ _

theorem checkText_error {f : Failure} (h : checkText source = .error f) :
    f = .lint (read source).lint source := by
  unfold checkText at h
  rcases (read source).check_eq_ok_or_error with hcheck | hcheck
  · rw [hcheck] at h
    cases h
  · rw [hcheck] at h
    exact (Except.error.inj h).symm

theorem marks_of_mem_reports {r : Report}
    (h : r ∈ (Failure.lint (read source).lint source).reports) : r.Marks (read source) := by
  obtain ⟨d, hd, rfl⟩ := List.mem_map.1 h
  rw [lint_eq, List.mem_append, List.mem_append, List.mem_map, List.mem_map, List.mem_map] at hd
  rcases hd with (⟨b, hb, rfl⟩ | ⟨i, hi, rfl⟩) | ⟨⟨first, n⟩, hn, rfl⟩
  · exact .neverClosed hb rfl rfl (marks_declaration (List.mem_filter.1 hb).1 _ _)
  · exact .closesNothing hi rfl rfl (marks_unmatched hi _ _)
  · obtain ⟨p, hagain, hfind⟩ := mem_redeclared_iff.1 hn
    have hfirst := List.mem_of_mem_take (List.mem_of_find?_eq_some hfind)
    exact .declaredAgain hn rfl rfl (marks_declaration (List.mem_of_getElem? hagain) _ _)
      (marks_declaration hfirst _ _)

/-- The span of each line selects it trimmed and stands behind the spans of all lines before, and
the reports of a failed check mark in the text that failed what they are about. -/
structure SpansExact (source : Text) : Prop where
  line : ∀ i line, (read source).lines[i]? = some line →
    ∃ s, (read source).lineSpan? i = some s ∧ s.Selects source line.trim
  ordered : ∀ i j s t, i < j → (read source).lineSpan? i = some s →
    (read source).lineSpan? j = some t → s.stop ≤ t.start
  reports : ∀ f, checkText source = .error f →
    (∃ findings, f = .lint findings source) ∧ ∀ r ∈ f.reports, r.Marks (read source)

theorem spansExact (source : Text) : SpansExact source where
  line _ _ h := exists_selects h
  ordered _ _ _ _ hij hs ht := stop_le_start hij hs ht
  reports _ h := by
    rw [checkText_error h]
    exact ⟨⟨_, rfl⟩, fun _ hr => marks_of_mem_reports hr⟩

/-- Blanks of two and of three bytes, a carriage return alone, and a report of each kind. -/
theorem spansExact_mixed_lineEnds :
    let source : Text := ("System(é, \"A\")\u2003\r\n\u00A0\x7d\r\n" ++
      "\tSystem_Boundary(é, \"B\") \x7b\n \u3000\r").toList
    (List.range 4).map (read source).lineSpan? =
        [some ⟨0, 15⟩, some ⟨22, 23⟩, some ⟨26, 52⟩, some ⟨53, 53⟩] ∧
      (∃ f, checkText source = .error f ∧
        f.reports.map Report.code = ["E100", "E101", "E200"].map (some ·.toList)) ∧
      SpansExact source := by
  intro source
  have hspans : (List.range 4).map (read source).lineSpan? =
      [some ⟨0, 15⟩, some ⟨22, 23⟩, some ⟨26, 52⟩, some ⟨53, 53⟩] := by
    decide +kernel
  have hfails : (read source).lint.any Finding.isError = true := by decide +kernel
  have hcheck : checkText source = .error (.lint (read source).lint source) := by
    rw [checkText, check, Findings.verdict, if_pos hfails]
    rfl
  exact ⟨hspans, ⟨_, hcheck, by decide +kernel⟩, spansExact source⟩

end Outline
end C4Diagram
