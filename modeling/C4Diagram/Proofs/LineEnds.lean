import C4Diagram.Failure
import C4Diagram.Normal.Document
import C4Diagram.Proofs.BraceNesting
import C4Diagram.Proofs.Normal.Clean
import C4Diagram.Proofs.Spans
import C4Diagram.Proofs.Text.Returns
import Mathlib.Data.List.Find
import Mathlib.Data.List.Forall2

/-! A diagram with carriage returns in front of its line feeds is the same diagram. Its lines are
the same, so everything that is read off them is; what counts bytes moves by one for every line
before. Normalizing drops the fences first, while the carriage returns still stand: a fence holds no
line end, so the same fences are found. -/

namespace C4Diagram

/-! Offsets. -/

namespace Text

/-- Each line starts later by its number: one carriage return stands at the end of each line
before it. -/
theorem startOffsets_returned (ls : List Text) (offset before i : Nat) :
    (startOffsets (offset + before) (returned ls))[i]? =
      (startOffsets offset ls)[i]?.map (· + (before + i)) := by
  induction ls generalizing offset before i with
  | nil => rfl
  | cons l ls ih =>
    cases i with
    | zero => cases ls <;> rfl
    | succ i =>
      by_cases hls : ls = []
      · subst hls
        rfl
      · have hnext : offset + before + (l ++ ['\r']).utf8Size + 1 =
            offset + l.utf8Size + 1 + (before + 1) := by
          rw [utf8Size_append, show utf8Size ['\r'] = 1 from rfl]
          omega
        have hshift : before + 1 + i = before + (i + 1) := by omega
        rw [returned_cons l hls, startOffsets, startOffsets, List.getElem?_cons_succ,
          List.getElem?_cons_succ, hnext, ih, hshift]

end Text

def Span.moved (s : Span) (bytes : Nat) : Span := ⟨s.start + bytes, s.stop + bytes⟩

namespace Outline

/-- Only the text itself and the offsets of the lines differ. -/
theorem read_withReturns {source : Text} (h : '\r' ∉ source) :
    read source.withReturns =
      { read source with
        source := source.withReturns
        lineStarts := startOffsets 0 source.withReturns.rawLines } := by
  unfold read
  rw [Text.lines_withReturns h]

theorem lineSpan?_withReturns {source : Text} (h : '\r' ∉ source) (i : Nat) :
    (read source.withReturns).lineSpan? i = ((read source).lineSpan? i).map (·.moved i) := by
  have hstart : (startOffsets 0 source.withReturns.rawLines)[i]? =
      (startOffsets 0 source.rawLines)[i]?.map (· + i) := by
    rw [Text.rawLines_withReturns, show 0 = 0 + 0 from rfl, Text.startOffsets_returned,
      Nat.zero_add, Nat.zero_add]
  rw [read_withReturns h]
  unfold lineSpan?
  dsimp only
  rw [hstart, show (read source).lineStarts = startOffsets 0 source.rawLines from rfl]
  cases (read source).lines[i]? with
  | none => rfl
  | some line =>
    cases (startOffsets 0 source.rawLines)[i]? with
    | none => rfl
    | some offset =>
      simp only [Option.map_some, Span.moved, Nat.add_right_comm offset i, Nat.add_min_add_right]

theorem isSome_lineSpan? {source : Text} {i : Nat} (h : i < (read source).lines.length) :
    ((read source).lineSpan? i).isSome = true := by
  obtain ⟨s, hs, -⟩ := exists_selects (List.getElem?_eq_getElem h)
  rw [hs]
  rfl

end Outline

/-! Findings. -/

/-- The label, where it marks a line of the outline, moved by the number of that line. -/
def Label.Moved (o : Outline) (l m : Label) : Prop :=
  ∃ i, o.lineSpan? i = some l.span ∧ m = { l with span := l.span.moved i }

def Finding.Moved (o : Outline) (f g : Finding) : Prop :=
  ∃ labels, List.Forall₂ (Label.Moved o) f.labels labels ∧ g = { f with labels := labels }

inductive SameVerdict (R : Finding → Finding → Prop) (s t : Text) :
    Except Failure (List Finding) → Except Failure (List Finding) → Prop
  | passed {fs gs : List Finding} (h : List.Forall₂ R fs gs) : SameVerdict R s t (.ok fs) (.ok gs)
  | failed {fs gs : List Finding} (h : List.Forall₂ R fs gs) :
    SameVerdict R s t (.error (.lint fs s)) (.error (.lint gs t))

namespace Lint

variable {o c : Outline}

theorem moved_label (hspan : ∀ i, c.lineSpan? i = (o.lineSpan? i).map (·.moved i)) {i : Nat}
    (hi : (o.lineSpan? i).isSome = true) (message : Text) (isPrimary : Bool) :
    Label.Moved o ⟨spanOf o i, message, isPrimary⟩ ⟨spanOf c i, message, isPrimary⟩ := by
  obtain ⟨span, hs⟩ := Option.isSome_iff_exists.1 hi
  refine ⟨i, ?_, ?_⟩
  · rw [spanOf, hs, Option.getD_some]
  · rw [spanOf, spanOf, hspan, hs, Option.map_some, Option.getD_some, Option.getD_some]

theorem moved_repeats (hspan : ∀ i, c.lineSpan? i = (o.lineSpan? i).map (·.moved i))
    {seen : List (Text × Nat)} {ns : List Node}
    (hseen : ∀ e ∈ seen, (o.lineSpan? e.2).isSome = true)
    (hns : ∀ n ∈ ns, (o.lineSpan? n.line).isSome = true) :
    List.Forall₂ (Finding.Moved o) (repeats o seen ns) (repeats c seen ns) := by
  induction ns generalizing seen with
  | nil => exact .nil
  | cons n ns ih =>
    rw [List.forall_mem_cons] at hns
    rw [repeats, repeats]
    cases hfirst : seen.find? (·.1 == n.aliasName) with
    | some entry =>
      have hentry := hseen entry (List.mem_of_find?_eq_some hfirst)
      refine .cons ⟨_, ?_, rfl⟩ (ih hseen hns.2)
      exact .cons (moved_label hspan hns.1 _ _) (.cons (moved_label hspan hentry _ _) .nil)
    | none =>
      refine ih (fun e he => ?_) hns.2
      rcases List.mem_append.1 he with he | he
      · exact hseen e he
      · rw [List.mem_singleton] at he
        exact he ▸ hns.1

/-- Findings of one line each correspond one by one. -/
theorem moved_map {α : Type} {f g : α → Finding} {xs : List α}
    (h : ∀ x ∈ xs, Finding.Moved o (f x) (g x)) :
    List.Forall₂ (Finding.Moved o) (xs.map f) (xs.map g) := by
  rw [List.forall₂_map_left_iff, List.forall₂_map_right_iff]
  exact List.forall₂_same.2 h

theorem any_isError_moved {fs gs : List Finding} (h : List.Forall₂ (Finding.Moved o) fs gs) :
    gs.any Finding.isError = fs.any Finding.isError := by
  induction h with
  | nil => rfl
  | cons hfg _ ih =>
    obtain ⟨labels, -, rfl⟩ := hfg
    rw [List.any_cons, List.any_cons, ih]
    rfl

end Lint

namespace Outline

/-- Every line that a finding marks is a line of the text. -/
theorem moved_lint {source : Text} (h : '\r' ∉ source) :
    List.Forall₂ (Finding.Moved (read source)) (read source).lint
      (read source.withReturns).lint := by
  have hdescribed := describes_read source
  have hspan := lineSpan?_withReturns h
  have hnode : ∀ n ∈ (read source).nodes, ((read source).lineSpan? n.line).isSome = true := by
    intro n hn
    obtain ⟨p, hp⟩ := List.mem_iff_getElem?.1 hn
    exact isSome_lineSpan? (by simpa using hdescribed.line_lt hp)
  have hstray : ∀ i ∈ (read source).strayClosings,
      ((read source).lineSpan? i).isSome = true := by
    intro i hi
    exact isSome_lineSpan? (by simpa using hdescribed.stray_lt hi)
  have hopen : ∀ b ∈ (read source).boundaries.filter (fun b => b.closingLine.isNone),
      ((read source).lineSpan? b.line).isSome = true := by
    intro b hb
    rw [boundaries_read] at hb
    exact hnode b (List.mem_filter.1 (List.mem_filter.1 hb).1).1
  have hsame : (read source.withReturns).lint =
      ((read source).boundaries.filter (fun b => b.closingLine.isNone)).map
          (Lint.neverClosed (read source.withReturns)) ++
        (read source).strayClosings.map (Lint.closesNothing (read source.withReturns)) ++
        Lint.repeats (read source.withReturns) [] (read source).nodes := by
    rw [read_withReturns h]
    rfl
  rw [hsame]
  unfold lint
  refine List.rel_append (List.rel_append ?_ ?_) ?_
  · exact Lint.moved_map fun b hb =>
      ⟨_, .cons (Lint.moved_label hspan (hopen b hb) _ _) .nil, rfl⟩
  · exact Lint.moved_map fun i hi =>
      ⟨_, .cons (Lint.moved_label hspan (hstray i hi) _ _) .nil, rfl⟩
  · exact Lint.moved_repeats hspan (fun e he => absurd he List.not_mem_nil) hnode

theorem sameVerdict_withReturns {source : Text} (h : '\r' ∉ source) :
    SameVerdict (Finding.Moved (read source)) source source.withReturns (checkText source)
      (checkText source.withReturns) := by
  have hmoved := moved_lint h
  unfold checkText check Findings.verdict
  rw [Lint.any_isError_moved hmoved]
  split
  · exact .failed hmoved
  · exact .passed hmoved

end Outline

/-! Fences. -/

theorem lineEnd_not_mem_fenceTags : ∀ tag ∈ fenceTags, '\n' ∉ tag ∧ '\r' ∉ tag := by decide

theorem fenceTagLength_withReturns (t : Text) :
    fenceTagLength t.withReturns = fenceTagLength t := by
  have htag : fenceTags.find? t.withReturns.startsWithLowered =
      fenceTags.find? t.startsWithLowered :=
    List.find?_congr fun tag htag =>
      have hends := lineEnd_not_mem_fenceTags tag htag
      Text.startsWithLowered_withReturns hends.1 hends.2 t
  rw [fenceTagLength, fenceTagLength, htag]

theorem fenceLength_withReturns (t : Text) : fenceLength t.withReturns = fenceLength t := by
  rw [fenceLength, fenceLength, Text.after?_withReturns (by decide) (by decide)]
  cases t.after? fenceMark with
  | none => rfl
  | some rest => simp only [Option.map_some, fenceTagLength_withReturns]

theorem lineFeed_not_mem_fenceTag (t : Text) : '\n' ∉ t.take (fenceTagLength t) := by
  unfold fenceTagLength
  cases h : fenceTags.find? t.startsWithLowered with
  | none => exact List.not_mem_nil
  | some tag =>
    have htag := lineEnd_not_mem_fenceTags tag (List.mem_of_find?_eq_some h)
    have hstart : t.startsWithLowered tag = true := List.find?_some h
    have hpre : tag <+: t.lowered := List.isPrefixOf_iff_prefix.1 hstart
    intro hm
    refine htag.1 ?_
    have hlow : '\n'.toLower ∈ (t.take tag.length).map Char.toLower := List.mem_map_of_mem hm
    rw [List.map_take] at hlow
    rwa [List.prefix_iff_eq_take.1 hpre]

theorem lineFeed_not_mem_fence (t : Text) : '\n' ∉ t.take (fenceLength t) := by
  unfold fenceLength
  cases h : t.after? fenceMark with
  | none => exact List.not_mem_nil
  | some rest =>
    rw [Text.after?_eq_some_iff] at h
    dsimp only
    rw [h, List.take_length_add_append, List.mem_append, not_or]
    exact ⟨Text.lineFeed_not_mem_fenceMark, lineFeed_not_mem_fenceTag rest⟩

/-- Dropping fences and adding carriage returns commute as long as no line feed is skipped. -/
theorem dropFences_withReturns {skip : Nat} {t : Text} (h : '\n' ∉ t.take skip) :
    dropFences skip t.withReturns = (dropFences skip t).withReturns := by
  induction t generalizing skip with
  | nil => rfl
  | cons c r ih =>
    cases skip with
    | succ n =>
      rw [List.take_succ_cons, List.mem_cons, not_or] at h
      rw [Text.withReturns_cons (Ne.symm h.1), dropFences, dropFences, ih h.2]
    | zero =>
      by_cases hc : c = '\n'
      · subst hc
        have hreturn (r : Text) : fenceLength ('\r' :: r) = 0 := rfl
        have hfeed (r : Text) : fenceLength ('\n' :: r) = 0 := rfl
        rw [Text.withReturns_lineFeed, dropFences_cons (hreturn _), dropFences_cons (hfeed _),
          dropFences_cons (hfeed _), Text.withReturns_lineFeed, ih (by simp)]
      · have hlength := fenceLength_withReturns (c :: r)
        have hfence := lineFeed_not_mem_fence (c :: r)
        rw [Text.withReturns_cons hc] at hlength ⊢
        rw [dropFences, dropFences, hlength]
        cases hl : fenceLength (c :: r) with
        | zero =>
          dsimp only
          rw [Text.withReturns_cons hc, ih (by simp)]
        | succ n =>
          rw [hl, List.take_succ_cons, List.mem_cons, not_or] at hfence
          exact ih hfence.2

theorem withoutReturns_withReturns (t : Text) :
    t.withReturns.withoutReturns = t.withoutReturns := by
  rw [Text.withoutReturns, Text.withoutReturns, Text.rawLines_withReturns]
  refine congrArg Text.joinLines (Text.map_returned fun l _ => ?_)
  rw [Text.dropEndWhile_eq_rdropWhile, List.rdropWhile_concat_pos _ _ _ (by decide)]
  rfl

theorem cleaned_withReturns (t : Text) : t.withReturns.cleaned = t.cleaned := by
  rw [Text.cleaned, Text.cleaned, Text.withoutFences, Text.withoutFences,
    dropFences_withReturns (by simp), withoutReturns_withReturns]

theorem normalize_withReturns (t : Text) (level : Level) :
    normalize t.withReturns level = normalize t level := by
  unfold normalize
  rw [cleaned_withReturns]

/-- The two texts are read, edited, checked and normalized alike; spans and the findings of the
check move by the numbers of their lines. -/
structure SameDocument (s t : Text) : Prop where
  lines : (Outline.read t).lines = (Outline.read s).lines
  nodes : (Outline.read t).nodes = (Outline.read s).nodes
  boundaries : (Outline.read t).boundaries = (Outline.read s).boundaries
  aliases : (Outline.read t).aliases = (Outline.read s).aliases
  strayClosings : (Outline.read t).strayClosings = (Outline.read s).strayClosings
  lineSpan : ∀ i, (Outline.read t).lineSpan? i = ((Outline.read s).lineSpan? i).map (·.moved i)
  addElement : ∀ level e, Editor.addElement level t e = Editor.addElement level s e
  addRelation : ∀ r, Editor.addRelation t r = Editor.addRelation s r
  check : SameVerdict (Finding.Moved (Outline.read s)) s t (checkText s) (checkText t)
  normalize : ∀ level, normalize t level = normalize s level

/-- Carriage returns in front of all line feeds make no other document. -/
theorem sameDocument_withReturns {source : Text} (h : '\r' ∉ source) :
    SameDocument source source.withReturns := by
  have hread := Outline.read_withReturns h
  refine ⟨by rw [hread], by rw [hread], by rw [hread]; rfl, by rw [hread], by rw [hread],
    Outline.lineSpan?_withReturns h, fun level e => ?_, fun r => ?_,
    Outline.sameVerdict_withReturns h, normalize_withReturns source⟩
  · unfold Editor.addElement
    rw [hread]
    rfl
  · unfold Editor.addRelation
    rw [hread]
    rfl

/-- A fenced text with a block that is never closed, a stray block end and an alias that comes
twice. -/
theorem sameDocument_withReturns_fenced :
    let source : Text := ("\x60\x60\x60puml\n\x7d\nSystem(s, \"é\")\n" ++
      "  System_Boundary(s, \"B\") \x7b\n\x60\x60\x60\n").toList
    '\r' ∉ source ∧
      source.withReturns = ("\x60\x60\x60puml\r\n\x7d\r\nSystem(s, \"é\")\r\n" ++
        "  System_Boundary(s, \"B\") \x7b\r\n\x60\x60\x60\r\n").toList ∧
      SameDocument source source.withReturns := by
  intro source
  have hreturn : '\r' ∉ source := by decide +kernel
  exact ⟨hreturn, by decide +kernel, sameDocument_withReturns hreturn⟩

end C4Diagram
