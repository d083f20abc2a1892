import C4Diagram.Proofs.Normal.Header

/-! Normalizing what was normalized. A clean text that has wrappers, an include and a layout
call stays as it is at every level, and normalizing ends in such a text but for one case: the
text has its wrappers and its layout call and lacks the include, and the include line is put
between the name of the layout and its parenthesis. Then the call is torn apart, and the next
time a layout is added. -/

namespace C4Diagram

namespace Text

theorem head?_join {sep p : Text} {parts : List Text} {c : Char} (hp : parts.head? = some p)
    (hc : p.head? = some c) : (join sep parts).head? = some c := by
  obtain ⟨ps, rfl⟩ := List.head?_eq_some_iff.1 hp
  by_cases hps : ps = []
  · subst hps
    exact hc
  · rw [join_cons _ _ hps, List.append_assoc, List.head?_append, hc, Option.some_or]

theorem getLast?_join {sep p : Text} {parts : List Text} {c : Char} (hp : parts.getLast? = some p)
    (hc : p.getLast? = some c) : (join sep parts).getLast? = some c := by
  obtain ⟨ps, rfl⟩ := List.getLast?_eq_some_iff.1 hp
  by_cases hps : ps = []
  · subst hps
    exact hc
  · rw [join_append _ hps (by simp), List.getLast?_append]
    change (p.getLast?.or _) = _
    rw [hc, Option.some_or]

theorem joinLines_take_isPrefix (ls : List Text) (n : Nat) :
    joinLines (ls.take n) <+: joinLines ls := by
  by_cases hx : ls.take n = []
  · rw [hx]
    exact List.nil_prefix
  · by_cases hy : ls.drop n = []
    · refine ⟨[], ?_⟩
      rw [List.append_nil, List.take_of_length_le (List.drop_eq_nil_iff.1 hy)]
    · conv_rhs =>
        rw [← List.take_append_drop n ls, joinLines, join_append _ hx hy, List.append_assoc]
      exact List.prefix_append _ _

theorem joinLines_isSuffix {ls ms : List Text} (h : ms <:+ ls) : joinLines ms <:+ joinLines ls := by
  obtain ⟨front, rfl⟩ := h
  by_cases hx : front = []
  · subst hx
    exact List.suffix_rfl
  · by_cases hy : ms = []
    · subst hy
      exact List.nil_suffix
    · rw [joinLines, joinLines, join_append _ hx hy]
      exact List.suffix_append _ _

end Text

/-! The parts that the header is put between. -/

def startCount (t : Text) : Nat := t.rawLines.findIdx (·.mentionsLowered startMarker) + 1

def aboveHeader (t : Text) : Text := Text.joinLines (t.rawLines.take (startCount t))

def belowHeader (t : Text) : Text := Text.joinLines (t.rawLines.drop (startCount t))

def lowerLines (t : Text) : List Text := (t.rawLines.drop (startCount t)).dropWhile List.isEmpty

def partsWith (t : Text) (header : List Text) : List Text :=
  [aboveHeader t] ++ header ++
    if (lowerLines t).isEmpty then [] else [Text.joinLines (lowerLines t)]

theorem insertHeader_eq (t : Text) (header : List Text) :
    insertHeader t header = Text.join partSeparator (partsWith t header) := rfl

/-- The text has a layout call, but neither the lines down to the start marker nor the lines
below have one, and an include line is going to be put between them. -/
def LosesLayoutCall (t : Text) : Prop :=
  hasWrappers t = true ∧ hasLibraryInclude t = false ∧ hasLayoutCall t = true ∧
    hasLayoutCall (aboveHeader t) = false ∧ hasLayoutCall (belowHeader t) = false

instance (t : Text) : Decidable (LosesLayoutCall t) := inferInstanceAs (Decidable (_ ∧ _))

structure IsComplete (t : Text) : Prop extends t.IsClean where
  wrappers : hasWrappers t = true
  libraryInclude : hasLibraryInclude t = true
  layoutCall : hasLayoutCall t = true

theorem normalize_of_isComplete {t : Text} (h : IsComplete t) (level : Level) :
    normalize t level = t := by
  have hheader : missingHeader t level = [] := by
    simp [missingHeader, h.libraryInclude, h.layoutCall]
  unfold normalize
  rw [Text.cleaned_of_isClean h.toIsClean]
  simp only [hheader, h.wrappers]
  split
  · next he => exact (List.isEmpty_iff.1 he).symm
  · rfl

/-! The lines of a header. -/

-- one evaluation for all levels, as they share the address of the library
theorem includeLine_facts : ∀ level ∈ Level.all,
    (¬ fenceMark <:+: level.includeLine ∧
      ∀ m ∈ level.includeLine.rawLines, m.getLast? ≠ some '\r') ∧
    level.includeLine.getLast? = some 'l' ∧ hasLibraryInclude level.includeLine = true ∧
    ∀ name ∈ layoutNames, level.includeLine.mentionsLowered name.lowered = false := by
  decide +kernel

theorem layout_facts : ∀ l ∈ defaultLayout,
    (¬ fenceMark <:+: l ∧ ∀ m ∈ l.rawLines, m.getLast? ≠ some '\r') ∧ l.getLast? = some ')' := by
  decide +kernel

theorem hasLibraryInclude_includeLine (level : Level) :
    hasLibraryInclude level.includeLine = true :=
  (includeLine_facts level level.mem_all).2.2.1

theorem includeLine_unnamed (level : Level) :
    ∀ name ∈ layoutNames, level.includeLine.mentionsLowered name.lowered = false :=
  (includeLine_facts level level.mem_all).2.2.2

theorem mem_missingHeader {t l : Text} {level : Level} (h : l ∈ missingHeader t level) :
    l = level.includeLine ∨ l ∈ defaultLayout := by
  unfold missingHeader at h
  rcases List.mem_append.1 h with h | h
  · split at h
    · cases h
    · exact .inl (List.mem_singleton.1 h)
  · split at h
    · cases h
    · exact .inr h

theorem unmarked_of_mem_missingHeader {t l : Text} {level : Level} (h : l ∈ missingHeader t level) :
    Text.Unmarked l := by
  rcases mem_missingHeader h with rfl | h
  · obtain ⟨⟨hfence, hreturn⟩, -⟩ := includeLine_facts level level.mem_all
    exact ⟨hfence, hreturn⟩
  · obtain ⟨⟨hfence, hreturn⟩, -⟩ := layout_facts l h
    exact ⟨hfence, hreturn⟩

theorem getLast?_of_mem_missingHeader {t l : Text} {level : Level} (h : l ∈ missingHeader t level) :
    ∃ c, l.getLast? = some c ∧ isBlank c = false := by
  rcases mem_missingHeader h with rfl | h
  · exact ⟨'l', (includeLine_facts level level.mem_all).2.1, rfl⟩
  · exact ⟨')', (layout_facts l h).2, rfl⟩

/-- A text has an include and a layout call once the header lines that it is missing are among
its parts. -/
theorem hasLibraryInclude_of_header {t : Text} (level : Level) {parts : List Text}
    (hparts : ∀ l ∈ missingHeader t level, l ∈ parts)
    (ht : hasLibraryInclude t = true → ∃ p ∈ parts, hasLibraryInclude p = true) :
    hasLibraryInclude (Text.join partSeparator parts) = true := by
  rw [hasLibraryInclude_join, List.any_eq_true]
  cases hi : hasLibraryInclude t with
  | true => exact ht hi
  | false =>
    exact ⟨level.includeLine, hparts _ (by simp [missingHeader, hi]),
      hasLibraryInclude_includeLine level⟩

theorem hasLayoutCall_of_header {t : Text} (level : Level) {parts : List Text}
    (h : hasLayoutCall t = false) (hparts : ∀ l ∈ missingHeader t level, l ∈ parts) :
    hasLayoutCall (Text.join partSeparator parts) = true := by
  obtain ⟨l, hl, hc⟩ : ∃ l ∈ defaultLayout, hasLayoutCall l = true := by decide +kernel
  exact hasLayoutCall_of_isInfix (Text.infix_join (hparts l (by simp [missingHeader, h, hl]))) hc

/-! A text that lacks a marker is wrapped as a whole. -/

theorem isComplete_wrapped {t : Text} (h : t.IsClean) (level : Level) :
    IsComplete
      (Text.join partSeparator ([startMarker] ++ missingHeader t level ++ [t, endMarker])) where
  toUnmarked := by
    refine Text.unmarked_join fun p hp => ?_
    rcases List.mem_append.1 hp with hp | hp
    · rcases List.mem_append.1 hp with hp | hp
      · rw [List.mem_singleton.1 hp]
        constructor <;> decide +kernel
      · exact unmarked_of_mem_missingHeader hp
    · rcases List.mem_cons.1 hp with rfl | hp
      · exact h.toUnmarked
      · rw [List.mem_singleton.1 hp]
        constructor <;> decide +kernel
  first {c} hc := by
    rw [Text.head?_join (p := startMarker) (c := '@') rfl rfl, Option.some.injEq] at hc
    exact hc ▸ rfl
  last {c} hc := by
    rw [Text.getLast?_join (p := endMarker) (c := 'l')
      (List.getLast?_append_of_ne_nil _ (by simp)) rfl, Option.some.injEq] at hc
    exact hc ▸ rfl
  wrappers := by
    rw [hasWrappers, Bool.and_eq_true]
    refine ⟨?_, ?_⟩
    · exact Text.mentionsLowered_of_isInfix (Text.infix_join (p := startMarker) (by simp))
        (by decide +kernel)
    · exact Text.mentionsLowered_of_isInfix (Text.infix_join (p := endMarker) (by simp))
        (by decide +kernel)
  libraryInclude :=
    hasLibraryInclude_of_header level (fun l hl => by simp [hl]) fun ht => ⟨t, by simp, ht⟩
  layoutCall := by
    cases hl : hasLayoutCall t with
    | true => exact hasLayoutCall_of_isInfix (Text.infix_join (by simp)) hl
    | false => exact hasLayoutCall_of_header level hl fun l hl => by simp [hl]

/-! A text with both markers gets the header between two of its lines. -/

theorem mem_partsWith {t p : Text} {header : List Text} (hp : p ∈ partsWith t header) :
    p ∈ header ∨ ∃ ls, p = Text.joinLines ls ∧ ∀ l ∈ ls, l ∈ t.rawLines := by
  rcases List.mem_append.1 hp with hp | hp
  · rcases List.mem_append.1 hp with hp | hp
    · exact .inr ⟨_, List.mem_singleton.1 hp, fun l hl => List.mem_of_mem_take hl⟩
    · exact .inl hp
  · split at hp
    · cases hp
    · refine .inr ⟨_, List.mem_singleton.1 hp, fun l hl => ?_⟩
      exact List.mem_of_mem_drop ((List.dropWhile_suffix _).subset hl)

theorem mem_partsWith_of_mem {t l : Text} {header : List Text} (hl : l ∈ header) :
    l ∈ partsWith t header :=
  List.mem_append_left _ (List.mem_append_right _ hl)

/-- Every line with something on it stands above the header or below it. -/
theorem exists_part_of_line {t l : Text} (header : List Text) (hl : l ∈ t.rawLines) (hne : l ≠ []) :
    ∃ ls, Text.joinLines ls ∈ partsWith t header ∧ l ∈ ls ∧ ∀ m ∈ ls, m ∈ t.rawLines := by
  rw [← List.take_append_drop (startCount t) t.rawLines, List.mem_append] at hl
  rcases hl with hl | hl
  · exact ⟨_, List.mem_append_left _ (List.mem_append_left _ (List.mem_singleton_self _)), hl,
      fun m hm => List.mem_of_mem_take hm⟩
  · have hlow : l ∈ lowerLines t := by
      rw [← List.takeWhile_append_dropWhile (p := List.isEmpty)
        (l := t.rawLines.drop (startCount t)), List.mem_append] at hl
      refine hl.resolve_left fun hw => hne ?_
      simpa using List.mem_takeWhile_imp hw
    have hnil : (lowerLines t).isEmpty = false := by simpa using List.ne_nil_of_mem hlow
    refine ⟨lowerLines t, ?_, hlow,
      fun m hm => List.mem_of_mem_drop ((List.dropWhile_suffix _).subset hm)⟩
    rw [partsWith, hnil]
    exact List.mem_append_right _ (List.mem_singleton_self _)

theorem mentionsLowered_insertHeader {t word : Text} (hw : word ≠ []) (hl : '\n' ∉ word)
    (header : List Text)
    (h : t.mentionsLowered word = true) : (insertHeader t header).mentionsLowered word = true := by
  obtain ⟨l, hmem, hword⟩ := (Text.mentionsLowered_iff_rawLines hw hl).1 h
  have hne : l ≠ [] := by
    rintro rfl
    rw [Text.mentionsLowered_iff] at hword
    exact hw (List.infix_nil.1 hword)
  obtain ⟨ls, hp, hls, -⟩ := exists_part_of_line header hmem hne
  exact Text.mentionsLowered_of_isInfix (Text.infix_join hp)
    ((Text.mentionsLowered_joinLines hw hl).2 ⟨l, hls, hword⟩)

theorem hasWrappers_insertHeader {t : Text} (header : List Text) (h : hasWrappers t = true) :
    hasWrappers (insertHeader t header) = true := by
  rw [hasWrappers, Bool.and_eq_true] at h ⊢
  exact ⟨mentionsLowered_insertHeader (by decide) (by decide) header h.1,
    mentionsLowered_insertHeader (by decide) (by decide) header h.2⟩

theorem hasLibraryInclude_insertHeader (t : Text) (level : Level) :
    hasLibraryInclude (insertHeader t (missingHeader t level)) = true := by
  rw [insertHeader_eq]
  refine hasLibraryInclude_of_header level (fun l hl => mem_partsWith_of_mem hl) fun ht => ?_
  obtain ⟨l, hl, hi⟩ := List.any_eq_true.1 ht
  have hne : l ≠ [] := by
    rintro rfl
    revert hi
    decide
  obtain ⟨ls, hp, hls, hraw⟩ := exists_part_of_line (missingHeader t level) hl hne
  refine ⟨_, hp, ?_⟩
  rw [hasLibraryInclude_joinLines (fun m hm => Text.lineFeed_not_mem (hraw m hm))
    (List.ne_nil_of_mem hls)]
  exact List.any_eq_true.2 ⟨l, hls, hi⟩

theorem unmarked_of_lines {t : Text} (h : t.Unmarked) {ls : List Text}
    (hls : ∀ l ∈ ls, l ∈ t.rawLines) : (Text.joinLines ls).Unmarked := by
  refine Text.unmarked_joinLines fun l hl =>
    ⟨Text.lineFeed_not_mem (hls l hl), fun hf => ?_, h.returnFree l (hls l hl)⟩
  refine h.fenceFree (hf.trans ?_)
  rw [← Text.joinLines_rawLines t]
  exact Text.infix_join (hls l hl)

theorem aboveHeader_ne_nil {t : Text} (hw : hasWrappers t = true) : aboveHeader t ≠ [] := by
  rw [hasWrappers, Bool.and_eq_true] at hw
  have hlt : t.rawLines.findIdx (·.mentionsLowered startMarker) < t.rawLines.length :=
    List.findIdx_lt_length_of_exists
      ((Text.mentionsLowered_iff_rawLines (by decide) (by decide)).1 hw.1)
  have hfirst := List.findIdx_getElem (w := hlt)
  have habove : (aboveHeader t).mentionsLowered startMarker = true := by
    refine (Text.mentionsLowered_joinLines (by decide) (by decide)).2 ⟨_, ?_, hfirst⟩
    exact List.mem_take_iff_getElem.2 ⟨_, by rw [startCount]; omega, rfl⟩
  intro hnil
  rw [hnil] at habove
  revert habove
  decide

theorem aboveHeader_isPrefix (t : Text) : aboveHeader t <+: t := by
  conv_rhs => rw [← Text.joinLines_rawLines t]
  exact Text.joinLines_take_isPrefix _ _

theorem lowerLines_isSuffix (t : Text) : Text.joinLines (lowerLines t) <:+ t := by
  conv_rhs => rw [← Text.joinLines_rawLines t]
  exact Text.joinLines_isSuffix ((List.dropWhile_suffix _).trans (List.drop_suffix _ _))

theorem joinLines_lowerLines_ne_nil {t : Text} (h : lowerLines t ≠ []) :
    Text.joinLines (lowerLines t) ≠ [] := by
  obtain ⟨l, ls, hl⟩ := List.exists_cons_of_ne_nil h
  have hhead := List.head?_dropWhile_not List.isEmpty (t.rawLines.drop (startCount t))
  rw [← lowerLines, hl] at hhead
  intro hnil
  have hmem : l <:+: Text.joinLines (lowerLines t) := Text.infix_join (by simp [hl])
  rw [hnil, List.infix_nil] at hmem
  subst hmem
  simp at hhead

theorem head?_of_isPrefix {s t : Text} (h : s <+: t) (hs : s ≠ []) : s.head? = t.head? := by
  obtain ⟨rest, rfl⟩ := h
  rw [List.head?_append_of_ne_nil _ hs]

theorem getLast?_of_isSuffix {s t : Text} (h : s <:+ t) (hs : s ≠ []) :
    s.getLast? = t.getLast? := by
  obtain ⟨rest, rfl⟩ := h
  rw [List.getLast?_append_of_ne_nil _ hs]

theorem isClean_insertHeader {t : Text} (h : t.IsClean) (hw : hasWrappers t = true) {level : Level}
    (hne : missingHeader t level ≠ []) : (insertHeader t (missingHeader t level)).IsClean where
  toUnmarked := by
    refine Text.unmarked_join fun p hp => ?_
    rcases mem_partsWith hp with hp | ⟨ls, rfl, hls⟩
    · exact unmarked_of_mem_missingHeader hp
    · exact unmarked_of_lines h.toUnmarked hls
  first {c} hc := by
    obtain ⟨d, hd⟩ :=
      Option.ne_none_iff_exists'.1 fun hn => aboveHeader_ne_nil hw (List.head?_eq_none_iff.1 hn)
    rw [insertHeader_eq, Text.head?_join (p := aboveHeader t) rfl hd, Option.some.injEq] at hc
    rw [head?_of_isPrefix (aboveHeader_isPrefix t) (aboveHeader_ne_nil hw)] at hd
    exact hc ▸ h.first hd
  last {c} hc := by
    by_cases hlow : lowerLines t = []
    · have hlast : (partsWith t (missingHeader t level)).getLast? =
          (missingHeader t level).getLast? := by
        rw [partsWith, hlow, List.isEmpty_nil, if_pos rfl, List.append_nil,
          List.getLast?_append_of_ne_nil _ hne]
      obtain ⟨l, hl⟩ := Option.ne_none_iff_exists'.1 fun hn => hne (List.getLast?_eq_none_iff.1 hn)
      obtain ⟨d, hd, hblank⟩ := getLast?_of_mem_missingHeader (List.mem_of_getLast? hl)
      rw [insertHeader_eq, Text.getLast?_join (hlast.trans hl) hd, Option.some.injEq] at hc
      exact hc ▸ hblank
    -- the last part ends the old text, so it still ends in no blank
    · have hlines := joinLines_lowerLines_ne_nil hlow
      have hlast : (partsWith t (missingHeader t level)).getLast? =
          some (Text.joinLines (lowerLines t)) := by
        rw [partsWith, if_neg (by simpa using hlow), List.getLast?_append_of_ne_nil _ (by simp)]
        rfl
      obtain ⟨d, hd⟩ :=
        Option.ne_none_iff_exists'.1 fun hn => hlines (List.getLast?_eq_none_iff.1 hn)
      rw [insertHeader_eq, Text.getLast?_join hlast hd, Option.some.injEq] at hc
      rw [getLast?_of_isSuffix (lowerLines_isSuffix t) hlines] at hd
      exact hc ▸ h.last hd

/-! Layout calls next to an include line. -/

theorem hasLayoutCall_includeLine (level : Level) (t : Text) :
    hasLayoutCall (level.includeLine ++ '\n' :: t) = hasLayoutCall t :=
  hasLayoutCall_append_of_unnamed (includeLine_unnamed level)

theorem hasLayoutCall_above_includeLine (level : Level) (s t : Text) :
    hasLayoutCall (s ++ '\n' :: '\n' :: (level.includeLine ++ t)) =
      (hasLayoutCall s || hasLayoutCall ('\n' :: (level.includeLine ++ t))) := by
  apply hasLayoutCall_append
  have hmark : ∃ rest, level.includeLine ++ t = '!' :: rest := ⟨_, rfl⟩
  obtain ⟨rest, hrest⟩ := hmark
  have hfeed : '\n'.toLower = '\n' := by decide
  have hbang : '!'.toLower = '!' := by decide
  rw [hrest, Text.lowered_cons, Text.lowered_cons, hfeed, hbang, Text.trimStart_cons (by decide),
    Text.trimStart_eq_self (by decide)]
  simp

/-- An include line splits the text: a layout call is found in one of the two parts or it is
lost. -/
theorem hasLayoutCall_insertInclude (t : Text) (level : Level) :
    hasLayoutCall (insertHeader t [level.includeLine]) =
      (hasLayoutCall (aboveHeader t) || hasLayoutCall (belowHeader t)) := by
  have hbelow : hasLayoutCall (belowHeader t) = hasLayoutCall (Text.joinLines (lowerLines t)) :=
    (hasLayoutCall_dropWhile_isEmpty _).symm
  rw [hbelow, insertHeader_eq, partsWith]
  by_cases hlow : lowerLines t = []
  · have hsplit : Text.join partSeparator [aboveHeader t, level.includeLine] =
        aboveHeader t ++ '\n' :: '\n' :: (level.includeLine ++ []) := by
      simp [Text.join, partSeparator]
    have hnone : hasLayoutCall ('\n' :: (level.includeLine ++ [])) = false := by
      rw [hasLayoutCall_lineFeed, List.append_nil]
      exact hasLayoutCall_of_unnamed (includeLine_unnamed level)
    rw [hlow, List.isEmpty_nil, if_pos rfl, List.append_nil, List.singleton_append, hsplit,
      hasLayoutCall_above_includeLine, hnone]
    rfl
  · have hsplit :
        Text.join partSeparator [aboveHeader t, level.includeLine, Text.joinLines (lowerLines t)] =
        aboveHeader t ++ '\n' :: '\n' ::
          (level.includeLine ++ '\n' :: '\n' :: Text.joinLines (lowerLines t)) := by
      simp [Text.join, partSeparator]
    rw [if_neg (by simpa using hlow)]
    change hasLayoutCall (Text.join partSeparator
      [aboveHeader t, level.includeLine, Text.joinLines (lowerLines t)]) = _
    rw [hsplit, hasLayoutCall_above_includeLine, hasLayoutCall_lineFeed, hasLayoutCall_includeLine,
      hasLayoutCall_lineFeed]

theorem hasLayoutCall_insertHeader_iff {t : Text} (hw : hasWrappers t = true) {level : Level}
    (hne : missingHeader t level ≠ []) :
    hasLayoutCall (insertHeader t (missingHeader t level)) = true ↔ ¬ LosesLayoutCall t := by
  cases hl : hasLayoutCall t with
  | false =>
    refine iff_of_true ?_ fun h => ?_
    · rw [insertHeader_eq]
      exact hasLayoutCall_of_header level hl fun l hl => mem_partsWith_of_mem hl
    · rw [h.2.2.1] at hl
      cases hl
  | true =>
    have hi : hasLibraryInclude t = false := by
      by_contra hi
      simp [missingHeader, hl, hi] at hne
    have hheader : missingHeader t level = [level.includeLine] := by simp [missingHeader, hl, hi]
    rw [hheader, hasLayoutCall_insertInclude]
    simp [LosesLayoutCall, hw, hi, hl, imp_iff_not_or]

/-! What normalizing does to a clean text, and what it does to the result. -/

theorem normalize_of_wrapped {t : Text} (h : t.IsClean) (hw : hasWrappers t = true)
    (level : Level) :
    normalize t level =
      if missingHeader t level = [] then t else insertHeader t (missingHeader t level) := by
  have hne : t ≠ [] := by
    rintro rfl
    revert hw
    decide
  unfold normalize
  rw [Text.cleaned_of_isClean h]
  simp [hne, hw]

theorem normalize_nil (level : Level) : normalize [] level = [] := by
  unfold normalize
  rfl

theorem normalize_cleaned (raw : Text) (level : Level) :
    normalize raw.cleaned level = normalize raw level := by
  unfold normalize
  rw [Text.cleaned_of_isClean (Text.isClean_cleaned raw)]

/-- A second layout is added where the call was lost. -/
theorem normalize_insertHeader_ne {t : Text} (h : t.IsClean) (hlost : LosesLayoutCall t)
    (level level' : Level) :
    normalize (insertHeader t (missingHeader t level)) level' ≠
      insertHeader t (missingHeader t level) := by
  have hne : missingHeader t level ≠ [] :=
    List.ne_nil_of_mem (a := level.includeLine) (by simp [missingHeader, hlost.2.1])
  have hno := (hasLayoutCall_insertHeader_iff hlost.1 hne).not.2 (not_not_intro hlost)
  have hclean := isClean_insertHeader h hlost.1 hne
  set r := insertHeader t (missingHeader t level)
  rw [Bool.not_eq_true] at hno
  have hadd : missingHeader r level' ≠ [] :=
    List.ne_nil_of_mem (a := "LAYOUT_WITH_LEGEND()".toList)
      (by simp [missingHeader, hno, defaultLayout])
  rw [normalize_of_wrapped hclean (hasWrappers_insertHeader _ hlost.1), if_neg hadd]
  intro heq
  have hyes : hasLayoutCall (insertHeader r (missingHeader r level')) = true := by
    rw [insertHeader_eq]
    exact hasLayoutCall_of_header level' hno fun l hl => mem_partsWith_of_mem hl
  rw [heq, hno] at hyes
  cases hyes

/-- Normalizing again, at whatever level, changes nothing unless the first time tore a layout
call apart. -/
theorem normalize_normalize_iff (raw : Text) (level level' : Level) :
    normalize (normalize raw level) level' = normalize raw level ↔
      ¬ LosesLayoutCall raw.cleaned := by
  have hclean := Text.isClean_cleaned raw
  rw [← normalize_cleaned raw level]
  set t := raw.cleaned
  cases hw : hasWrappers t with
  | false =>
    refine iff_of_true ?_ fun hlost => ?_
    · by_cases hnil : t = []
      · rw [hnil, normalize_nil, normalize_nil]
      · have hwrap : normalize t level =
            Text.join partSeparator ([startMarker] ++ missingHeader t level ++ [t, endMarker]) := by
          unfold normalize
          rw [Text.cleaned_of_isClean hclean]
          simp [hnil, hw]
        rw [hwrap]
        exact normalize_of_isComplete (isComplete_wrapped hclean level) level'
    · rw [hlost.1] at hw
      cases hw
  | true =>
    rw [normalize_of_wrapped hclean hw]
    by_cases hheader : missingHeader t level = []
    · have hfound : hasLibraryInclude t = true ∧ hasLayoutCall t = true := by
        simpa [missingHeader, defaultLayout] using hheader
      rw [if_pos hheader]
      refine iff_of_true
        (normalize_of_isComplete ⟨hclean, hw, hfound.1, hfound.2⟩ level') fun hlost => ?_
      rw [hlost.2.1] at hfound
      cases hfound.1
    · rw [if_neg hheader]
      by_cases hlost : LosesLayoutCall t
      · exact iff_of_false (normalize_insertHeader_ne hclean hlost level level')
          (not_not_intro hlost)
      · refine iff_of_true (normalize_of_isComplete ?_ level') hlost
        exact ⟨isClean_insertHeader hclean hw hheader, hasWrappers_insertHeader _ hw,
          hasLibraryInclude_insertHeader t level,
          (hasLayoutCall_insertHeader_iff hw hheader).2 hlost⟩

/-- The name of the layout ends the line of the start marker, and its parenthesis is below. -/
theorem normalize_twice_adds_layout :
    normalize (normalize "@startuml LAYOUT_LANDSCAPE\n()\n@enduml".toList .context) .context ≠
      normalize "@startuml LAYOUT_LANDSCAPE\n()\n@enduml".toList .context := by
  decide +kernel

end C4Diagram
