import C4Diagram.Proofs.Normal.Clean

/-! What a text names line by line it still names after other lines have been put between.
Markers and includes lie on one line, so they are found in a part iff they are found in the
whole. A layout call may be spread over lines: it can be torn apart where its name ends one part
and its parenthesis begins a later one, and nowhere else. -/

namespace C4Diagram

namespace Text

theorem mentionsLowered_iff {t word : Text} : t.mentionsLowered word = true ↔ word <:+: t.lowered :=
  mentions_iff

theorem mentionsLowered_of_isInfix {s t word : Text} (h : s <:+: t)
    (hs : s.mentionsLowered word = true) : t.mentionsLowered word = true := by
  rw [mentionsLowered_iff] at hs ⊢
  exact hs.trans (lowered_isInfix h)

theorem lowered_joinLines (ls : List Text) :
    (joinLines ls).lowered = joinLines (ls.map lowered) := by
  induction ls with
  | nil => rfl
  | cons l ls ih =>
    by_cases hls : ls = []
    · subst hls
      rfl
    · rw [List.map_cons, joinLines, joinLines, join_cons _ _ hls, join_cons _ _ (by simp [hls]),
        lowered_append, lowered_append]
      exact congrArg (l.lowered ++ ['\n'] ++ ·) ih

theorem mentionsLowered_joinLines {word : Text} (hw : word ≠ []) (hl : '\n' ∉ word)
    {ls : List Text} :
    (joinLines ls).mentionsLowered word = true ↔ ∃ l ∈ ls, l.mentionsLowered word = true := by
  rw [mentionsLowered_iff, lowered_joinLines, infix_joinLines_iff hw hl]
  simp [mentionsLowered_iff]

theorem mentionsLowered_iff_rawLines {t word : Text} (hw : word ≠ []) (hl : '\n' ∉ word) :
    t.mentionsLowered word = true ↔ ∃ l ∈ t.rawLines, l.mentionsLowered word = true := by
  rw [← mentionsLowered_joinLines hw hl, joinLines_rawLines]

end Text

/-! Includes. -/

theorem hasLibraryInclude_append (s t : Text) :
    hasLibraryInclude (s ++ '\n' :: t) = (hasLibraryInclude s || hasLibraryInclude t) := by
  rw [hasLibraryInclude, Text.rawLines_append, List.any_append]
  rfl

theorem hasLibraryInclude_nil : hasLibraryInclude [] = false := by decide

theorem hasLibraryInclude_join (parts : List Text) :
    hasLibraryInclude (Text.join partSeparator parts) = parts.any hasLibraryInclude := by
  induction parts with
  | nil => exact hasLibraryInclude_nil
  | cons p ps ih =>
    by_cases hps : ps = []
    · subst hps
      simp [Text.join]
    · have hsplit : p ++ partSeparator ++ Text.join partSeparator ps =
          p ++ '\n' :: ([] ++ '\n' :: Text.join partSeparator ps) := by
        rw [partSeparator, List.append_assoc]; rfl
      rw [Text.join_cons _ _ hps, hsplit, hasLibraryInclude_append, hasLibraryInclude_append,
        hasLibraryInclude_nil, Bool.false_or, ih, List.any_cons]

theorem hasLibraryInclude_joinLines {ls : List Text} (h : ∀ l ∈ ls, '\n' ∉ l) (hne : ls ≠ []) :
    hasLibraryInclude (Text.joinLines ls) = ls.any isLibraryInclude := by
  rw [hasLibraryInclude, Text.rawLines_joinLines h hne]

/-! Layout calls. -/

/-- The name stands in the text, and the first character behind it that is no blank opens a
parenthesis. -/
def CallsLowered (name t : Text) : Prop :=
  ∃ pre rest, t = pre ++ (name ++ rest) ∧ rest.trimStart.head? = some '('

theorem hasLayoutCall_iff {t : Text} :
    hasLayoutCall t = true ↔ ∃ name ∈ layoutNames, CallsLowered name.lowered t.lowered := by
  simp only [hasLayoutCall, List.any_eq_true, CallsLowered, beq_iff_eq]
  refine exists_congr fun name => and_congr_right fun _ => ?_
  refine ⟨?_, ?_⟩
  · intro hcall
    obtain ⟨rest, hrest, hp⟩ := hcall
    obtain ⟨pre, ht⟩ := Text.mem_afterEach_iff.1 hrest
    exact ⟨pre, rest, ht, hp⟩
  · intro hcall
    obtain ⟨pre, rest, ht, hp⟩ := hcall
    exact ⟨rest, Text.mem_afterEach_iff.2 ⟨pre, ht⟩, hp⟩

theorem trimStart_head?_append {r : Text} (h : r.trimStart ≠ []) (t : Text) :
    (Text.trimStart (r ++ t)).head? = r.trimStart.head? := by
  rw [Text.trimStart_append h]
  obtain ⟨c, r', hc⟩ := List.exists_cons_of_ne_nil h
  rw [hc]
  rfl

/-- A call in a text that is cut at a line feed stands on one side or is torn apart by the cut. -/
theorem callsLowered_append_iff {name s t : Text} (hn : '\n' ∉ name) :
    CallsLowered name (s ++ '\n' :: t) ↔ CallsLowered name s ∨ CallsLowered name t ∨
      t.trimStart.head? = some '(' ∧ ∃ pre rest, s = pre ++ (name ++ rest) ∧
        rest.trimStart = [] := by
  have hblank : Text.trimStart ('\n' :: t) = t.trimStart := Text.trimStart_cons (by decide) t
  refine ⟨?_, ?_⟩
  · intro hcall
    obtain ⟨pre, rest, ht, hp⟩ := hcall
    rcases (Text.append_cons_eq_iff hn).1 ht with ⟨r, hs, rfl⟩ | ⟨p, -, ht⟩
    · by_cases hr : r.trimStart = []
      · rw [Text.trimStart_append_of_all (Text.trimStart_eq_nil_iff.1 hr), hblank] at hp
        exact .inr (.inr ⟨hp, pre, r, hs, hr⟩)
      · rw [trimStart_head?_append hr] at hp
        exact .inl ⟨pre, r, hs, hp⟩
    · exact .inr (.inl ⟨p, rest, ht, hp⟩)
  · intro hcall
    rcases hcall with ⟨pre, rest, rfl, hp⟩ | ⟨pre, rest, rfl, hp⟩ | ⟨hp, pre, rest, rfl, hr⟩
    · refine ⟨pre, rest ++ '\n' :: t, by simp, ?_⟩
      rw [trimStart_head?_append (fun he => by rw [he] at hp; cases hp), hp]
    · exact ⟨s ++ '\n' :: pre, rest, by simp, hp⟩
    · refine ⟨pre, rest ++ '\n' :: t, by simp, ?_⟩
      rw [Text.trimStart_append_of_all (Text.trimStart_eq_nil_iff.1 hr), hblank, hp]

theorem callsLowered_of_isInfix {name s t : Text} (h : s <:+: t) (hs : CallsLowered name s) :
    CallsLowered name t := by
  obtain ⟨u, v, rfl⟩ := h
  obtain ⟨pre, rest, rfl, hp⟩ := hs
  refine ⟨u ++ pre, rest ++ v, by simp, ?_⟩
  rw [trimStart_head?_append (fun he => by rw [he] at hp; cases hp), hp]

theorem hasLayoutCall_of_isInfix {s t : Text} (h : s <:+: t) (hs : hasLayoutCall s = true) :
    hasLayoutCall t = true := by
  rw [hasLayoutCall_iff] at hs ⊢
  obtain ⟨name, hn, hc⟩ := hs
  exact ⟨name, hn, callsLowered_of_isInfix (Text.lowered_isInfix h) hc⟩

theorem lineFeed_not_mem_layoutName : ∀ name ∈ layoutNames, '\n' ∉ name.lowered := by decide

theorem lowered_append_lineFeed (s t : Text) :
    (s ++ '\n' :: t).lowered = s.lowered ++ '\n' :: t.lowered := by
  rw [Text.lowered_append, Text.lowered_cons]
  rfl

/-- Nothing is torn apart where the lower part begins with something else than a parenthesis. -/
theorem hasLayoutCall_append {s t : Text} (h : t.lowered.trimStart.head? ≠ some '(') :
    hasLayoutCall (s ++ '\n' :: t) = (hasLayoutCall s || hasLayoutCall t) := by
  rw [Bool.eq_iff_iff, Bool.or_eq_true, hasLayoutCall_iff, hasLayoutCall_iff, hasLayoutCall_iff,
    lowered_append_lineFeed]
  refine ⟨?_, ?_⟩
  · intro hcall
    obtain ⟨name, hn, hc⟩ := hcall
    have hfeed := lineFeed_not_mem_layoutName name hn
    rcases (callsLowered_append_iff hfeed).1 hc with hc | hc | ⟨hp, -⟩
    · exact .inl ⟨name, hn, hc⟩
    · exact .inr ⟨name, hn, hc⟩
    · exact absurd hp h
  · intro hcall
    rcases hcall with ⟨name, hn, hc⟩ | ⟨name, hn, hc⟩
    · exact ⟨name, hn, (callsLowered_append_iff (lineFeed_not_mem_layoutName name hn)).2 (.inl hc)⟩
    · exact ⟨name, hn, (callsLowered_append_iff (lineFeed_not_mem_layoutName name hn)).2
        (.inr (.inl hc))⟩

theorem not_callsLowered_of_unnamed {name t : Text} (h : t.mentionsLowered name = false) :
    ¬ CallsLowered name t.lowered := by
  intro hcall
  obtain ⟨pre, rest, ht, -⟩ := hcall
  rw [Bool.eq_false_iff, Ne, Text.mentionsLowered_iff] at h
  exact h (ht ▸ List.infix_append' _ _ _)

theorem hasLayoutCall_of_unnamed {t : Text}
    (h : ∀ name ∈ layoutNames, t.mentionsLowered name.lowered = false) :
    hasLayoutCall t = false := by
  rw [Bool.eq_false_iff, Ne, hasLayoutCall_iff]
  intro hcall
  obtain ⟨name, hn, hc⟩ := hcall
  exact not_callsLowered_of_unnamed (h name hn) hc

/-- Nothing is torn apart where the upper part names no layout. -/
theorem hasLayoutCall_append_of_unnamed {s t : Text}
    (h : ∀ name ∈ layoutNames, s.mentionsLowered name.lowered = false) :
    hasLayoutCall (s ++ '\n' :: t) = hasLayoutCall t := by
  rw [Bool.eq_iff_iff, hasLayoutCall_iff, hasLayoutCall_iff, lowered_append_lineFeed]
  refine exists_congr fun name => and_congr_right fun hn => ?_
  rw [callsLowered_append_iff (lineFeed_not_mem_layoutName name hn)]
  refine ⟨?_, ?_⟩
  · intro hcall
    rcases hcall with hc | hc | ⟨-, pre, rest, hs, -⟩
    · exact absurd hc (not_callsLowered_of_unnamed (h name hn))
    · exact hc
    · have hmem : s.mentionsLowered name.lowered = true :=
        Text.mentionsLowered_iff.2 (hs ▸ List.infix_append' _ _ _)
      rw [h name hn] at hmem
      cases hmem
  · exact fun hc => .inr (.inl hc)

theorem hasLayoutCall_lineFeed (t : Text) : hasLayoutCall ('\n' :: t) = hasLayoutCall t :=
  hasLayoutCall_append_of_unnamed (s := []) (by decide)

theorem hasLayoutCall_dropWhile_isEmpty (ls : List Text) :
    hasLayoutCall (Text.joinLines (ls.dropWhile List.isEmpty)) =
      hasLayoutCall (Text.joinLines ls) := by
  induction ls with
  | nil => rfl
  | cons l ls ih =>
    cases l with
    | cons c l => rfl
    | nil =>
      rw [List.dropWhile_cons_of_pos rfl, ih]
      by_cases hls : ls = []
      · subst hls
        rfl
      · rw [Text.joinLines, Text.joinLines, Text.join_cons _ _ hls]
        exact (hasLayoutCall_lineFeed _).symm

end C4Diagram
