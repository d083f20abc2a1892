import C4Diagram.Normal.Document
import C4Diagram.Proofs.Text.Lines
import C4Diagram.Proofs.Text.Search
import C4Diagram.Proofs.Text.Trim

/-! Cleaning gives clean texts and changes no clean text. Taking one fence out never makes
another: the stretch in front of a fence does not end in a backtick, as the fence would have
begun there. -/

namespace C4Diagram

namespace Text

structure Unmarked (t : Text) : Prop where
  fenceFree : ¬ fenceMark <:+: t
  returnFree : ∀ l ∈ t.rawLines, l.getLast? ≠ some '\r'

structure IsClean (t : Text) : Prop extends Unmarked t, IsTrimmed t

end Text

theorem fenceLength_eq_zero_iff {t : Text} : fenceLength t = 0 ↔ ¬ fenceMark <+: t := by
  unfold fenceLength
  split
  · next rest h =>
    have hp : fenceMark <+: t := ⟨rest, (Text.after?_eq_some_iff.1 h).symm⟩
    refine iff_of_false ?_ (not_not_intro hp)
    rw [show fenceMark.length = 3 from rfl]
    omega
  · next h =>
    apply iff_of_true rfl
    rintro ⟨rest, hrest⟩
    rw [Text.after?_eq_some_iff.2 hrest.symm] at h
    cases h

theorem dropFences_cons {c : Char} {r : Text} (h : fenceLength (c :: r) = 0) :
    dropFences 0 (c :: r) = c :: dropFences 0 r := by
  rw [dropFences, h]

theorem head?_dropFences {t : Text} (h : fenceLength t = 0) : (dropFences 0 t).head? = t.head? := by
  cases t with
  | nil => rfl
  | cons c r => rw [dropFences_cons h]; rfl

theorem not_fence_of_backtick {t : Text} (h : fenceLength ('\x60' :: t) = 0) :
    fenceLength t = 0 := by
  rw [fenceLength_eq_zero_iff] at h ⊢
  rintro ⟨rest, rfl⟩
  exact h ⟨'\x60' :: rest, rfl⟩

/-- What is kept in front of the dropped fences starts with no fence of its own. -/
theorem not_isPrefix_fence {c : Char} {r : Text} (h : fenceLength (c :: r) = 0) :
    ¬ fenceMark <+: c :: dropFences 0 r := by
  rintro ⟨rest, hrest⟩
  rw [fenceMark, List.cons_append, List.cons.injEq] at hrest
  obtain ⟨rfl, hr⟩ := hrest
  have h₁ := not_fence_of_backtick h
  obtain ⟨r₁, rfl⟩ : ∃ r₁, r = '\x60' :: r₁ := by
    have := head?_dropFences h₁
    rw [← hr] at this
    exact List.head?_eq_some_iff.1 this.symm
  rw [dropFences_cons h₁, List.cons_append, List.cons.injEq] at hr
  have h₂ := not_fence_of_backtick h₁
  obtain ⟨r₂, rfl⟩ : ∃ r₂, r₁ = '\x60' :: r₂ := by
    have := head?_dropFences h₂
    rw [← hr.2] at this
    exact List.head?_eq_some_iff.1 this.symm
  exact fenceLength_eq_zero_iff.1 h ⟨r₂, rfl⟩

theorem fenceFree_dropFences (skip : Nat) (t : Text) : ¬ fenceMark <:+: dropFences skip t := by
  induction t generalizing skip with
  | nil => simp [dropFences, fenceMark]
  | cons c r ih =>
    cases skip with
    | succ n => exact ih n
    | zero =>
      cases hl : fenceLength (c :: r) with
      | succ n =>
        rw [dropFences, hl]
        exact ih n
      | zero =>
        rw [dropFences_cons hl, List.infix_cons_iff, not_or]
        exact ⟨not_isPrefix_fence hl, ih 0⟩

theorem dropFences_of_fenceFree {t : Text} (h : ¬ fenceMark <:+: t) : dropFences 0 t = t := by
  induction t with
  | nil => rfl
  | cons c r ih =>
    rw [List.infix_cons_iff, not_or] at h
    rw [dropFences_cons (fenceLength_eq_zero_iff.2 h.1), ih h.2]

namespace Text

theorem infix_joinLines_iff {word : Text} (hw : word ≠ []) (hl : '\n' ∉ word) {ls : List Text} :
    word <:+: joinLines ls ↔ ∃ l ∈ ls, word <:+: l := by
  induction ls with
  | nil => simp [joinLines, join, hw]
  | cons l ls ih =>
    by_cases hls : ls = []
    · subst hls
      simp [joinLines, join]
    · rw [joinLines, join_cons _ _ hls, List.append_assoc, List.singleton_append,
        infix_append_cons_iff hl, List.exists_mem_cons_iff]
      exact or_congr_right ih

theorem lineFeed_not_mem_fenceMark : '\n' ∉ fenceMark := by decide

theorem rawLines_withoutReturns (t : Text) :
    t.withoutReturns.rawLines = t.rawLines.map (dropEndWhile (· == '\r')) := by
  refine rawLines_joinLines (fun l hl => ?_) (by simp [rawLines_ne_nil])
  obtain ⟨l', hl', rfl⟩ := List.mem_map.1 hl
  exact fun hm => lineFeed_not_mem hl' ((dropEndWhile_isPrefix _ _).subset hm)

theorem fenceFree_withoutReturns {t : Text} (h : ¬ fenceMark <:+: t) :
    ¬ fenceMark <:+: t.withoutReturns := by
  rw [← joinLines_rawLines t, infix_joinLines_iff (by decide) lineFeed_not_mem_fenceMark] at h
  rw [withoutReturns, infix_joinLines_iff (by decide) lineFeed_not_mem_fenceMark]
  rintro ⟨l, hl, hf⟩
  obtain ⟨l', hl', rfl⟩ := List.mem_map.1 hl
  exact h ⟨l', hl', hf.trans (dropEndWhile_isPrefix _ _).isInfix⟩

theorem unmarked_withoutReturns {t : Text} (h : ¬ fenceMark <:+: t) :
    Unmarked t.withoutReturns where
  fenceFree := fenceFree_withoutReturns h
  returnFree l hl := by
    rw [rawLines_withoutReturns] at hl
    obtain ⟨l', -, rfl⟩ := List.mem_map.1 hl
    exact fun hr => by simpa using getLast?_dropEndWhile hr

theorem withoutReturns_of_returnFree {t : Text} (h : ∀ l ∈ t.rawLines, l.getLast? ≠ some '\r') :
    t.withoutReturns = t := by
  have hline : ∀ l ∈ t.rawLines, dropEndWhile (· == '\r') l = id l := by
    intro l hl
    refine dropEndWhile_eq_self fun c hc => ?_
    have := h l hl
    rw [hc] at this
    simpa using this
  rw [withoutReturns, List.map_congr_left hline, List.map_id, joinLines_rawLines]

/-- No line ends in a carriage return if none stands in front of a line feed or at the end. -/
theorem returnFree_iff {t : Text} : (∀ l ∈ t.rawLines, l.getLast? ≠ some '\r') ↔
    ¬ ['\r', '\n'] <:+: t ∧ t.getLast? ≠ some '\r' := by
  induction t with
  | nil => simp [rawLines, pieces]
  | cons c r ih =>
    by_cases hc : c = '\n'
    · subst hc
      rw [rawLines_lineFeed, List.forall_mem_cons, ih, List.infix_cons_iff]
      cases r with
      | nil => simp
      | cons d r => simp
    · cases r with
      | nil => simp [rawLines, pieces, hc, List.infix_cons_iff]
      | cons d r =>
        rw [List.infix_cons_iff (a := c), not_or, and_assoc, List.getLast?_cons_cons]
        by_cases hd : d = '\n'
        · subst hd
          have hpre : ¬ ['\r', '\n'] <+: c :: '\n' :: r ↔ [c].getLast? ≠ some '\r' := by
            simp [List.cons_prefix_cons, eq_comm]
          rw [rawLines_cons hc (rawLines_lineFeed r), List.forall_mem_cons, hpre, ← ih,
            rawLines_lineFeed, List.forall_mem_cons (a := [])]
          exact and_congr_right fun _ => (and_iff_right (by simp)).symm
        · have hpre : ¬ ['\r', '\n'] <+: c :: d :: r := by simp [List.cons_prefix_cons, Ne.symm hd]
          obtain ⟨l, ls, hl⟩ := exists_rawLines r
          rw [rawLines_cons hd hl, List.forall_mem_cons] at ih
          rw [rawLines_cons hc (rawLines_cons hd hl), List.forall_mem_cons,
            List.getLast?_cons_cons, ih]
          exact (and_iff_right hpre).symm

theorem unmarked_trim {t : Text} (h : Unmarked t) : Unmarked t.trim where
  fenceFree hf := h.fenceFree (hf.trans (trim_isInfix t))
  returnFree := by
    rw [returnFree_iff]
    refine ⟨fun hr => (returnFree_iff.1 h.returnFree).1 (hr.trans (trim_isInfix t)), fun hr => ?_⟩
    have := (isTrimmed_trim t).last hr
    revert this
    decide

theorem isClean_cleaned (raw : Text) : IsClean raw.cleaned where
  toUnmarked := unmarked_trim (unmarked_withoutReturns (fenceFree_dropFences 0 raw))
  toIsTrimmed := isTrimmed_trim _

theorem cleaned_of_isClean {t : Text} (h : IsClean t) : t.cleaned = t := by
  rw [cleaned, withoutFences, dropFences_of_fenceFree h.fenceFree,
    withoutReturns_of_returnFree h.returnFree, trim_eq_of_isTrimmed h.toIsTrimmed]

/-! A text that is put together from unmarked parts with line feeds between them is unmarked. -/

theorem unmarked_append {s t : Text} (hs : Unmarked s) (ht : Unmarked t) :
    Unmarked (s ++ '\n' :: t) where
  fenceFree := by
    rw [infix_append_cons_iff lineFeed_not_mem_fenceMark, not_or]
    exact ⟨hs.fenceFree, ht.fenceFree⟩
  returnFree l hl := by
    rw [rawLines_append, List.mem_append] at hl
    rcases hl with hl | hl
    · exact hs.returnFree l hl
    · exact ht.returnFree l hl

theorem unmarked_nil : Unmarked [] := ⟨by decide, by decide⟩

theorem unmarked_join {parts : List Text} (h : ∀ p ∈ parts, Unmarked p) :
    Unmarked (join partSeparator parts) := by
  induction parts with
  | nil => exact unmarked_nil
  | cons p ps ih =>
    have hp := h p List.mem_cons_self
    by_cases hps : ps = []
    · subst hps
      exact hp
    · have hrest := ih fun q hq => h q (List.mem_cons_of_mem _ hq)
      rw [join_cons _ _ hps, partSeparator, List.append_assoc]
      exact unmarked_append hp (unmarked_append unmarked_nil hrest)

theorem unmarked_joinLines {ls : List Text}
    (h : ∀ l ∈ ls, '\n' ∉ l ∧ ¬ fenceMark <:+: l ∧ l.getLast? ≠ some '\r') :
    Unmarked (joinLines ls) := by
  by_cases hls : ls = []
  · subst hls
    exact unmarked_nil
  · refine ⟨?_, ?_⟩
    · rw [infix_joinLines_iff (by decide) lineFeed_not_mem_fenceMark]
      rintro ⟨l, hl, hf⟩
      exact (h l hl).2.1 hf
    · rw [rawLines_joinLines (fun l hl => (h l hl).1) hls]
      exact fun l hl => (h l hl).2.2

end Text
end C4Diagram
