import C4Diagram.Proofs.Text.Trim
import C4Diagram.Text.Lines

/-! Splitting and joining are inverse to each other as long as no piece holds the separator. A text
that is cut at a separator splits into the pieces of both sides, so facts on lines carry over from
the parts of a text to the whole. -/

namespace C4Diagram
namespace Text

theorem pieces_append (sep : Char) (s t : Text) :
    pieces sep (s ++ sep :: t) = pieces sep s ++ pieces sep t := by
  induction s with
  | nil => simp [pieces]
  | cons c s ih =>
    rw [List.cons_append, pieces, pieces, ih]
    split
    · rfl
    · cases hp : pieces sep s with
      | nil => exact absurd hp (pieces_ne_nil sep s)
      | cons p ps => rfl

theorem pieces_eq_singleton {sep : Char} {t : Text} (h : sep ∉ t) : pieces sep t = [t] := by
  induction t with
  | nil => rfl
  | cons c r ih =>
    rw [List.mem_cons, not_or] at h
    rw [pieces, if_neg (Ne.symm h.1), ih h.2]

theorem not_mem_of_mem_pieces {sep : Char} {t p : Text} (h : p ∈ pieces sep t) : sep ∉ p := by
  induction t generalizing p with
  | nil => simp_all [pieces]
  | cons c r ih =>
    rw [pieces] at h
    split at h
    · rcases List.mem_cons.1 h with rfl | h
      · exact List.not_mem_nil
      · exact ih h
    · next hc =>
      cases hp : pieces sep r with
      | nil => exact absurd hp (pieces_ne_nil sep r)
      | cons q qs =>
        rw [hp] at h ih
        rcases List.mem_cons.1 h with rfl | h
        · rw [List.mem_cons, not_or]
          exact ⟨Ne.symm hc, ih (List.mem_cons_self)⟩
        · exact ih (List.mem_cons_of_mem _ h)

theorem join_append (sep : Text) {xs ys : List Text} (hx : xs ≠ []) (hy : ys ≠ []) :
    join sep (xs ++ ys) = join sep xs ++ sep ++ join sep ys := by
  induction xs with
  | nil => exact absurd rfl hx
  | cons x xs ih =>
    rw [List.cons_append, join_cons sep x (by simp [hy])]
    cases xs with
    | nil => rfl
    | cons z zs =>
      rw [ih (by simp), join_cons sep x (by simp)]
      simp [List.append_assoc]

theorem pieces_join {sep : Char} {ps : List Text} (h : ∀ p ∈ ps, sep ∉ p) (hne : ps ≠ []) :
    pieces sep (join [sep] ps) = ps := by
  induction ps with
  | nil => exact absurd rfl hne
  | cons p ps ih =>
    have hp := pieces_eq_singleton (h p List.mem_cons_self)
    by_cases hps : ps = []
    · subst hps
      exact hp
    · rw [join_cons _ _ hps, List.append_assoc, List.singleton_append, pieces_append, hp,
        ih (fun q hq => h q (List.mem_cons_of_mem _ hq)) hps]
      rfl

theorem infix_join {sep p : Text} {parts : List Text} (h : p ∈ parts) : p <:+: join sep parts := by
  induction parts with
  | nil => cases h
  | cons q ps ih =>
    by_cases hps : ps = []
    · subst hps
      rw [List.mem_singleton] at h
      exact h ▸ List.infix_rfl
    · rw [join_cons _ _ hps]
      rcases List.mem_cons.1 h with rfl | h
      · exact List.infix_append_of_infix_left List.infix_append_left
      · exact List.infix_append_of_infix_right (ih h)

theorem mem_join {c : Char} {sep : Text} {parts : List Text} (h : c ∈ join sep parts) :
    c ∈ sep ∨ ∃ p ∈ parts, c ∈ p := by
  induction parts with
  | nil => cases h
  | cons p ps ih =>
    by_cases hps : ps = []
    · subst hps
      exact .inr ⟨p, List.mem_cons_self, h⟩
    · rw [join_cons _ _ hps, List.mem_append, List.mem_append] at h
      rcases h with (h | h) | h
      · exact .inr ⟨p, List.mem_cons_self, h⟩
      · exact .inl h
      · rcases ih h with h | ⟨q, hq, hc⟩
        · exact .inl h
        · exact .inr ⟨q, List.mem_cons_of_mem _ hq, hc⟩

theorem rawLines_ne_nil (t : Text) : t.rawLines ≠ [] := pieces_ne_nil '\n' t

theorem rawLines_append (s t : Text) : rawLines (s ++ '\n' :: t) = rawLines s ++ rawLines t :=
  pieces_append '\n' s t

theorem rawLines_joinLines {ls : List Text} (h : ∀ l ∈ ls, '\n' ∉ l) (hne : ls ≠ []) :
    rawLines (joinLines ls) = ls :=
  pieces_join h hne

theorem rawLines_lineFeed (r : Text) : rawLines ('\n' :: r) = [] :: rawLines r := rfl

theorem rawLines_cons {c : Char} {r l : Text} {ls : List Text} (hc : c ≠ '\n')
    (hr : rawLines r = l :: ls) : rawLines (c :: r) = (c :: l) :: ls := by
  rw [rawLines, pieces, if_neg hc, show pieces '\n' r = l :: ls from hr]

theorem exists_rawLines (t : Text) : ∃ l ls, rawLines t = l :: ls :=
  List.exists_cons_of_ne_nil (rawLines_ne_nil t)

theorem lineFeed_not_mem {t l : Text} (h : l ∈ t.rawLines) : '\n' ∉ l := not_mem_of_mem_pieces h

theorem mem_of_mem_rawLines {t l : Text} {c : Char} (hl : l ∈ t.rawLines) (hc : c ∈ l) : c ∈ t := by
  rw [← joinLines_rawLines t]
  exact (infix_join hl).subset hc

theorem withoutReturn_eq_self {l : Text} (h : l.getLast? ≠ some '\r') : l.withoutReturn = l := by
  unfold withoutReturn
  rcases l.eq_nil_or_concat with rfl | ⟨r, c, rfl⟩
  · rfl
  · rw [List.concat_eq_append] at h ⊢
    rw [beforeLast?_concat, if_neg, Option.getD_none]
    rintro rfl
    exact h (by simp)

/-- Only one carriage return is taken off. -/
theorem eq_withoutReturn (l : Text) : l = l.withoutReturn ∨ l = l.withoutReturn ++ ['\r'] := by
  unfold withoutReturn
  rcases l.eq_nil_or_concat with rfl | ⟨r, c, rfl⟩
  · exact .inl rfl
  · rw [List.concat_eq_append, beforeLast?_concat]
    split
    · next hc => exact .inr (by rw [hc, Option.getD_some])
    · exact .inl rfl

theorem lines_eq_rawLines {t : Text} (h : ∀ l ∈ t.rawLines, l.getLast? ≠ some '\r') :
    t.lines = t.rawLines := by
  conv_rhs => rw [← List.map_id t.rawLines]
  exact List.map_congr_left fun l hl => withoutReturn_eq_self (h l hl)

end Text
end C4Diagram
