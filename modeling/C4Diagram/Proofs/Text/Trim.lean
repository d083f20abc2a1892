import C4Diagram.Text.Blank
import Mathlib.Data.List.DropRight

/-! Trimming gives a stretch of the text with no blank at either end, and keeps a text that is
already such a stretch. Blanks put in front or behind make no difference to it. -/

namespace C4Diagram
namespace Text

structure IsTrimmed (t : Text) : Prop where
  first : ∀ {c}, t.head? = some c → isBlank c = false
  last : ∀ {c}, t.getLast? = some c → isBlank c = false

theorem dropEndWhile_eq_rdropWhile (p : Char → Bool) (t : Text) :
    dropEndWhile p t = t.rdropWhile p := rfl

theorem dropEndWhile_isPrefix (p : Char → Bool) (t : Text) : dropEndWhile p t <+: t :=
  List.rdropWhile_prefix p t

theorem getLast?_dropEndWhile {p : Char → Bool} {t : Text} {c : Char}
    (h : (dropEndWhile p t).getLast? = some c) : p c = false := by
  have hne : dropEndWhile p t ≠ [] := fun he => by rw [he] at h; cases h
  rw [List.getLast?_eq_some_getLast hne, Option.some.injEq] at h
  rw [← h]
  exact Bool.eq_false_iff.2 (List.rdropWhile_last_not p t hne)

theorem dropEndWhile_eq_self {p : Char → Bool} {t : Text}
    (h : ∀ c, t.getLast? = some c → p c = false) : dropEndWhile p t = t := by
  rw [dropEndWhile_eq_rdropWhile, List.rdropWhile_eq_self_iff]
  intro hne
  simpa using h _ (List.getLast?_eq_some_getLast hne)

theorem trim_isInfix (t : Text) : t.trim <:+: t :=
  (dropEndWhile_isPrefix isBlank _).isInfix.trans (List.dropWhile_suffix isBlank).isInfix

theorem mem_of_mem_trim {c : Char} {t : Text} (h : c ∈ t.trim) : c ∈ t := (trim_isInfix t).subset h

theorem head?_trimStart {t : Text} {c : Char} (h : t.trimStart.head? = some c) :
    isBlank c = false := by
  have := List.head?_dropWhile_not isBlank t
  rw [← trimStart, h] at this
  simpa using this

theorem isTrimmed_trim (t : Text) : IsTrimmed t.trim where
  first {c} h := by
    obtain ⟨rest, hrest⟩ := dropEndWhile_isPrefix isBlank t.trimStart
    apply head?_trimStart (t := t)
    rw [← hrest, List.head?_append]
    change (dropEndWhile isBlank t.trimStart).head? = some c at h
    rw [h, Option.some_or]
  last h := getLast?_dropEndWhile h

theorem trimEnd_eq_of_isTrimmed {t : Text} (h : t.IsTrimmed) : t.trimEnd = t :=
  dropEndWhile_eq_self fun _ hc => h.last hc

theorem trim_eq_of_isTrimmed {t : Text} (h : IsTrimmed t) : t.trim = t := by
  have hstart : t.trimStart = t := by
    cases t with
    | nil => rfl
    | cons c r => exact trimStart_eq_self (h.first rfl) r
  rw [trim, hstart, trimEnd_eq_of_isTrimmed h]

theorem trim_trim (t : Text) : t.trim.trim = t.trim := trim_eq_of_isTrimmed (isTrimmed_trim t)

theorem trim_cons_blank {c : Char} (h : isBlank c = true) (t : Text) : trim (c :: t) = trim t := by
  rw [trim, trim, trimStart_cons h]

theorem trimStart_append_of_all {s : Text} (h : ∀ c ∈ s, isBlank c = true) (t : Text) :
    trimStart (s ++ t) = trimStart t := by
  induction s with
  | nil => rfl
  | cons c s ih =>
    rw [List.cons_append, trimStart_cons (h c List.mem_cons_self),
      ih fun d hd => h d (List.mem_cons_of_mem _ hd)]

theorem trim_append_of_all {s : Text} (h : ∀ c ∈ s, isBlank c = true) (t : Text) :
    trim (s ++ t) = trim t := by
  rw [trim, trim, trimStart_append_of_all h]

theorem trimStart_append {s : Text} (h : s.trimStart ≠ []) (t : Text) :
    trimStart (s ++ t) = s.trimStart ++ t := by
  induction s with
  | nil => exact absurd rfl h
  | cons c s ih =>
    rw [List.cons_append]
    cases hc : isBlank c with
    | true =>
      rw [trimStart_cons hc] at h ⊢
      rw [trimStart_cons hc, ih h]
    | false => rw [trimStart_eq_self hc, trimStart_eq_self hc, List.cons_append]

theorem trimStart_eq_nil_iff {t : Text} : t.trimStart = [] ↔ ∀ c ∈ t, isBlank c = true := by
  simp [trimStart]

theorem trim_eq_nil_iff {t : Text} : t.trim = [] ↔ ∀ c ∈ t, isBlank c = true := by
  rw [← trimStart_eq_nil_iff]
  refine ⟨fun h => ?_, fun h => by rw [trim, h]; rfl⟩
  by_contra hne
  obtain ⟨c, r, hc⟩ := List.exists_cons_of_ne_nil hne
  have hblank := List.dropWhile_eq_nil_iff.1 (List.reverse_eq_nil_iff.1 h) c (by simp [hc])
  rw [head?_trimStart (t := t) (by rw [hc]; rfl)] at hblank
  cases hblank

theorem trim_append_of_isTrimmed {s : Text} (hs : s.IsTrimmed) (hne : s ≠ []) (t : Text) :
    (s ++ t).trim = s ++ t.trimEnd := by
  have hstart : s.trimStart = s := by
    obtain ⟨c, r, rfl⟩ := List.exists_cons_of_ne_nil hne
    exact trimStart_eq_self (hs.first rfl) r
  have hend := trimEnd_eq_of_isTrimmed hs
  rw [trim, trimStart_append (by rwa [hstart]), hstart]
  unfold trimEnd dropEndWhile at hend ⊢
  rw [List.reverse_append, List.dropWhile_append]
  split
  · next ht => rw [hend, List.isEmpty_iff.1 ht, List.reverse_nil, List.append_nil]
  · rw [List.reverse_append, List.reverse_reverse]

/-- What trimming takes off at the end. -/
theorem exists_eq_trimEnd_append (t : Text) :
    ∃ blanks, t = t.trimEnd ++ blanks ∧ ∀ c ∈ blanks, isBlank c = true :=
  ⟨t.rtakeWhile isBlank, List.rdropWhile_append_rtakeWhile.symm,
    fun _ hc => List.mem_rtakeWhile_imp hc⟩

/-- What trimming takes off. -/
theorem exists_eq_append_trim_append (t : Text) :
    ∃ before after, t = before ++ (t.trim ++ after) ∧ (∀ c ∈ before, isBlank c = true) ∧
      ∀ c ∈ after, isBlank c = true := by
  obtain ⟨after, hstart, hafter⟩ := t.trimStart.exists_eq_trimEnd_append
  refine ⟨t.takeWhile isBlank, after, ?_, fun _ hc => List.mem_takeWhile_imp hc, hafter⟩
  rw [trim, ← hstart, trimStart, List.takeWhile_append_dropWhile]

theorem mem_trim {c : Char} (hc : isBlank c = false) {t : Text} (h : c ∈ t) : c ∈ t.trim := by
  obtain ⟨before, after, ht, hbefore, hafter⟩ := t.exists_eq_append_trim_append
  rw [ht, List.mem_append, List.mem_append] at h
  rcases h with h | h | h
  · rw [hbefore c h] at hc
    cases hc
  · exact h
  · rw [hafter c h] at hc
    cases hc

theorem trimEnd_append_of_all {s : Text} (h : ∀ c ∈ s, isBlank c = true) (t : Text) :
    trimEnd (t ++ s) = trimEnd t := by
  induction s using List.reverseRecOn with
  | nil => rw [List.append_nil]
  | append_singleton s c ih =>
    rw [← List.append_assoc, trimEnd_append_blank (h c (by simp)),
      ih fun d hd => h d (List.mem_append_left _ hd)]

theorem trimStart_append_of_isTrimmed {s : Text} (hs : s.IsTrimmed) (hne : s ≠ []) (t : Text) :
    (s ++ t).trimStart = s ++ t := by
  obtain ⟨c, r, rfl⟩ := List.exists_cons_of_ne_nil hne
  exact trimStart_eq_self (hs.first rfl) _

theorem trimEnd_append_of_isTrimmed {s : Text} (hs : s.IsTrimmed) (hne : s ≠ []) (t : Text) :
    (t ++ s).trimEnd = t ++ s := by
  refine dropEndWhile_eq_self fun c hc => hs.last ?_
  rwa [List.getLast?_append_of_ne_nil _ hne] at hc

/-- The text up to its last character that is no blank. -/
theorem trimEnd_append_cons {c : Char} (hc : isBlank c = false) {s : Text}
    (h : ∀ d ∈ s, isBlank d = true) (t : Text) : trimEnd (t ++ c :: s) = t ++ [c] := by
  rw [List.append_cons, trimEnd_append_of_all h, trimEnd_eq_self hc]

theorem trim_append_blanks {s : Text} (h : ∀ c ∈ s, isBlank c = true) (t : Text) :
    trim (t ++ s) = trim t := by
  rw [trim, trim]
  by_cases ht : t.trimStart = []
  · rw [trimStart_append_of_all (trimStart_eq_nil_iff.1 ht), ht, trimStart_eq_nil_iff.2 h]
  · rw [trimStart_append ht, trimEnd_append_of_all h]

theorem isTrimmed_append {s m t : Text} (hs : ∃ c, s.head? = some c ∧ isBlank c = false)
    (ht : ∃ c, t.getLast? = some c ∧ isBlank c = false) : IsTrimmed (s ++ m ++ t) := by
  obtain ⟨c, hc, hcb⟩ := hs
  obtain ⟨d, hd, hdb⟩ := ht
  refine ⟨fun {e} he => ?_, fun {e} he => ?_⟩
  · rw [List.append_assoc, List.head?_append, hc, Option.some_or, Option.some.injEq] at he
    exact he ▸ hcb
  · rw [List.getLast?_append, hd, Option.some_or, Option.some.injEq] at he
    exact he ▸ hdb

theorem beforeLast?_concat (c d : Char) (t : Text) :
    beforeLast? c (t ++ [d]) = if d = c then some t else none := by
  unfold beforeLast?
  rw [List.reverse_append, List.reverse_singleton, List.singleton_append]
  simp only [List.reverse_reverse]

theorem beforeLast?_eq_some_iff {c : Char} {t before : Text} :
    t.beforeLast? c = some before ↔ t = before ++ [c] := by
  rcases t.eq_nil_or_concat with rfl | ⟨r, d, rfl⟩
  · simp [beforeLast?]
  · rw [List.concat_eq_append, beforeLast?_concat]
    split
    · next h => simp [h]
    · next h => simp [h]

theorem mem_of_mem_beforeLast? {c d : Char} {t before : Text} (h : t.beforeLast? d = some before)
    (hc : c ∈ before) : c ∈ t := by
  rw [beforeLast?_eq_some_iff.1 h]
  exact List.mem_append_left _ hc

end Text
end C4Diagram
