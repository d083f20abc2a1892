import C4Diagram.Text.Search

/-! What follows an occurrence of a word is what is left after some text and the word: this
states the search by appending only. A word that holds no line feed occurs on one side of each
line feed. -/

namespace C4Diagram
namespace Text

theorem after?_eq_some_iff {t start rest : Text} :
    t.after? start = some rest ↔ t = start ++ rest := by
  unfold after?
  split
  · next h =>
    obtain ⟨u, rfl⟩ := List.isPrefixOf_iff_prefix.1 h
    simp [eq_comm]
  · next h =>
    refine ⟨by simp, ?_⟩
    rintro rfl
    exact absurd (List.isPrefixOf_iff_prefix.2 (List.prefix_append _ _)) h

theorem mem_afterEach_iff {t word rest : Text} :
    rest ∈ t.afterEach word ↔ ∃ pre, t = pre ++ (word ++ rest) := by
  induction t with
  | nil =>
    rw [afterEach]
    split
    · next h => simp_all
    · next h =>
      have hw : word ≠ [] := by simpa using h
      simp [hw]
  | cons c r ih =>
    rw [afterEach, List.mem_append, Option.mem_toList, after?_eq_some_iff, ih]
    refine ⟨?_, ?_⟩
    · intro hfound
      rcases hfound with h | ⟨pre, rfl⟩
      · exact ⟨[], h⟩
      · exact ⟨c :: pre, rfl⟩
    · intro hfound
      obtain ⟨pre, h⟩ := hfound
      cases pre with
      | nil => exact .inl h
      | cons d pre =>
        rw [List.cons_append, List.cons.injEq] at h
        exact .inr ⟨pre, h.2⟩

theorem mentions_iff {t word : Text} : t.mentions word = true ↔ word <:+: t := by
  rw [mentions, Bool.not_eq_true', List.isEmpty_eq_false_iff_exists_mem]
  refine ⟨?_, ?_⟩
  · intro hfound
    obtain ⟨rest, h⟩ := hfound
    obtain ⟨pre, rfl⟩ := mem_afterEach_iff.1 h
    exact List.infix_append' pre word rest
  · intro hfound
    obtain ⟨pre, rest, rfl⟩ := hfound
    exact ⟨rest, mem_afterEach_iff.2 ⟨pre, List.append_assoc ..⟩⟩

/-- A word without the character `c` that occurs around `c` stands on one side of it. -/
theorem append_cons_eq_iff {s t pre word rest : Text} {c : Char} (hc : c ∉ word) :
    s ++ c :: t = pre ++ (word ++ rest) ↔
      (∃ r, s = pre ++ (word ++ r) ∧ rest = r ++ c :: t) ∨
        ∃ p, pre = s ++ c :: p ∧ t = p ++ (word ++ rest) := by
  refine ⟨?_, ?_⟩
  · intro h
    rcases List.append_eq_append_iff.1 h with ⟨as, hpre, hct⟩ | ⟨bs, hs, hwr⟩
    · cases as with
      | nil =>
        cases word with
        | nil => exact .inl ⟨[], by simpa using hpre.symm, by simpa using hct.symm⟩
        | cons d word =>
          rw [List.nil_append, List.cons_append, List.cons.injEq] at hct
          exact absurd (hct.1 ▸ List.mem_cons_self) hc
      | cons d as =>
        rw [List.cons_append, List.cons.injEq] at hct
        exact .inr ⟨as, by rw [hpre, hct.1], hct.2⟩
    · rcases List.append_eq_append_iff.1 hwr with ⟨cs, hbs, hrest⟩ | ⟨ds, hword, hct⟩
      · exact .inl ⟨cs, by rw [hs, hbs], hrest⟩
      · cases ds with
        | nil => exact .inl ⟨[], by rw [hs, hword]; simp, by simpa using hct.symm⟩
        | cons d ds =>
          rw [List.cons_append, List.cons.injEq] at hct
          exact absurd (by rw [hword, hct.1]; simp) hc
  · rintro (⟨r, rfl, rfl⟩ | ⟨p, rfl, rfl⟩) <;> simp [List.append_assoc]

theorem infix_append_cons_iff {s t word : Text} {c : Char} (hc : c ∉ word) :
    word <:+: s ++ c :: t ↔ word <:+: s ∨ word <:+: t := by
  refine ⟨?_, ?_⟩
  · intro hfound
    obtain ⟨pre, rest, h⟩ := hfound
    rw [List.append_assoc] at h
    rcases (append_cons_eq_iff hc).1 h.symm with ⟨r, rfl, -⟩ | ⟨p, -, rfl⟩
    · exact .inl (List.infix_append' _ _ _)
    · exact .inr (List.infix_append' _ _ _)
  · intro hfound
    rcases hfound with h | h
    · exact List.infix_append_of_infix_left h
    · exact List.infix_append_of_infix_right (List.infix_cons h)

/-- Lower case does not leave ASCII. -/
theorem toNat_toLower_lt {c : Char} (h : c.toNat < 128) : c.toLower.toNat < 128 := by
  unfold Char.toLower
  split
  · next hupper =>
    have hle : c.val.toNat ≤ 90 := UInt32.le_iff_toNat_le.1 hupper.2
    change (c.val + 32).toNat < 128
    rw [UInt32.toNat_add]
    change (c.val.toNat + 32) % 2 ^ 32 < 128
    omega
  · exact h

theorem lowered_append (s t : Text) : lowered (s ++ t) = lowered s ++ lowered t := List.map_append

theorem lowered_cons (c : Char) (t : Text) : lowered (c :: t) = c.toLower :: lowered t := rfl

theorem lowered_isInfix {s t : Text} (h : s <:+: t) : lowered s <:+: lowered t :=
  List.IsInfix.map _ h

end Text
end C4Diagram
