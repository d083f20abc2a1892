import C4Diagram.Proofs.Deflate.Reads
import Mathlib.Data.List.Count
import Mathlib.Tactic.Ring

/-! The words of lengths that fit are prefix-free: a word of one length is a smaller number than the
first bits of every longer word, and words of one length are numbered apart. So a symbol is read
back from its word. -/

namespace C4Diagram.Deflate

/-! The part of all bit strings that words take. -/

@[simp] theorem coverage_nil (limit : Nat) : coverage limit [] = 0 := rfl

theorem coverage_cons (limit l : Nat) (lengths : List Nat) :
    coverage limit (l :: lengths) =
      (if 0 < l then 2 ^ (limit - l) else 0) + coverage limit lengths := by
  unfold coverage
  by_cases hl : 0 < l
  · rw [List.filter_cons_of_pos (by simpa using hl), List.foldr_cons, Nat.one_shiftLeft, if_pos hl]
  · rw [List.filter_cons_of_neg (by simpa using hl), if_neg hl, Nat.zero_add]

theorem coverage_filter_le (limit : Nat) (p : Nat → Bool) (lengths : List Nat) :
    coverage limit (lengths.filter p) ≤ coverage limit lengths := by
  induction lengths with
  | nil => exact Nat.le_refl 0
  | cons l lengths ih =>
    rw [List.filter_cons]
    split
    · rw [coverage_cons, coverage_cons]
      exact Nat.add_le_add_left ih _
    · rw [coverage_cons]
      exact ih.trans (Nat.le_add_left _ _)

theorem coverage_filter_succ (limit n : Nat) (lengths : List Nat) :
    coverage limit (lengths.filter (· ≤ n + 1)) =
      coverage limit (lengths.filter (· ≤ n)) +
        wordsOf lengths (n + 1) * 2 ^ (limit - (n + 1)) := by
  induction lengths with
  | nil => simp [wordsOf]
  | cons l lengths ih =>
    simp only [wordsOf, Nat.succ_ne_zero, if_false] at ih ⊢
    rcases Nat.lt_trichotomy l (n + 1) with hl | rfl | hl
    · rw [List.filter_cons_of_pos (by simpa using hl.le),
        List.filter_cons_of_pos (by simpa using Nat.le_of_lt_succ hl), coverage_cons, coverage_cons,
        ih, List.count_cons_of_ne hl.ne, Nat.add_assoc]
    · rw [List.filter_cons_of_pos (by simp), List.filter_cons_of_neg (by simp), coverage_cons,
        if_pos n.succ_pos, ih, List.count_cons_self]
      ring
    · rw [List.filter_cons_of_neg (by simpa using hl),
        List.filter_cons_of_neg (by simp only [decide_eq_true_eq]; omega), ih,
        List.count_cons_of_ne hl.ne']

/-- The words of up to `n` bits are all the words of `n` bits below one number. -/
theorem firstWord_add_wordsOf {limit n : Nat} (hn : n ≤ limit) (lengths : List Nat) :
    (firstWord lengths n + wordsOf lengths n) * 2 ^ (limit - n) =
      coverage limit (lengths.filter (· ≤ n)) := by
  induction n with
  | zero =>
    have hzero : (lengths.filter (· ≤ 0)).filter (0 < ·) = [] := by
      refine List.filter_eq_nil_iff.2 fun l hl => ?_
      have : l ≤ 0 := by simpa using (List.mem_filter.1 hl).2
      simpa using this
    rw [coverage, hzero, firstWord, wordsOf, if_pos rfl, Nat.zero_mul, List.foldr_nil]
  | succ n ih =>
    have hpow : limit - n = (limit - (n + 1)) + 1 := by omega
    rw [coverage_filter_succ, ← ih (Nat.le_of_succ_le hn), firstWord, Nat.add_mul, hpow,
      Nat.pow_succ]
    ring

/-- Word lengths up to the limit that leave room for all words. -/
structure Fits (limit : Nat) (lengths : List Nat) : Prop where
  le : ∀ l ∈ lengths, l ≤ limit
  room : coverage limit lengths ≤ 2 ^ limit

theorem Fits.numbers_le {limit n : Nat} {lengths : List Nat} (h : Fits limit lengths)
    (hn : n ≤ limit) : firstWord lengths n + wordsOf lengths n ≤ 2 ^ n := by
  have hmul : (firstWord lengths n + wordsOf lengths n) * 2 ^ (limit - n) ≤
      2 ^ n * 2 ^ (limit - n) := by
    rw [firstWord_add_wordsOf hn, ← Nat.pow_add, Nat.add_sub_cancel' hn]
    exact (coverage_filter_le _ _ _).trans h.room
  exact Nat.le_of_mul_le_mul_right hmul (Nat.two_pow_pos _)

/-- Longer words come after all shorter ones. -/
theorem mul_le_firstWord (lengths : List Nat) (n k : Nat) :
    (firstWord lengths n + wordsOf lengths n) * 2 ^ (k + 1) ≤ firstWord lengths (n + (k + 1)) := by
  induction k with
  | zero => rw [Nat.zero_add, Nat.pow_one, Nat.mul_comm]; exact Nat.le_refl _
  | succ k ih =>
    rw [← Nat.add_assoc n, firstWord, Nat.pow_succ, ← Nat.mul_assoc]
    omega

/-! Words. -/

/-- The number of a symbol's word: the first one of its length, and one more for every symbol of
that length before it. -/
def wordNumber (lengths : List Nat) (symbol length : Nat) : Nat :=
  firstWord lengths length + (lengths.take symbol).count length

theorem getElem?_assignWords (next : Nat → Nat) (lengths : List Nat) (s : Nat) :
    (assignWords next lengths)[s]? = lengths[s]?.map fun l =>
      if l = 0 then [] else bitsHigh l (next l + (lengths.take s).count l) := by
  induction lengths generalizing next s with
  | nil => rfl
  | cons first lengths ih =>
    rw [assignWords]
    split
    next hzero =>
      cases s with
      | zero => simp [hzero]
      | succ s =>
        rw [List.getElem?_cons_succ, ih, List.getElem?_cons_succ, List.take_succ_cons]
        refine congrArg (lengths[s]?.map ·) (funext fun l => ?_)
        by_cases hl : l = 0
        · rw [if_pos hl, if_pos hl]
        · rw [if_neg hl, if_neg hl, List.count_cons_of_ne (by omega)]
    next hpos =>
      cases s with
      | zero => simp [hpos]
      | succ s =>
        rw [List.getElem?_cons_succ, ih, List.getElem?_cons_succ, List.take_succ_cons]
        refine congrArg (lengths[s]?.map ·) (funext fun l => ?_)
        by_cases hl : l = first
        · subst hl
          rw [if_pos rfl, List.count_cons_self, Nat.add_right_comm, Nat.add_assoc]
        · rw [if_neg hl, List.count_cons_of_ne (Ne.symm hl)]

theorem getElem?_ofLengths {lengths : List Nat} {s l : Nat} (hs : lengths[s]? = some l)
    (hpos : 0 < l) (hlt : l < 16) :
    (PrefixCode.ofLengths lengths)[s]? = some (bitsHigh l (wordNumber lengths s l)) := by
  have hfirst : ((List.range 16).map (firstWord lengths)).getD l 0 = firstWord lengths l := by
    simp [List.getD_eq_getElem?_getD, hlt]
  rw [PrefixCode.ofLengths, List.getElem?_toArray, getElem?_assignWords, hs, Option.map_some,
    if_neg hpos.ne', hfirst, wordNumber]

theorem word_ofLengths {lengths : List Nat} {s l : Nat} (hs : lengths[s]? = some l)
    (hpos : 0 < l) (hlt : l < 16) :
    (PrefixCode.ofLengths lengths).word s = bitsHigh l (wordNumber lengths s l) := by
  rw [PrefixCode.word, Array.getD_eq_getD_getElem?, getElem?_ofLengths hs hpos hlt,
    Option.getD_some]

/-- Symbols of length 0 have no word. -/
theorem exists_of_getElem?_ofLengths {lengths : List Nat} {s : Nat} {w : Bits}
    (hw : (PrefixCode.ofLengths lengths)[s]? = some w) (hne : w ≠ []) :
    ∃ l, lengths[s]? = some l ∧ 0 < l := by
  rw [PrefixCode.ofLengths, List.getElem?_toArray, getElem?_assignWords] at hw
  obtain ⟨l, hs, rfl⟩ := Option.map_eq_some_iff.1 hw
  refine ⟨l, hs, Nat.pos_of_ne_zero fun hl => hne ?_⟩
  rw [if_pos hl]

section

variable {limit : Nat} {lengths : List Nat} {s t l m : Nat}

theorem count_take_lt (hs : lengths[s]? = some l) (hst : s < t) :
    (lengths.take s).count l < (lengths.take t).count l := by
  have hsucc : (lengths.take (s + 1)).count l = (lengths.take s).count l + 1 := by
    rw [List.take_add_one, hs, Option.toList_some, List.count_append, List.count_singleton_self]
  have hle : (lengths.take (s + 1)).count l ≤ (lengths.take t).count l :=
    (List.take_sublist_take_left hst).count_le l
  omega

theorem wordNumber_lt_add (hs : lengths[s]? = some l) (hpos : 0 < l) :
    wordNumber lengths s l < firstWord lengths l + wordsOf lengths l := by
  obtain ⟨hlt, -⟩ := List.getElem?_eq_some_iff.1 hs
  have := count_take_lt hs hlt
  rw [List.take_length] at this
  rw [wordNumber, wordsOf, if_neg hpos.ne']
  exact Nat.add_lt_add_left this _

theorem wordNumber_injective (hs : lengths[s]? = some l) (ht : lengths[t]? = some l)
    (h : wordNumber lengths s l = wordNumber lengths t l) : s = t := by
  have hcount := Nat.add_left_cancel h
  rcases Nat.lt_trichotomy s t with hst | hst | hst
  · exact absurd hcount (count_take_lt hs hst).ne
  · exact hst
  · exact absurd hcount (count_take_lt ht hst).ne'

theorem Fits.wordNumber_lt (hfits : Fits limit lengths) (hs : lengths[s]? = some l) (hpos : 0 < l) :
    wordNumber lengths s l < 2 ^ l :=
  (wordNumber_lt_add hs hpos).trans_le
    (hfits.numbers_le (hfits.le l (List.mem_of_getElem? hs)))

/-- No word is the start of another one. -/
theorem Fits.eq_of_isPrefix (hfits : Fits limit lengths) (hs : lengths[s]? = some l)
    (ht : lengths[t]? = some m) (hpos : 0 < l) (hle : l ≤ m)
    (h : bitsHigh l (wordNumber lengths s l) <+: bitsHigh m (wordNumber lengths t m)) : s = t := by
  obtain ⟨k, rfl⟩ := Nat.exists_eq_add_of_le hle
  have hnumber := hfits.wordNumber_lt ht (Nat.add_pos_left hpos k)
  rw [bitsHigh_add] at h
  have hbits : bitsHigh l (wordNumber lengths s l) =
      bitsHigh l (wordNumber lengths t (l + k) / 2 ^ k) :=
    (List.prefix_of_prefix_length_le h (List.prefix_append _ _)
      (by simp [length_bitsHigh])).eq_of_length (by simp [length_bitsHigh])
  have heq : wordNumber lengths s l = wordNumber lengths t (l + k) / 2 ^ k :=
    bitsHigh_injective (hfits.wordNumber_lt hs hpos)
      (Nat.div_lt_of_lt_mul (by rwa [← Nat.pow_add, Nat.add_comm k l])) hbits
  -- a longer word is numbered past all words of length `l`, so its first bits are none of them
  cases k with
  | zero =>
    rw [Nat.pow_zero, Nat.div_one] at heq
    exact wordNumber_injective hs ht heq
  | succ k =>
    have hlater : (firstWord lengths l + wordsOf lengths l) * 2 ^ (k + 1) ≤
        wordNumber lengths t (l + (k + 1)) :=
      (mul_le_firstWord lengths l k).trans (Nat.le_add_right _ _)
    have hearlier := wordNumber_lt_add hs hpos
    rw [heq] at hearlier
    exact absurd ((Nat.le_div_iff_mul_le (Nat.two_pow_pos _)).2 hlater) (Nat.not_le.2 hearlier)

theorem bitsHigh_ne_nil {n : Nat} (hn : 0 < n) (v : Nat) : bitsHigh n v ≠ [] :=
  List.ne_nil_of_length_pos (by rwa [length_bitsHigh])

/-- A symbol is read back from its word, whatever follows it. -/
theorem Fits.symbol?_word (hfits : Fits limit lengths) (hlimit : limit < 16)
    (hs : lengths[s]? = some l) (hpos : 0 < l) (rest : Bits) :
    (PrefixCode.ofLengths lengths).symbol? ((PrefixCode.ofLengths lengths).word s ++ rest) =
      some s := by
  have hshort : ∀ {r n}, lengths[r]? = some n → n < 16 := fun hr =>
    (hfits.le _ (List.mem_of_getElem? hr)).trans_lt hlimit
  obtain ⟨hlt, hget⟩ := Array.getElem?_eq_some_iff.1 (getElem?_ofLengths hs hpos (hshort hs))
  rw [word_ofLengths hs hpos (hshort hs), PrefixCode.symbol?,
    Array.findIdx?_eq_some_iff_getElem]
  refine ⟨hlt, ?_, fun t hts hmatch => ?_⟩
  · rw [hget, Bool.and_eq_true, List.isPrefixOf_iff_prefix]
    exact ⟨by simpa using bitsHigh_ne_nil hpos _, List.prefix_append _ _⟩
  · have hgett := Array.getElem?_eq_getElem (hts.trans hlt)
    rw [Bool.and_eq_true, List.isPrefixOf_iff_prefix] at hmatch
    obtain ⟨hne, hprefix⟩ := hmatch
    obtain ⟨m, ht, hm⟩ := exists_of_getElem?_ofLengths hgett (by simpa using hne)
    rw [getElem?_ofLengths ht hm (hshort ht), Option.some.injEq] at hgett
    rw [← hgett] at hprefix
    rcases Nat.le_total l m with hle | hle
    · have := List.prefix_of_prefix_length_le (List.prefix_append _ rest) hprefix
        (by simpa [length_bitsHigh] using hle)
      exact hts.ne' (hfits.eq_of_isPrefix hs ht hpos hle this)
    · have := List.prefix_of_prefix_length_le hprefix (List.prefix_append _ rest)
        (by simpa [length_bitsHigh] using hle)
      exact hts.ne (hfits.eq_of_isPrefix ht hs hm hle this)

theorem Fits.reads_symbol (hfits : Fits limit lengths) (hlimit : limit < 16)
    (hs : lengths[s]? = some l) (hpos : 0 < l) :
    (Reader.symbol (PrefixCode.ofLengths lengths)).Reads ((PrefixCode.ofLengths lengths).word s)
      s := by
  intro rest
  change Reader.symbol _ _ = _
  simp only [Reader.symbol, hfits.symbol?_word hlimit hs hpos rest, List.drop_left]

/-! Lengths of 0 at the end change no word. -/

theorem coverage_append_zeros (limit : Nat) (lengths : List Nat) (zeros : Nat) :
    coverage limit (lengths ++ List.replicate zeros 0) = coverage limit lengths := by
  rw [coverage, List.filter_append, List.filter_replicate_of_neg (by decide), List.append_nil,
    coverage]

theorem wordsOf_append_zeros (lengths : List Nat) (zeros n : Nat) :
    wordsOf (lengths ++ List.replicate zeros 0) n = wordsOf lengths n := by
  unfold wordsOf
  by_cases hn : n = 0
  · rw [if_pos hn, if_pos hn]
  · rw [if_neg hn, if_neg hn, List.count_append, List.count_replicate,
      if_neg (by simpa using Ne.symm hn), Nat.add_zero]

theorem firstWord_append_zeros (lengths : List Nat) (zeros n : Nat) :
    firstWord (lengths ++ List.replicate zeros 0) n = firstWord lengths n := by
  induction n with
  | zero => rfl
  | succ n ih => rw [firstWord, firstWord, ih, wordsOf_append_zeros]

theorem word_append_zeros (zeros : Nat) (hs : lengths[s]? = some l) (hpos : 0 < l) (hlt : l < 16) :
    (PrefixCode.ofLengths (lengths ++ List.replicate zeros 0)).word s =
      (PrefixCode.ofLengths lengths).word s := by
  obtain ⟨hin, -⟩ := List.getElem?_eq_some_iff.1 hs
  rw [word_ofLengths ((List.getElem?_append_left hin).trans hs) hpos hlt,
    word_ofLengths hs hpos hlt, wordNumber, wordNumber, firstWord_append_zeros,
    List.take_append_of_le_length hin.le]

end

end C4Diagram.Deflate
