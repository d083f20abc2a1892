import C4Diagram.Proofs.Deflate.BlockBody

/-! A block with fixed codes or with codes of its own is read back as its tokens. A block states its
codes less the zeros at their ends, which takes no word away. -/

namespace C4Diagram.Deflate

open Reader

/-! Codes that the reader knows less their zeros at the end. -/

section

variable {limit : Nat} {lengths symbols : List Nat}

theorem Fits.readsSymbols (hfits : Fits limit lengths) (hlimit : limit < 16)
    (h : ∀ s ∈ symbols, ∃ l, lengths[s]? = some l ∧ 0 < l) :
    ReadsSymbols (.ofLengths lengths) (.ofLengths lengths) symbols := by
  intro s hs
  obtain ⟨l, hl, hpos⟩ := h s hs
  exact hfits.reads_symbol hlimit hl hpos

theorem Fits.of_zeros {zeros : Nat} (hfits : Fits limit (lengths ++ List.replicate zeros 0)) :
    Fits limit lengths where
  le l hl := hfits.le l (List.mem_append_left _ hl)
  room := coverage_append_zeros limit lengths zeros ▸ hfits.room

theorem getElem?_of_zeros {zeros s l : Nat} (h : (lengths ++ List.replicate zeros 0)[s]? = some l)
    (hpos : 0 < l) : lengths[s]? = some l := by
  rcases Nat.lt_or_ge s lengths.length with hs | hs
  · rwa [List.getElem?_append_left hs] at h
  · rw [List.getElem?_append_right hs] at h
    exact absurd (List.eq_of_mem_replicate (List.mem_of_getElem? h)) hpos.ne'

theorem Fits.readsSymbols_of_zeros {zeros : Nat}
    (hfits : Fits limit (lengths ++ List.replicate zeros 0)) (hlimit : limit < 16)
    (h : ∀ s ∈ symbols, ∃ l, (lengths ++ List.replicate zeros 0)[s]? = some l ∧ 0 < l) :
    ReadsSymbols (.ofLengths (lengths ++ List.replicate zeros 0)) (.ofLengths lengths) symbols := by
  intro s hs
  obtain ⟨l, hl, hpos⟩ := h s hs
  have hl := getElem?_of_zeros hl hpos
  have hlt : l < 16 := (hfits.of_zeros.le l (List.mem_of_getElem? hl)).trans_lt hlimit
  rw [word_append_zeros zeros hl hpos hlt]
  exact hfits.of_zeros.reads_symbol hlimit hl hpos

end

/-! The symbols of tokens. -/

theorem Token.InRange.symbol_lt {t : Token} (h : t.InRange) : t.symbol < literalSymbols := by
  cases t with
  | literal byte => exact byte.toNat_lt.trans (by decide)
  | copy length distance =>
    obtain ⟨⟨hlo, hhi⟩, -⟩ := h
    obtain ⟨place, bucket, hbucket, hplace, -⟩ :=
      exists_bucketOf contiguous_lengthBuckets hlo (Nat.lt_succ_of_le hhi)
    have hlt : place < 29 := (List.getElem?_eq_some_iff.1 hplace).1
    change 257 + (bucketOf lengthBuckets length).1 < 286
    have hfst : (bucketOf lengthBuckets length).1 = place := congrArg Prod.fst hbucket
    omega

theorem Token.InRange.distanceSymbol_lt {t : Token} (h : t.InRange) :
    ∀ s ∈ t.distanceSymbol?, s < distanceSymbols := by
  intro s hs
  cases t with
  | literal byte => cases hs
  | copy length distance =>
    obtain ⟨-, hlo, hhi⟩ := h
    obtain ⟨place, bucket, hbucket, hplace, -⟩ :=
      exists_bucketOf contiguous_distanceBuckets hlo (Nat.lt_succ_of_le hhi)
    have hlt : place < 30 := (List.getElem?_eq_some_iff.1 hplace).1
    have hfst : (bucketOf distanceBuckets distance).1 = place := congrArg Prod.fst hbucket
    obtain rfl := Option.some.inj hs
    rwa [hfst]

section

variable {tokens : List Token} (hrange : ∀ t ∈ tokens, t.InRange)

include hrange

theorem literalSymbol_lt : ∀ s ∈ endOfBlock :: tokens.map Token.symbol, s < literalSymbols := by
  refine List.forall_mem_cons.2 ⟨by decide, fun s hs => ?_⟩
  obtain ⟨t, ht, rfl⟩ := List.mem_map.1 hs
  exact (hrange t ht).symbol_lt

theorem distanceSymbol_lt : ∀ s ∈ tokens.filterMap Token.distanceSymbol?, s < distanceSymbols := by
  intro s hs
  obtain ⟨t, ht, hs⟩ := List.mem_filterMap.1 hs
  exact (hrange t ht).distanceSymbol_lt s hs

end

/-! Fixed codes. -/

theorem exists_of_all_pos {lengths : List Nat} (h : ∀ l ∈ lengths, 0 < l) {s : Nat}
    (hs : s < lengths.length) : ∃ l, lengths[s]? = some l ∧ 0 < l :=
  ⟨lengths[s], List.getElem?_eq_getElem hs, h _ (List.getElem_mem hs)⟩

theorem fits_fixedLiteralLengths : Fits maxCodeLength fixedLiteralLengths :=
  ⟨by decide +kernel, by decide +kernel⟩

theorem fits_fixedDistanceLengths : Fits maxCodeLength fixedDistanceLengths :=
  ⟨by decide +kernel, by decide +kernel⟩

/-! Codes of a block's own. -/

section

variable {size bound : Nat} {symbols : List Nat} (hsize : size ≤ 2 ^ maxCodeLength)
  (hlt : ∀ s ∈ symbols, s < bound)

def ownLengths (size : Nat) (symbols : List Nat) : List Nat :=
  codeLengths maxCodeLength (symbolCounts size symbols)

include hsize

theorem length_symbolCounts_le : (symbolCounts size symbols).length ≤ 2 ^ maxCodeLength := by
  rwa [length_symbolCounts]

theorem fits_ownLengths : Fits maxCodeLength (ownLengths size symbols) :=
  fits_codeLengths (by decide) (length_symbolCounts_le hsize)

include hlt

theorem eq_zero_of_mem_drop {l : Nat} (h : l ∈ (ownLengths size symbols).drop bound) : l = 0 := by
  obtain ⟨i, hi⟩ := List.mem_iff_getElem?.1 h
  rw [List.getElem?_drop] at hi
  by_contra hne
  obtain ⟨c, hc, hpos⟩ := used_of_codeLength (by decide) (length_symbolCounts_le hsize) hi
    (Nat.pos_of_ne_zero hne)
  obtain ⟨hin, -⟩ := List.getElem?_eq_some_iff.1 hc
  rw [length_symbolCounts] at hin
  rw [getElem?_symbolCounts symbols hin, Option.some.injEq] at hc
  have := hlt _ (List.count_pos_iff.1 (hc ▸ hpos))
  omega

theorem exists_take_ownLengths : ∃ zeros, ownLengths size symbols =
    (ownLengths size symbols).take bound ++ List.replicate zeros 0 := by
  refine ⟨((ownLengths size symbols).drop bound).length, ?_⟩
  rw [← List.eq_replicate_of_mem fun l => eq_zero_of_mem_drop hsize hlt (l := l),
    List.take_append_drop]

/-- What a block states of its lengths leaves out nothing but zeros. -/
theorem exists_stated (atLeast : Nat) : ∃ zeros, ownLengths size symbols =
    trimmedLengths atLeast ((ownLengths size symbols).take bound) ++ List.replicate zeros 0 := by
  obtain ⟨dropped, hdropped⟩ := exists_take_ownLengths hsize hlt
  obtain ⟨zeros, hzeros⟩ := exists_trimmedLengths atLeast ((ownLengths size symbols).take bound)
  refine ⟨zeros + dropped, ?_⟩
  rw [← List.replicate_append_replicate, ← List.append_assoc, ← hzeros, ← hdropped]

theorem exists_ownLength (hbound : bound ≤ size) : ∀ s ∈ symbols,
    ∃ l, (ownLengths size symbols)[s]? = some l ∧ 0 < l := fun s hs =>
  exists_codeLength (by decide) (length_symbolCounts_le hsize)
    (getElem?_symbolCounts symbols ((hlt s hs).trans_le hbound)) (List.count_pos_iff.2 hs)

theorem readsSymbols_ownLengths (hbound : bound ≤ size) (atLeast : Nat) :
    ReadsSymbols (.ofLengths (ownLengths size symbols))
      (.ofLengths (trimmedLengths atLeast ((ownLengths size symbols).take bound))) symbols := by
  obtain ⟨zeros, hzeros⟩ := exists_stated hsize hlt atLeast
  have hfits : Fits maxCodeLength (ownLengths size symbols) := fits_ownLengths hsize
  have hwords := exists_ownLength hsize hlt hbound
  rw [hzeros] at hfits hwords
  have := hfits.readsSymbols_of_zeros (by decide) hwords
  rwa [← hzeros] at this

theorem isUsable_take_ownLengths :
    isUsable maxCodeLength ((ownLengths size symbols).take bound) = true := by
  obtain ⟨dropped, hdropped⟩ := exists_take_ownLengths hsize hlt
  rw [← isUsable_append_zeros _ _ dropped, ← hdropped]
  exact isUsable_codeLengths (by decide) (length_symbolCounts_le hsize)

omit hsize hlt in
theorem length_take_ownLengths (hbound : bound ≤ size) :
    ((ownLengths size symbols).take bound).length = bound := by
  rw [List.length_take, ownLengths, length_codeLengths, length_symbolCounts, Nat.min_eq_left hbound]

end

def ownLiterals (tokens : List Token) : List Nat :=
  ownLengths 288 (endOfBlock :: tokens.map Token.symbol)

def ownDistances (tokens : List Token) : List Nat :=
  ownLengths 32 (tokens.filterMap Token.distanceSymbol?)

theorem ownBlock_eq (tokens : List Token) :
    ownBlock tokens = bitsLow 1 1 ++ (bitsLow 2 2 ++
      (codeHeader ((ownLiterals tokens).take literalSymbols)
        ((ownDistances tokens).take distanceSymbols) ++
          blockBody (.ofLengths (ownLiterals tokens)) (.ofLengths (ownDistances tokens))
            tokens)) := by
  rw [← List.append_assoc (bitsLow 2 2), ← List.append_assoc, ← List.append_assoc]
  rfl

/-! Blocks. -/

section

variable {tokens : List Token} (hrange : ∀ t ∈ tokens, t.InRange)

include hrange

theorem reads_fixedBlock (inputLength : Nat) :
    (block inputLength).Reads (fixedBlock tokens) (true, tokens) := by
  have hliterals : ReadsSymbols (.ofLengths fixedLiteralLengths) (.ofLengths fixedLiteralLengths)
      (endOfBlock :: tokens.map Token.symbol) :=
    fits_fixedLiteralLengths.readsSymbols (by decide) fun s hs =>
      exists_of_all_pos (by decide +kernel)
        ((literalSymbol_lt hrange s hs).trans (by decide +kernel))
  have hdistances : ReadsSymbols (.ofLengths fixedDistanceLengths) (.ofLengths fixedDistanceLengths)
      (tokens.filterMap Token.distanceSymbol?) :=
    fits_fixedDistanceLengths.readsSymbols (by decide) fun s hs =>
      exists_of_all_pos (by decide +kernel) ((distanceSymbol_lt hrange s hs).trans (by decide))
  have hlength := length_le_blockBody (.ofLengths fixedDistanceLengths)
    (List.forall_mem_cons.1 hliterals).2
  unfold block fixedBlock
  rw [List.append_assoc]
  refine (reads_number (v := 1) (by decide)).bind ((reads_number (v := 1) (by decide)).bind
    (reads_get_bind fun rest => ?_))
  refine (reads_blockTokens hrange hliterals hdistances ?_).bind_pure rfl
  rw [List.length_append]
  omega

theorem reads_ownHeader : codeHeaderLengths.Reads
    (codeHeader ((ownLiterals tokens).take literalSymbols)
      ((ownDistances tokens).take distanceSymbols))
    (trimmedLengths 257 ((ownLiterals tokens).take literalSymbols),
      trimmedLengths 1 ((ownDistances tokens).take distanceSymbols)) := by
  obtain ⟨l, hl, hpos⟩ : ∃ l, (ownLiterals tokens)[endOfBlock]? = some l ∧ 0 < l :=
    exists_ownLength (by decide) (literalSymbol_lt hrange) (by decide) endOfBlock List.mem_cons_self
  have hused : l ∈ (ownLiterals tokens).take literalSymbols := by
    rw [← List.getElem?_take_of_lt (by decide : endOfBlock < literalSymbols)] at hl
    exact List.mem_of_getElem? hl
  refine reads_codeHeader (length_take_ownLengths (by decide)) (length_take_ownLengths (by decide))
    (fun l hl => ?_) (isUsable_take_ownLengths (by decide) (literalSymbol_lt hrange))
    (isUsable_take_ownLengths (by decide) (distanceSymbol_lt hrange)) hused hpos.ne'
  rcases List.mem_append.1 hl with hl | hl
  · exact Nat.lt_succ_of_le ((fits_ownLengths (by decide)).le l (List.mem_of_mem_take hl))
  · exact Nat.lt_succ_of_le ((fits_ownLengths (by decide)).le l (List.mem_of_mem_take hl))

theorem reads_ownBlock (inputLength : Nat) :
    (block inputLength).Reads (ownBlock tokens) (true, tokens) := by
  have hliterals : ReadsSymbols (.ofLengths (ownLiterals tokens)) _ _ :=
    readsSymbols_ownLengths (by decide) (literalSymbol_lt hrange) (by decide) 257
  have hdistances : ReadsSymbols (.ofLengths (ownDistances tokens)) _ _ :=
    readsSymbols_ownLengths (by decide) (distanceSymbol_lt hrange) (by decide) 1
  have hlength := length_le_blockBody (.ofLengths (ownDistances tokens))
    (List.forall_mem_cons.1 hliterals).2
  rw [ownBlock_eq]
  unfold block
  refine (reads_number (v := 1) (by decide)).bind ((reads_number (v := 2) (by decide)).bind
    (reads_get_bind fun rest => (reads_ownHeader hrange).bind
      ((reads_blockTokens hrange hliterals hdistances ?_).bind_pure rfl)))
  rw [List.length_append, List.length_append]
  omega

end

end C4Diagram.Deflate
