import C4Diagram.Proofs.Deflate.CodeLengths
import C4Diagram.Proofs.Deflate.Runs
import Mathlib.Data.List.GetD

/-! The head of a block with codes of its own is read back as the code lengths it states. -/

namespace C4Diagram.Deflate

/-! Counting symbols. -/

theorem getElem?_foldl_modify (symbols : List Nat) (counts : Array Nat) (s : Nat) :
    (symbols.foldl (fun counts s => counts.modify s (· + 1)) counts)[s]? =
      counts[s]?.map (· + symbols.count s) := by
  induction symbols generalizing counts with
  | nil => simp
  | cons t symbols ih =>
    rw [List.foldl_cons, ih, Array.getElem?_modify]
    by_cases hts : t = s
    · subst hts
      rw [if_pos rfl, List.count_cons_self]
      cases counts[t]? <;> simp
      omega
    · rw [if_neg hts, List.count_cons_of_ne hts]

theorem getElem?_symbolCounts {size : Nat} (symbols : List Nat) {s : Nat} (hs : s < size) :
    (symbolCounts size symbols)[s]? = some (symbols.count s) := by
  simp [symbolCounts, Array.getElem?_toList, getElem?_foldl_modify, hs]

theorem size_foldl_modify (symbols : List Nat) (counts : Array Nat) :
    (symbols.foldl (fun counts s => counts.modify s (· + 1)) counts).size = counts.size := by
  induction symbols generalizing counts with
  | nil => rfl
  | cons t symbols ih => rw [List.foldl_cons, ih, Array.size_modify]

theorem length_symbolCounts (size : Nat) (symbols : List Nat) :
    (symbolCounts size symbols).length = size := by
  rw [symbolCounts, Array.length_toList, size_foldl_modify, Array.size_replicate]

theorem mem_usedSymbols_of_mem {size : Nat} {symbols : List Nat} {s : Nat} (hs : s ∈ symbols)
    (hlt : s < size) : s ∈ (usedSymbols (symbolCounts size symbols)).map Prod.snd :=
  List.mem_map.2 ⟨(symbols.count s, s),
    mem_usedSymbols.2 ⟨getElem?_symbolCounts symbols hlt, List.count_pos_iff.2 hs⟩, rfl⟩

theorem two_le_countP_symbolCounts {size : Nat} {symbols : List Nat} {s t : Nat} (hs : s ∈ symbols)
    (ht : t ∈ symbols) (hne : s ≠ t) (hlts : s < size) (hltt : t < size) :
    2 ≤ (symbolCounts size symbols).countP (0 < ·) := by
  have hsubset : [s, t] ⊆ (usedSymbols (symbolCounts size symbols)).map Prod.snd :=
    List.cons_subset.2 ⟨mem_usedSymbols_of_mem hs hlts,
      List.cons_subset.2 ⟨mem_usedSymbols_of_mem ht hltt, List.nil_subset _⟩⟩
  have hsubperm := List.subperm_of_subset (by simp [hne]) hsubset
  rw [← length_usedSymbols, ← List.length_map Prod.snd]
  exact hsubperm.length_le

/-! Leaving out zeros at the end. -/

theorem exists_trimmedLengths (atLeast : Nat) (lengths : List Nat) :
    ∃ zeros, lengths = trimmedLengths atLeast lengths ++ List.replicate zeros 0 := by
  let kept := max (lengths.reverse.dropWhile (· == 0)).length atLeast
  have hzero : ∀ l ∈ lengths.drop kept, l = 0 := by
    intro l hl
    have hparts := congrArg List.reverse
      (List.takeWhile_append_dropWhile (p := (· == 0)) (l := lengths.reverse))
    rw [List.reverse_append, List.reverse_reverse] at hparts
    have hbody : (lengths.reverse.dropWhile (· == 0)).reverse.length ≤ kept := by
      rw [List.length_reverse]
      exact Nat.le_max_left _ _
    rw [← hparts, List.drop_append, List.drop_eq_nil_of_le hbody, List.nil_append] at hl
    simpa using List.all_eq_true.1 List.all_takeWhile l
      (List.mem_reverse.1 (List.mem_of_mem_drop hl))
  refine ⟨(lengths.drop kept).length, ?_⟩
  rw [← List.eq_replicate_of_mem hzero]
  exact (List.take_append_drop kept lengths).symm

theorem length_trimmedLengths {atLeast : Nat} {lengths : List Nat} (h : atLeast ≤ lengths.length) :
    atLeast ≤ (trimmedLengths atLeast lengths).length ∧
      (trimmedLengths atLeast lengths).length ≤ lengths.length := by
  rw [trimmedLengths, List.length_take]
  omega

/-! The lengths of the code of code lengths. -/

theorem lookup_zip_map {keys stated : List Nat} (f : Nat → Nat) {zeros : Nat}
    (h : keys.map f = stated ++ List.replicate zeros 0) {s : Nat} (hs : s ∈ keys) :
    ((keys.zip stated).lookup s).getD 0 = f s := by
  induction keys generalizing stated with
  | nil => cases hs
  | cons key keys ih =>
    cases stated with
    | nil =>
      rw [List.nil_append] at h
      exact (List.eq_of_mem_replicate (h ▸ List.mem_map_of_mem hs)).symm
    | cons value stated =>
      obtain ⟨hvalue, h⟩ := List.cons.inj h
      rw [List.zip_cons_cons, List.lookup_cons]
      by_cases hkey : s = key
      · rw [hkey, beq_self_eq_true, hvalue]
        rfl
      · rw [beq_false_of_ne hkey]
        exact ih h ((List.mem_cons.1 hs).resolve_left hkey)

theorem inSymbolOrder_trimmedLengths {runLengths : List Nat} (h : runLengths.length = 19)
    (atLeast : Nat) :
    Reader.inSymbolOrder (trimmedLengths atLeast (headerOrder.map (runLengths.getD · 0))) =
      runLengths := by
  have horder : ∀ s < 19, s ∈ headerOrder := by decide
  obtain ⟨zeros, hzeros⟩ := exists_trimmedLengths atLeast (headerOrder.map (runLengths.getD · 0))
  have hlookup : ∀ s ∈ List.range 19, ((headerOrder.zip (trimmedLengths atLeast
      (headerOrder.map (runLengths.getD · 0)))).lookup s).getD 0 = runLengths.getD s 0 :=
    fun s hs => lookup_zip_map _ hzeros (horder s (List.mem_range.1 hs))
  rw [Reader.inSymbolOrder.eq_def, List.map_congr_left hlookup, ← h]
  exact List.ext_getElem (by simp) fun s hs hs' => by simp [List.getD_eq_getElem?_getD, hs']

theorem isUsable_append_zeros (limit : Nat) (lengths : List Nat) (zeros : Nat) :
    isUsable limit (lengths ++ List.replicate zeros 0) = isUsable limit lengths := by
  unfold isUsable isComplete
  rw [coverage_append_zeros, List.filter_append, List.filter_replicate_of_neg (by decide),
    List.append_nil]

theorem isUsable_trimmedLengths (limit atLeast : Nat) (lengths : List Nat) :
    isUsable limit (trimmedLengths atLeast lengths) = isUsable limit lengths := by
  obtain ⟨zeros, hzeros⟩ := exists_trimmedLengths atLeast lengths
  conv_rhs => rw [hzeros, isUsable_append_zeros]

/-! The code of code lengths. -/

def runLengths (runs : List RunSymbol) : List Nat :=
  codeLengths maxHeaderCodeLength (symbolCounts 19 (runs.map RunSymbol.symbol))

def statedLengths (runs : List RunSymbol) : List Nat :=
  trimmedLengths 4 (headerOrder.map ((runLengths runs).getD · 0))

theorem length_runLengths (runs : List RunSymbol) : (runLengths runs).length = 19 := by
  rw [runLengths, length_codeLengths, length_symbolCounts]

theorem length_runCounts_le (runs : List RunSymbol) :
    (symbolCounts 19 (runs.map RunSymbol.symbol)).length ≤ 2 ^ maxHeaderCodeLength := by
  rw [length_symbolCounts]
  decide

theorem fits_runLengths (runs : List RunSymbol) : Fits maxHeaderCodeLength (runLengths runs) :=
  fits_codeLengths (by decide) (length_runCounts_le runs)

theorem exists_runLength {runs : List RunSymbol} {read read' : List Nat}
    (h : AppendAll runs read read') {r : RunSymbol} (hr : r ∈ runs) :
    ∃ l, (runLengths runs)[r.symbol]? = some l ∧ 0 < l :=
  exists_codeLength (by decide) (length_runCounts_le runs)
    (getElem?_symbolCounts _ (h.symbol_lt r hr)) (List.count_pos_iff.2 (List.mem_map_of_mem hr))

theorem isComplete_runLengths {runs : List RunSymbol} {read read' : List Nat}
    (h : AppendAll runs read read') {r r' : RunSymbol} (hr : r ∈ runs) (hr' : r' ∈ runs)
    (hne : r.symbol ≠ r'.symbol) : isComplete maxHeaderCodeLength (runLengths runs) = true :=
  isComplete_codeLengths (by decide) (length_runCounts_le runs)
    (two_le_countP_symbolCounts (List.mem_map_of_mem hr) (List.mem_map_of_mem hr') hne
      (h.symbol_lt r hr) (h.symbol_lt r' hr'))

theorem length_statedLengths (runs : List RunSymbol) :
    4 ≤ (statedLengths runs).length ∧ (statedLengths runs).length ≤ 19 := by
  have hlength : (headerOrder.map ((runLengths runs).getD · 0)).length = 19 := by
    rw [List.length_map]
    rfl
  have := length_trimmedLengths (hlength ▸ (by decide : 4 ≤ 19) :
    4 ≤ (headerOrder.map ((runLengths runs).getD · 0)).length)
  rwa [hlength] at this

theorem lt_of_mem_statedLengths {runs : List RunSymbol} {l : Nat} (h : l ∈ statedLengths runs) :
    l < 2 ^ 3 := by
  obtain ⟨s, -, rfl⟩ := List.mem_map.1 (List.mem_of_mem_take h)
  refine Nat.lt_succ_of_le (m := 7) ?_
  by_cases hs : s < (runLengths runs).length
  · rw [List.getD_eq_getElem _ _ hs]
    exact (fits_runLengths runs).le _ (List.getElem_mem hs)
  · rw [List.getD_eq_default _ _ (Nat.le_of_not_lt hs)]
    exact Nat.zero_le _

/-! The head of a block. -/

def headerBits (literals distances : List Nat) : Bits :=
  let runs := runSymbols none 0 0 (literals ++ distances)
  bitsLow 5 (literals.length - 257) ++ (bitsLow 5 (distances.length - 1) ++
    (bitsLow 4 ((statedLengths runs).length - 4) ++ ((statedLengths runs).flatMap (bitsLow 3) ++
      runs.flatMap (runBits (.ofLengths (runLengths runs))))))

theorem codeHeader_eq (literals distances : List Nat) :
    codeHeader literals distances =
      headerBits (trimmedLengths 257 literals) (trimmedLengths 1 distances) := by
  unfold headerBits
  rw [← List.append_assoc, ← List.append_assoc, ← List.append_assoc]
  rfl

namespace Reader

theorem reads_headerBits {literals distances : List Nat} (hlo : 257 ≤ literals.length)
    (hhi : literals.length ≤ literalSymbols) (hlo' : 1 ≤ distances.length)
    (hhi' : distances.length ≤ distanceSymbols) (hlt : ∀ l ∈ literals ++ distances, l < 16)
    (husable : isUsable maxCodeLength literals = true)
    (husable' : isUsable maxCodeLength distances = true) {l : Nat} (hl : l ∈ literals)
    (hne : l ≠ 0) :
    codeHeaderLengths.Reads (headerBits literals distances) (literals, distances) := by
  have hruns := appendAll_runSymbols_nil hlt
  unfold headerBits codeHeaderLengths
  set runs := runSymbols none 0 0 (literals ++ distances)
  have hliterals : literals.length - 257 + 257 = literals.length := Nat.sub_add_cancel hlo
  have hdistances : distances.length - 1 + 1 = distances.length := Nat.sub_add_cancel hlo'
  have hcounts : (decide (literals.length ≤ literalSymbols) &&
      decide (distances.length ≤ distanceSymbols)) = true := by simp [hhi, hhi']
  have hcomplete : isComplete maxHeaderCodeLength (runLengths runs) = true := by
    obtain ⟨r, hr, r', hr', hne⟩ := exists_ne_symbols hlt (by rw [List.length_append]; omega)
      (List.mem_append_left _ hl) hne
    exact isComplete_runLengths hruns hr hr' hne
  obtain ⟨hfour, hnineteen⟩ := length_statedLengths runs
  rw [literalSymbols] at hhi
  rw [distanceSymbols] at hhi'
  refine (reads_number (by omega)).bind ((reads_number (by omega)).bind
    ((reads_number (by omega)).bind ?_))
  rw [hliterals, hdistances, Nat.sub_add_cancel hfour]
  refine reads_require_bind hcounts ((reads_numbers fun l hl => lt_of_mem_statedLengths hl).bind ?_)
  rw [statedLengths, inSymbolOrder_trimmedLengths (length_runLengths runs)]
  refine reads_require_bind hcomplete
    ((reads_lengthsInRuns (fits_runLengths runs) (by decide) hruns
      (by rw [List.length_reverse, List.length_append]) (Nat.lt_succ_self _)
      fun r hr => exists_runLength hruns hr).bind_pure ?_)
  rw [List.reverse_reverse, List.take_left, List.drop_left]
  simp only [husable, husable']
  rfl

end Reader

/-- The head of a block is read back as the lengths it states, less zeros at their ends. -/
theorem reads_codeHeader {literals distances : List Nat}
    (hlength : literals.length = literalSymbols) (hlength' : distances.length = distanceSymbols)
    (hlt : ∀ l ∈ literals ++ distances, l < 16)
    (husable : isUsable maxCodeLength literals = true)
    (husable' : isUsable maxCodeLength distances = true) {l : Nat} (hl : l ∈ literals)
    (hne : l ≠ 0) :
    Reader.codeHeaderLengths.Reads (codeHeader literals distances)
      (trimmedLengths 257 literals, trimmedLengths 1 distances) := by
  have hbounds := length_trimmedLengths (show 257 ≤ literals.length by rw [hlength]; decide)
  have hbounds' := length_trimmedLengths (show 1 ≤ distances.length by rw [hlength']; decide)
  have hltTrimmed : ∀ l ∈ trimmedLengths 257 literals ++ trimmedLengths 1 distances, l < 16 := by
    intro l hl
    refine hlt l (List.mem_append.2 ((List.mem_append.1 hl).imp ?_ ?_))
    · exact List.mem_of_mem_take
    · exact List.mem_of_mem_take
  have hmem : l ∈ trimmedLengths 257 literals := by
    obtain ⟨zeros, hzeros⟩ := exists_trimmedLengths 257 literals
    rw [hzeros, List.mem_append] at hl
    exact hl.resolve_right fun hl => hne (List.eq_of_mem_replicate hl)
  rw [codeHeader_eq]
  exact Reader.reads_headerBits hbounds.1 (hlength ▸ hbounds.2) hbounds'.1 (hlength' ▸ hbounds'.2)
    hltTrimmed ((isUsable_trimmedLengths _ _ _).trans husable)
    ((isUsable_trimmedLengths _ _ _).trans husable') hmem hne

end C4Diagram.Deflate
