import C4Diagram.Proofs.Deflate.Depths
import C4Diagram.Proofs.Deflate.PrefixCode
import Mathlib.Data.List.Perm.Basic

/-! The code lengths made from counts fit, whatever the counts are. Shedding takes one word at a
time off the longest ones and stops when just as many are left as the limit has room for. -/

namespace C4Diagram.Deflate

/-! Shedding. -/

theorem countsCoverage_eq_sum (limit : Nat) (counts : List Nat) :
    countsCoverage limit counts = (counts.mapIdx fun i c => c * 2 ^ (limit - (i + 1))).sum := by
  simp only [countsCoverage, Nat.shiftLeft_eq]
  rfl

/-- The part of all words that counts take, the counts read as binary digits. -/
theorem countsCoverage_eq {limit : Nat} {counts : List Nat} (h : counts.length = limit) :
    countsCoverage limit counts = Nat.ofDigits 2 counts.reverse := by
  rw [countsCoverage_eq_sum]
  induction counts generalizing limit with
  | nil => rfl
  | cons c counts ih =>
    subst h
    have hshift : ∀ i, counts.length + 1 - (i + 1 + 1) = counts.length - (i + 1) := by omega
    simp only [List.mapIdx_cons, List.sum_cons, List.length_cons, hshift, ih rfl,
      Nat.ofDigits_reverse_cons]
    rw [Nat.zero_add, Nat.add_sub_cancel, Nat.add_comm, Nat.mul_comm c]

/-- A word split in two keeps its part of all words, and makes one word more. -/
theorem splitOne_spec {rest : List Nat} (h : 0 < rest.sum) :
    (splitOne rest).1 + 2 * Nat.ofDigits 2 (splitOne rest).2 = 2 * Nat.ofDigits 2 rest ∧
      (splitOne rest).1 + (splitOne rest).2.sum = rest.sum + 1 ∧
      (splitOne rest).2.length = rest.length := by
  induction rest with
  | nil => cases h
  | cons n rest ih =>
    cases n with
    | zero =>
      rw [List.sum_cons, Nat.zero_add] at h
      obtain ⟨hdigits, hsum, hlength⟩ := ih h
      simp only [splitOne, Nat.ofDigits_cons, List.sum_cons, List.length_cons]
      omega
    | succ n =>
      refine ⟨?_, ?_, rfl⟩
      · simp only [splitOne, Nat.ofDigits_cons]
        omega
      · simp only [splitOne, List.sum_cons]
        omega

theorem ofDigits_of_sum_eq_zero {counts : List Nat} (h : counts.sum = 0) :
    Nat.ofDigits 2 counts = 0 := by
  induction counts with
  | nil => rfl
  | cons c counts ih =>
    rw [List.sum_cons, Nat.add_eq_zero_iff] at h
    rw [Nat.ofDigits_cons, ih h.2, h.1]

/-- Counts of as many words as the limit allows, where the words below the limit fit. -/
structure Sheddable (limit : Nat) (counts : List Nat) : Prop where
  length : counts.length = limit
  shallow : 2 * Nat.ofDigits 2 counts.reverse.tail ≤ 2 ^ limit
  few : counts.sum ≤ 2 ^ limit

theorem Sheddable.shedOne {limit : Nat} {counts : List Nat} (h : Sheddable limit counts)
    (hover : 2 ^ limit < Nat.ofDigits 2 counts.reverse) :
    Sheddable limit (shedOne counts) ∧ (shedOne counts).sum = counts.sum ∧
      Nat.ofDigits 2 (shedOne counts).reverse + 1 = Nat.ofDigits 2 counts.reverse := by
  have hsumrev : counts.sum = counts.reverse.sum := (List.sum_reverse counts).symm
  have hshallow := h.shallow
  have hfew := h.few
  unfold Deflate.shedOne
  cases hrev : counts.reverse with
  | nil =>
    rw [hrev] at hover
    exact absurd hover (Nat.not_lt_zero _)
  | cons deepest rest =>
    rw [hrev] at hover hsumrev hshallow
    simp only [Nat.ofDigits_cons, List.sum_cons, List.tail_cons] at hover hsumrev hshallow
    -- with no word below the limit, the words of the limit alone would not be too many
    have hrest : 0 < rest.sum := by
      by_contra hzero
      rw [ofDigits_of_sum_eq_zero (Nat.eq_zero_of_not_pos hzero)] at hover
      omega
    obtain ⟨hdigits, hsum, hlength⟩ := splitOne_spec hrest
    have hlen := congrArg List.length hrev
    rw [List.length_reverse, h.length, List.length_cons] at hlen
    simp only [List.sum_reverse, List.reverse_reverse, List.sum_cons, Nat.ofDigits_cons]
    refine ⟨⟨?_, ?_, ?_⟩, ?_, ?_⟩
    · rw [List.length_reverse, List.length_cons, hlength, hlen]
    · rw [List.reverse_reverse, List.tail_cons]
      omega
    · rw [List.sum_reverse, List.sum_cons]
      omega
    · omega
    · omega

theorem Sheddable.repeat_shedOne {limit n : Nat} {counts : List Nat} (h : Sheddable limit counts)
    (hn : n ≤ Nat.ofDigits 2 counts.reverse - 2 ^ limit) :
    Sheddable limit (Nat.repeat Deflate.shedOne n counts) ∧
      (Nat.repeat Deflate.shedOne n counts).sum = counts.sum ∧
      Nat.ofDigits 2 (Nat.repeat Deflate.shedOne n counts).reverse + n =
        Nat.ofDigits 2 counts.reverse := by
  induction n with
  | zero => exact ⟨h, rfl, rfl⟩
  | succ n ih =>
    obtain ⟨hshed, hsum, hdigits⟩ := ih (Nat.le_of_succ_le hn)
    obtain ⟨hshed', hsum', hdigits'⟩ := hshed.shedOne (by omega)
    exact ⟨hshed', hsum'.trans hsum, by rw [Nat.repeat]; omega⟩

/-- Shedding stops where just as many words are left as the limit has room for. -/
theorem Sheddable.balanced {limit : Nat} {counts : List Nat} (h : Sheddable limit counts) :
    (balanced limit counts).length = limit ∧ (balanced limit counts).sum = counts.sum ∧
      countsCoverage limit (balanced limit counts) =
        min (countsCoverage limit counts) (2 ^ limit) := by
  rw [Deflate.balanced, countsCoverage_eq h.length, Nat.one_shiftLeft]
  obtain ⟨hshed, hsum, hdigits⟩ := h.repeat_shedOne (Nat.le_refl _)
  refine ⟨hshed.length, hsum, ?_⟩
  rw [countsCoverage_eq hshed.length]
  omega

/-! The lengths in falling order. -/

theorem length_lengthsDescending (counts : List Nat) :
    (lengthsDescending counts).length = counts.sum := by
  have hlengths : (counts.mapIdx fun i c => List.replicate c (i + 1)).map List.length = counts := by
    rw [List.mapIdx_eq_zipIdx_map, List.map_map]
    simp [Function.comp_def]
  rw [lengthsDescending, List.length_flatten, List.map_reverse, List.sum_reverse, hlengths]

theorem mem_lengthsDescending {counts : List Nat} {l : Nat} (h : l ∈ lengthsDescending counts) :
    0 < l ∧ l ≤ counts.length := by
  obtain ⟨run, hrun, hl⟩ := List.mem_flatten.1 h
  obtain ⟨i, hi, rfl⟩ := List.mem_mapIdx.1 (List.mem_reverse.1 hrun)
  rw [List.eq_of_mem_replicate hl]
  exact ⟨Nat.succ_pos i, hi⟩

theorem coverage_append (limit : Nat) (xs ys : List Nat) :
    coverage limit (xs ++ ys) = coverage limit xs + coverage limit ys := by
  induction xs with
  | nil => rw [List.nil_append, coverage_nil, Nat.zero_add]
  | cons l xs ih => rw [List.cons_append, coverage_cons, coverage_cons, ih, Nat.add_assoc]

theorem coverage_flatten (limit : Nat) (runs : List (List Nat)) :
    coverage limit runs.flatten = (runs.map (coverage limit)).sum := by
  induction runs with
  | nil => rfl
  | cons run runs ih => rw [List.flatten_cons, coverage_append, ih, List.map_cons, List.sum_cons]

theorem coverage_replicate (limit count : Nat) {l : Nat} (hl : 0 < l) :
    coverage limit (List.replicate count l) = count * 2 ^ (limit - l) := by
  induction count with
  | zero => rw [List.replicate_zero, coverage_nil, Nat.zero_mul]
  | succ n ih => rw [List.replicate_succ, coverage_cons, if_pos hl, ih, Nat.succ_mul, Nat.add_comm]

theorem coverage_lengthsDescending (limit : Nat) (counts : List Nat) :
    coverage limit (lengthsDescending counts) = countsCoverage limit counts := by
  rw [lengthsDescending, coverage_flatten, List.map_reverse, List.sum_reverse,
    countsCoverage_eq_sum, List.mapIdx_eq_zipIdx_map, List.mapIdx_eq_zipIdx_map, List.map_map]
  simp only [Function.comp_def, coverage_replicate limit _ (Nat.succ_pos _)]

/-! The lengths by symbol. -/

theorem coverage_of_filter_perm {limit : Nat} {xs ys : List Nat} (hpos : ∀ l ∈ ys, 0 < l)
    (h : (xs.filter (0 < ·)).Perm ys) : coverage limit xs = coverage limit ys := by
  have hys : ys.filter (0 < ·) = ys := List.filter_eq_self.2 fun l hl => by simpa using hpos l hl
  unfold coverage
  rw [hys]
  exact h.foldr_eq' (fun l _ m _ n => Nat.add_left_comm (1 <<< (limit - m)) (1 <<< (limit - l)) n) 0

theorem lookup_of_mem {given : List (Nat × Nat)} (hnodup : (given.map Prod.fst).Nodup)
    {p : Nat × Nat} (h : p ∈ given) : given.lookup p.1 = some p.2 := by
  induction given with
  | nil => cases h
  | cons q given ih =>
    rw [List.map_cons, List.nodup_cons] at hnodup
    rcases List.mem_cons.1 h with rfl | h
    · exact List.lookup_cons_self
    · have hne : p.1 ≠ q.1 := fun he => hnodup.1 (he ▸ List.mem_map_of_mem h)
      rw [List.lookup_cons, beq_false_of_ne hne]
      exact ih hnodup.2 h

theorem mem_of_lookup_ne_none {given : List (Nat × Nat)} {s : Nat} (h : given.lookup s ≠ none) :
    s ∈ given.map Prod.fst := by
  by_contra hmem
  refine h (List.lookup_eq_none_iff.2 fun p hp => ?_)
  exact bne_iff_ne.2 fun he => hmem (he ▸ List.mem_map_of_mem hp)

/-- The lengths that are not 0 are those given, in another order. -/
theorem filter_map_lookup_perm {size : Nat} {given : List (Nat × Nat)}
    (hnodup : (given.map Prod.fst).Nodup) (hlt : ∀ p ∈ given, p.1 < size)
    (hpos : ∀ p ∈ given, 0 < p.2) :
    (((List.range size).map fun s => (given.lookup s).getD 0).filter (0 < ·)).Perm
      (given.map Prod.snd) := by
  have hlookup : ∀ p ∈ given, (given.lookup p.1).getD 0 = p.2 := fun p hp => by
    rw [lookup_of_mem hnodup hp, Option.getD_some]
  have hkeys : ((List.range size).filter fun s => decide (0 < (given.lookup s).getD 0)).Perm
      (given.map Prod.fst) := by
    rw [List.perm_ext_iff_of_nodup (List.nodup_range.filter _) hnodup]
    intro s
    rw [List.mem_filter, decide_eq_true_eq, List.mem_range]
    refine ⟨fun ⟨_, hs⟩ => mem_of_lookup_ne_none fun hnone => ?_, fun hs => ?_⟩
    · rw [hnone] at hs
      exact absurd hs (Nat.lt_irrefl 0)
    · obtain ⟨p, hp, rfl⟩ := List.mem_map.1 hs
      rw [hlookup p hp]
      exact ⟨hlt p hp, hpos p hp⟩
  rw [List.filter_map]
  refine (hkeys.map _).trans (.of_eq ?_)
  rw [List.map_map]
  exact List.map_congr_left hlookup

/-- The symbols that occur, each behind its count, in the order in which they get lengths. -/
def usedSymbols (counts : List Nat) : List (Nat × Nat) :=
  (counts.zipIdx.filter (0 < ·.1)).mergeSort (fun a b => a.1 ≤ b.1)

def givenLengths (limit : Nat) (counts : List Nat) : List Nat :=
  lengthsDescending
    (balanced limit (depthCounts limit (leafDepths ((usedSymbols counts).map Prod.fst))))

def givenBySymbol (limit : Nat) (counts : List Nat) : List (Nat × Nat) :=
  ((usedSymbols counts).map Prod.snd).zip (givenLengths limit counts)

theorem codeLengths_eq (limit : Nat) (counts : List Nat) :
    codeLengths limit counts =
      (List.range counts.length).map fun s => ((givenBySymbol limit counts).lookup s).getD 0 :=
  rfl

theorem length_codeLengths (limit : Nat) (counts : List Nat) :
    (codeLengths limit counts).length = counts.length := by
  rw [codeLengths_eq, List.length_map, List.length_range]

theorem mem_usedSymbols {counts : List Nat} {p : Nat × Nat} :
    p ∈ usedSymbols counts ↔ counts[p.2]? = some p.1 ∧ 0 < p.1 := by
  rw [usedSymbols, (List.mergeSort_perm _ _).mem_iff, List.mem_filter,
    List.mem_zipIdx_iff_getElem?, decide_eq_true_eq]

theorem nodup_usedSymbols (counts : List Nat) : ((usedSymbols counts).map Prod.snd).Nodup := by
  have hperm := (List.mergeSort_perm (counts.zipIdx.filter (0 < ·.1)) fun a b => a.1 ≤ b.1).map
    Prod.snd
  refine hperm.nodup_iff.2 ?_
  have hsub : ((counts.zipIdx.filter (0 < ·.1)).map Prod.snd).Sublist
      (counts.zipIdx.map Prod.snd) :=
    List.filter_sublist.map _
  rw [List.zipIdx_map_snd] at hsub
  exact hsub.nodup List.nodup_range'

theorem length_usedSymbols (counts : List Nat) :
    (usedSymbols counts).length = counts.countP (0 < ·) := by
  have hfst : counts.zipIdx.map Prod.fst = counts := List.zipIdx_map_fst 0 counts
  rw [usedSymbols, List.length_mergeSort, ← List.countP_eq_length_filter]
  conv_rhs => rw [← hfst, List.countP_map]
  rfl

section

variable {limit : Nat} (hlimit : 0 < limit)

include hlimit

theorem sheddable_leafDepths {weights : List Nat} (h : weights.length ≤ 2 ^ limit) :
    Sheddable limit (depthCounts limit (leafDepths weights)) where
  length := length_depthCounts _ _
  few := by
    rwa [sum_depthCounts_eq_length hlimit fun d => pos_of_mem_leafDepths, length_leafDepths]
  shallow := by
    match weights with
    | [] =>
      rw [ofDigits_tail_depthCounts hlimit fun d => pos_of_mem_leafDepths]
      exact Nat.zero_le _
    | [_] =>
      rw [ofDigits_tail_depthCounts hlimit fun d => pos_of_mem_leafDepths]
      change (if 1 < limit then 2 ^ (limit - 1) else 0) ≤ 2 ^ limit
      split
      · exact Nat.pow_le_pow_right (by decide) (Nat.sub_le _ _)
      · exact Nat.zero_le _
    | _ :: _ :: _ => exact ofDigits_tail_leafDepths_le hlimit (by simp)

variable {counts : List Nat} (hsize : counts.length ≤ 2 ^ limit)

include hsize

theorem sheddable_usedSymbols :
    Sheddable limit (depthCounts limit (leafDepths ((usedSymbols counts).map Prod.fst))) := by
  refine sheddable_leafDepths hlimit ?_
  rw [List.length_map, length_usedSymbols]
  exact List.countP_le_length.trans hsize

theorem length_givenLengths : (givenLengths limit counts).length = (usedSymbols counts).length := by
  rw [givenLengths, length_lengthsDescending, (sheddable_usedSymbols hlimit hsize).balanced.2.1,
    sum_depthCounts_eq_length hlimit fun d => pos_of_mem_leafDepths, length_leafDepths,
    List.length_map]

theorem mem_givenLengths {l : Nat} (h : l ∈ givenLengths limit counts) : 0 < l ∧ l ≤ limit := by
  have := mem_lengthsDescending h
  rwa [(sheddable_usedSymbols hlimit hsize).balanced.1] at this

theorem coverage_givenLengths : coverage limit (givenLengths limit counts) =
    min (((leafDepths ((usedSymbols counts).map Prod.fst)).map fun d => 2 ^ (limit - d)).sum)
      (2 ^ limit) := by
  have hshed := sheddable_usedSymbols hlimit hsize
  rw [givenLengths, coverage_lengthsDescending, hshed.balanced.2.2, countsCoverage_eq hshed.length,
    ofDigits_depthCounts hlimit fun d => pos_of_mem_leafDepths]

/-- One symbol alone gets one bit. -/
theorem givenLengths_of_one (h : (usedSymbols counts).length = 1) :
    givenLengths limit counts = [1] := by
  obtain ⟨l, hl⟩ := List.length_eq_one_iff.1 ((length_givenLengths hlimit hsize).trans h)
  obtain ⟨p, hp⟩ := List.length_eq_one_iff.1 h
  have hcoverage := coverage_givenLengths hlimit hsize
  rw [hl, hp, coverage_cons, coverage_nil] at hcoverage
  obtain ⟨hpos, hle⟩ := mem_givenLengths hlimit hsize (hl ▸ List.mem_singleton_self l)
  have hpow : 2 ^ (limit - l) = 2 ^ (limit - 1) := by
    rw [if_pos hpos] at hcoverage
    exact hcoverage.trans
      (Nat.min_eq_left (Nat.pow_le_pow_right (by decide) (Nat.sub_le limit 1)))
  have := Nat.pow_right_injective (Nat.le_refl 2) hpow
  rw [hl]
  congr 1
  omega

theorem coverage_givenLengths_of_two (h : 2 ≤ (usedSymbols counts).length) :
    coverage limit (givenLengths limit counts) = 2 ^ limit := by
  rw [coverage_givenLengths hlimit hsize]
  refine Nat.min_eq_right ?_
  rw [← ofDigits_depthCounts hlimit fun d => pos_of_mem_leafDepths]
  exact le_ofDigits_leafDepths hlimit (by simpa using h)

/-! The code lengths of counts. -/

theorem map_fst_givenBySymbol :
    (givenBySymbol limit counts).map Prod.fst = (usedSymbols counts).map Prod.snd :=
  List.map_fst_zip (by rw [List.length_map, length_givenLengths hlimit hsize])

theorem map_snd_givenBySymbol :
    (givenBySymbol limit counts).map Prod.snd = givenLengths limit counts :=
  List.map_snd_zip (by rw [List.length_map, length_givenLengths hlimit hsize])

theorem pos_of_mem_givenBySymbol {p : Nat × Nat} (hp : p ∈ givenBySymbol limit counts) :
    0 < p.2 := by
  have hmem := List.mem_map_of_mem (f := Prod.snd) hp
  rw [map_snd_givenBySymbol hlimit hsize] at hmem
  exact (mem_givenLengths hlimit hsize hmem).1

theorem mem_map_fst_givenBySymbol {s : Nat} :
    s ∈ (givenBySymbol limit counts).map Prod.fst ↔ ∃ c, counts[s]? = some c ∧ 0 < c := by
  rw [map_fst_givenBySymbol hlimit hsize, List.mem_map]
  refine ⟨fun ⟨p, hp, hs⟩ => ⟨p.1, hs ▸ mem_usedSymbols.1 hp⟩, fun ⟨c, hc⟩ => ?_⟩
  exact ⟨(c, s), mem_usedSymbols.2 hc, rfl⟩

theorem lt_of_mem_givenBySymbol {p : Nat × Nat} (hp : p ∈ givenBySymbol limit counts) :
    p.1 < counts.length := by
  obtain ⟨c, hc, -⟩ := (mem_map_fst_givenBySymbol hlimit hsize).1 (List.mem_map_of_mem hp)
  exact (List.getElem?_eq_some_iff.1 hc).1

theorem nodup_givenBySymbol : ((givenBySymbol limit counts).map Prod.fst).Nodup := by
  rw [map_fst_givenBySymbol hlimit hsize]
  exact nodup_usedSymbols counts

theorem filter_codeLengths_perm :
    ((codeLengths limit counts).filter (0 < ·)).Perm (givenLengths limit counts) := by
  rw [← map_snd_givenBySymbol hlimit hsize]
  exact filter_map_lookup_perm (nodup_givenBySymbol hlimit hsize)
    (fun _ => lt_of_mem_givenBySymbol hlimit hsize) fun _ => pos_of_mem_givenBySymbol hlimit hsize

theorem coverage_codeLengths :
    coverage limit (codeLengths limit counts) = coverage limit (givenLengths limit counts) :=
  coverage_of_filter_perm (fun _ hl => (mem_givenLengths hlimit hsize hl).1)
    (filter_codeLengths_perm hlimit hsize)

theorem fits_codeLengths : Fits limit (codeLengths limit counts) where
  le l hl := by
    rcases Nat.eq_zero_or_pos l with rfl | hpos
    · exact Nat.zero_le _
    · have hmem : l ∈ (codeLengths limit counts).filter (0 < ·) :=
        List.mem_filter.2 ⟨hl, decide_eq_true hpos⟩
      exact (mem_givenLengths hlimit hsize
        ((filter_codeLengths_perm hlimit hsize).mem_iff.1 hmem)).2
  room := by
    rw [coverage_codeLengths hlimit hsize, coverage_givenLengths hlimit hsize]
    exact Nat.min_le_right _ _

theorem isComplete_codeLengths (h : 2 ≤ counts.countP (0 < ·)) :
    isComplete limit (codeLengths limit counts) = true := by
  rw [isComplete, coverage_codeLengths hlimit hsize,
    coverage_givenLengths_of_two hlimit hsize (by rwa [length_usedSymbols]), Nat.one_shiftLeft,
    beq_self_eq_true]

theorem isUsable_codeLengths : isUsable limit (codeLengths limit counts) = true := by
  have hperm := filter_codeLengths_perm hlimit hsize
  have hlength := length_givenLengths hlimit hsize
  rw [isUsable, Bool.or_eq_true, Bool.or_eq_true, beq_iff_eq, beq_iff_eq]
  match h : (usedSymbols counts).length with
  | 0 => exact .inl (.inr (hperm.length_eq.trans (hlength.trans h)))
  | 1 => exact .inr (List.perm_singleton.1 (givenLengths_of_one hlimit hsize h ▸ hperm))
  | n + 2 =>
    refine .inl (.inl (isComplete_codeLengths hlimit hsize ?_))
    rw [← length_usedSymbols, h]
    exact Nat.le_add_left 2 n

/-- A symbol that has a word occurs. -/
theorem used_of_codeLength {s l : Nat} (hs : (codeLengths limit counts)[s]? = some l)
    (hpos : 0 < l) : ∃ c, counts[s]? = some c ∧ 0 < c := by
  rw [codeLengths_eq, List.getElem?_map] at hs
  obtain ⟨t, ht, rfl⟩ := Option.map_eq_some_iff.1 hs
  obtain ⟨hin, ht⟩ := List.getElem?_eq_some_iff.1 ht
  rw [List.getElem_range] at ht
  subst ht
  refine (mem_map_fst_givenBySymbol hlimit hsize).1 (mem_of_lookup_ne_none fun hnone => ?_)
  rw [hnone] at hpos
  exact absurd hpos (Nat.lt_irrefl 0)

/-- Every symbol that occurs has a word. -/
theorem exists_codeLength {s c : Nat} (hs : counts[s]? = some c) (hc : 0 < c) :
    ∃ l, (codeLengths limit counts)[s]? = some l ∧ 0 < l := by
  obtain ⟨p, hp, rfl⟩ := List.mem_map.1 ((mem_map_fst_givenBySymbol hlimit hsize).2 ⟨c, hs, hc⟩)
  refine ⟨p.2, ?_, pos_of_mem_givenBySymbol hlimit hsize hp⟩
  have hlt := lt_of_mem_givenBySymbol hlimit hsize hp
  rw [codeLengths_eq, List.getElem?_map, List.getElem?_range hlt, Option.map_some,
    lookup_of_mem (nodup_givenBySymbol hlimit hsize) hp, Option.getD_some]

end

end C4Diagram.Deflate
