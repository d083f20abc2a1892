import C4Diagram.Deflate.CodeLengths
import Mathlib.Algebra.BigOperators.Group.List.Basic
import Mathlib.Algebra.BigOperators.Ring.List
import Mathlib.Data.List.Nodup
import Mathlib.Data.Nat.Digits.Defs
import Mathlib.Tactic.Ring

/-! The depths of the leaves of a merged tree, and their counts up to a limit. Cutting depths at the
limit never leaves words free, and the words shorter than the limit always fit. -/

namespace C4Diagram.Deflate
namespace WeightTree

def leafCount : WeightTree → Nat
  | leaf _ => 1
  | fork _ l r => l.leafCount + r.leafCount

theorem length_depths (t : WeightTree) (k : Nat) : (t.depths k).length = t.leafCount := by
  induction t generalizing k with
  | leaf => rfl
  | fork _ l r ihl ihr => rw [depths, List.length_append, ihl, ihr, leafCount]

theorem le_of_mem_depths {t : WeightTree} {k d : Nat} (h : d ∈ t.depths k) : k ≤ d := by
  induction t generalizing k with
  | leaf => exact (List.mem_singleton.1 h).ge
  | fork _ l r ihl ihr =>
    rcases List.mem_append.1 h with h | h
    · exact Nat.le_of_succ_le (ihl h)
    · exact Nat.le_of_succ_le (ihr h)

/-- A share that halves at least with every level down never sums up to more than the root's. -/
theorem sum_depths_le (share : Nat → Nat) (h : ∀ d, share (d + 1) + share (d + 1) ≤ share d)
    (t : WeightTree) (k : Nat) : ((t.depths k).map share).sum ≤ share k := by
  induction t generalizing k with
  | leaf => simp [depths]
  | fork _ l r ihl ihr =>
    rw [depths, List.map_append, List.sum_append]
    exact (Nat.add_le_add (ihl _) (ihr _)).trans (h k)

theorem le_sum_depths (share : Nat → Nat) (h : ∀ d, share d ≤ share (d + 1) + share (d + 1))
    (t : WeightTree) (k : Nat) : share k ≤ ((t.depths k).map share).sum := by
  induction t generalizing k with
  | leaf => simp [depths]
  | fork _ l r ihl ihr =>
    rw [depths, List.map_append, List.sum_append]
    exact (h k).trans (Nat.add_le_add (ihl _) (ihr _))

/-! Merging. -/

theorem lightest?_perm {leaves forks rest rest' : List WeightTree} {t : WeightTree}
    (h : lightest? leaves forks = some (t, rest, rest')) :
    (leaves ++ forks).Perm (t :: (rest ++ rest')) := by
  unfold lightest? at h
  split at h
  case h_1 => cases h
  case h_2 => cases h; exact .refl _
  case h_3 => cases h; exact .refl _
  case h_4 =>
    split at h
    · cases h; exact List.perm_middle
    · cases h; exact .refl _

theorem lightest?_eq_none_iff {leaves forks : List WeightTree} :
    lightest? leaves forks = none ↔ leaves ++ forks = [] := by
  unfold lightest?
  split
  · simp
  · simp
  · simp
  · split <;> simp

def totalLeaves (trees : List WeightTree) : Nat := (trees.map leafCount).sum

theorem of_lightest? {leaves forks rest rest' : List WeightTree} {t : WeightTree}
    (h : lightest? leaves forks = some (t, rest, rest')) :
    (leaves ++ forks).length = (rest ++ rest').length + 1 ∧
      totalLeaves (leaves ++ forks) = t.leafCount + totalLeaves (rest ++ rest') :=
  ⟨(lightest?_perm h).length_eq, ((lightest?_perm h).map leafCount).sum_eq⟩

/-- Merging keeps all leaves in one tree. -/
theorem exists_merge (merges : Nat) (leaves forks : List WeightTree)
    (hpos : 0 < (leaves ++ forks).length) (hle : (leaves ++ forks).length ≤ merges + 1) :
    ∃ t, merge merges leaves forks = some t ∧ t.leafCount = totalLeaves (leaves ++ forks) := by
  fun_induction merge merges leaves forks with
  | case1 leaves forks =>
    cases hfirst : lightest? leaves forks with
    | none =>
      rw [lightest?_eq_none_iff.1 hfirst] at hpos
      cases hpos
    | some found =>
      obtain ⟨t, rest, rest'⟩ := found
      obtain ⟨hlength, htotal⟩ := of_lightest? hfirst
      have hnil : rest ++ rest' = [] := List.eq_nil_of_length_eq_zero (by omega)
      refine ⟨t, rfl, ?_⟩
      rw [htotal, hnil]
      rfl
  | case2 n leaves forks hfirst =>
    rw [lightest?_eq_none_iff.1 hfirst] at hpos
    cases hpos
  | case3 n leaves forks a rest rest' hfirst hsecond =>
    refine ⟨a, rfl, ?_⟩
    rw [(of_lightest? hfirst).2, lightest?_eq_none_iff.1 hsecond]
    rfl
  | case4 n leaves forks a rest rest' hfirst b others others' hsecond ih =>
    obtain ⟨hlength, htotal⟩ := of_lightest? hfirst
    obtain ⟨hlength', htotal'⟩ := of_lightest? hsecond
    rw [← List.append_assoc, List.length_append, List.length_singleton] at ih
    obtain ⟨t, ht, hcount⟩ := ih (Nat.succ_pos _) (by omega)
    refine ⟨t, ht, ?_⟩
    rw [hcount, htotal, htotal', totalLeaves, List.map_append, List.sum_append]
    simp [leafCount, totalLeaves]
    omega

end WeightTree

theorem exists_leafDepths (weights : List Nat) (h : 2 ≤ weights.length) :
    ∃ t : WeightTree, leafDepths weights = t.depths 0 ∧ t.leafCount = weights.length := by
  obtain ⟨t, ht, hcount⟩ := WeightTree.exists_merge weights.length (weights.map .leaf) []
    (by simp; omega) (by simp)
  refine ⟨t, ?_, ?_⟩
  · unfold leafDepths
    split
    · simp at h
    · simp at h
    · rw [ht]
      rfl
  · rw [hcount, List.append_nil, WeightTree.totalLeaves, List.map_map]
    simp [Function.comp_def, WeightTree.leafCount]

theorem length_leafDepths (weights : List Nat) :
    (leafDepths weights).length = weights.length := by
  match weights with
  | [] => rfl
  | [_] => rfl
  | a :: b :: weights =>
    obtain ⟨t, ht, hcount⟩ := exists_leafDepths (a :: b :: weights) (by simp)
    rw [ht, WeightTree.length_depths, hcount]

theorem pos_of_mem_leafDepths {weights : List Nat} {d : Nat} (h : d ∈ leafDepths weights) :
    0 < d := by
  match weights with
  | [] => cases h
  | [_] => exact (List.mem_singleton.1 h).ge
  | a :: b :: weights =>
    obtain ⟨t, ht, hcount⟩ := exists_leafDepths (a :: b :: weights) (by simp)
    rw [ht] at h
    cases t with
    | leaf => simp [WeightTree.leafCount] at hcount
    | fork _ l r =>
      rcases List.mem_append.1 h with h | h
      · exact WeightTree.le_of_mem_depths h
      · exact WeightTree.le_of_mem_depths h

/-! Counting depths. -/

/-- A sum over the lengths, each as often as it is counted, is a sum over the depths. -/
theorem sum_depthCounts {limit : Nat} (hlimit : 0 < limit) {depths : List Nat}
    (hdepths : ∀ d ∈ depths, 0 < d) (share : Nat → Nat) :
    ((List.range' 1 limit).map fun l => depths.countP (fun d => min d limit == l) * share l).sum =
      (depths.map fun d => share (min d limit)).sum := by
  induction depths with
  | nil => simp
  | cons d depths ih =>
    obtain ⟨hd, hdepths⟩ := List.forall_mem_cons.1 hdepths
    have hmem : min d limit ∈ List.range' 1 limit := by
      rw [List.mem_range'_1]
      omega
    have hsingle : ((List.range' 1 limit).map fun l =>
        (if min d limit == l then 1 else 0) * share l).sum = share (min d limit) := by
      rw [List.sum_map_eq_nsmul_single (min d limit),
        List.count_eq_one_of_mem List.nodup_range' hmem]
      · simp
      · intro l hl _
        rw [if_neg (by simpa using Ne.symm hl), Nat.zero_mul]
    simp only [List.countP_cons, Nat.add_mul, List.sum_map_add, List.map_cons, List.sum_cons,
      ih hdepths, hsingle]
    exact Nat.add_comm _ _

/-- The part of all words that counts of lengths take, the counts read as binary digits. -/
theorem ofDigits_reverse_map (limit : Nat) (count : Nat → Nat) :
    Nat.ofDigits 2 ((List.range' 1 limit).map count).reverse =
      ((List.range' 1 limit).map fun l => count l * 2 ^ (limit - l)).sum := by
  induction limit with
  | zero => rfl
  | succ n ih =>
    have hshare : ∀ l ∈ List.range' 1 n,
        count l * 2 ^ (n + 1 - l) = 2 * (count l * 2 ^ (n - l)) := by
      intro l hl
      have hl : n + 1 - l = n - l + 1 := by
        rw [List.mem_range'_1] at hl
        omega
      rw [hl, Nat.pow_succ]
      ring
    rw [List.range'_1_concat, List.map_append, List.reverse_append, List.map_append,
      List.sum_append, List.map_congr_left hshare, List.sum_map_mul_left, ← ih]
    simp [Nat.ofDigits_cons, Nat.add_comm]

section

variable {limit : Nat} {depths : List Nat} (hlimit : 0 < limit) (hdepths : ∀ d ∈ depths, 0 < d)

theorem length_depthCounts (limit : Nat) (depths : List Nat) :
    (depthCounts limit depths).length = limit := by
  rw [depthCounts, List.length_map, List.length_range']

include hlimit hdepths

theorem sum_depthCounts_eq_length : (depthCounts limit depths).sum = depths.length := by
  rw [depthCounts]
  simpa using sum_depthCounts hlimit hdepths fun _ => 1

theorem ofDigits_depthCounts :
    Nat.ofDigits 2 (depthCounts limit depths).reverse =
      (depths.map fun d => 2 ^ (limit - d)).sum := by
  rw [depthCounts, ofDigits_reverse_map, sum_depthCounts hlimit hdepths fun l => 2 ^ (limit - l)]
  refine congrArg List.sum (List.map_congr_left fun d _ => ?_)
  congr 1
  omega

/-- What the words shorter than the limit take is what the depths above it stand for. -/
theorem ofDigits_tail_depthCounts :
    2 * Nat.ofDigits 2 (depthCounts limit depths).reverse.tail =
      (depths.map fun d => if d < limit then 2 ^ (limit - d) else 0).sum := by
  obtain ⟨n, rfl⟩ : ∃ n, limit = n + 1 := ⟨limit - 1, by omega⟩
  set share : Nat → Nat := fun l => if l < n + 1 then 2 ^ (n + 1 - l) else 0 with hshare
  set count : Nat → Nat := fun l => depths.countP fun d => min d (n + 1) == l with hcount
  have hsum : ((List.range' 1 (n + 1)).map fun l => count l * share l).sum =
      (depths.map share).sum := by
    rw [sum_depthCounts hlimit hdepths share]
    refine congrArg List.sum (List.map_congr_left fun d _ => ?_)
    rcases Nat.lt_or_ge d (n + 1) with hd | hd
    · rw [Nat.min_eq_left hd.le]
    · simp only [hshare, Nat.min_eq_right hd, if_neg (Nat.not_lt.2 hd), if_neg (Nat.lt_irrefl _)]
  have hshort : ∀ l ∈ List.range' 1 n, count l * share l = 2 * (count l * 2 ^ (n - l)) := by
    intro l hl
    have hl : l < n + 1 ∧ n + 1 - l = n - l + 1 := by
      rw [List.mem_range'_1] at hl
      omega
    simp only [hshare, if_pos hl.1, hl.2, Nat.pow_succ]
    ring
  have hlast : count (1 + n) * share (1 + n) = 0 := by simp [hshare, Nat.add_comm]
  have htail : (depthCounts (n + 1) depths).reverse.tail =
      ((List.range' 1 n).map count).reverse := by
    rw [depthCounts, List.range'_1_concat, List.map_append, List.reverse_append]
    rfl
  rw [htail, ofDigits_reverse_map, ← List.sum_map_mul_left, ← List.map_congr_left hshort, ← hsum,
    List.range'_1_concat, List.map_append, List.sum_append, List.map_singleton, hlast]
  simp

end

theorem two_pow_sub {limit d : Nat} (h : d < limit) :
    2 ^ (limit - d) = 2 ^ (limit - (d + 1)) + 2 ^ (limit - (d + 1)) := by
  have hsub : limit - d = limit - (d + 1) + 1 := by omega
  rw [hsub, Nat.pow_succ, Nat.mul_two]

/-- The words of a tree's leaves, cut at the limit, leave none free. -/
theorem le_ofDigits_leafDepths {limit : Nat} (hlimit : 0 < limit) {weights : List Nat}
    (h : 2 ≤ weights.length) :
    2 ^ limit ≤ Nat.ofDigits 2 (depthCounts limit (leafDepths weights)).reverse := by
  rw [ofDigits_depthCounts hlimit fun d => pos_of_mem_leafDepths]
  obtain ⟨t, ht, -⟩ := exists_leafDepths weights h
  rw [ht]
  refine WeightTree.le_sum_depths (fun d => 2 ^ (limit - d)) (fun d => ?_) t 0
  rcases Nat.lt_or_ge d limit with hd | hd
  · exact (two_pow_sub hd).le
  · rw [Nat.sub_eq_zero_of_le hd, Nat.pow_zero]
    exact Nat.one_le_two_pow.trans (Nat.le_add_right _ _)

theorem ofDigits_tail_leafDepths_le {limit : Nat} (hlimit : 0 < limit) {weights : List Nat}
    (h : 2 ≤ weights.length) :
    2 * Nat.ofDigits 2 (depthCounts limit (leafDepths weights)).reverse.tail ≤ 2 ^ limit := by
  rw [ofDigits_tail_depthCounts hlimit fun d => pos_of_mem_leafDepths]
  obtain ⟨t, ht, -⟩ := exists_leafDepths weights h
  have hroot := WeightTree.sum_depths_le
    (fun d => if d < limit then 2 ^ (limit - d) else 0) (fun d => ?_) t 0
  · rwa [if_pos hlimit, Nat.sub_zero, ← ht] at hroot
  · by_cases hd : d + 1 < limit
    · rw [if_pos hd, if_pos (Nat.lt_of_succ_lt hd), two_pow_sub (Nat.lt_of_succ_lt hd)]
    · rw [if_neg hd]
      exact Nat.zero_le _

end C4Diagram.Deflate
