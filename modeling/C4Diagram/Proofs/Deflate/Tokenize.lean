import C4Diagram.Deflate.Tokenize
import Mathlib.Order.MinMax

/-! Expanding the tokens of data gives the data. Every copy that a search finds repeats bytes inside
its window, and the tokens leave no byte out while a copy is held back. -/

namespace C4Diagram.Deflate

def Token.InRange : Token → Prop
  | literal _ => True
  | copy length distance =>
    (3 ≤ length ∧ length ≤ maxCopyLength) ∧ 1 ≤ distance ∧ distance ≤ windowSize

namespace Chained

variable {c : Chained} {position length limit : Nat}

/-- The bytes of a copy, which starts at the position, are those `distance` places before them. -/
structure Repeats (c : Chained) (position : Nat) (f : Found) : Prop where
  three_le : 3 ≤ f.length
  length_le : f.length ≤ maxCopyLength
  inside : position + f.length ≤ c.data.size
  one_le : 1 ≤ f.distance
  distance_le : f.distance ≤ windowSize
  back : f.distance ≤ position
  agrees : ∀ i < f.length, c.byte (position + i) = c.byte (position + i - f.distance)

theorem Repeats.inRange {f : Found} (h : c.Repeats position f) :
    (Token.copy f.length f.distance).InRange :=
  ⟨⟨h.three_le, h.length_le⟩, h.one_le, h.distance_le⟩

/-! Searching. -/

theorem byte_eq_of_lt_agreement {a b n i : Nat} (h : i < c.agreement a b n) :
    c.byte (a + i) = c.byte (b + i) := by
  induction n generalizing a b i with
  | zero => exact absurd h (Nat.not_lt_zero i)
  | succ n ih =>
    rw [agreement] at h
    split at h
    next hbyte =>
      cases i with
      | zero => exact hbyte
      | succ i =>
        have := ih (Nat.lt_of_succ_lt_succ h)
        rwa [Nat.add_right_comm, Nat.add_right_comm b] at this
    next => exact absurd h (Nat.not_lt_zero i)

/-- A round ends at an earlier position inside the window. -/
theorem of_round {hops probe next : Nat}
    (h : c.round position length hops probe = some (next, true)) :
    next < position ∧ position - next ≤ windowSize := by
  induction hops generalizing probe with
  | zero => cases h
  | succ hops ih =>
    rw [round] at h
    split at h
    next => cases h
    next hstop =>
      split at h
      next =>
        cases h
        omega
      next => exact ih h

theorem repeats_of_round {probe next : Nat}
    (h : c.round position length 3 probe = some (next, true)) (hlength : 2 ≤ length)
    (hlt : length < limit) (hlimit : limit ≤ maxCopyLength)
    (hinside : position + limit ≤ c.data.size)
    (hlonger : length < c.agreement next position maxCopyLength) :
    c.Repeats position ⟨min (c.agreement next position maxCopyLength) limit, position - next⟩ := by
  obtain ⟨hnext, hwindow⟩ := of_round h
  refine ⟨?_, ?_, ?_, ?_, hwindow, Nat.sub_le _ _, fun i hi => ?_⟩
  · exact le_min (by omega) (by omega)
  · exact (min_le_right _ _).trans hlimit
  · exact (Nat.add_le_add_left (min_le_right _ _) _).trans hinside
  · exact Nat.sub_pos_of_lt hnext
  · have hback : position + i - (position - next) = next + i := by omega
    rw [hback]
    exact (byte_eq_of_lt_agreement (lt_min_iff.1 hi).1).symm

theorem repeats_of_search {rounds probe : Nat} {best : Option Found} {f : Found}
    (hlength : 2 ≤ length) (hlt : length < limit) (hlimit : limit ≤ maxCopyLength)
    (hinside : position + limit ≤ c.data.size) (hbest : ∀ f ∈ best, c.Repeats position f)
    (h : c.search position limit rounds probe length best = some f) : c.Repeats position f := by
  fun_induction search c position limit rounds probe length best with
  | case1 => exact hbest _ h
  | case2 => exact hbest _ h
  | case3 _ _ _ _ _ _ ih => exact ih hlength hlt hbest h
  | case4 _ _ _ _ _ _ _ ih => exact ih hlength hlt hbest h
  | case5 _ _ _ _ _ _ _ _ _ ih => exact ih hlength hlt hbest h
  | case6 _ _ _ _ _ hround _ _ hcommon =>
    obtain rfl := Option.some.inj h
    exact repeats_of_round hround hlength hlt hlimit hinside (Nat.lt_of_not_le hcommon)
  | case7 _ _ length _ _ hround _ common hcommon found hfull ih =>
    have hfound : length < found.length := lt_min (Nat.lt_of_not_le hcommon) hlt
    refine ih (hlength.trans hfound.le) (Nat.lt_of_not_le hfull) (fun f hf => ?_) h
    obtain rfl := Option.some.inj hf
    exact repeats_of_round hround hlength hlt hlimit hinside (Nat.lt_of_not_le hcommon)

theorem repeats_of_worthwhile {f : Found} (hlength : 2 ≤ length)
    (h : c.worthwhile? position length = some f) : c.Repeats position f := by
  obtain ⟨hfind, -⟩ := Option.filter_eq_some_iff.1 h
  rw [find?] at hfind
  split at hfind
  next => cases hfind
  next hlt =>
    have hlimit : min maxCopyLength (c.data.size - position) ≤ maxCopyLength := min_le_left _ _
    exact repeats_of_search hlength (Nat.lt_of_not_le hlt) hlimit (by omega) (by simp) hfind

/-! Expanding. -/

theorem take_push_byte {n : Nat} (hn : n < c.data.size) :
    (c.data.take n).push (c.byte n) = c.data.take (n + 1) := by
  simp [byte, Array.getD_eq_getD_getElem?, hn]

theorem byteBack_take {n distance : Nat} (hn : n ≤ c.data.size) (hpos : 1 ≤ distance)
    (hle : distance ≤ n) : byteBack (c.data.take n) distance = c.byte (n - distance) := by
  have hlt : n - distance < n := Nat.sub_lt (Nat.lt_of_lt_of_le hpos hle) hpos
  have hin : n - distance < c.data.size := Nat.lt_of_lt_of_le hlt hn
  simp [byteBack, byte, Array.getD_eq_getD_getElem?, hn, hle, hlt, hin]

theorem copyBack_take {n distance length : Nat} (hinside : n + length ≤ c.data.size)
    (hpos : 1 ≤ distance) (hle : distance ≤ n)
    (h : ∀ i < length, c.byte (n + i) = c.byte (n + i - distance)) :
    copyBack distance length (c.data.take n) = c.data.take (n + length) := by
  induction length generalizing n with
  | zero => rfl
  | succ length ih =>
    have hfirst : c.byte n = c.byte (n - distance) := h 0 (Nat.succ_pos _)
    rw [copyBack, byteBack_take (by omega) hpos hle, ← hfirst, take_push_byte (by omega),
      ih (by omega) (by omega), Nat.add_assoc, Nat.add_comm 1]
    intro i hi
    have := h (i + 1) (by omega)
    rwa [Nat.add_comm i, ← Nat.add_assoc] at this

theorem Repeats.append {f : Found} (h : c.Repeats position f) :
    Token.append (c.data.take position) (.copy f.length f.distance) =
      c.data.take (position + f.length) :=
  copyBack_take h.inside h.one_le h.back h.agrees

def written (position : Nat) : Option Found → Nat
  | none => position
  | some _ => position - 1

/-- What the tokens from a position on are for: the bytes that have not gone out yet. -/
structure Completes (c : Chained) (written : Nat) (tokens : List Token) : Prop where
  inRange : ∀ t ∈ tokens, t.InRange
  expands : tokens.foldl Token.append (c.data.take written) = c.data

theorem Completes.literal {n : Nat} {tokens : List Token} (hn : n < c.data.size)
    (h : c.Completes (n + 1) tokens) : c.Completes n (.literal (c.byte n) :: tokens) where
  inRange := List.forall_mem_cons.2 ⟨trivial, h.inRange⟩
  expands := by rw [List.foldl_cons, Token.append, take_push_byte hn, h.expands]

theorem Completes.copy {n : Nat} {f : Found} {tokens : List Token} (hf : c.Repeats n f)
    (h : c.Completes (n + f.length) tokens) :
    c.Completes n (.copy f.length f.distance :: tokens) where
  inRange := List.forall_mem_cons.2 ⟨hf.inRange, h.inRange⟩
  expands := by rw [List.foldl_cons, hf.append, h.expands]

/-- Nothing is left at the end: a copy that is held back starts before it and ends there at most. -/
theorem completes_nil {held : Option Found} (hend : c.data.size ≤ position)
    (hheld : ∀ f ∈ held, 1 ≤ position ∧ c.Repeats (position - 1) f) :
    c.Completes (written position held) [] where
  inRange := by simp
  expands := by
    cases held with
    | none => simp [written, hend]
    | some f =>
      obtain ⟨hpos, hf⟩ := hheld f rfl
      have := hf.three_le
      have := hf.inside
      omega

theorem completes_tokensFrom {steps position : Nat} {held : Option Found}
    (hsteps : c.data.size < steps + position)
    (hheld : ∀ f ∈ held, 1 ≤ position ∧ c.Repeats (position - 1) f) :
    c.Completes (written position held) (c.tokensFrom steps position held) := by
  fun_induction tokensFrom c steps position held with
  | case1 => exact completes_nil (by omega) hheld
  | case2 => exact completes_nil (by assumption) hheld
  | case3 steps position hmore hfind ih =>
    simp only [hfind]
    exact (ih (by omega) (by simp)).literal (Nat.lt_of_not_le hmore)
  | case4 steps position hmore f hlong hfind ih =>
    have hf := repeats_of_worthwhile (Nat.le_refl 2) hfind
    have := hf.three_le
    simp only [hfind, if_pos hlong]
    exact (ih (by omega) (by simp)).copy hf
  | case5 steps position hmore f hshort hfind ih =>
    have hf := repeats_of_worthwhile (Nat.le_refl 2) hfind
    simp only [hfind, if_neg hshort]
    -- nothing goes out: the copy is held back, so as many bytes are written as before
    refine ih (by omega) fun g hg => ?_
    obtain rfl := Option.some.inj hg
    exact ⟨Nat.le_add_left 1 position, hf⟩
  | case6 steps position hmore held hfind ih =>
    obtain ⟨hpos, hheld⟩ := hheld held rfl
    have hthree := hheld.three_le
    simp only [hfind]
    have hnext : position - 1 + held.length = position + (held.length - 1) := by omega
    exact Completes.copy hheld (hnext ▸ ih (by omega) (by simp))
  | case7 steps position hmore held f hfind ihlong ihshort =>
    obtain ⟨hpos, hheld⟩ := hheld held rfl
    have hf := repeats_of_worthwhile (le_trans (by decide) hheld.three_le) hfind
    have := hf.three_le
    simp only [hfind]
    -- the held copy gives way to a longer one; only its first byte goes out
    change c.Completes (position - 1) _
    refine Completes.literal (by omega) ?_
    rw [Nat.sub_add_cancel hpos]
    split
    · exact (ihlong (by omega) (by simp)).copy hf
    · refine ihshort (by omega) fun g hg => ?_
      obtain rfl := Option.some.inj hg
      exact ⟨Nat.le_add_left 1 position, hf⟩

end Chained

theorem completes_tokenize (data : Array UInt8) :
    (Chained.ofData data).Completes (Chained.written 0 none) (tokenize data) :=
  Chained.completes_tokensFrom (by simp [Chained.ofData]) (by simp)

theorem inRange_of_mem_tokenize {data : Array UInt8} {t : Token} (h : t ∈ tokenize data) :
    t.InRange :=
  (completes_tokenize data).inRange t h

/-- Expanding the tokens of data gives the data. -/
theorem expand_tokenize (data : Array UInt8) : expand (tokenize data) = data := by
  simpa [expand, Chained.ofData, Chained.written] using (completes_tokenize data).expands

end C4Diagram.Deflate
