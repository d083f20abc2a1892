import C4Diagram.Proofs.Deflate.PrefixCode

/-! The short form of code lengths. Reading its symbols one after the other gives the lengths that
they were made from. -/

namespace C4Diagram.Deflate

/-- Reading the symbol appends lengths; those read before stand in reverse. -/
inductive RunSymbol.Appends : RunSymbol → (read read' : List Nat) → Prop
  | itself {l : Nat} {read : List Nat} (h : l < 16) : Appends ⟨l, []⟩ read (l :: read)
  | repeats {last count : Nat} {read : List Nat} (h : count < 2 ^ 2) :
    Appends ⟨16, bitsLow 2 count⟩ (last :: read)
      (List.replicate (count + 3) last ++ last :: read)
  | zeros {count : Nat} {read : List Nat} (h : count < 2 ^ 3) :
    Appends ⟨17, bitsLow 3 count⟩ read (List.replicate (count + 3) 0 ++ read)
  | manyZeros {count : Nat} {read : List Nat} (h : count < 2 ^ 7) :
    Appends ⟨18, bitsLow 7 count⟩ read (List.replicate (count + 11) 0 ++ read)

inductive AppendAll : List RunSymbol → (read read' : List Nat) → Prop
  | nil {read : List Nat} : AppendAll [] read read
  | cons {r : RunSymbol} {runs : List RunSymbol} {read between read' : List Nat}
    (first : r.Appends read between) (rest : AppendAll runs between read') :
    AppendAll (r :: runs) read read'

namespace AppendAll

variable {runs more : List RunSymbol} {read between read' : List Nat}

theorem single {r : RunSymbol} (h : r.Appends read read') : AppendAll [r] read read' :=
  .cons h .nil

theorem append (h : AppendAll runs read between) (h' : AppendAll more between read') :
    AppendAll (runs ++ more) read read' := by
  induction h with
  | nil => exact h'
  | cons first _ ih => exact .cons first (ih h')

theorem replicate {l : Nat} (hl : l < 16) (count : Nat) (read : List Nat) :
    AppendAll (List.replicate count ⟨l, []⟩) read (List.replicate count l ++ read) := by
  induction count generalizing read with
  | zero => exact .nil
  | succ n ih =>
    rw [List.replicate_succ, List.replicate_succ', List.append_assoc]
    exact .cons (.itself hl) (ih (l :: read))

theorem zeroRun {count : Nat} (h : count ≤ maxZeroRun) (read : List Nat) :
    AppendAll (zeroRun count) read (List.replicate count 0 ++ read) := by
  unfold Deflate.zeroRun
  split
  · exact replicate (by decide) count read
  · split
    · obtain ⟨n, rfl⟩ : ∃ n, count = n + 3 := ⟨count - 3, by omega⟩
      exact single (.zeros (by omega))
    · obtain ⟨n, rfl⟩ : ∃ n, count = n + 11 := ⟨count - 11, by omega⟩
      exact single (.manyZeros (by rw [maxZeroRun] at h; omega))

theorem repeatRun {l count : Nat} (hl : l < 16) (h : count ≤ maxRepeatRun)
    (hread : 0 < count → read.head? = some l) :
    AppendAll (repeatRun l count) read (List.replicate count l ++ read) := by
  unfold Deflate.repeatRun
  split
  · exact replicate hl count read
  · obtain ⟨n, rfl⟩ : ∃ n, count = n + 3 := ⟨count - 3, by omega⟩
    obtain ⟨rest, rfl⟩ := List.head?_eq_some_iff.1 (hread (by omega))
    exact single (.repeats (by rw [maxRepeatRun] at h; omega))

end AppendAll

/-- What is known of the lengths that have not been written: they are zeros, or repeats of the
length written last. -/
structure Pending (previous : Option Nat) (zeros repeats : Nat) (read : List Nat) : Prop where
  zeros_lt : zeros < maxZeroRun
  repeats_lt : repeats < maxRepeatRun
  previous_lt : previous.getD 0 < 16
  of_previous : ∀ l, previous = some l → l ≠ 0 → zeros = 0 ∧ read.head? = some l
  of_repeats : 0 < repeats → previous.getD 0 ≠ 0

namespace Pending

variable {previous : Option Nat} {zeros repeats l : Nat} {read : List Nat}

theorem start (read : List Nat) (hl : l < 16) (hread : l ≠ 0 → read.head? = some l) :
    Pending (some l) 0 0 read where
  zeros_lt := by decide
  repeats_lt := by decide
  previous_lt := hl
  of_previous := by
    intro m hm hne
    obtain rfl := Option.some.inj hm
    exact ⟨rfl, hread hne⟩
  of_repeats := fun h => absurd h (Nat.lt_irrefl 0)

theorem zeros_eq_zero (h : Pending previous zeros repeats read) (hpos : 0 < repeats) :
    zeros = 0 ∧ read.head? = some (previous.getD 0) := by
  have hne := h.of_repeats hpos
  cases previous with
  | none => exact absurd rfl hne
  | some l => exact h.of_previous l rfl hne

theorem repeats_flushed (h : Pending previous zeros repeats read) :
    AppendAll (repeatRun (previous.getD 0) repeats) read
      (List.replicate repeats (previous.getD 0) ++ read) :=
  .repeatRun h.previous_lt h.repeats_lt.le fun hpos => (h.zeros_eq_zero hpos).2

/-- Zeros and repeats are never pending at once, so either may be written first. -/
theorem flushed (h : Pending previous zeros repeats read) :
    AppendAll (zeroRun zeros ++ repeatRun (previous.getD 0) repeats) read
      (List.replicate zeros 0 ++ (List.replicate repeats (previous.getD 0) ++ read)) := by
  rcases Nat.eq_zero_or_pos repeats with rfl | hpos
  · exact (AppendAll.zeroRun h.zeros_lt.le read).append .nil
  · obtain rfl := (h.zeros_eq_zero hpos).1
    exact AppendAll.append .nil h.repeats_flushed

theorem more_zeros (h : Pending previous zeros repeats read) (hne : zeros + 1 ≠ maxZeroRun)
    (read' : List Nat) : Pending (some 0) (zeros + 1) 0 read' where
  zeros_lt := Nat.lt_of_le_of_ne h.zeros_lt hne
  repeats_lt := by decide
  previous_lt := by decide
  of_previous := by
    intro l hl hpos
    exact absurd (Option.some.inj hl).symm hpos
  of_repeats := fun hpos => absurd hpos (Nat.lt_irrefl 0)

theorem more_repeats (h : Pending (some l) zeros repeats read) (hl : l ≠ 0)
    (hne : repeats + 1 ≠ maxRepeatRun) : Pending (some l) 0 (repeats + 1) read where
  zeros_lt := by decide
  repeats_lt := Nat.lt_of_le_of_ne h.repeats_lt hne
  previous_lt := h.previous_lt
  of_previous := by
    intro m hm hpos
    exact ⟨rfl, (h.of_previous m hm hpos).2⟩
  of_repeats := fun _ => hl

end Pending

/-- Reading the short form gives the lengths behind those that were pending. -/
theorem appendAll_runSymbols {previous : Option Nat} {zeros repeats : Nat} {lengths read : List Nat}
    (h : Pending previous zeros repeats read) (hlengths : ∀ l ∈ lengths, l < 16) :
    AppendAll (runSymbols previous zeros repeats lengths) read
      (lengths.reverse ++ (List.replicate zeros 0 ++
        (List.replicate repeats (previous.getD 0) ++ read))) := by
  fun_induction runSymbols previous zeros repeats lengths generalizing read with
  | case1 previous zeros repeats hpos =>
    obtain rfl := (h.zeros_eq_zero hpos).1
    exact h.repeats_flushed
  | case2 previous zeros repeats hnone =>
    obtain rfl := Nat.eq_zero_of_not_pos hnone
    exact .zeroRun h.zeros_lt.le read
  | case3 previous zeros repeats lengths ihfull ihmore =>
    obtain ⟨-, hlengths⟩ := List.forall_mem_cons.1 hlengths
    rw [List.reverse_cons, List.append_assoc, List.singleton_append, ← List.cons_append,
      ← List.replicate_succ]
    refine h.repeats_flushed.append ?_
    split
    next hfull =>
      rw [hfull]
      exact (AppendAll.zeroRun (Nat.le_refl _) _).append
        (ihfull (.start _ (by decide) (absurd rfl)) hlengths)
    next hmore => exact ihmore (h.more_zeros hmore _) hlengths
  | case4 previous zeros repeats l lengths hl ihfull ihmore =>
    obtain ⟨hlt, hlengths⟩ := List.forall_mem_cons.1 hlengths
    rw [List.reverse_cons, List.append_assoc, List.singleton_append]
    split
    next hprevious =>
      subst hprevious
      obtain ⟨rfl, hread⟩ := h.of_previous l rfl hl
      change AppendAll (if repeats + 1 = maxRepeatRun then _ else _) read
        (lengths.reverse ++ l :: (List.replicate repeats l ++ read))
      rw [← List.cons_append, ← List.replicate_succ]
      split
      next hfull =>
        rw [hfull]
        exact (AppendAll.repeatRun hlt (Nat.le_refl _) fun _ => hread).append
          (ihfull (.start _ hlt fun _ => rfl) hlengths)
      next hmore => exact ihmore (h.more_repeats hl hmore) hlengths
    next =>
      rw [← List.append_assoc]
      exact h.flushed.append (.cons (.itself hlt) (ihfull (.start _ hlt fun _ => rfl) hlengths))

theorem appendAll_runSymbols_nil {lengths : List Nat} (h : ∀ l ∈ lengths, l < 16) :
    AppendAll (runSymbols none 0 0 lengths) [] lengths.reverse := by
  have hstart : Pending none 0 0 [] :=
    { zeros_lt := by decide
      repeats_lt := by decide
      previous_lt := by decide
      of_previous := nofun
      of_repeats := nofun }
  simpa using appendAll_runSymbols hstart h

/-! Which symbols the short form has. -/

theorem RunSymbol.Appends.symbol_lt {r : RunSymbol} {read read' : List Nat}
    (h : r.Appends read read') : r.symbol < 19 := by
  cases h with
  | itself h => exact h.trans (by decide)
  | repeats => exact (by decide : 16 < 19)
  | zeros => exact (by decide : 17 < 19)
  | manyZeros => exact (by decide : 18 < 19)

theorem AppendAll.symbol_lt {runs : List RunSymbol} {read read' : List Nat}
    (h : AppendAll runs read read') : ∀ r ∈ runs, r.symbol < 19 := by
  induction h with
  | nil => exact fun _ hr => by cases hr
  | cons first _ ih => exact List.forall_mem_cons.2 ⟨first.symbol_lt, ih⟩

def RunSymbol.StandsFor (r : RunSymbol) (l : Nat) : Prop := r.symbol = l ∨ l = 0 ∧ 16 < r.symbol

theorem RunSymbol.Appends.standsFor {r : RunSymbol} {read read' : List Nat} {l : Nat}
    (h : r.Appends read read') (hl : l ∈ read') : l ∈ read ∨ r.StandsFor l := by
  cases h with
  | itself =>
    rcases List.mem_cons.1 hl with rfl | hl
    · exact .inr (.inl rfl)
    · exact .inl hl
  | repeats =>
    rcases List.mem_append.1 hl with hl | hl
    · exact .inl (List.mem_cons.2 (.inl (List.eq_of_mem_replicate hl)))
    · exact .inl hl
  | zeros =>
    rcases List.mem_append.1 hl with hl | hl
    · exact .inr (.inr ⟨List.eq_of_mem_replicate hl, (by decide : 16 < 17)⟩)
    · exact .inl hl
  | manyZeros =>
    rcases List.mem_append.1 hl with hl | hl
    · exact .inr (.inr ⟨List.eq_of_mem_replicate hl, (by decide : 16 < 18)⟩)
    · exact .inl hl

theorem AppendAll.exists_standsFor {runs : List RunSymbol} {read read' : List Nat} {l : Nat}
    (h : AppendAll runs read read') (hl : l ∈ read') :
    l ∈ read ∨ ∃ r ∈ runs, r.StandsFor l := by
  induction h with
  | nil => exact .inl hl
  | cons first _ ih =>
    rcases ih hl with hl | ⟨r, hr, hl⟩
    · exact (first.standsFor hl).imp_right fun hl => ⟨_, List.mem_cons_self, hl⟩
    · exact .inr ⟨r, List.mem_cons_of_mem _ hr, hl⟩

/-- A length and six repeats of it are written as the length and one repeat. -/
theorem runSymbols_of_repeats {l : Nat} (hl : l ≠ 0) (lengths : List Nat) :
    runSymbols none 0 0 (List.replicate 7 l ++ lengths) =
      ⟨l, []⟩ :: ⟨16, bitsLow 2 3⟩ :: runSymbols (some l) 0 0 lengths := by
  simp [runSymbols, hl, zeroRun, repeatRun, maxRepeatRun, List.replicate_succ]

/-- Lengths that are not all 0 have two different symbols at least. -/
theorem exists_ne_symbols {lengths : List Nat} (h : ∀ l ∈ lengths, l < 16)
    (hmany : 7 ≤ lengths.length) {l : Nat} (hmem : l ∈ lengths) (hl : l ≠ 0) :
    ∃ r ∈ runSymbols none 0 0 lengths, ∃ r' ∈ runSymbols none 0 0 lengths,
      r.symbol ≠ r'.symbol := by
  have hstands : ∀ m ∈ lengths, ∃ r ∈ runSymbols none 0 0 lengths, r.StandsFor m := by
    intro m hm
    exact ((appendAll_runSymbols_nil h).exists_standsFor (List.mem_reverse.2 hm)).resolve_left
      List.not_mem_nil
  -- one length over and over is written with a symbol for repeats, two lengths with one for each
  by_cases hsame : ∀ m ∈ lengths, m = l
  · obtain ⟨n, hn⟩ := Nat.exists_eq_add_of_le hmany
    rw [List.eq_replicate_of_mem hsame, hn, ← List.replicate_append_replicate,
      runSymbols_of_repeats hl]
    refine ⟨_, List.mem_cons_self, _, List.mem_cons_of_mem _ List.mem_cons_self, ?_⟩
    exact Nat.ne_of_lt (h l hmem)
  · push Not at hsame
    obtain ⟨m, hm, hne⟩ := hsame
    obtain ⟨r, hr, hrl⟩ := hstands l hmem
    obtain ⟨r', hr', hrm⟩ := hstands m hm
    refine ⟨r, hr, r', hr', fun heq => ?_⟩
    have hltl := h l hmem
    have hltm := h m hm
    unfold RunSymbol.StandsFor at hrl hrm
    omega

/-! Reading the short form. -/

theorem RunSymbol.Appends.length_lt {r : RunSymbol} {read read' : List Nat}
    (h : r.Appends read read') : read.length < read'.length := by
  cases h <;> simp

theorem AppendAll.length_le {runs : List RunSymbol} {read read' : List Nat}
    (h : AppendAll runs read read') : read.length ≤ read'.length := by
  induction h with
  | nil => exact Nat.le_refl _
  | cons first _ ih => exact first.length_lt.le.trans ih

def runBits (code : PrefixCode) (r : RunSymbol) : Bits := code.word r.symbol ++ r.extra

section

variable {limit : Nat} {runLengths : List Nat} (hfits : Fits limit runLengths) (hlimit : limit < 16)

include hfits hlimit

open Reader in
theorem RunSymbol.Appends.reads {r : RunSymbol} {read read' : List Nat} (h : r.Appends read read')
    {l total steps : Nat} (hword : runLengths[r.symbol]? = some l) (hpos : 0 < l)
    (hmore : read.length < total) {rest : Bits} {result : List Nat}
    (hrest : (lengthsInRuns (.ofLengths runLengths) total steps read').Reads rest result) :
    (lengthsInRuns (.ofLengths runLengths) total (steps + 1) read).Reads
      (runBits (.ofLengths runLengths) r ++ rest) result := by
  unfold lengthsInRuns
  rw [if_neg (Nat.not_le.2 hmore), runBits, List.append_assoc]
  refine (hfits.reads_symbol hlimit hword hpos).bind ?_
  cases h with
  | itself h =>
    rw [if_pos h]
    exact hrest
  | repeats h =>
    exact (reads_number h).bind hrest
  | zeros h =>
    exact (reads_number h).bind hrest
  | manyZeros h =>
    exact (reads_number h).bind hrest

theorem reads_lengthsInRuns {runs : List RunSymbol} {read read' : List Nat}
    (h : AppendAll runs read read') {total steps : Nat} (htotal : read'.length = total)
    (hsteps : total < steps + read.length)
    (hwords : ∀ r ∈ runs, ∃ l, runLengths[r.symbol]? = some l ∧ 0 < l) :
    (Reader.lengthsInRuns (.ofLengths runLengths) total steps read).Reads
      (runs.flatMap (runBits (.ofLengths runLengths))) read'.reverse := by
  induction h generalizing steps with
  | nil =>
    obtain ⟨n, rfl⟩ : ∃ n, steps = n + 1 := ⟨steps - 1, by omega⟩
    unfold Reader.lengthsInRuns
    rw [if_pos htotal.ge]
    exact (Reader.reads_require (by simpa using htotal)).bind (Reader.reads_pure _)
  | cons first rest ih =>
    have hlt := first.length_lt
    have hle := rest.length_le
    obtain ⟨n, rfl⟩ : ∃ n, steps = n + 1 := ⟨steps - 1, by omega⟩
    obtain ⟨⟨l, hl, hpos⟩, hwords⟩ := List.forall_mem_cons.1 hwords
    exact first.reads hfits hlimit hl hpos (by omega) (ih htotal (by omega) hwords)

end

end C4Diagram.Deflate
