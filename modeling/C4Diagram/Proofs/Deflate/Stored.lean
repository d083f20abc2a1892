import C4Diagram.Proofs.Deflate.Reads

/-! Stored blocks are read back as their bytes. They are the only blocks whose reading depends on
where they start: what is left of the byte that holds their first bits is dropped. -/

namespace C4Diagram.Deflate

open Reader

/-- A number of two bytes, the lower one first. -/
theorem bitsOfBytes_pair {v : Nat} (h : v ≤ maxStored) :
    bitsOfBytes [UInt8.ofNat (v % 256), UInt8.ofNat (v / 256)] = bitsLow 16 v := by
  rw [maxStored] at h
  rw [bitsLow_add 8 8 v, ← bitsLow_mod 8 v, bitsOfBytes, List.flatMap_cons, List.flatMap_cons,
    List.flatMap_nil, List.append_nil, UInt8.toNat_ofNat_of_lt' (Nat.mod_lt v (by decide)),
    UInt8.toNat_ofNat_of_lt' (show v / 256 < 256 by omega)]
  rfl

theorem expand_literals (data : List UInt8) : expand (data.map Token.literal) = data.toArray := by
  have hfold : ∀ output : Array UInt8,
      (data.map Token.literal).foldl Token.append output = output ++ data.toArray := by
    intro output
    induction data generalizing output with
    | nil => simp
    | cons b data ih => simp [ih, Token.append]
  rw [expand, hfold, Array.empty_append]

def storedHead (isFinal : Bool) (size : Nat) : List UInt8 :=
  [if isFinal then 1 else 0, UInt8.ofNat (size % 256), UInt8.ofNat (size / 256),
    UInt8.ofNat ((maxStored - size) % 256), UInt8.ofNat ((maxStored - size) / 256)]

theorem length_storedHead (isFinal : Bool) (size : Nat) : (storedHead isFinal size).length = 5 :=
  rfl

theorem bitsOfBytes_storedHead {isFinal : Bool} {size : Nat} (h : size ≤ maxStored) :
    bitsOfBytes (storedHead isFinal size) =
      bitsLow 1 isFinal.toNat ++ (bitsLow 2 0 ++ (List.replicate 5 false ++
        (bitsLow 16 size ++ bitsLow 16 (maxStored - size)))) := by
  rw [← bitsOfBytes_pair h, ← bitsOfBytes_pair (Nat.sub_le _ _)]
  cases isFinal <;> simp [storedHead, bitsOfBytes] <;> rfl

theorem reads_storedBytes (bytes : List UInt8) :
    (numbers 8 bytes.length).Reads (bitsOfBytes bytes) (bytes.map UInt8.toNat) := by
  have hlt : ∀ v ∈ bytes.map UInt8.toNat, v < 2 ^ 8 := by
    intro v hv
    obtain ⟨b, -, rfl⟩ := List.mem_map.1 hv
    exact b.toNat_lt
  have hreads := reads_numbers hlt
  rwa [List.length_map, List.flatMap_map] at hreads

/-- From the first byte on that is a whole one, a stored block states its size and has its bytes. -/
theorem run_storedTokens {now rest : List UInt8} {inputLength : Nat} (h : now.length ≤ maxStored)
    (haligned : inputLength % 8 = 0) (hin : 8 * (5 + now.length + rest.length) ≤ inputLength) :
    (storedTokens inputLength).run (List.replicate 5 false ++ (bitsLow 16 now.length ++
      (bitsLow 16 (maxStored - now.length) ++ (bitsOfBytes now ++ bitsOfBytes rest)))) =
      .ok (now.map .literal, bitsOfBytes rest) := by
  have hsize : now.length < 2 ^ 16 := by rw [maxStored] at h; omega
  have hcomplement : maxStored - now.length < 2 ^ 16 := by rw [maxStored]; omega
  have halign : ∀ bits : Bits, bits.length = 32 + 8 * now.length + 8 * rest.length →
      (alignToByte inputLength).run (List.replicate 5 false ++ bits) = .ok ((), bits) := by
    intro bits hbits
    -- three bits of the first byte are read, and what is left of the input else is whole bytes
    have hdrop : (8 - (inputLength - (List.replicate 5 false ++ bits).length) % 8) % 8 = 5 := by
      rw [List.length_append, List.length_replicate]
      omega
    change alignToByte inputLength _ = _
    rw [alignToByte, hdrop]
    rfl
  unfold storedTokens
  rw [run_bind (halign _ (by simp [length_bitsLow, length_bitsOfBytes]; omega)),
    run_bind (reads_number hsize _), run_bind (reads_number hcomplement _)]
  refine reads_require_bind (by simpa using Nat.add_sub_cancel' h)
    ((reads_storedBytes now).bind_pure ?_) (bitsOfBytes rest)
  simp [Function.comp_def]

theorem run_storedBlock {isFinal : Bool} {now rest : List UInt8} {inputLength : Nat}
    (h : now.length ≤ maxStored) (haligned : inputLength % 8 = 0)
    (hin : 8 * (5 + now.length + rest.length) ≤ inputLength) :
    (block inputLength).run (bitsOfBytes (storedHead isFinal now.length ++ now ++ rest)) =
      .ok ((isFinal, now.map .literal), bitsOfBytes rest) := by
  rw [bitsOfBytes_append, bitsOfBytes_append, bitsOfBytes_storedHead h]
  simp only [List.append_assoc]
  unfold block
  rw [run_bind (reads_number (Bool.toNat_lt isFinal) _), run_bind (reads_number (by decide) _)]
  refine (run_bind (r := get) rfl).trans ((run_bind (run_storedTokens h haligned hin)).trans ?_)
  cases isFinal <;> rfl

theorem storedBlocks_succ (n : Nat) (data : List UInt8) :
    storedBlocks (n + 1) data =
      storedHead (data.drop maxStored).isEmpty (data.take maxStored).length ++
        data.take maxStored ++
          if (data.drop maxStored).isEmpty then [] else storedBlocks n (data.drop maxStored) :=
  rfl

/-- What one block leaves over fits into one block less. -/
theorem length_drop_lt {n : Nat} {data : List UInt8} (hn : data.length < (n + 1) * maxStored)
    (hmore : ¬(data.drop maxStored).isEmpty) : (data.drop maxStored).length < n * maxStored := by
  have hlt : maxStored < data.length := by
    have hne : data.drop maxStored ≠ [] := by simpa using hmore
    exact Nat.lt_of_not_le fun hle => hne (List.drop_eq_nil_of_le hle)
  rw [Nat.succ_mul] at hn
  rw [List.length_drop]
  omega

theorem length_le_storedBlocks {n : Nat} {data : List UInt8} (hn : data.length < n * maxStored) :
    data.length ≤ (storedBlocks n data).length := by
  induction n generalizing data with
  | zero => simp at hn
  | succ n ih =>
    have hparts := congrArg List.length (List.take_append_drop maxStored data)
    rw [List.length_append] at hparts
    rw [storedBlocks_succ, List.length_append, List.length_append]
    split
    next hempty =>
      rw [List.isEmpty_iff.1 hempty, List.length_nil] at hparts
      omega
    next hmore =>
      have hlater := ih (length_drop_lt hn hmore)
      omega

theorem run_storedBlocks {n limit : Nat} {data rest : List UInt8} {inputLength : Nat}
    (hn : data.length < n * maxStored) (hlimit : n ≤ limit) (haligned : inputLength % 8 = 0)
    (hin : 8 * (storedBlocks n data ++ rest).length ≤ inputLength) :
    (blocks inputLength limit).run (bitsOfBytes (storedBlocks n data ++ rest)) =
      .ok (data.map .literal, bitsOfBytes rest) := by
  induction n generalizing data limit with
  | zero => simp at hn
  | succ n ih =>
    obtain ⟨m, rfl⟩ : ∃ m, limit = m + 1 := ⟨limit - 1, by omega⟩
    rw [storedBlocks_succ] at hin ⊢
    have htake : (data.take maxStored).length ≤ maxStored := List.length_take_le _ _
    cases hempty : (data.drop maxStored).isEmpty with
    | true =>
      have hall : data.take maxStored = data :=
        List.take_of_length_le (List.drop_eq_nil_iff.1 (List.isEmpty_iff.1 hempty))
      rw [hempty, if_pos rfl, List.append_nil, List.length_append, List.length_append,
        length_storedHead] at hin
      rw [blocks, if_pos rfl, List.append_nil, run_bind (run_storedBlock htake haligned hin), hall]
      rfl
    | false =>
      have hlt := length_drop_lt hn (Bool.eq_false_iff.1 hempty)
      rw [hempty, if_neg Bool.false_ne_true, List.append_assoc, List.length_append,
        List.length_append, length_storedHead] at hin
      have hlater : (blocks inputLength m).run _ = _ := ih hlt (by omega) (by omega)
      rw [blocks, if_neg Bool.false_ne_true, List.append_assoc,
        run_bind (run_storedBlock htake haligned hin)]
      refine (run_bind hlater).trans ?_
      rw [← List.map_append, List.take_append_drop]
      rfl

end C4Diagram.Deflate
