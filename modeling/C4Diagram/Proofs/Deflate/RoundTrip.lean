import C4Diagram.Proofs.Deflate.Blocks
import C4Diagram.Proofs.Deflate.Stored

/-! Inflating compressed data gives the data, whichever block it was written in and whatever stands
behind the last one. -/

namespace C4Diagram.Deflate

open Reader

theorem inflate_of_run {bytes : List UInt8} {tokens : List Token} {state : Bits}
    (h : (blocks (bitsOfBytes bytes).length ((bitsOfBytes bytes).length + 1)).run
      (bitsOfBytes bytes) = .ok (tokens, state)) :
    inflate bytes = .ok (expand tokens).toList := by
  rw [inflate, tokensOf, StateT.run'_eq, h]
  rfl

theorem inflate_storedBlocks (data rest : List UInt8) :
    inflate (storedBlocks (data.length / maxStored + 1) data ++ rest) = .ok data := by
  have hn : data.length < (data.length / maxStored + 1) * maxStored := by
    rw [Nat.mul_comm]
    exact Nat.lt_mul_div_succ _ (by decide)
  have hblocks : data.length / maxStored + 1 ≤
      (bitsOfBytes (storedBlocks (data.length / maxStored + 1) data ++ rest)).length + 1 := by
    have := length_le_storedBlocks hn
    have := Nat.div_le_self data.length maxStored
    rw [length_bitsOfBytes, List.length_append]
    omega
  have hrun := run_storedBlocks hn hblocks (Nat.mul_mod_right 8 _)
    (Nat.le_refl (8 * (storedBlocks (data.length / maxStored + 1) data ++ rest).length))
  rw [← length_bitsOfBytes] at hrun
  rw [inflate_of_run hrun, expand_literals]

theorem inflate_bytesOfBits {bits : Bits} {tokens : List Token}
    (h : ∀ inputLength, (block inputLength).Reads bits (true, tokens)) (rest : List UInt8) :
    inflate (bytesOfBits bits ++ rest) = .ok (expand tokens).toList := by
  obtain ⟨zeros, hzeros⟩ := bitsOfBytes_bytesOfBits bits
  have hblocks : ∀ inputLength limit, (blocks inputLength (limit + 1)).Reads bits tokens :=
    fun inputLength _ => (h inputLength).bind_pure rfl
  have hrun : ∀ inputLength limit,
      (blocks inputLength (limit + 1)).run (bitsOfBytes (bytesOfBits bits ++ rest)) =
        .ok (tokens, List.replicate zeros false ++ bitsOfBytes rest) := by
    intro inputLength limit
    rw [bitsOfBytes_append, hzeros, List.append_assoc]
    exact hblocks inputLength limit _
  exact inflate_of_run (hrun _ _)

/-- Inflating compressed data gives the data, whatever bytes follow. -/
theorem inflate_compress (data rest : List UInt8) : inflate (compress data ++ rest) = .ok data := by
  have hrange : ∀ t ∈ tokenize data.toArray, t.InRange := fun t => inRange_of_mem_tokenize
  have hblock : ∀ inputLength, (block inputLength).Reads
      (if data.length < shortData then fixedBlock (tokenize data.toArray)
        else ownBlock (tokenize data.toArray)) (true, tokenize data.toArray) := by
    intro inputLength
    split
    · exact reads_fixedBlock hrange inputLength
    · exact reads_ownBlock hrange inputLength
  unfold compress
  dsimp only
  generalize (if data.length < shortData then fixedBlock (tokenize data.toArray)
    else ownBlock (tokenize data.toArray)) = bits at hblock ⊢
  split
  · exact inflate_storedBlocks data rest
  · rw [inflate_bytesOfBits hblock, expand_tokenize]

end C4Diagram.Deflate
