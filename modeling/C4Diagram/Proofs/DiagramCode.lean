import C4Diagram.DiagramCode
import C4Diagram.Proofs.Deflate.RoundTrip
import C4Diagram.Proofs.Sextet
import C4Diagram.Proofs.Text.Utf8
import Mathlib.Algebra.Order.Floor.Div

/-! Decoding a text's code gives the text. The letters keep the compressed bytes and add at most
two zero bytes behind them, so all that is asked of a compression is that such zeros do not count.
Those behind the final block of a DEFLATE stream are never read. -/

namespace C4Diagram

namespace Compression

/-- What was compressed comes back, with up to two zero bytes behind it as well. -/
def Lawful (z : Compression) : Prop :=
  ∀ data, ∀ zeros < 3, z.inflate (z.compress data ++ List.replicate zeros 0) = .ok data

variable {z : Compression}

/-- Letters that hold the compressed form of a text, with whatever zeros fill their last group. -/
theorem decode_pack {stream : List UInt8} {t : Text}
    (h : ∀ zeros < 3, z.inflate (stream ++ List.replicate zeros 0) = .ok t.utf8.toList) :
    z.decode (pack stream) = .ok t := by
  unfold decode
  rw [unpack_pack]
  change ((z.inflate _).mapError DiagramCode.DecodeError.inflate >>= _) = _
  simp only [h _ (Nat.mod_lt _ (by decide)), Except.mapError, bind, Except.bind, Text.mk_toList,
    Text.ofUtf8?_utf8]

theorem mem_alphabet_of_mem_encode {t : Text} {c : Char} (h : c ∈ z.encode t) :
    c ∈ sextetAlphabet :=
  mem_alphabet_of_mem_pack h

theorem length_encode (z : Compression) (t : Text) :
    (z.encode t).length = 4 * ((z.compress t.utf8.toList).length ⌈/⌉ 3) := by
  rw [encode, length_pack, Nat.ceilDiv_eq_add_pred_div, Nat.mul_comm]
  rfl

/-- Decoding undoes encoding for every compression that undoes itself. -/
theorem Lawful.roundTrip (hz : z.Lawful) (t : Text) :
    z.decode (z.encode t) = .ok t ∧ (∀ c ∈ z.encode t, c ∈ sextetAlphabet) ∧
      (z.encode t).length = 4 * ((z.compress t.utf8.toList).length ⌈/⌉ 3) :=
  ⟨decode_pack (hz t.utf8.toList), fun _ hc => mem_alphabet_of_mem_encode hc, length_encode z t⟩

end Compression

theorem Deflate.compression_lawful : compression.Lawful := fun data zeros _ =>
  inflate_compress data (List.replicate zeros 0)

/-- Decoding undoes encoding. The code has letters only, four for every three compressed bytes. -/
theorem DiagramCode.decode_encode (t : Text) :
    decode (encode t) = .ok t ∧ (∀ c ∈ encode t, c ∈ sextetAlphabet) ∧
      (encode t).length = 4 * ((Deflate.compress t.utf8.toList).length ⌈/⌉ 3) :=
  Deflate.compression_lawful.roundTrip t

end C4Diagram
