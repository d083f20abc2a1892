import C4Diagram.Deflate.Inflate
import Mathlib.Algebra.Order.Group.Nat

/-! What a reader reads off the front of a bit string, whatever stands behind it; and the bits of
bytes that hold a bit string. -/

namespace C4Diagram.Deflate

/-! Bits of numbers. -/

theorem bitsLow_zero (n : Nat) : bitsLow n 0 = List.replicate n false := by
  induction n with
  | zero => rfl
  | succ n ih => rw [bitsLow, Nat.zero_div, ih]; rfl

theorem bitsLow_add (m n v : Nat) : bitsLow (m + n) v = bitsLow m v ++ bitsLow n (v / 2 ^ m) := by
  induction m generalizing v with
  | zero => simp [bitsLow]
  | succ m ih =>
    rw [Nat.succ_add, bitsLow, ih, bitsLow, List.cons_append, Nat.div_div_eq_div_mul, Nat.pow_succ']

theorem bitsLow_mod (n v : Nat) : bitsLow n (v % 2 ^ n) = bitsLow n v := by
  induction n generalizing v with
  | zero => rfl
  | succ n ih =>
    rw [bitsLow, bitsLow, Nat.pow_succ', Nat.mod_mul_right_mod, Nat.mod_mul_right_div_self, ih]

/-- Writing the number that some bits make gives the bits back, filled with zeros. -/
theorem bitsLow_ofBitsLow {bits : Bits} {n : Nat} (h : bits.length ≤ n) :
    bitsLow n (ofBitsLow bits) = bits ++ List.replicate (n - bits.length) false := by
  induction bits generalizing n with
  | nil => rw [ofBitsLow, bitsLow_zero]; rfl
  | cons b bits ih =>
    obtain ⟨n, rfl⟩ : ∃ m, n = m + 1 := ⟨n - 1, by simp only [List.length_cons] at h; omega⟩
    have hlow : ((b.toNat + 2 * ofBitsLow bits) % 2 == 1) = b := by cases b <;> simp
    have hhigh : (b.toNat + 2 * ofBitsLow bits) / 2 = ofBitsLow bits := by
      have := Bool.toNat_lt b
      omega
    rw [ofBitsLow, bitsLow, hlow, hhigh, ih (Nat.le_of_succ_le_succ h), List.length_cons,
      Nat.succ_sub_succ, List.cons_append]

theorem ofBitsLow_lt (bits : Bits) : ofBitsLow bits < 2 ^ bits.length := by
  induction bits with
  | nil => exact Nat.one_pos
  | cons b bits ih =>
    have := Bool.toNat_le b
    rw [ofBitsLow, List.length_cons, Nat.pow_succ]
    omega

theorem length_bitsHigh (n v : Nat) : (bitsHigh n v).length = n := by
  rw [bitsHigh, List.length_reverse, length_bitsLow]

theorem bitsHigh_add (m n v : Nat) :
    bitsHigh (m + n) v = bitsHigh m (v / 2 ^ n) ++ bitsHigh n v := by
  rw [bitsHigh, Nat.add_comm, bitsLow_add, List.reverse_append]
  rfl

theorem bitsHigh_injective {n v w : Nat} (hv : v < 2 ^ n) (hw : w < 2 ^ n)
    (h : bitsHigh n v = bitsHigh n w) : v = w := by
  have := congrArg ofBitsLow (List.reverse_inj.1 h)
  rwa [ofBitsLow_bitsLow (by rwa [Nat.one_shiftLeft]),
    ofBitsLow_bitsLow (by rwa [Nat.one_shiftLeft])] at this

/-! Bits of bytes. -/

theorem bitsOfBytes_append (xs ys : List UInt8) :
    bitsOfBytes (xs ++ ys) = bitsOfBytes xs ++ bitsOfBytes ys :=
  List.flatMap_append

theorem bitsLow_byte {bits : Bits} (h : bits.length ≤ 8) :
    bitsLow 8 (UInt8.ofNat (ofBitsLow bits)).toNat =
      bits ++ List.replicate (8 - bits.length) false := by
  have hlt : ofBitsLow bits < 256 :=
    (ofBitsLow_lt bits).trans_le (Nat.pow_le_pow_right (by decide) h)
  rw [UInt8.toNat_ofNat_of_lt' hlt, bitsLow_ofBitsLow h]

/-- The bytes of a bit string hold the bit string, and zeros up to the end of the last byte. -/
theorem bitsOfBytes_bytesOfBits (bits : Bits) :
    ∃ zeros, bitsOfBytes (bytesOfBits bits) = bits ++ List.replicate zeros false := by
  fun_induction bytesOfBits bits with
  | case1 a b c d e f g h rest ih =>
    obtain ⟨zeros, ih⟩ := ih
    refine ⟨zeros, ?_⟩
    have hbyte := bitsLow_byte (show [a, b, c, d, e, f, g, h].length ≤ 8 from Nat.le_refl 8)
    rw [bitsOfBytes, List.flatMap_cons, hbyte, ← bitsOfBytes, ih]
    rfl
  | case2 => exact ⟨0, rfl⟩
  | case3 short hshort hne =>
    have hlen : short.length ≤ 8 := by
      rcases short with
        _ | ⟨a, _ | ⟨b, _ | ⟨c, _ | ⟨d, _ | ⟨e, _ | ⟨f, _ | ⟨g, _ | ⟨h, rest⟩⟩⟩⟩⟩⟩⟩⟩
      case cons.cons.cons.cons.cons.cons.cons.cons => exact absurd rfl (hshort _ _ _ _ _ _ _ _ _)
      all_goals simp
    refine ⟨8 - short.length, ?_⟩
    rw [bitsOfBytes, List.flatMap_cons, bitsLow_byte hlen, List.flatMap_nil, List.append_nil]

namespace Reader

variable {α β : Type}

/-- The reader takes exactly these bits off the front, and makes this of them. -/
def Reads (r : Reader α) (bits : Bits) (a : α) : Prop :=
  ∀ rest, r.run (bits ++ rest) = .ok (a, rest)

theorem reads_pure (a : α) : (pure a : Reader α).Reads [] a := fun _ => rfl

theorem Reads.bind {r : Reader α} {k : α → Reader β} {bits more : Bits} {a : α} {b : β}
    (hr : r.Reads bits a) (hk : (k a).Reads more b) : (r >>= k).Reads (bits ++ more) b := by
  intro rest
  rw [StateT.run_bind, List.append_assoc, hr]
  exact hk rest

/-- The last step of a reader takes nothing more. -/
theorem Reads.bind_pure {r : Reader α} {k : α → Reader β} {bits : Bits} {a : α} {b : β}
    (hr : r.Reads bits a) (hk : k a = pure b) : (r >>= k).Reads bits b := by
  have := hr.bind (k := k) (hk ▸ reads_pure b)
  rwa [List.append_nil] at this

theorem reads_number {n v : Nat} (h : v < 2 ^ n) : (number n).Reads (bitsLow n v) v := by
  induction n generalizing v with
  | zero =>
    obtain rfl : v = 0 := by omega
    exact reads_pure 0
  | succ n ih =>
    have hbit : bit.Reads [v % 2 == 1] (v % 2 == 1) := fun _ => rfl
    have hhalf : v / 2 < 2 ^ n := by rw [Nat.pow_succ] at h; omega
    refine hbit.bind ((ih hhalf).bind_pure (congrArg pure ?_))
    rcases Nat.mod_two_eq_zero_or_one v with hv | hv <;> simp [hv] <;> omega

theorem reads_require {condition : Bool} (h : condition = true) :
    (require condition).Reads [] () := by
  subst h
  exact reads_pure ()

theorem reads_numbers {n : Nat} {values : List Nat} (h : ∀ v ∈ values, v < 2 ^ n) :
    (numbers n values.length).Reads (values.flatMap (bitsLow n)) values := by
  induction values with
  | nil => exact reads_pure []
  | cons v values ih =>
    obtain ⟨hv, hvalues⟩ := List.forall_mem_cons.1 h
    exact (reads_number hv).bind ((ih hvalues).bind_pure rfl)

theorem reads_require_bind {condition : Bool} {k : Unit → Reader α} {bits : Bits} {a : α}
    (h : condition = true) (hk : (k ()).Reads bits a) : (require condition >>= k).Reads bits a :=
  (reads_require h).bind hk

theorem reads_get_bind {k : Bits → Reader α} {bits : Bits} {a : α}
    (h : ∀ rest, (k (bits ++ rest)).Reads bits a) : (get >>= k).Reads bits a :=
  fun rest => h rest rest

theorem run_bind {r : Reader α} {k : α → Reader β} {bits state : Bits} {a : α}
    (h : r.run bits = .ok (a, state)) : (r >>= k).run bits = (k a).run state := by
  rw [StateT.run_bind, h]
  rfl

end Reader
end C4Diagram.Deflate
