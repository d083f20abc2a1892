import C4Diagram.Proofs.Deflate.CodeHeader
import C4Diagram.Proofs.Deflate.Tokenize

/-! The tokens of a block are read back, up to its end. Lengths and distances lie in the bucket of
their symbol, whose extra bits tell them apart. -/

namespace C4Diagram.Deflate

/-! Buckets. -/

/-- Buckets that leave no value out, from the first base up to the bound. -/
def Contiguous (bound : Nat) : List Bucket → Prop
  | [] => False
  | [b] => bound ≤ b.base + 2 ^ b.extraBits
  | b :: b' :: buckets => b'.base ≤ b.base + 2 ^ b.extraBits ∧ Contiguous bound (b' :: buckets)

theorem contiguous_lengthBuckets : Contiguous (maxCopyLength + 1) lengthBuckets := by
  simp [Contiguous, lengthBuckets, maxCopyLength]

theorem contiguous_distanceBuckets : Contiguous (windowSize + 1) distanceBuckets := by
  simp [Contiguous, distanceBuckets, windowSize]

theorem bucketOf_cons_cons {value : Nat} {b b' : Bucket} (hb : b.base ≤ value)
    (hb' : b'.base ≤ value) (buckets : List Bucket) :
    bucketOf (b :: b' :: buckets) value =
      ((bucketOf (b' :: buckets) value).1 + 1, (bucketOf (b' :: buckets) value).2) := by
  simp [bucketOf, hb, hb']

/-- The bucket of a value holds it. -/
theorem exists_bucketOf {bound value : Nat} {b : Bucket} {buckets : List Bucket}
    (h : Contiguous bound (b :: buckets)) (hbase : b.base ≤ value) (hlt : value < bound) :
    ∃ place bucket, bucketOf (b :: buckets) value = (place, bucket) ∧
      (b :: buckets)[place]? = some bucket ∧ bucket.base ≤ value ∧
      value - bucket.base < 2 ^ bucket.extraBits := by
  induction buckets generalizing b with
  | nil =>
    have hbound : bound ≤ b.base + 2 ^ b.extraBits := h
    exact ⟨0, b, by simp [bucketOf, hbase], rfl, hbase, by omega⟩
  | cons b' buckets ih =>
    obtain ⟨hnext, h⟩ := h
    rcases Nat.lt_or_ge value b'.base with hb' | hb'
    · exact ⟨0, b, by simp [bucketOf, hbase, Nat.not_le.2 hb'], rfl, hbase, by omega⟩
    · obtain ⟨place, bucket, hbucket, hplace, hin⟩ := ih h hb'
      refine ⟨place + 1, bucket, ?_, hplace, hin⟩
      rw [bucketOf_cons_cons hbase hb', hbucket]

open Reader

theorem reads_bucketBits {bound value : Nat} {b : Bucket} {buckets : List Bucket}
    (h : Contiguous bound (b :: buckets)) (hbase : b.base ≤ value) (hlt : value < bound) :
    (bucketAt (b :: buckets) (bucketBits (b :: buckets) value).1).Reads
      (bucketBits (b :: buckets) value).2 value := by
  obtain ⟨place, bucket, hbucket, hplace, hle, hextra⟩ := exists_bucketOf h hbase hlt
  simp only [bucketBits, hbucket, bucketAt, hplace]
  refine (reads_number hextra).bind_pure ?_
  rw [Nat.add_sub_cancel' hle]

theorem reads_length {length : Nat} (hlo : 3 ≤ length) (hhi : length ≤ maxCopyLength) :
    (bucketAt lengthBuckets (bucketBits lengthBuckets length).1).Reads
      (bucketBits lengthBuckets length).2 length :=
  reads_bucketBits contiguous_lengthBuckets hlo (Nat.lt_succ_of_le hhi)

theorem reads_distance {distance : Nat} (hlo : 1 ≤ distance) (hhi : distance ≤ windowSize) :
    (bucketAt distanceBuckets (bucketBits distanceBuckets distance).1).Reads
      (bucketBits distanceBuckets distance).2 distance :=
  reads_bucketBits contiguous_distanceBuckets hlo (Nat.lt_succ_of_le hhi)

/-! Tokens. -/

def ReadsSymbols (written read : PrefixCode) (symbols : List Nat) : Prop :=
  ∀ s ∈ symbols, (symbol read).Reads (written.word s) s

theorem symbol?_nil (code : PrefixCode) : code.symbol? [] = none := by
  rw [PrefixCode.symbol?, Array.findIdx?_eq_none_iff]
  intro w _
  cases w <;> rfl

theorem ne_nil_of_reads_symbol {code : PrefixCode} {bits : Bits} {s : Nat}
    (h : (symbol code).Reads bits s) : bits ≠ [] := by
  rintro rfl
  have := h []
  simp [symbol, StateT.run, symbol?_nil] at this

section

variable {literals distances readLiterals readDistances : PrefixCode}

theorem blockBody_cons (t : Token) (tokens : List Token) :
    blockBody literals distances (t :: tokens) =
      t.bits literals distances ++ blockBody literals distances tokens := by
  rw [blockBody, List.flatMap_cons, List.append_assoc, blockBody]

theorem bits_copy (length distance : Nat) :
    (Token.copy length distance).bits literals distances =
      literals.word (257 + (bucketBits lengthBuckets length).1) ++
        ((bucketBits lengthBuckets length).2 ++
          (distances.word (bucketBits distanceBuckets distance).1 ++
            (bucketBits distanceBuckets distance).2)) := by
  rw [← List.append_assoc, ← List.append_assoc]
  rfl

theorem reads_blockTokens {tokens read : List Token} {limit : Nat}
    (hrange : ∀ t ∈ tokens, t.InRange)
    (hliterals : ReadsSymbols literals readLiterals (endOfBlock :: tokens.map Token.symbol))
    (hdistances : ReadsSymbols distances readDistances (tokens.filterMap Token.distanceSymbol?))
    (hlimit : tokens.length < limit) :
    (blockTokens readLiterals readDistances limit read).Reads (blockBody literals distances tokens)
      (read.reverse ++ tokens) := by
  induction tokens generalizing read limit with
  | nil =>
    obtain ⟨n, rfl⟩ : ∃ n, limit = n + 1 := ⟨limit - 1, by omega⟩
    rw [blockTokens, List.append_nil]
    exact Reads.bind_pure (hliterals _ List.mem_cons_self) rfl
  | cons t tokens ih =>
    obtain ⟨n, rfl⟩ : ∃ n, limit = n + 1 := ⟨limit - 1, by omega⟩
    obtain ⟨ht, hrange⟩ := List.forall_mem_cons.1 hrange
    obtain ⟨hend, hliterals⟩ := List.forall_mem_cons.1 hliterals
    obtain ⟨hsymbol, hliterals⟩ := List.forall_mem_cons.1 hliterals
    have hrest (hdistances : ReadsSymbols distances readDistances
          (tokens.filterMap Token.distanceSymbol?)) :
        (blockTokens readLiterals readDistances n (t :: read)).Reads
          (blockBody literals distances tokens) (read.reverse ++ t :: tokens) := by
      have htokens : (blockTokens readLiterals readDistances n (t :: read)).Reads
          (blockBody literals distances tokens) ((t :: read).reverse ++ tokens) :=
        ih hrange (List.forall_mem_cons.2 ⟨hend, hliterals⟩) hdistances
          (Nat.lt_of_succ_lt_succ hlimit)
      rwa [List.reverse_cons, List.append_assoc] at htokens
    rw [blockTokens, blockBody_cons]
    cases t with
    | literal byte =>
      refine Reads.bind hsymbol ?_
      have hbyte : (Token.literal byte).symbol < endOfBlock := byte.toNat_lt
      rw [if_pos hbyte, Token.symbol, UInt8.ofNat_toNat]
      exact hrest hdistances
    | copy length distance =>
      obtain ⟨⟨hlo, hhi⟩, hlo', hhi'⟩ := ht
      obtain ⟨hdistance, hdistances⟩ := List.forall_mem_cons.1 hdistances
      rw [bits_copy, List.append_assoc, List.append_assoc, List.append_assoc]
      refine Reads.bind hsymbol ?_
      rw [if_neg (by rw [Token.symbol, endOfBlock]; omega),
        if_neg (by rw [Token.symbol, endOfBlock]; omega), Token.symbol, Nat.add_sub_cancel_left]
      exact (reads_length hlo hhi).bind (Reads.bind hdistance
        ((reads_distance hlo' hhi').bind (hrest hdistances)))

/-- Every token takes a bit at least. -/
theorem length_le_blockBody (distances : PrefixCode) {tokens : List Token}
    (hliterals : ReadsSymbols literals readLiterals (tokens.map Token.symbol)) :
    tokens.length ≤ (blockBody literals distances tokens).length := by
  induction tokens with
  | nil => exact Nat.zero_le _
  | cons t tokens ih =>
    obtain ⟨hsymbol, hliterals⟩ := List.forall_mem_cons.1 hliterals
    have hpos : 0 < (t.bits literals distances).length := by
      have hword := List.length_pos_of_ne_nil (ne_nil_of_reads_symbol hsymbol)
      cases t with
      | literal byte => exact hword
      | copy length distance =>
        rw [bits_copy, List.length_append]
        exact Nat.add_pos_left hword _
    have := ih hliterals
    rw [blockBody_cons, List.length_append, List.length_cons]
    omega

end

end C4Diagram.Deflate
