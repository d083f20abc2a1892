import C4Diagram.Proofs.Call.ReadBack
import C4Diagram.Sextet
import Mathlib.Data.Bool.AllAny
import Mathlib.Data.List.GetD
import Mathlib.Order.Bounds.Basic

/-! Letters and bytes. A value and its letter name each other, three bytes and four values hold
the same bits, and both facts carry over group by group. So reading letters back gives the bytes
and the zeros that filled the last group, and every text of whole groups of letters is written
from what is read from it. A letter is one byte, which makes the count of bytes a count of
letters as long as there are only letters. -/

namespace C4Diagram

/-! Letters. -/

theorem toNat_lt_of_sextetValue? {c : Char} {v : Nat} (h : sextetValue? c = some v) :
    c.toNat < 128 := by
  by_cases hminus : c = '-'
  · subst hminus
    decide
  · have hchar : isIdentifierChar c = true := by
      unfold isIdentifierChar Char.isAlphanum Char.isAlpha
      by_contra hc
      simp only [Bool.or_eq_true, beq_iff_eq, not_or] at hc
      obtain ⟨⟨⟨hupper, hlower⟩, hdigit⟩, hscore⟩ := hc
      rw [sextetValue?, if_neg hdigit, if_neg hupper, if_neg hlower, if_neg hminus,
        if_neg hscore] at h
      cases h
    exact (isIdentifierChar_toNat hchar).2.trans_lt (by decide)

/-- Each letter is the letter of its value. -/
theorem sextetLetter_of_sextetValue? {c : Char} {v : Nat} (h : sextetValue? c = some v) :
    v < 64 ∧ sextetLetter v = c := by
  have hall : ∀ n < 128, ∀ v ∈ sextetValue? (Char.ofNat n),
      v < 64 ∧ sextetLetter v = Char.ofNat n := by decide +kernel
  have hchar := hall c.toNat (toNat_lt_of_sextetValue? h) v
  rw [Char.ofNat_toNat] at hchar
  exact hchar h

theorem sextetLetter_eq {v : Nat} (h : v < sextetAlphabet.length) :
    sextetLetter v = sextetAlphabet[v] :=
  List.getD_eq_getElem _ _ h

theorem mem_sextetAlphabet_iff {c : Char} : c ∈ sextetAlphabet ↔ ∃ v, sextetValue? c = some v := by
  refine ⟨fun hc => ?_, fun hc => ?_⟩
  · obtain ⟨v, hv, rfl⟩ := List.mem_iff_getElem.1 hc
    rw [← sextetLetter_eq hv]
    exact ⟨v, sextetValue?_sextetLetter v hv⟩
  · obtain ⟨v, hv⟩ := hc
    obtain ⟨hlt, rfl⟩ := sextetLetter_of_sextetValue? hv
    rw [sextetLetter_eq hlt]
    exact List.getElem_mem _

theorem utf8Size_of_letters {t : Text} (h : ∀ c ∈ t, c ∈ sextetAlphabet) :
    t.utf8Size = t.length := by
  induction t with
  | nil => rfl
  | cons c t ih =>
    obtain ⟨v, hv⟩ := mem_sextetAlphabet_iff.1 (h c List.mem_cons_self)
    have hlt := toNat_lt_of_sextetValue? hv
    have hsize : c.utf8Size = 1 := Char.utf8Size_eq_one_iff.2 (Nat.le_of_lt_succ hlt)
    rw [Text.utf8Size_cons, ih fun d hd => h d (List.mem_cons_of_mem _ hd), hsize,
      List.length_cons, Nat.add_comm]

/-! Reading letters. -/

theorem sextetValues_map_letter (position : Nat) {values : List Nat} (h : ∀ v ∈ values, v < 64) :
    sextetValues position (values.map sextetLetter) = .ok values := by
  induction values generalizing position with
  | nil => rfl
  | cons v vs ih =>
    rw [List.map_cons, sextetValues, sextetValue?_sextetLetter v (h v List.mem_cons_self),
      ih _ fun w hw => h w (List.mem_cons_of_mem _ hw)]
    rfl

theorem mem_alphabet_of_mem_map_letter {values : List Nat} (h : ∀ v ∈ values, v < 64) :
    ∀ c ∈ values.map sextetLetter, c ∈ sextetAlphabet := by
  intro c hc
  obtain ⟨v, hv, rfl⟩ := List.mem_map.1 hc
  exact mem_sextetAlphabet_iff.2 ⟨v, sextetValue?_sextetLetter v (h v hv)⟩

/-- The letters of whole groups of values are read as the bytes of the groups. -/
theorem unpack_map_letter {values : List Nat} (h : ∀ v ∈ values, v < 64)
    (hlen : values.length % 4 = 0) :
    unpack (values.map sextetLetter) = .ok (unpackGroups values) := by
  have hsize := utf8Size_of_letters (mem_alphabet_of_mem_map_letter h)
  rw [List.length_map] at hsize
  rw [unpack, hsize, if_neg (not_not_intro hlen), sextetValues_map_letter 0 h]
  rfl

/-- A text of letters is the letters of some values. -/
theorem exists_values_of_letters {t : Text} (h : ∀ c ∈ t, c ∈ sextetAlphabet) :
    ∃ values : List Nat, (∀ v ∈ values, v < 64) ∧ t = values.map sextetLetter := by
  induction t with
  | nil => exact ⟨[], fun v hv => absurd hv List.not_mem_nil, rfl⟩
  | cons c t ih =>
    obtain ⟨vs, hvs, rfl⟩ := ih fun d hd => h d (List.mem_cons_of_mem _ hd)
    obtain ⟨v, hv⟩ := mem_sextetAlphabet_iff.1 (h c List.mem_cons_self)
    obtain ⟨hlt, rfl⟩ := sextetLetter_of_sextetValue? hv
    exact ⟨v :: vs, List.forall_mem_cons.2 ⟨hlt, hvs⟩, rfl⟩

theorem sextetValues_of_stranger (position : Nat) {before : Text} {c : Char}
    (h : ∀ d ∈ before, d ∈ sextetAlphabet) (hc : c ∉ sextetAlphabet) (after : Text) :
    sextetValues position (before ++ c :: after) =
      .error (.invalidCharacter c (position + before.length)) := by
  induction before generalizing position with
  | nil =>
    have hnone : sextetValue? c = none :=
      Option.eq_none_iff_forall_ne_some.2 fun v hv => hc (mem_sextetAlphabet_iff.2 ⟨v, hv⟩)
    rw [List.nil_append, sextetValues, hnone]
    rfl
  | cons d before ih =>
    obtain ⟨v, hv⟩ := mem_sextetAlphabet_iff.1 (h d List.mem_cons_self)
    rw [List.cons_append, sextetValues, hv, ih _ fun e he => h e (List.mem_cons_of_mem _ he),
      List.length_cons, Nat.add_assoc, Nat.add_comm 1]
    rfl

/-! Groups. -/

def groupValues (a b c : UInt8) : List Nat :=
  [a.toNat / 4, a.toNat % 4 * 16 + b.toNat / 16, b.toNat % 16 * 4 + c.toNat / 64, c.toNat % 64]

def packedValues : List UInt8 → List Nat
  | a :: b :: c :: rest => groupValues a b c ++ packedValues rest
  | [a, b] => groupValues a b 0
  | [a] => groupValues a 0 0
  | [] => []

theorem groupValues_lt (a b c : UInt8) : ∀ v ∈ groupValues a b c, v < 64 := by
  have ha := a.toNat_lt
  have hb := b.toNat_lt
  have hc := c.toNat_lt
  simp only [groupValues, List.forall_mem_cons]
  refine ⟨by omega, by omega, by omega, by omega, fun v hv => absurd hv List.not_mem_nil⟩

theorem packedValues_lt (bytes : List UInt8) : ∀ v ∈ packedValues bytes, v < 64 := by
  fun_induction packedValues bytes with
  | case1 a b c rest ih =>
    intro v hv
    rcases List.mem_append.1 hv with hv | hv
    · exact groupValues_lt a b c v hv
    · exact ih v hv
  | case2 a b => exact groupValues_lt a b 0
  | case3 a => exact groupValues_lt a 0 0
  | case4 => exact fun v hv => absurd hv List.not_mem_nil

theorem pack_eq (bytes : List UInt8) : pack bytes = (packedValues bytes).map sextetLetter := by
  fun_induction packedValues bytes with
  | case1 a b c rest ih =>
    rw [pack, ih, List.map_append]
    rfl
  | case2 a b => rfl
  | case3 a => rfl
  | case4 => rfl

theorem mem_alphabet_of_mem_pack {bytes : List UInt8} {c : Char} (h : c ∈ pack bytes) :
    c ∈ sextetAlphabet := by
  rw [pack_eq] at h
  exact mem_alphabet_of_mem_map_letter (packedValues_lt bytes) c h

theorem unpackGroup_groupValues (a b c : UInt8) (rest : List Nat) :
    unpackGroups (groupValues a b c ++ rest) = a :: b :: c :: unpackGroups rest := by
  have ha := a.toNat_lt
  have hb := b.toNat_lt
  have hc := c.toNat_lt
  have hbyte {x : UInt8} {n : Nat} (h : n % 256 = x.toNat) : UInt8.ofNat n = x := by
    rw [← UInt8.toNat_inj, UInt8.toNat_ofNat']
    exact h
  simp only [groupValues, List.cons_append, List.nil_append, unpackGroups, unpackGroup]
  rw [hbyte (x := a) (by omega), hbyte (x := b) (by omega), hbyte (x := c) (by omega)]

/-- Reading the values back gives the bytes and what filled the last group. -/
theorem unpackGroups_packedValues (bytes : List UInt8) :
    unpackGroups (packedValues bytes) =
      bytes ++ List.replicate ((3 - bytes.length % 3) % 3) 0 := by
  fun_induction packedValues bytes with
  | case1 a b c rest ih =>
    have hlen : (a :: b :: c :: rest).length % 3 = rest.length % 3 := by
      simp only [List.length_cons]
      omega
    rw [unpackGroup_groupValues, ih, hlen]
    rfl
  | case2 a b => exact unpackGroup_groupValues a b 0 []
  | case3 a => exact unpackGroup_groupValues a 0 0 []
  | case4 => rfl

theorem groupValues_unpackGroup {p q r s : Nat} (hp : p < 64) (hq : q < 64) (hr : r < 64)
    (hs : s < 64) (rest : List UInt8) :
    packedValues (unpackGroup p q r s ++ rest) = p :: q :: r :: s :: packedValues rest := by
  simp only [unpackGroup, List.cons_append, List.nil_append, packedValues, groupValues,
    UInt8.toNat_ofNat']
  congr 1
  · omega
  congr 1
  · omega
  congr 1
  · omega
  congr 1
  omega

/-- Whole groups of values are read into three bytes each, which have these values. -/
theorem packedValues_unpackGroups {values : List Nat} (h : ∀ v ∈ values, v < 64)
    (hlen : values.length % 4 = 0) :
    packedValues (unpackGroups values) = values ∧
      (unpackGroups values).length * 4 = values.length * 3 := by
  fun_induction unpackGroups values with
  | case1 p q r s rest ih =>
    simp only [List.forall_mem_cons] at h
    obtain ⟨hp, hq, hr, hs, hrest⟩ := h
    simp only [List.length_cons] at hlen
    obtain ⟨hvalues, hlength⟩ := ih hrest (by omega)
    rw [groupValues_unpackGroup hp hq hr hs, hvalues]
    refine ⟨rfl, ?_⟩
    simp only [unpackGroup, List.cons_append, List.nil_append, List.length_cons]
    omega
  | case2 values hshort =>
    have hnil : values = [] := by
      match values, hshort, hlen with
      | [], _, _ => rfl
      | [_], _, hlen => cases hlen
      | [_, _], _, hlen => cases hlen
      | [_, _, _], _, hlen => cases hlen
      | p :: q :: r :: s :: rest, hshort, _ => exact absurd rfl (hshort p q r s rest)
    subst hnil
    exact ⟨rfl, rfl⟩

theorem unpack_pack (bytes : List UInt8) :
    unpack (pack bytes) = .ok (bytes ++ List.replicate ((3 - bytes.length % 3) % 3) 0) := by
  have hlen : (packedValues bytes).length % 4 = 0 := by
    rw [← List.length_map sextetLetter, ← pack_eq, length_pack]
    exact Nat.mul_mod_left _ _
  rw [pack_eq, unpack_map_letter (packedValues_lt bytes) hlen, unpackGroups_packedValues]

/-- Letters and bytes, both ways. The bytes come back with the fewest zeros that make whole groups
of three. A text is refused for the number of its bytes, else for its first character that is no
letter, where bytes and characters still count the same; any other text is what its bytes are
written as. -/
theorem unpack_pack_and_pack_unpack :
    (∀ bytes : List UInt8, ∃ zeros, IsLeast {n | 3 ∣ bytes.length + n} zeros ∧
      unpack (pack bytes) = .ok (bytes ++ List.replicate zeros 0)) ∧
    ∀ t : Text,
      (t.utf8Size % 4 ≠ 0 → unpack t = .error (.invalidLength t.utf8Size)) ∧
      (t.utf8Size % 4 = 0 → ∀ (before : Text) c after, t = before ++ c :: after →
        (∀ d ∈ before, d ∈ sextetAlphabet) → c ∉ sextetAlphabet →
        unpack t = .error (.invalidCharacter c before.length) ∧
          before.utf8Size = before.length) ∧
      (t.utf8Size % 4 = 0 → (∀ c ∈ t, c ∈ sextetAlphabet) →
        ∃ bytes, unpack t = .ok bytes ∧ bytes.length * 4 = t.length * 3 ∧ pack bytes = t) := by
  refine ⟨fun bytes => ⟨_, ⟨?_, fun n hn => ?_⟩, unpack_pack bytes⟩,
    fun t => ⟨fun h => ?_, ?_, ?_⟩⟩
  · show 3 ∣ _
    omega
  · change 3 ∣ _ at hn
    omega
  · rw [unpack, if_pos h]
  · rintro hsize before c after rfl hbefore hc
    have hstranger := sextetValues_of_stranger 0 hbefore hc after
    rw [Nat.zero_add] at hstranger
    rw [unpack, if_neg (not_not_intro hsize), hstranger]
    exact ⟨rfl, utf8Size_of_letters hbefore⟩
  · intro hsize hletters
    rw [utf8Size_of_letters hletters] at hsize
    obtain ⟨values, hvalues, rfl⟩ := exists_values_of_letters hletters
    rw [List.length_map] at hsize
    obtain ⟨hpacked, hlength⟩ := packedValues_unpackGroups hvalues hsize
    refine ⟨_, unpack_map_letter hvalues hsize, ?_, ?_⟩
    · rw [List.length_map, hlength]
    · rw [pack_eq, hpacked]

/-- A text of three bytes, one whose last character is no letter and takes two bytes, and one of
two groups. -/
theorem unpack_pack_and_pack_unpack_texts :
    (Text.utf8Size "aé".toList % 4 ≠ 0 ∧
      unpack "aé".toList = .error (.invalidLength (Text.utf8Size "aé".toList))) ∧
    (Text.utf8Size "9aé".toList % 4 = 0 ∧ "9aé".toList = "9a".toList ++ 'é' :: [] ∧
      (∀ d ∈ "9a".toList, d ∈ sextetAlphabet) ∧ 'é' ∉ sextetAlphabet ∧
      unpack "9aé".toList = .error (.invalidCharacter 'é' "9a".toList.length) ∧
      Text.utf8Size "9a".toList = "9a".toList.length) ∧
    (Text.utf8Size "JM5k0G-_".toList % 4 = 0 ∧ (∀ c ∈ "JM5k0G-_".toList, c ∈ sextetAlphabet) ∧
      ∃ bytes, unpack "JM5k0G-_".toList = .ok bytes ∧
        bytes.length * 4 = "JM5k0G-_".toList.length * 3 ∧ pack bytes = "JM5k0G-_".toList) := by
  have hthree : Text.utf8Size "aé".toList % 4 ≠ 0 := by decide
  have hfour : Text.utf8Size "9aé".toList % 4 = 0 := by decide
  have hbefore : ∀ d ∈ "9a".toList, d ∈ sextetAlphabet := List.all_iff_forall_prop.1 (by decide)
  have hstranger : 'é' ∉ sextetAlphabet := by decide
  have height : Text.utf8Size "JM5k0G-_".toList % 4 = 0 := by decide
  have hletters : ∀ c ∈ "JM5k0G-_".toList, c ∈ sextetAlphabet :=
    List.all_iff_forall_prop.1 (by decide)
  exact ⟨⟨hthree, (unpack_pack_and_pack_unpack.2 _).1 hthree⟩,
    ⟨hfour, rfl, hbefore, hstranger,
      (unpack_pack_and_pack_unpack.2 _).2.1 hfour _ _ _ rfl hbefore hstranger⟩,
    ⟨height, hletters, (unpack_pack_and_pack_unpack.2 _).2.2 height hletters⟩⟩

end C4Diagram
