import C4Diagram.Proofs.Text.Lines
import C4Diagram.Proofs.Text.Search
import C4Diagram.Proofs.Text.Utf8
import C4Diagram.Url.Host

/-! A host of ASCII characters is only put in lower case. No such character is made of two others,
goes behind another one or makes a new one with it, so composing changes nothing, and the labels
are written as they are unless they start like a punycode. -/

namespace C4Diagram

namespace Domain

theorem isAscii_iff {c : Char} : isAscii c = true ↔ c.toNat < 128 := decide_eq_true_iff

/-! Composition knows no ASCII characters, neither as what is added to a letter nor as what comes
out. -/

/-- The characters of a written-out text, which is not taken apart into its bytes for them. -/
theorem forall_mem_ofList {cs : List Char} (h : cs.all (fun c => !isAscii c) = true) :
    ∀ c ∈ (String.ofList cs).toList, isAscii c = false := by
  rw [String.toList_ofList]
  simpa using h

theorem isAscii_of_mem_made : ∀ p ∈ pairs, ∀ c ∈ p.2.2.toList, isAscii c = false := by
  unfold pairs
  repeat' first
    | exact List.forall_mem_nil _
    | refine List.forall_mem_cons.2 ⟨forall_mem_ofList (by decide +kernel), ?_⟩

theorem le_added : ∀ p ∈ pairs, 128 ≤ p.1 := by decide +kernel

theorem le_combining : ∀ g ∈ combiningRanges, ∀ r ∈ g.2, 128 ≤ r.1 := by decide +kernel

theorem combiningClass_of_isAscii {c : Char} (h : isAscii c = true) : combiningClass c = 0 := by
  have hnone : combiningRanges.find? (fun g => g.2.covers c) = none := by
    refine List.find?_eq_none.2 fun g hg hcovers => ?_
    obtain ⟨r, hr, hin⟩ := List.any_eq_true.1 hcovers
    have hlow := le_combining g hg r hr
    have hcode := isAscii_iff.1 h
    simp only [Bool.and_eq_true, decide_eq_true_eq] at hin
    omega
  rw [combiningClass, hnone]
  rfl

theorem parts?_of_isAscii {c : Char} (h : isAscii c = true) : parts? c = none := by
  have hlow : ¬ hangul.syllables ≤ c.toNat :=
    Nat.not_le.2 (Nat.lt_of_lt_of_le (isAscii_iff.1 h) (by decide))
  have hhangul : hangul.parts? c.toNat = none := by simp [Hangul.parts?, hlow]
  rw [parts?, hhangul, Option.none_or, List.findSome?_eq_none_iff]
  intro p hp
  rw [Option.map_eq_none_iff, List.lookup_eq_none_iff]
  intro entry hentry
  have hmade := isAscii_of_mem_made p hp entry.1 (List.of_mem_zip hentry).1
  rw [bne_iff_ne]
  rintro rfl
  rw [h] at hmade
  cases hmade

theorem compose?_of_isAscii (a : Char) {b : Char} (h : isAscii b = true) : compose? a b = none := by
  have hcode := isAscii_iff.1 h
  have hmiddle : ¬ hangul.middles ≤ b.toNat :=
    Nat.not_le.2 (Nat.lt_of_lt_of_le hcode (by decide))
  have hlast : ¬ hangul.lasts < b.toNat :=
    Nat.not_lt.2 (Nat.le_trans (Nat.le_of_lt hcode) (by decide))
  have hhangul : hangul.compose? a.toNat b.toNat = none := by
    simp [Hangul.compose?, hmiddle, hlast]
  rw [compose?, hhangul, Option.none_or, List.findSome?_eq_none_iff]
  intro p hp
  have hadded := le_added p hp
  exact if_neg (by omega)

/-! So composing leaves a text of ASCII characters as it is. -/

theorem decomposed_of_isAscii {t : Text} (h : ∀ c ∈ t, isAscii c = true) : decomposed t = t := by
  induction t with
  | nil => rfl
  | cons c r ih =>
    rw [List.forall_mem_cons] at h
    have hrest : (r.flatMap (apart 3)).foldr insertMark [] = r := ih h.2
    rw [decomposed, List.flatMap_cons, apart, parts?_of_isAscii h.1, List.singleton_append,
      List.foldr_cons, hrest]
    cases r with
    | nil => rfl
    | cons d r => rw [insertMark, combiningClass_of_isAscii h.1, if_neg (by simp)]

theorem composeFrom_of_isAscii (k : Cluster) {t : Text} (h : ∀ c ∈ t, isAscii c = true) :
    composeFrom k t = k.toText ++ t := by
  induction t generalizing k with
  | nil => exact (List.append_nil _).symm
  | cons c r ih =>
    rw [List.forall_mem_cons] at h
    have hadd : k.add? c = none := by
      unfold Cluster.add?
      rw [compose?_of_isAscii _ h.1, combiningClass_of_isAscii h.1]
      simp
    rw [composeFrom, hadd]
    dsimp only
    rw [ih _ h.2]
    rfl

theorem composed_of_isAscii {t : Text} (h : ∀ c ∈ t, isAscii c = true) : composed t = t := by
  rw [composed, decomposed_of_isAscii h]
  cases t with
  | nil => rfl
  | cons c r => exact composeFrom_of_isAscii ⟨c, []⟩ fun d hd => h d (List.mem_cons_of_mem c hd)

/-! Nor does anything else that a domain goes through change such a text, but for its capitals. -/

theorem isAscii_lowered {t : Text} (h : ∀ c ∈ t, isAscii c = true) :
    ∀ c ∈ t.lowered, isAscii c = true :=
  List.forall_mem_map.2 fun c hc => isAscii_iff.2 (Text.toNat_toLower_lt (isAscii_iff.1 (h c hc)))

theorem mapM_eq_some_map {α β : Type} {f : α → Option β} {g : α → β} {l : List α}
    (h : ∀ a ∈ l, f a = some (g a)) : l.mapM f = some (l.map g) := by
  induction l with
  | nil => rfl
  | cons a l ih =>
    rw [List.forall_mem_cons] at h
    rw [List.mapM_cons, h.1, ih h.2]
    rfl

theorem isMirrored_of_isAscii {c : Char} (h : isAscii c = true) :
    (Direction.ofChar c).isMirrored = false := by
  rw [Direction.ofChar, if_pos (isAscii_iff.1 h)]
  split
  · rfl
  · split <;> rfl

theorem writtenLabel_of_isAscii {label : Text} (h : ∀ c ∈ label, isAscii c = true) :
    writtenLabel label = label := if_pos (List.all_eq_true.2 h)

theorem label?_of_isAscii {label : Text} (h : ∀ c ∈ label, isAscii c = true)
    (hmark : ¬ punycodeMark <+: label) : label? label = some label := by
  have hafter : label.after? punycodeMark = none :=
    if_neg fun hp => hmark (List.isPrefixOf_iff_prefix.1 hp)
  rw [label?, hafter]
  dsimp only
  rw [List.all_eq_true.2 h]
  rfl

theorem isAscii_of_mem_pieces {t label : Text} (h : ∀ c ∈ t, isAscii c = true)
    (hl : label ∈ Text.pieces '.' t) : ∀ c ∈ label, isAscii c = true := by
  rw [← Text.join_pieces '.' t] at h
  exact fun c hc => h c ((Text.infix_join hl).subset hc)

theorem labels?_of_isAscii {t : Text} (h : ∀ c ∈ t, isAscii c = true)
    (hallowed : t.lowered.any isForbidden = false)
    (hmark : ∀ label ∈ Text.pieces '.' t.lowered, ¬ punycodeMark <+: label) :
    labels? t = some (Text.pieces '.' t.lowered) := by
  have hlow := isAscii_lowered h
  have hmapped : t.mapM mapped? = some (t.map fun c => [c.toLower]) :=
    mapM_eq_some_map fun c hc => if_pos (isAscii_iff.1 (h c hc))
  have hflat : (t.map fun c => [c.toLower]).flatten = t.lowered := List.flatMap_pure_eq_map _ t
  have hlabels : (Text.pieces '.' t.lowered).mapM label? =
      some ((Text.pieces '.' t.lowered).map id) :=
    mapM_eq_some_map fun label hl =>
      label?_of_isAscii (isAscii_of_mem_pieces hlow hl) (hmark label hl)
  have hdirections : ((Text.pieces '.' t.lowered).any fun label =>
      label.any fun c => (Direction.ofChar c).isMirrored) = false :=
    List.any_eq_false.2 fun label hl => Bool.eq_false_iff.1 <|
      List.any_eq_false.2 fun c hc => Bool.eq_false_iff.1 <|
        isMirrored_of_isAscii (isAscii_of_mem_pieces hlow hl c hc)
  unfold labels?
  rw [hmapped]
  dsimp only [bind, Option.bind]
  rw [hflat, composed_of_isAscii hlow, hallowed, hlabels]
  dsimp only
  rw [List.map_id, hdirections]
  rfl

theorem written?_of_isAscii {t : Text} (h : ∀ c ∈ t, isAscii c = true)
    (hallowed : t.lowered.any isForbidden = false)
    (hmark : ∀ label ∈ Text.pieces '.' t.lowered, ¬ punycodeMark <+: label) :
    written? t = some t.lowered := by
  have hwritten : (Text.pieces '.' t.lowered).map writtenLabel =
      (Text.pieces '.' t.lowered).map id :=
    List.map_congr_left fun label hl =>
      writtenLabel_of_isAscii (isAscii_of_mem_pieces (isAscii_lowered h) hl)
  rw [written?, labels?_of_isAscii h hallowed hmark, Option.map_some, hwritten, List.map_id,
    Text.join_pieces]

end Domain

namespace Url

theorem decodeBytes_of_not_mem {t : Text} (h : '%' ∉ t) : decodeBytes t = t.utf8.toList := by
  induction t with
  | nil => rw [decodeBytes, Text.toList_utf8_nil]
  | cons c r ih =>
    rw [List.mem_cons, not_or] at h
    have hc : decodeBytes (c :: r) = (Text.utf8 [c]).toList ++ decodeBytes r := by
      rw [decodeBytes]
      rintro a b r' rfl
      exact absurd rfl h.1
    rw [hc, ih h.2, ← Text.toList_utf8_append, List.singleton_append]

/-- A host of ASCII characters that are allowed, no label of which starts like a punycode and which
is no number, is a name in lower case. -/
theorem readSpecial_of_isAscii {t : Text} (h : ∀ c ∈ t, Domain.isAscii c = true)
    (hallowed : t.lowered.any Domain.isForbidden = false)
    (hmark : ∀ label ∈ Text.pieces '.' t.lowered, ¬ Domain.punycodeMark <+: label)
    (hne : t ≠ []) (hname : endsInNumber t.lowered = false) :
    Host.readSpecial t = .ok (.name t.lowered) := by
  have hchar {c : Char} (hc : Domain.isForbidden c.toLower = true) : c ∉ t :=
    fun hmem => List.any_eq_false.1 hallowed _ (List.mem_map_of_mem hmem) hc
  have hbracket : t.head? ≠ some '[' := fun hb => hchar (by decide) (List.mem_of_mem_head? hb)
  have hbytes : Text.ofUtf8? ⟨(decodeBytes t).toArray⟩ = some t := by
    rw [decodeBytes_of_not_mem (hchar (by decide)), Text.mk_toList, Text.ofUtf8?_utf8]
  have hlowered : t.lowered.isEmpty = false := by
    rw [Text.lowered, List.isEmpty_map]
    exact List.isEmpty_eq_false_iff.2 hne
  unfold Host.readSpecial
  rw [if_neg hbracket, hbytes, Option.bind_some, Domain.written?_of_isAscii h hallowed hmark]
  dsimp only
  rw [hlowered, hname]
  rfl

end Url
end C4Diagram
