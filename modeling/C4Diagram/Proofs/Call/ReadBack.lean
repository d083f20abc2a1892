import C4Diagram.Call.Arguments
import C4Diagram.Edit.Quoted
import C4Diagram.Proofs.Text.Trim

/-! Reading back an argument list that was printed by name. A value without a double quote stays
inside its own quotes whatever else it holds, so commas and equals signs in it separate nothing.
-/

namespace C4Diagram

/-! Quotes. -/

def quotedAfter (quoted : Bool) (t : Text) : Bool := t.foldl (fun q c => q ^^ (c == '"')) quoted

def Unsplit (sep : Char) (quoted : Bool) : Text → Prop
  | [] => True
  | c :: r => ¬ (c = sep ∧ quoted = false) ∧ Unsplit sep (quoted ^^ (c == '"')) r

/-- A stretch that holds no `sep` outside quotes and closes every quote it opens. -/
structure Sealed (sep : Char) (t : Text) : Prop where
  unsplit : Unsplit sep false t
  closed : quotedAfter false t = false

theorem quotedAfter_append (q : Bool) (s t : Text) :
    quotedAfter q (s ++ t) = quotedAfter (quotedAfter q s) t :=
  List.foldl_append

theorem unsplit_append {sep : Char} {q : Bool} {s t : Text} :
    Unsplit sep q (s ++ t) ↔ Unsplit sep q s ∧ Unsplit sep (quotedAfter q s) t := by
  induction s generalizing q with
  | nil => simp [Unsplit, quotedAfter]
  | cons c s ih =>
    rw [List.cons_append, Unsplit, Unsplit, ih, and_assoc]
    rfl

theorem sealed_append {sep : Char} {s t : Text} (hs : Sealed sep s) (ht : Sealed sep t) :
    Sealed sep (s ++ t) where
  unsplit := unsplit_append.2 ⟨hs.unsplit, by rw [hs.closed]; exact ht.unsplit⟩
  closed := by rw [quotedAfter_append, hs.closed, ht.closed]

theorem quotedAfter_of_quoteFree {q : Bool} {t : Text} (h : '"' ∉ t) : quotedAfter q t = q := by
  induction t generalizing q with
  | nil => rfl
  | cons c r ih =>
    rw [List.mem_cons, not_or] at h
    have hc : (c == '"') = false := by simpa using Ne.symm h.1
    change quotedAfter (q ^^ (c == '"')) r = q
    rw [hc, Bool.xor_false, ih h.2]

theorem unsplit_of_not_mem {sep : Char} {q : Bool} {t : Text} (h : sep ∉ t) : Unsplit sep q t := by
  induction t generalizing q with
  | nil => trivial
  | cons c r ih =>
    rw [List.mem_cons, not_or] at h
    exact ⟨fun hc => h.1 hc.1.symm, ih h.2⟩

theorem unsplit_quoted {sep : Char} {t : Text} (h : '"' ∉ t) : Unsplit sep true t := by
  induction t with
  | nil => trivial
  | cons c r ih =>
    rw [List.mem_cons, not_or] at h
    have hc : (c == '"') = false := by simpa using Ne.symm h.1
    refine ⟨by simp, ?_⟩
    rw [hc]
    exact ih h.2

theorem sealed_of_not_mem {sep : Char} {t : Text} (hsep : sep ∉ t) (hquote : '"' ∉ t) :
    Sealed sep t :=
  ⟨unsplit_of_not_mem hsep, quotedAfter_of_quoteFree hquote⟩

theorem sealed_quoted {sep : Char} {t : Text} (hsep : sep ≠ '"') (h : '"' ∉ t) :
    Sealed sep ('"' :: t ++ ['"']) where
  unsplit := by
    refine ⟨fun hc => hsep hc.1.symm, unsplit_append.2 ⟨unsplit_quoted h, ?_⟩⟩
    rw [show (false ^^ ('"' == '"')) = true from rfl, quotedAfter_of_quoteFree h]
    exact ⟨by simp, trivial⟩
  closed := by
    rw [List.cons_append,
      show quotedAfter false ('"' :: (t ++ ['"'])) = quotedAfter true (t ++ ['"']) from rfl,
      quotedAfter_append, quotedAfter_of_quoteFree h]
    rfl

/-- A stretch without a separator outside quotes goes to the first piece of what follows it. -/
theorem unquotedPieces_append_unsplit {sep : Char} {q : Bool} {s : Text} (hs : Unsplit sep q s)
    (t : Text) : unquotedPieces sep q (s ++ t) =
      (unquotedPieces sep (quotedAfter q s) t).modifyHead (s ++ ·) := by
  induction s generalizing q with
  | nil =>
    obtain ⟨p, ps, hp⟩ := List.exists_cons_of_ne_nil (unquotedPieces_ne_nil sep q t)
    change unquotedPieces sep q t = (unquotedPieces sep q t).modifyHead ([] ++ ·)
    rw [hp]
    rfl
  | cons c s ih =>
    obtain ⟨p, ps, hp⟩ := List.exists_cons_of_ne_nil
      (unquotedPieces_ne_nil sep (quotedAfter (q ^^ (c == '"')) s) t)
    have hrest := ih hs.2
    rw [hp] at hrest
    rw [List.cons_append, unquotedPieces, if_neg hs.1, hrest]
    change _ = (unquotedPieces sep (quotedAfter (q ^^ (c == '"')) s) t).modifyHead (c :: s ++ ·)
    rw [hp]
    rfl

theorem unquotedPieces_of_unsplit {sep : Char} {q : Bool} {t : Text} (h : Unsplit sep q t) :
    unquotedPieces sep q t = [t] := by
  induction t generalizing q with
  | nil => rfl
  | cons c r ih => rw [unquotedPieces, if_neg h.1, ih h.2]

/-- The first separator outside quotes ends the first piece. -/
theorem unquotedPieces_append {sep : Char} {q : Bool} {s : Text} (hs : Unsplit sep q s)
    (hq : quotedAfter q s = false)
    (t : Text) : unquotedPieces sep q (s ++ sep :: t) = s :: unquotedPieces sep false t := by
  rw [unquotedPieces_append_unsplit hs, hq, unquotedPieces, if_pos ⟨rfl, rfl⟩, List.modifyHead_cons,
    List.append_nil]

theorem splitUnquoted?_of_unsplit {sep : Char} {q : Bool} {t : Text} (h : Unsplit sep q t) :
    splitUnquoted? sep q t = none := by
  induction t generalizing q with
  | nil => rfl
  | cons c r ih => rw [splitUnquoted?, if_neg h.1, ih h.2, Option.map_none]

theorem splitUnquoted?_append {sep : Char} {q : Bool} {s : Text} (hs : Unsplit sep q s)
    (hq : quotedAfter q s = false)
    (t : Text) : splitUnquoted? sep q (s ++ sep :: t) = some (s, t) := by
  induction s generalizing q with
  | nil =>
    have hq : q = false := hq
    subst hq
    simp [splitUnquoted?]
  | cons c s ih =>
    have hrest := ih hs.2 hq
    rw [List.cons_append, splitUnquoted?, if_neg hs.1, hrest]
    rfl

/-! Identifiers hold none of the characters that mean something in an argument list. -/

theorem isIdentifierChar_toNat {c : Char} (h : isIdentifierChar c = true) :
    48 ≤ c.toNat ∧ c.toNat ≤ 122 := by
  unfold isIdentifierChar Char.isAlphanum Char.isAlpha Char.isUpper Char.isLower Char.isDigit at h
  simp only [Bool.or_eq_true, Bool.and_eq_true, decide_eq_true_eq, beq_iff_eq, ge_iff_le,
    UInt32.le_iff_toNat_le] at h
  rcases h with ((h | h) | h) | rfl
  · exact ⟨le_trans (by decide) h.1, le_trans h.2 (by decide)⟩
  · exact ⟨le_trans (by decide) h.1, le_trans h.2 (by decide)⟩
  · exact ⟨le_trans (by decide) h.1, le_trans h.2 (by decide)⟩
  · decide

theorem isBlank_of_isIdentifierChar {c : Char} (h : isIdentifierChar c = true) :
    isBlank c = false := by
  obtain ⟨hlo, hhi⟩ := isIdentifierChar_toNat h
  simp only [isBlank, Bool.or_eq_false_iff, Bool.and_eq_false_iff, decide_eq_false_iff_not,
    beq_eq_false_iff_ne]
  omega

theorem not_mem_of_isIdentifier {t : Text} (h : isIdentifier t = true) {c : Char}
    (hc : isIdentifierChar c = false) : c ∉ t := by
  intro hmem
  have := List.all_eq_true.1 (all_isIdentifierChar h) c hmem
  rw [hc] at this
  cases this

theorem isTrimmed_of_isIdentifier {t : Text} (h : isIdentifier t = true) : t.IsTrimmed where
  first hc := isBlank_of_isIdentifierChar
    (List.all_eq_true.1 (all_isIdentifierChar h) _ (List.mem_of_mem_head? hc))
  last hc := isBlank_of_isIdentifierChar
    (List.all_eq_true.1 (all_isIdentifierChar h) _ (List.mem_of_getLast? hc))

theorem ne_nil_of_isIdentifier {t : Text} (h : isIdentifier t = true) : t ≠ [] := by
  rintro rfl
  cases h

/-! Printed values. -/

/-- The value may stand behind the equals sign of an argument: it splits nothing and ends in no
blank. -/
structure IsValue (value : Text) : Prop where
  sealed : Sealed ',' value
  last : ∃ c, value.getLast? = some c ∧ isBlank c = false

def withBackslashesDoubled (t : Text) : Text :=
  t.flatMap fun c => if c = '\\' then ['\\', c] else [c]

theorem withBackslashesDoubled_ne_nil {t : Text} (h : t ≠ []) : withBackslashesDoubled t ≠ [] := by
  obtain ⟨c, r, rfl⟩ := List.exists_cons_of_ne_nil h
  unfold withBackslashesDoubled
  rw [List.flatMap_cons]
  split <;> simp

theorem escaped_of_quoteFree {value : Text} (h : '"' ∉ value) :
    escaped value = withBackslashesDoubled value := by
  induction value with
  | nil => rfl
  | cons c r ih =>
    rw [List.mem_cons, not_or] at h
    have hr := ih h.2
    unfold escaped withBackslashesDoubled at hr ⊢
    rw [List.flatMap_cons, List.flatMap_cons, hr]
    simp [Ne.symm h.1]

theorem quote_not_mem_escaped {value : Text} (h : '"' ∉ value) : '"' ∉ escaped value := by
  unfold escaped
  rw [List.mem_flatMap]
  rintro ⟨c, hc, hq⟩
  have hne : c ≠ '"' := fun he => h (he ▸ hc)
  split at hq
  · simp [Ne.symm hne] at hq
  · simp [Ne.symm hne] at hq

theorem getLast?_quote (value : Text) : (quote value).getLast? = some '"' := List.getLast?_concat

theorem isValue_quote {value : Text} (h : '"' ∉ value) : IsValue (quote value) where
  sealed := sealed_quoted (by decide) (quote_not_mem_escaped h)
  last := ⟨'"', getLast?_quote value, rfl⟩

theorem isValue_of_isIdentifier {t : Text} (h : isIdentifier t = true) : IsValue t where
  sealed := sealed_of_not_mem (not_mem_of_isIdentifier h rfl) (not_mem_of_isIdentifier h rfl)
  last := by
    have hne := ne_nil_of_isIdentifier h
    exact ⟨t.getLast hne, List.getLast?_eq_some_getLast hne,
      (isTrimmed_of_isIdentifier h).last (List.getLast?_eq_some_getLast hne)⟩

theorem isTrimmed_quoted (value : Text) : Text.IsTrimmed ('"' :: value ++ ['"']) := by
  refine ⟨fun {c} hc => ?_, fun {c} hc => ?_⟩
  · cases hc
    rfl
  · rw [List.getLast?_concat] at hc
    cases hc
    rfl

theorem unquote_quoted (value : Text) : unquote ('"' :: value ++ ['"']) = value := by
  unfold unquote
  rw [Text.trim_eq_of_isTrimmed (isTrimmed_quoted value), List.cons_append]
  simp only [Text.beforeLast?_concat, if_true, Option.getD_some]

/-- A quoted value is read with its escapes left in. -/
theorem unquote_quote (value : Text) : unquote (quote value) = escaped value :=
  unquote_quoted (escaped value)

theorem unquote_of_isIdentifier {t : Text} (h : isIdentifier t = true) : unquote t = t := by
  have hquote := not_mem_of_isIdentifier (c := '"') h rfl
  unfold unquote
  rw [Text.trim_eq_of_isTrimmed (isTrimmed_of_isIdentifier h)]
  split
  · simp at hquote
  · rfl

/-! Printed arguments. Their names are written with a dollar sign. -/

theorem argument_eq (key value : Text) :
    namedArgument ('$' :: key) value = ('$' :: key) ++ '=' :: value := rfl

theorem sealed_name {key : Text} {sep : Char} (h : isIdentifier key = true) (hd : sep ≠ '$')
    (hsep : isIdentifierChar sep = false) : Sealed sep ('$' :: key) := by
  apply sealed_of_not_mem
  · exact List.not_mem_cons_of_ne_of_not_mem hd (not_mem_of_isIdentifier h hsep)
  · exact List.not_mem_cons_of_ne_of_not_mem (by decide) (not_mem_of_isIdentifier h rfl)

theorem sealed_namedArgument {key value : Text} (hkey : isIdentifier key = true)
    (hvalue : IsValue value) : Sealed ',' (namedArgument ('$' :: key) value) := by
  apply sealed_append (sealed_name hkey (by decide) rfl)
  exact sealed_append (s := ['=']) (sealed_of_not_mem (by decide) (by decide)) hvalue.sealed

theorem isTrimmed_namedArgument {key value : Text} (hvalue : IsValue value) :
    Text.IsTrimmed (namedArgument ('$' :: key) value) := by
  have := Text.isTrimmed_append (s := '$' :: key) (m := ['=']) ⟨'$', rfl, rfl⟩ hvalue.last
  rwa [List.append_assoc] at this

/-- What stands in front of the first equals sign outside quotes is the name. -/
theorem read_append_sign {name : Text} (h : Sealed '=' name)
    (hname : isIdentifier (name.trim.dropLeading '$') = true) (value : Text) :
    Argument.read (name ++ '=' :: value) = .named (argumentKey name) (unquote value) := by
  unfold Argument.read
  rw [splitUnquoted?_append h.unsplit h.closed]
  exact if_pos hname

theorem isTrimmed_dollar {key : Text} (hkey : isIdentifier key = true) :
    Text.IsTrimmed ('$' :: key) := by
  refine ⟨fun {c} hc => ?_, fun {c} hc => ?_⟩
  · cases hc
    rfl
  · rw [List.getLast?_cons_of_ne_nil (ne_nil_of_isIdentifier hkey)] at hc
    exact (isTrimmed_of_isIdentifier hkey).last hc

theorem read_namedArgument {key : Text} (hkey : isIdentifier key = true) (value : Text) :
    Argument.read (namedArgument ('$' :: key) value) =
      .named (key.map lowerLetter) (unquote value) := by
  have htrim := Text.trim_eq_of_isTrimmed (isTrimmed_dollar hkey)
  have hdrop : Text.dropLeading '$' ('$' :: key) = key := rfl
  rw [argument_eq, read_append_sign (sealed_name hkey (by decide) rfl) (by rwa [htrim, hdrop]),
    argumentKey, htrim, hdrop]

/-- A named argument with anything behind its equals sign, trimmed as a whole. -/
theorem read_trim_namedArgument {key : Text} (hkey : isIdentifier key = true) (value : Text) :
    Argument.read (Text.trim (namedArgument ('$' :: key) value)) =
      .named (key.map lowerLetter) (unquote value.trimEnd) := by
  have hstart : Text.IsTrimmed ('$' :: key ++ ['=']) := by
    refine ⟨fun {c} hc => ?_, fun {c} hc => ?_⟩
    · cases hc
      rfl
    · rw [List.getLast?_concat] at hc
      cases hc
      rfl
  have htrim := Text.trim_append_of_isTrimmed hstart (by simp) value
  rw [List.append_assoc, List.append_assoc] at htrim
  rw [argument_eq, ← read_namedArgument hkey]
  exact congrArg Argument.read htrim

/-! Printed argument lists. -/

theorem unquotedPieces_join {a : Text} {as : List Text} (h : ∀ b ∈ a :: as, Sealed ',' b) :
    unquotedPieces ',' false (Text.join [','] (a :: as)) = a :: as := by
  induction as generalizing a with
  | nil => exact unquotedPieces_of_unsplit (h a List.mem_cons_self).unsplit
  | cons b bs ih =>
    have ha := h a List.mem_cons_self
    rw [Text.join_cons _ _ (List.cons_ne_nil b bs), List.append_assoc, List.singleton_append,
      unquotedPieces_append ha.unsplit ha.closed, ih fun c hc => h c (List.mem_cons_of_mem _ hc)]

/-- Arguments that are not blank are all kept, without the blanks around them. -/
theorem splitArguments_join {as : List Text} (h : ∀ a ∈ as, Sealed ',' a ∧ a.trim ≠ []) :
    splitArguments (Text.join [','] as) = as.map Text.trim := by
  cases as with
  | nil => rfl
  | cons a as =>
    unfold splitArguments
    simp only [unquotedPieces_join fun b hb => (h b hb).1]
    refine if_neg fun hlast => ?_
    obtain ⟨b, hb, hnil⟩ := List.mem_map.1 (List.mem_of_getLast? hlast)
    exact (h b hb).2 hnil

theorem join_spaced (a : Text) (as : List Text) :
    Text.join ", ".toList (a :: as) = Text.join [','] (a :: as.map (' ' :: ·)) := by
  induction as generalizing a with
  | nil => rfl
  | cons b bs ih =>
    rw [Text.join_cons _ _ (by simp), ih, List.map_cons, Text.join_cons [','] a (by simp)]
    cases bs <;> simp [Text.join]

theorem splitArguments_spaced {as : List Text}
    (h : ∀ a ∈ as, Sealed ',' a ∧ a.IsTrimmed ∧ a ≠ []) :
    splitArguments (Text.join ", ".toList as) = as := by
  cases as with
  | nil => rfl
  | cons a as =>
    have htrim : ∀ b ∈ a :: as, b.trim = b := fun b hb => Text.trim_eq_of_isTrimmed (h b hb).2.1
    have htail : ∀ b ∈ as, Text.trim (' ' :: b) = b := fun b hb => by
      rw [Text.trim_cons_blank (by decide), htrim b (List.mem_cons_of_mem _ hb)]
    rw [join_spaced, splitArguments_join, List.map_cons, List.map_map, htrim a List.mem_cons_self]
    · refine congrArg (a :: ·) ?_
      conv_rhs => rw [← List.map_id as]
      exact List.map_congr_left htail
    · intro b hb
      rcases List.mem_cons.1 hb with rfl | hb
      · obtain ⟨hsealed, -, hne⟩ := h b List.mem_cons_self
        exact ⟨hsealed, by rwa [htrim b List.mem_cons_self]⟩
      · obtain ⟨c, hc, rfl⟩ := List.mem_map.1 hb
        obtain ⟨hsealed, -, hne⟩ := h c (List.mem_cons_of_mem _ hc)
        have hblank : Sealed ',' [' '] := sealed_of_not_mem (by decide) (by decide)
        exact ⟨sealed_append hblank hsealed, by rwa [htail c hc]⟩

/-- A list that was printed by name has no positional arguments, and each value under its own
name. -/
theorem read_join_namedArgument {ps : List (Text × Text)}
    (h : ∀ p ∈ ps, isIdentifier p.1 = true ∧ IsValue p.2) :
    Arguments.read (Text.join ", ".toList (ps.map fun p => namedArgument ('$' :: p.1) p.2)) =
      ⟨[], ps.map fun p => (p.1.map lowerLetter, unquote p.2)⟩ := by
  have hsplit : splitArguments
      (Text.join ", ".toList (ps.map fun p => namedArgument ('$' :: p.1) p.2)) =
      ps.map fun p => namedArgument ('$' :: p.1) p.2 := by
    refine splitArguments_spaced fun a ha => ?_
    obtain ⟨p, hp, rfl⟩ := List.mem_map.1 ha
    exact ⟨sealed_namedArgument (h p hp).1 (h p hp).2, isTrimmed_namedArgument (h p hp).2,
      by simp [namedArgument]⟩
  have hread : (ps.map fun p => namedArgument ('$' :: p.1) p.2).map Argument.read =
      ps.map fun p => Argument.named (p.1.map lowerLetter) (unquote p.2) := by
    rw [List.map_map]
    exact List.map_congr_left fun p hp => read_namedArgument (h p hp).1 p.2
  unfold Arguments.read Arguments.ofList
  rw [hsplit, hread, List.filterMap_map, List.filterMap_map]
  congr 1
  · exact List.filterMap_eq_nil_iff.2 fun p _ => rfl
  · exact congrFun List.filterMap_eq_map ps

end C4Diagram
