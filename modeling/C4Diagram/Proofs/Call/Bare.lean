import C4Diagram.Proofs.Call.ReadBack

/-! Values that stand in an argument list without quotes around them. Such a value is read back iff
it has no comma outside quotes, closes its quotes and is not one quoted value. That this is
necessary takes an argument on lengths: a text that is torn apart at a comma could still come back
from arguments further behind, but those would have to be longer than the list is. -/

namespace C4Diagram

/-- May stand in an argument list without quotes around it. -/
structure IsBare (value : Text) : Prop where
  sealed : Sealed ',' value
  unquoted : unquote value = value

/-- The aliases that an edit gives to elements need no quotes. -/
theorem isBare_of_isIdentifier {t : Text} (h : isIdentifier t = true) : IsBare t :=
  ⟨(isValue_of_isIdentifier h).sealed, unquote_of_isIdentifier h⟩

theorem IsBare.isValue {value : Text} (h : IsBare value) (ht : value.IsTrimmed) (hne : value ≠ []) :
    IsValue value where
  sealed := h.sealed
  last := by
    have hlast := List.getLast?_eq_some_getLast hne
    exact ⟨_, hlast, ht.last hlast⟩

/-! Pieces of a text that is put together. -/

/-- Where the quotes are closed, a separator ends a piece. -/
theorem unquotedPieces_append_of_closed {sep : Char} (hsep : sep ≠ '"') {q : Bool} {s : Text}
    (hq : quotedAfter q s = false) (t : Text) :
    unquotedPieces sep q (s ++ sep :: t) =
      unquotedPieces sep q s ++ unquotedPieces sep false t := by
  induction s generalizing q with
  | nil =>
    have hq : q = false := hq
    subst hq
    simp [unquotedPieces]
  | cons c s ih =>
    have hrest := ih (q := q ^^ (c == '"')) hq
    rw [List.cons_append, unquotedPieces, unquotedPieces]
    split
    · next hc =>
      obtain ⟨rfl, rfl⟩ := hc
      have hc : (c == '"') = false := by simpa using hsep
      rw [hc, Bool.xor_false] at hrest
      rw [hrest, List.cons_append]
    · obtain ⟨p, ps, hp⟩ := List.exists_cons_of_ne_nil (unquotedPieces_ne_nil sep (q ^^ (c == '"')) s)
      rw [hrest, hp]
      rfl

/-- Only at the end of the list is an empty argument dropped. -/
theorem splitArguments_append {s : Text} (hq : quotedAfter false s = false) (t : Text) :
    splitArguments (s ++ ',' :: t) =
      (unquotedPieces ',' false s).map Text.trim ++ splitArguments t := by
  have hne : (unquotedPieces ',' false t).map Text.trim ≠ [] := by
    simpa using unquotedPieces_ne_nil ',' false t
  unfold splitArguments
  simp only [unquotedPieces_append_of_closed (show ',' ≠ '"' by decide) hq t, List.map_append,
    List.getLast?_append_of_ne_nil _ hne]
  split
  · exact List.dropLast_append_of_ne_nil hne
  · rfl

/-- A stretch that starts the first piece is in one piece. -/
theorem unsplit_of_head_piece {sep : Char} {q : Bool} {s t p : Text} {ps : List Text}
    (h : unquotedPieces sep q (s ++ t) = (s ++ p) :: ps) : Unsplit sep q s := by
  induction s generalizing q with
  | nil => trivial
  | cons c s ih =>
    rw [List.cons_append, unquotedPieces] at h
    split at h
    · cases h
    · next hc =>
      obtain ⟨p', ps', hp⟩ :=
        List.exists_cons_of_ne_nil (unquotedPieces_ne_nil sep (q ^^ (c == '"')) (s ++ t))
      rw [hp] at h
      cases h
      exact ⟨hc, ih hp⟩

/-- A stretch that is the first piece ends outside quotes. -/
theorem closed_of_head_piece {sep : Char} {q : Bool} {s t : Text} {ps : List Text}
    (h : unquotedPieces sep q (s ++ sep :: t) = s :: ps) : quotedAfter q s = false := by
  have hs : Unsplit sep q s := unsplit_of_head_piece (p := []) (by rw [h, List.append_nil])
  rw [unquotedPieces_append_unsplit hs] at h
  by_contra hq
  obtain ⟨p, ps', hp⟩ := List.exists_cons_of_ne_nil (unquotedPieces_ne_nil sep (true ^^ (sep == '"')) t)
  rw [Bool.not_eq_false] at hq
  rw [hq, unquotedPieces, if_neg (by simp), hp, List.modifyHead_cons, List.cons.injEq] at h
  simpa using congrArg List.length h.1

/-! Lengths. -/

/-- What the pieces take up of the text that they came from, each with a separator. -/
def spread (ps : List Text) : Nat := ps.flatten.length + ps.length

theorem spread_nil : spread [] = 0 := rfl

theorem spread_cons (p : Text) (ps : List Text) : spread (p :: ps) = p.length + 1 + spread ps := by
  unfold spread
  rw [List.flatten_cons, List.length_append, List.length_cons]
  omega

theorem spread_unquotedPieces (sep : Char) (q : Bool) (t : Text) :
    spread (unquotedPieces sep q t) = t.length + 1 := by
  induction t generalizing q with
  | nil => rfl
  | cons c r ih =>
    rw [unquotedPieces]
    split
    · rw [spread_cons, ih, List.length_nil, List.length_cons]
      omega
    · have hrest := ih (q ^^ (c == '"'))
      obtain ⟨p, ps, hp⟩ := List.exists_cons_of_ne_nil (unquotedPieces_ne_nil sep (q ^^ (c == '"')) r)
      rw [hp, spread_cons] at hrest
      rw [hp, spread_cons, List.length_cons, List.length_cons]
      omega

theorem length_dropLeading_le (c : Char) (t : Text) : (t.dropLeading c).length ≤ t.length := by
  cases t with
  | nil => rfl
  | cons d r =>
    rw [Text.dropLeading]
    split <;> simp

theorem length_beforeLast?_lt {c : Char} {t before : Text} (h : t.beforeLast? c = some before) :
    before.length < t.length := by
  rcases t.eq_nil_or_concat with rfl | ⟨r, d, rfl⟩
  · cases h
  · rw [List.concat_eq_append, Text.beforeLast?_concat] at h
    split at h
    · cases h
      simp
    · cases h

theorem length_unquote_le (t : Text) : (unquote t).length ≤ t.length := by
  have htrim := (Text.trim_isInfix t).length_le
  unfold unquote
  split
  · next r hr =>
    rw [hr, List.length_cons] at htrim
    cases hb : Text.beforeLast? '"' r with
    | none => simpa using htrim
    | some before =>
      have := length_beforeLast?_lt hb
      rw [Option.getD_some]
      omega
  · exact htrim

/-- A named argument is at least as long as its name, an equals sign and its value. -/
theorem length_of_read_named {written key value : Text}
    (h : Argument.read written = .named key value) :
    key ≠ [] ∧ key.length + value.length + 1 ≤ written.length := by
  unfold Argument.read at h
  split at h
  · next name rest hsplit =>
    split at h
    · next hname =>
      cases h
      have hne := ne_nil_of_isIdentifier hname
      refine ⟨by simpa [argumentKey] using hne, ?_⟩
      have hkey := (length_dropLeading_le '$' name.trim).trans (Text.trim_isInfix name).length_le
      have hvalue := length_unquote_le rest
      rw [eq_of_splitUnquoted? hsplit, List.length_append, List.length_cons, argumentKey,
        List.length_map]
      omega
    · cases h
  · cases h

theorem length_of_read_trim {written key value : Text}
    (h : Argument.read written.trim = .named key value) :
    key ≠ [] ∧ key.length + value.length + 1 ≤ written.length := by
  obtain ⟨hne, hle⟩ := length_of_read_named h
  exact ⟨hne, hle.trans (Text.trim_isInfix written).length_le⟩

theorem exists_others {ws : List Text} {x : Text} (hx : x ∈ ws) :
    ∃ others, ws.Perm (x :: others) ∧ spread ws = x.length + 1 + spread others := by
  have hperm := List.perm_cons_erase hx
  refine ⟨ws.erase x, hperm, ?_⟩
  rw [← spread_cons]
  unfold spread
  rw [hperm.flatten.length_eq, hperm.length_eq]

/-! Two values in a row. -/

section TwoValues

/- The pieces of a bare value with a named one behind it. All but the first are named arguments, and
one of them gives the second value. -/
variable {a b name key w : Text} {ws : List Text}
  (hpieces : unquotedPieces ',' false (a ++ ',' :: ' ' :: namedArgument ('$' :: name) b) = w :: ws)
  (hnamed : ∀ x ∈ ws, ∃ k v, Argument.read x.trim = .named k v) (hkey : key.length = name.length)
  (hb : ∃ x ∈ ws, Argument.read x.trim = .named key b)

include hpieces

theorem spread_pieces :
    w.length + spread ws = a.length + name.length + b.length + 4 := by
  have hspread := spread_unquotedPieces ',' false (a ++ ',' :: ' ' :: namedArgument ('$' :: name) b)
  rw [hpieces, spread_cons] at hspread
  simp only [namedArgument, List.length_append, List.length_cons] at hspread
  omega

include hkey hb

/-- There is no room for the first value behind the first piece. -/
theorem length_le_of_reads
    (ha : a.length ≤ w.length ∨
      ∃ x ∈ ws, ∃ other, other ≠ key ∧ Argument.read x.trim = .named other a) :
    a.length ≤ w.length := by
  rcases ha with ha | ⟨y, hy, other, hother, hya⟩
  · exact ha
  · exfalso
    obtain ⟨x, hx, hxb⟩ := hb
    have hyx : y ≠ x := by
      rintro rfl
      rw [hxb] at hya
      cases hya
      exact hother rfl
    have hspread := spread_pieces hpieces
    obtain ⟨others, hperm, hx'⟩ := exists_others hx
    obtain ⟨_, -, hy'⟩ := exists_others ((List.mem_cons.1 (hperm.subset hy)).resolve_left hyx)
    have hxlen := (length_of_read_trim hxb).2
    obtain ⟨hne, hylen⟩ := length_of_read_trim hya
    have hpos := List.length_pos_of_ne_nil hne
    omega

include hnamed

theorem exists_second_piece (ha : a.length ≤ w.length) : ∃ x, ws = [x] ∧
    w.length + x.length = a.length + name.length + b.length + 3 ∧
    name.length + b.length + 1 ≤ x.length := by
  obtain ⟨x, hx, hxb⟩ := hb
  have hspread := spread_pieces hpieces
  obtain ⟨others, hperm, hx'⟩ := exists_others hx
  have hxlen := (length_of_read_trim hxb).2
  rw [hkey] at hxlen
  have hothers : others = [] := by
    refine List.eq_nil_iff_forall_not_mem.2 fun o ho => ?_
    obtain ⟨k, v, hread⟩ := hnamed o (hperm.mem_iff.2 (List.mem_cons_of_mem _ ho))
    obtain ⟨hne, holen⟩ := length_of_read_trim hread
    have hpos := List.length_pos_of_ne_nil hne
    obtain ⟨_, -, ho'⟩ := exists_others ho
    omega
  subst hothers
  rw [spread_nil] at hx'
  exact ⟨x, List.perm_singleton.1 hperm, by omega, hxlen⟩

/-- The comma between the values is the only one that separates. -/
theorem pieces_of_reads
    (ha : a.length ≤ w.length ∨
      ∃ x ∈ ws, ∃ other, other ≠ key ∧ Argument.read x.trim = .named other a) :
    w = a ∧ ws = [' ' :: namedArgument ('$' :: name) b] := by
  have hle := length_le_of_reads hpieces hkey hb ha
  obtain ⟨x, rfl, hlen, hx⟩ := exists_second_piece hpieces hnamed hkey hb hle
  have hjoin := join_unquotedPieces ',' false (a ++ ',' :: ' ' :: namedArgument ('$' :: name) b)
  rw [hpieces, Text.join_cons _ _ (List.cons_ne_nil _ _), Text.join, List.append_assoc,
    List.singleton_append] at hjoin
  rcases List.append_eq_append_iff.1 hjoin with ⟨as, rfl, hrest⟩ | ⟨bs, rfl, hrest⟩
  · obtain rfl : as = [] := by
      rw [List.length_append] at hle
      exact List.eq_nil_of_length_eq_zero (by omega)
    rw [List.nil_append, List.cons.injEq] at hrest
    exact ⟨(List.append_nil _).symm, congrArg (fun y => [y]) hrest.2⟩
  · rw [List.length_append] at hlen
    -- a comma two or three characters further on would be the blank or the dollar sign
    rcases bs with _ | ⟨c, _ | ⟨d, _ | ⟨e, bs⟩⟩⟩
    · rw [List.nil_append, List.cons.injEq] at hrest
      exact ⟨List.append_nil _, congrArg (fun y => [y]) hrest.2.symm⟩
    · simp [namedArgument] at hrest
    · simp [namedArgument] at hrest
    · simp only [List.length_cons] at hlen
      omega

end TwoValues

end C4Diagram
