import C4Diagram.Proofs.Call.Shape

/-! What a line means, told by a grammar, and which blanks around a line make a difference. The
reader works from both ends of the line; a line can still be cut into the parts of a call in one way
only, since what stands behind the closing parenthesis holds no other parenthesis. -/

namespace C4Diagram

/-! The grammar. -/

structure CallParts where
  indent : Text
  name : Text
  gap : Text
  raw : Text
  tail : Text

namespace CallParts

/-- The line is made up of the parts, and each part is what may stand in its place. -/
structure Spells (p : CallParts) (line : Text) : Prop where
  line_eq : line = p.indent ++ (p.name ++ (p.gap ++ '(' :: (p.raw ++ ')' :: p.tail)))
  indent : ∀ c ∈ p.indent, isSpacing c = true
  name : isIdentifier p.name = true
  gap : ∀ c ∈ p.gap, isSpacing c = true
  tail : IsCallEnd p.tail

/-- The call says what the parts say, and neither its alias nor its label is empty. -/
structure Reads (p : CallParts) (c : Call) : Prop where
  name : c.name = p.name
  arguments : c.arguments = Arguments.read p.raw
  aliasName : c.aliasName = c.arguments.resolve "alias".toList 0
  label : c.label = c.arguments.resolve "label".toList 1
  opensBlock : c.opensBlock = true ↔ '{' ∈ p.tail
  alias_ne_nil : c.aliasName ≠ []
  label_ne_nil : c.label ≠ []

end CallParts

def IsBlankOrMarked (line : Text) : Prop :=
  line.trim = [] ∨ ∃ mark ∈ directiveMarks, mark <+: line.trim

/-- What a line means by the grammar: the first that fits of directive, call, block end and text. -/
inductive Means (line : Text) : Line → Prop
  | directive (h : IsBlankOrMarked line) : Means line .directive
  | call {p : CallParts} {c : Call} (hd : ¬ IsBlankOrMarked line) (hp : p.Spells line)
    (hc : p.Reads c) : Means line (.call c)
  | blockEnd (hd : ¬ IsBlankOrMarked line) (hno : ∀ p c, CallParts.Spells p line → ¬ p.Reads c)
    (h : line.trim = ['}']) : Means line .blockEnd
  | text (hd : ¬ IsBlankOrMarked line) (hno : ∀ p c, CallParts.Spells p line → ¬ p.Reads c)
    (h : line.trim ≠ ['}']) : Means line .text

/-! One cut at most. -/

theorem eq_of_span_append {p : Char → Bool} {s t s' t' : Text} (hs : ∀ c ∈ s, p c = true)
    (ht : ∀ c, t.head? = some c → p c = false) (hs' : ∀ c ∈ s', p c = true)
    (ht' : ∀ c, t'.head? = some c → p c = false) (h : s ++ t = s' ++ t') : s = s' ∧ t = t' := by
  obtain ⟨htake, hdrop⟩ := span_append hs ht
  obtain ⟨htake', hdrop'⟩ := span_append hs' ht'
  rw [h] at htake hdrop
  exact ⟨htake.symm.trans htake', hdrop.symm.trans hdrop'⟩

theorem paren_not_mem_callEnd {t : Text} (h : IsCallEnd t) : ')' ∉ t := by
  rcases h with h | ⟨before, after, rfl, hbefore, hafter⟩
  · exact not_mem_blanks rfl h
  · rw [List.mem_append, List.mem_cons, not_or, not_or]
    exact ⟨not_mem_blanks rfl hbefore, by decide, not_mem_blanks rfl hafter⟩

/-- From the end of the line, the first closing parenthesis is the one of the call. -/
theorem eq_of_callEnd {raw raw' tail tail' : Text} (ht : IsCallEnd tail) (ht' : IsCallEnd tail')
    (h : raw ++ ')' :: tail = raw' ++ ')' :: tail') : raw = raw' ∧ tail = tail' := by
  have hback := congrArg List.reverse h
  simp only [List.reverse_append, List.reverse_cons, List.append_assoc,
    List.singleton_append] at hback
  have hpass {t : Text} (ht : IsCallEnd t) : ∀ c ∈ t.reverse, (c != ')') = true := by
    intro c hc
    refine bne_iff_ne.2 ?_
    rintro rfl
    exact paren_not_mem_callEnd ht (List.mem_reverse.1 hc)
  have hstop (t : Text) : ∀ c, (')' :: t).head? = some c → (c != ')') = false := by
    intro c hc
    cases hc
    rfl
  obtain ⟨htail, hraw⟩ := eq_of_span_append (hpass ht) (hstop _) (hpass ht') (hstop _) hback
  exact ⟨List.reverse_inj.1 (List.cons.inj hraw).2, List.reverse_inj.1 htail⟩

theorem CallParts.Spells.unique {p q : CallParts} {line : Text} (hp : p.Spells line)
    (hq : q.Spells line) : p = q := by
  obtain ⟨hindent, hrest⟩ := eq_of_span_append hp.indent (not_spacing_in_front hp.name _)
    hq.indent (not_spacing_in_front hq.name _) (hp.line_eq.symm.trans hq.line_eq)
  obtain ⟨hname, hrest⟩ := eq_of_span_append (List.all_eq_true.1 (all_isIdentifierChar hp.name))
    (not_identifier_in_front hp.gap _) (List.all_eq_true.1 (all_isIdentifierChar hq.name))
    (not_identifier_in_front hq.gap _) hrest
  obtain ⟨hgap, hrest⟩ := eq_of_span_append hp.gap (not_spacing_paren _) hq.gap
    (not_spacing_paren _) hrest
  obtain ⟨hraw, htail⟩ := eq_of_callEnd hp.tail hq.tail (List.cons.inj hrest).2
  obtain ⟨indent, name, gap, raw, tail⟩ := p
  obtain ⟨indent', name', gap', raw', tail'⟩ := q
  rw [CallParts.mk.injEq]
  exact ⟨hindent, hname, hgap, hraw, htail⟩

/-! Reading by the grammar. -/

theorem Call.read?_eq_some_iff {line : Text} {c : Call} :
    Call.read? line = some c ↔ ∃ p : CallParts, p.Spells line ∧ p.Reads c := by
  constructor
  · intro h
    have halias := alias_ne_nil_of_read? h
    have hlabel := label_ne_nil_of_read? h
    obtain ⟨⟨name, rest⟩, hhead, hrest⟩ := Option.bind_eq_some_iff.1 h
    obtain ⟨⟨raw, opens⟩, htail, hcall⟩ := Option.bind_eq_some_iff.1 hrest
    obtain ⟨hname, indent, gap, hindent, hgap, hline⟩ := callHead?_eq_some_iff.1 hhead
    obtain ⟨tail, rfl, hend, hopens⟩ := callTail?_eq_some_iff.1 htail
    simp only at hcall
    split at hcall
    · cases hcall
    · cases hcall
      exact ⟨⟨indent, name, gap, raw, tail⟩, ⟨hline, hindent, hname, hgap, hend⟩,
        ⟨rfl, rfl, rfl, rfl, hopens, halias, hlabel⟩⟩
  · rintro ⟨p, hp, hc⟩
    have hhead :=
      callHead?_eq_some_iff.2 ⟨hp.name, p.indent, p.gap, hp.indent, hp.gap, hp.line_eq⟩
    have htail : callTail? (p.raw ++ ')' :: p.tail) = some (p.raw, c.opensBlock) :=
      callTail?_eq_some_iff.2 ⟨p.tail, rfl, hp.tail, hc.opensBlock⟩
    obtain ⟨name, arguments, aliasName, label, opensBlock⟩ := c
    obtain ⟨hname, harguments, haliasName, hlabelName, -, halias, hlabel⟩ := hc
    dsimp only at hname harguments haliasName hlabelName halias hlabel htail
    subst hname harguments haliasName hlabelName
    simp only [Call.read?, hhead, Option.bind_some, htail]
    refine if_neg fun hempty => ?_
    rw [Bool.or_eq_true, List.isEmpty_iff, List.isEmpty_iff] at hempty
    exact hempty.elim halias hlabel

theorem Call.read?_eq_none_iff {line : Text} :
    Call.read? line = none ↔ ∀ p c, CallParts.Spells p line → ¬ p.Reads c := by
  rw [Option.eq_none_iff_forall_ne_some]
  constructor
  · intro h p c hp hc
    exact h c (Call.read?_eq_some_iff.2 ⟨p, hp, hc⟩)
  · intro h c hcall
    obtain ⟨p, hp, hc⟩ := Call.read?_eq_some_iff.1 hcall
    exact h p c hp hc

theorem isDirective_iff {line : Text} : isDirective line = true ↔ IsBlankOrMarked line := by
  simp [isDirective, IsBlankOrMarked, List.isPrefixOf_iff_prefix]

theorem isBlockEnd_iff {line : Text} : isBlockEnd line = true ↔ line.trim = ['}'] := beq_iff_eq

theorem means_classify (line : Text) : Means line (classify line) := by
  unfold classify
  split
  · next hd => exact .directive (isDirective_iff.1 hd)
  · next hd =>
    rw [isDirective_iff] at hd
    split
    · next c hcall =>
      obtain ⟨p, hp, hc⟩ := Call.read?_eq_some_iff.1 hcall
      exact .call hd hp hc
    · next hnone =>
      have hno := Call.read?_eq_none_iff.1 hnone
      split
      · next hend => exact .blockEnd hd hno (isBlockEnd_iff.1 hend)
      · next hend => exact .text hd hno (isBlockEnd_iff.not.1 hend)

theorem classify_of_means {line : Text} {l : Line} (h : Means line l) : classify line = l := by
  unfold classify
  cases h with
  | directive h => rw [if_pos (isDirective_iff.2 h)]
  | call hd hp hc => rw [if_neg (isDirective_iff.not.2 hd), Call.read?_eq_some_iff.2 ⟨_, hp, hc⟩]
  | blockEnd hd hno h =>
    rw [if_neg (isDirective_iff.not.2 hd), Call.read?_eq_none_iff.2 hno]
    exact if_pos (isBlockEnd_iff.2 h)
  | text hd hno h =>
    rw [if_neg (isDirective_iff.not.2 hd), Call.read?_eq_none_iff.2 hno]
    exact if_neg (isBlockEnd_iff.not.2 h)

/-- Lines are read by the grammar, and a line can be cut into the parts of a call in one way at
most. -/
theorem classify_eq_iff_means (line : Text) :
    (∀ l, classify line = l ↔ Means line l) ∧
      ∀ p q : CallParts, p.Spells line → q.Spells line → p = q := by
  refine ⟨fun l => ⟨?_, classify_of_means⟩, fun p q hp hq => hp.unique hq⟩
  rintro rfl
  exact means_classify line

/-- The arguments reach to the last parenthesis, over the parentheses and braces in quotes. -/
example :
    (CallParts.mk "\t".toList "Node".toList " ".toList "a, \"b) \x7b (c\"".toList
      " \x7b\u3000".toList).Spells "\tNode (a, \"b) \x7b (c\") \x7b\u3000".toList :=
  ⟨by decide, List.all_eq_true.1 (by decide), by decide, List.all_eq_true.1 (by decide),
    .inr ⟨[' '], ['\u3000'], rfl, List.all_eq_true.1 (by decide), List.all_eq_true.1 (by decide)⟩⟩

/-! Blanks around a line. -/

/-- The line, read as if it had not the shape of a call. -/
def Line.withoutCall : Line → Line
  | .call _ => .text
  | .directive => .directive
  | .blockEnd => .blockEnd
  | .text => .text

theorem isBlockEnd_of_read? {line : Text} {c : Call} (h : Call.read? line = some c) :
    isBlockEnd line = false := by
  obtain ⟨p, hp, -⟩ := Call.read?_eq_some_iff.1 h
  refine Bool.eq_false_iff.2 fun hend => ?_
  have hparen : '(' ∈ line.trim := Text.mem_trim rfl (by rw [hp.line_eq]; simp)
  rw [isBlockEnd_iff.1 hend] at hparen
  revert hparen
  decide

theorem classify_spacing_append {p : Text} (hp : ∀ c ∈ p, isSpacing c = true) (line : Text) :
    classify (p ++ line) = classify line := by
  have hhead : callHead? (p ++ line) = callHead? line := by
    unfold callHead?
    rw [List.dropWhile_append_of_pos hp]
  unfold classify isDirective isBlockEnd Call.read?
  rw [hhead, Text.trim_append_of_all fun c hc => isBlank_of_isSpacing (hp c hc)]

/-- A blank that is no spacing hides the name of a call. -/
theorem classify_blank_append {p : Text} (hp : ∀ c ∈ p, isBlank c = true)
    (hs : ¬ ∀ c ∈ p, isSpacing c = true) (line : Text) :
    classify (p ++ line) = (classify line).withoutCall := by
  have hread : Call.read? (p ++ line) = none := by
    cases hhead : callHead? (p ++ line) with
    | none => rw [Call.read?, hhead, Option.bind_none]
    | some head =>
      refine absurd (fun c hc => isSpacing_of_mem_indentation hhead ?_) hs
      rw [List.takeWhile_append_of_pos hp]
      exact List.mem_append_left _ hc
  unfold classify isDirective
  rw [hread, Text.trim_append_of_all hp]
  split
  · rfl
  · rw [isBlockEnd, Text.trim_append_of_all hp, ← isBlockEnd]
    cases hcall : Call.read? line with
    | none => cases isBlockEnd line <;> rfl
    | some c =>
      rw [isBlockEnd_of_read? hcall]
      rfl

theorem withoutCall_eq_self_iff {l : Line} : l.withoutCall = l ↔ ∀ c, l ≠ .call c := by
  cases l <;> simp [Line.withoutCall]

/-- Blanks behind a line never change what it means. Blanks in front of it do not either, unless the
line is a call and one of them is neither space, tab nor line end: then the line is text. -/
theorem classify_indented_iff {p s : Text} (hp : ∀ c ∈ p, isBlank c = true)
    (hs : ∀ c ∈ s, isBlank c = true) (line : Text) :
    (classify (p ++ line ++ s) = classify line ↔
        (∀ c ∈ p, isSpacing c = true) ∨ ∀ c, classify line ≠ .call c) ∧
      (classify (p ++ line ++ s) ≠ classify line → classify (p ++ line ++ s) = .text) := by
  rw [classify_append hs]
  by_cases hspacing : ∀ c ∈ p, isSpacing c = true
  · rw [classify_spacing_append hspacing]
    exact ⟨iff_of_true rfl (.inl hspacing), fun h => absurd rfl h⟩
  · rw [classify_blank_append hp hspacing, withoutCall_eq_self_iff, or_iff_right hspacing]
    refine ⟨Iff.rfl, fun h => ?_⟩
    cases hl : classify line with
    | call c => rfl
    | directive => rw [hl] at h; exact absurd rfl h
    | blockEnd => rw [hl] at h; exact absurd rfl h
    | text => rw [hl] at h; exact absurd rfl h

/-- A tab and an em space in front of the call of a boundary, a no-break space behind it. -/
theorem classify_indented_iff_em_space :
    let p : Text := ['\t', '\u2003']
    let s : Text := ['\u00A0']
    let line : Text := "System_Boundary(b, \"B\") \x7b".toList
    (∀ c ∈ p, isBlank c = true) ∧ (∀ c ∈ s, isBlank c = true) ∧
      (classify (p ++ line ++ s) = classify line ↔
        (∀ c ∈ p, isSpacing c = true) ∨ ∀ c, classify line ≠ .call c) ∧
      (classify (p ++ line ++ s) ≠ classify line → classify (p ++ line ++ s) = .text) := by
  intro p s line
  have hp : ∀ c ∈ p, isBlank c = true := List.all_eq_true.1 (by decide)
  have hs : ∀ c ∈ s, isBlank c = true := List.all_eq_true.1 (by decide)
  exact ⟨hp, hs, classify_indented_iff hp hs line⟩

/-- Behind a no-break space a boundary is text, and a block end behind the same indentation still is
a block end. -/
theorem no_break_space_hides_boundary :
    let p : Text := ['\u00A0']
    let line : Text := "System_Boundary(b, \"B\") \x7b".toList
    (∀ c ∈ p, isBlank c = true ∧ c ≠ '\n') ∧
      (∃ c, classify line = .call c ∧ c.opensBlock = true) ∧
      classify (p ++ line ++ []) = .text ∧ classify (p ++ line ++ []) ≠ classify line ∧
      classify (p ++ ['}'] ++ []) = classify ['}'] := by
  intro p line
  have hread : (Call.read? line).isSome = true := by decide +kernel
  have hdirective : isDirective line = false := by decide +kernel
  obtain ⟨c, hc⟩ := Option.isSome_iff_exists.1 hread
  have hclass : classify line = .call c := by
    unfold classify
    rw [hdirective, hc]
    rfl
  have hopens : (Call.read? line).map Call.opensBlock = some true := by decide +kernel
  have htext : classify (p ++ line ++ []) = .text := by decide +kernel
  rw [hc] at hopens
  refine ⟨by simp [p, isBlank], ⟨c, hclass, Option.some.inj hopens⟩, htext, ?_, by decide +kernel⟩
  rw [htext, hclass]
  exact Line.noConfusion

end C4Diagram
