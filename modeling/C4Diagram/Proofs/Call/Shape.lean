import C4Diagram.Line
import C4Diagram.Proofs.Call.ReadBack
import C4Diagram.Proofs.Text.Lines

/-! Where a call stands on its line. The head and the tail of a call are put together from a few
stretches of characters; with this, blanks behind a line make no difference to what it means, and a
line may be indented like the call of a boundary. -/

namespace C4Diagram

/-! Stretches. -/

/-- A stretch of characters that pass, in front of one that fails, is read off again. -/
theorem span_append {p : Char → Bool} {s t : Text} (hs : ∀ c ∈ s, p c = true)
    (ht : ∀ c, t.head? = some c → p c = false) :
    (s ++ t).takeWhile p = s ∧ (s ++ t).dropWhile p = t := by
  rw [List.takeWhile_append_of_pos hs, List.dropWhile_append_of_pos hs]
  cases t with
  | nil => simp
  | cons c t => simp [ht c rfl]

theorem isIdentifierChar_of_isSpacing {c : Char} (h : isSpacing c = true) :
    isIdentifierChar c = false := by
  cases hc : isIdentifierChar c with
  | false => rfl
  | true =>
    rw [← isBlank_of_isSpacing h, isBlank_of_isIdentifierChar hc]

theorem not_spacing_in_front {name : Text} (hn : isIdentifier name = true) (t : Text) :
    ∀ c, (name ++ t).head? = some c → isSpacing c = false := by
  intro c hc
  obtain ⟨d, r, rfl⟩ := List.exists_cons_of_ne_nil (ne_nil_of_isIdentifier hn)
  have hd := List.all_eq_true.1 (all_isIdentifierChar hn) d List.mem_cons_self
  rw [List.cons_append, List.head?_cons, Option.some.injEq] at hc
  subst hc
  refine Bool.eq_false_iff.2 fun hs => ?_
  rw [isIdentifierChar_of_isSpacing hs] at hd
  cases hd

theorem not_identifier_in_front {gap : Text} (hg : ∀ c ∈ gap, isSpacing c = true) (t : Text) :
    ∀ c, (gap ++ '(' :: t).head? = some c → isIdentifierChar c = false := by
  intro c hc
  cases gap with
  | nil =>
    cases hc
    decide
  | cons d r =>
    cases hc
    exact isIdentifierChar_of_isSpacing (hg c List.mem_cons_self)

theorem not_spacing_paren (t : Text) :
    ∀ c, ('(' :: t).head? = some c → isSpacing c = false := by
  intro c hc
  cases hc
  rfl

/-! Head and tail. -/

/-- The head of a call is an identifier and a parenthesis with spacing in front of each. -/
theorem callHead?_eq_some_iff {line name rest : Text} :
    callHead? line = some (name, rest) ↔ isIdentifier name = true ∧
      ∃ indent gap, (∀ c ∈ indent, isSpacing c = true) ∧ (∀ c ∈ gap, isSpacing c = true) ∧
        line = indent ++ (name ++ (gap ++ '(' :: rest)) := by
  constructor
  · intro h
    unfold callHead? at h
    simp only at h
    split at h
    · next rest' hrest =>
      split at h
      · next hname =>
        cases h
        refine ⟨hname, line.takeWhile isSpacing,
          ((line.dropWhile isSpacing).dropWhile isIdentifierChar).takeWhile isSpacing,
          fun c hc => List.mem_takeWhile_imp hc, fun c hc => List.mem_takeWhile_imp hc, ?_⟩
        rw [← hrest, List.takeWhile_append_dropWhile, List.takeWhile_append_dropWhile,
          List.takeWhile_append_dropWhile]
      · cases h
    · cases h
  · rintro ⟨hname, indent, gap, hindent, hgap, rfl⟩
    obtain ⟨-, hstart⟩ := span_append hindent (not_spacing_in_front hname (gap ++ '(' :: rest))
    obtain ⟨htake, hdrop⟩ := span_append (List.all_eq_true.1 (all_isIdentifierChar hname))
      (not_identifier_in_front hgap rest)
    obtain ⟨-, hrest⟩ := span_append hgap (not_spacing_paren rest)
    unfold callHead?
    simp only [hstart, htake, hdrop, hrest, hname, if_true]

/-- What may stand behind the closing parenthesis of a call: blanks, with at most one opening brace
among them. -/
def IsCallEnd (t : Text) : Prop :=
  (∀ c ∈ t, isBlank c = true) ∨
    ∃ before after, t = before ++ '{' :: after ∧ (∀ c ∈ before, isBlank c = true) ∧
      ∀ c ∈ after, isBlank c = true

theorem not_mem_blanks {c : Char} (hc : isBlank c = false) {t : Text}
    (h : ∀ d ∈ t, isBlank d = true) : c ∉ t := by
  intro hm
  rw [h c hm] at hc
  cases hc

theorem callTail?_eq_some_iff {rest raw : Text} {opens : Bool} :
    callTail? rest = some (raw, opens) ↔
      ∃ tail, rest = raw ++ ')' :: tail ∧ IsCallEnd tail ∧ (opens = true ↔ '{' ∈ tail) := by
  constructor
  · intro h
    obtain ⟨blanks, hrest, hblanks⟩ := rest.exists_eq_trimEnd_append
    unfold callTail? at h
    simp only at h
    split at h
    · next before hb =>
      obtain ⟨raw', hraw, h⟩ := Option.map_eq_some_iff.1 h
      cases h
      obtain ⟨inner, hbefore, hinner⟩ := before.exists_eq_trimEnd_append
      rw [Text.beforeLast?_eq_some_iff] at hb hraw
      refine ⟨inner ++ '{' :: blanks, ?_, .inr ⟨inner, blanks, rfl, hinner, hblanks⟩, by simp⟩
      rw [hrest, hb, hbefore, hraw]
      simp
    · obtain ⟨raw', hraw, h⟩ := Option.map_eq_some_iff.1 h
      cases h
      rw [Text.beforeLast?_eq_some_iff] at hraw
      refine ⟨blanks, ?_, .inl hblanks, ?_⟩
      · rw [hrest, hraw]
        simp
      · simp [not_mem_blanks (show isBlank '{' = false from rfl) hblanks]
  · rintro ⟨tail, rfl, htail | ⟨before, after, rfl, hbefore, hafter⟩, hopens⟩
    · have htrim := Text.trimEnd_append_cons (show isBlank ')' = false from rfl) htail raw
      have hfalse : opens = false :=
        Bool.eq_false_iff.2 fun h => not_mem_blanks rfl htail (hopens.1 h)
      subst hfalse
      unfold callTail?
      simp only [htrim, Text.beforeLast?_concat]
      rfl
    · have htrim := Text.trimEnd_append_cons (show isBlank '{' = false from rfl) hafter
        (raw ++ ')' :: before)
      have hinner := Text.trimEnd_append_cons (show isBlank ')' = false from rfl) hbefore raw
      have hassoc : raw ++ ')' :: (before ++ '{' :: after) =
          (raw ++ ')' :: before) ++ '{' :: after := by
        simp
      have htrue : opens = true := hopens.2 (by simp)
      subst htrue
      unfold callTail?
      rw [hassoc]
      simp only [htrim, Text.beforeLast?_concat, if_true, hinner]
      rfl

/-! Blanks behind a line. -/

/-- A parenthesis does not stand among the blanks behind a text. -/
theorem append_blanks_eq_iff {t s pre rest : Text} (hs : ∀ c ∈ s, isBlank c = true) :
    t ++ s = pre ++ '(' :: rest ↔ ∃ r, t = pre ++ '(' :: r ∧ rest = r ++ s := by
  constructor
  · intro h
    have hnot : '(' ∉ s := not_mem_blanks rfl hs
    rcases List.append_eq_append_iff.1 h with ⟨as, -, hs'⟩ | ⟨bs, ht, hrest⟩
    · rw [hs'] at hnot
      simp at hnot
    · cases bs with
      | nil =>
        rw [List.nil_append] at hrest
        rw [← hrest] at hnot
        simp at hnot
      | cons d bs =>
        rw [List.cons_append, List.cons.injEq] at hrest
        exact ⟨bs, by rw [ht, hrest.1], hrest.2⟩
  · rintro ⟨r, rfl, rfl⟩
    simp

theorem callHead?_append {s : Text} (hs : ∀ c ∈ s, isBlank c = true) (line : Text) :
    callHead? (line ++ s) = (callHead? line).map fun head => (head.1, head.2 ++ s) := by
  refine Option.ext fun ⟨name, rest⟩ => ?_
  rw [Option.map_eq_some_iff, callHead?_eq_some_iff]
  constructor
  · rintro ⟨hname, indent, gap, hindent, hgap, hline⟩
    rw [← List.append_assoc, ← List.append_assoc, append_blanks_eq_iff hs] at hline
    obtain ⟨r, hr, rfl⟩ := hline
    rw [List.append_assoc, List.append_assoc] at hr
    exact ⟨(name, r), callHead?_eq_some_iff.2 ⟨hname, indent, gap, hindent, hgap, hr⟩, rfl⟩
  · rintro ⟨⟨name', r⟩, hhead, h⟩
    cases h
    obtain ⟨hname, indent, gap, hindent, hgap, rfl⟩ := callHead?_eq_some_iff.1 hhead
    exact ⟨hname, indent, gap, hindent, hgap, by simp⟩

theorem read?_append {s : Text} (hs : ∀ c ∈ s, isBlank c = true) (line : Text) :
    Call.read? (line ++ s) = Call.read? line := by
  have htail (rest : Text) : callTail? (rest ++ s) = callTail? rest := by
    unfold callTail?
    rw [Text.trimEnd_append_of_all hs]
  unfold Call.read?
  rw [callHead?_append hs, Option.bind_map]
  refine Option.bind_congr fun head _ => ?_
  simp only [Function.comp_apply, htail]

theorem classify_append {s : Text} (hs : ∀ c ∈ s, isBlank c = true) (line : Text) :
    classify (line ++ s) = classify line := by
  unfold classify isDirective isBlockEnd
  rw [read?_append hs, Text.trim_append_blanks hs]

theorem isBlank_of_mem_return {c : Char} (h : c ∈ ['\r']) : isBlank c = true := by
  rw [List.mem_singleton] at h
  exact h ▸ rfl

/-- The carriage return of a line's end says nothing. -/
theorem classify_withoutReturn (line : Text) : classify line.withoutReturn = classify line := by
  rcases line.eq_withoutReturn with h | h
  · rw [← h]
  · conv_rhs => rw [h, classify_append fun _ => isBlank_of_mem_return]

/-! Relations. -/

theorem relationCall?_withoutReturn (line : Text) :
    relationCall? line.withoutReturn = relationCall? line := by
  rcases line.eq_withoutReturn with h | h
  · rw [← h]
  · have hend := callHead?_append (fun _ => isBlank_of_mem_return) line.withoutReturn
    rw [← h] at hend
    rw [relationCall?, relationCall?, hend, Option.bind_map]
    rfl

/-- A name of the vocabulary follows the naming convention, so both tests agree on a call. -/
theorem isRelation_of_relationCall? {line : Text} {c : Call} {k : RelationKind}
    (hc : Call.read? line = some c) (hk : relationCall? line = some k) : c.isRelation = true := by
  obtain ⟨⟨name, rest⟩, hhead, hname⟩ := Option.bind_eq_some_iff.1 hk
  have hcall : c.name = name := by
    simp only [Call.read?, hhead, Option.bind_some, Option.bind_eq_some_iff] at hc
    obtain ⟨⟨_, _⟩, -, hc⟩ := hc
    split at hc
    · cases hc
    · cases hc
      rfl
  rw [Call.isRelation, hcall, ← RelationKind.name_of_ofName? hname]
  exact k.isRelationName_name

/-! A line that is printed behind an indent. -/

theorem callHead?_printed {indent name : Text} (hi : ∀ c ∈ indent, isSpacing c = true)
    (hn : isIdentifier name = true)
    (rest : Text) : callHead? (indent ++ (name ++ '(' :: rest)) = some (name, rest) :=
  callHead?_eq_some_iff.2 ⟨hn, indent, [], hi, by simp, rfl⟩

/-- In front of a call stands nothing but spacing. -/
theorem isSpacing_of_mem_indentation {line : Text} {head : Text × Text}
    (h : callHead? line = some head) {c : Char}
    (hc : c ∈ line.takeWhile isBlank) : isSpacing c = true := by
  obtain ⟨hname, indent, gap, hindent, -, rfl⟩ := callHead?_eq_some_iff.1 h
  have hfront : ∀ d, (head.1 ++ (gap ++ '(' :: head.2)).head? = some d → isBlank d = false := by
    intro d hd
    rw [List.head?_append_of_ne_nil _ (ne_nil_of_isIdentifier hname)] at hd
    exact (isTrimmed_of_isIdentifier hname).first hd
  rw [(span_append (fun d hd => isBlank_of_isSpacing (hindent d hd)) hfront).1] at hc
  exact hindent c hc

theorem callTail?_leaf (raw : Text) : callTail? (raw ++ [')']) = some (raw, false) :=
  callTail?_eq_some_iff.2 ⟨[], rfl, .inl (by simp), by simp⟩

theorem callTail?_boundary (raw : Text) :
    callTail? (raw ++ [')', ' ', '\x7b']) = some (raw, true) :=
  callTail?_eq_some_iff.2
    ⟨[' ', '\x7b'], rfl, .inr ⟨[' '], [], rfl, List.all_eq_true.1 rfl, by simp⟩, by simp⟩

end C4Diagram
