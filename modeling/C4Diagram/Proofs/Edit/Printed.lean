import C4Diagram.Edit.Placement
import C4Diagram.Proofs.Call.Shape
import C4Diagram.Proofs.Text.Lines

/-! What a printed call is read as. Any printed line is a call of its macro or, where the alias
or the label that are read back are empty, plain text. An element whose values hold no double
quote reads back with its alias and its label, because no other argument has one of their names.
-/

namespace C4Diagram

theorem mem_of_mem_quote {c : Char} {value : Text} (h : c ∈ quote value) :
    c = '"' ∨ c = '\\' ∨ c ∈ value := by
  unfold quote escaped at h
  simp only [List.cons_append, List.mem_cons, List.mem_append, List.mem_flatMap, List.not_mem_nil,
    or_false] at h
  rcases h with h | ⟨d, hd, hc⟩ | h
  · exact .inl h
  · split at hc
    · rcases List.mem_cons.1 hc with hc | hc
      · exact .inr (.inl hc)
      · exact .inr (.inr (List.mem_singleton.1 hc ▸ hd))
    · exact .inr (.inr (List.mem_singleton.1 hc ▸ hd))
  · exact .inl h

def IsLineBreak (c : Char) : Prop := c = '\n' ∨ c = '\r'

theorem IsLineBreak.not_mem_of_isIdentifier {c : Char} (hc : IsLineBreak c) {name : Text}
    (h : isIdentifier name = true) : c ∉ name := by
  apply C4Diagram.not_mem_of_isIdentifier h
  rcases hc with rfl | rfl <;> rfl

theorem lineBreak_not_mem_quote_trim {c : Char} (hc : IsLineBreak c) {value : Text} (h : c ∉ value) :
    c ∉ quote value.trim := by
  intro hmem
  rcases mem_of_mem_quote hmem with rfl | rfl | hmem
  · rcases hc with hc | hc <;> cases hc
  · rcases hc with hc | hc <;> cases hc
  · exact h (Text.mem_of_mem_trim hmem)

theorem mem_of_mem_present? {value : Option Text} {v : Text} (h : v ∈ present? value) :
    ∃ t ∈ value, v = t.trim := by
  unfold present? at h
  obtain ⟨hv, -⟩ := Option.filter_eq_some_iff.1 h
  obtain ⟨t, ht, rfl⟩ := Option.map_eq_some_iff.1 hv
  exact ⟨t, ht, rfl⟩

/-! Values by name. -/

namespace Arguments

theorem value?_append (positional : List Text) (xs ys : List (Text × Text)) (name : Text) :
    value? ⟨positional, xs ++ ys⟩ name =
      (value? ⟨positional, ys⟩ name).or (value? ⟨positional, xs⟩ name) := by
  unfold value?
  rw [List.reverse_append, List.find?_append, Option.map_or]

theorem value?_eq_none {positional : List Text} {xs : List (Text × Text)} {name : Text}
    (h : ∀ p ∈ xs, p.1 ≠ argumentKey name) : value? ⟨positional, xs⟩ name = none := by
  unfold value?
  rw [Option.map_eq_none_iff, List.find?_eq_none]
  intro p hp
  simpa using h p (List.mem_reverse.1 hp)

theorem mem_named_of_value? {arguments : Arguments} {name v : Text}
    (h : arguments.value? name = some v) : (argumentKey name, v) ∈ arguments.named := by
  unfold value? at h
  obtain ⟨e, he, rfl⟩ := Option.map_eq_some_iff.1 h
  obtain ⟨hkey, -⟩ := List.find?_eq_some_iff_append.1 he
  rw [beq_iff_eq] at hkey
  rw [← hkey]
  exact List.mem_reverse.1 (List.mem_of_find?_eq_some he)

end Arguments

/-! A call on a line. -/

def printedCall (name raw : Text) (opensBlock : Bool) : Text :=
  name ++ '(' :: (raw ++ ')' :: if opensBlock then " \x7b".toList else [])

def Call.ofArguments? (name : Text) (arguments : Arguments) (opensBlock : Bool) : Option Call :=
  if (arguments.resolve "alias".toList 0).isEmpty ||
    (arguments.resolve "label".toList 1).isEmpty then none
  else
    some ⟨name, arguments, arguments.resolve "alias".toList 0, arguments.resolve "label".toList 1,
      opensBlock⟩

theorem Call.of_ofArguments? {name : Text} {arguments : Arguments} {opensBlock : Bool} {c : Call}
    (h : ofArguments? name arguments opensBlock = some c) :
    c.name = name ∧ c.opensBlock = opensBlock := by
  unfold ofArguments? at h
  split at h
  · cases h
  · cases h
    exact ⟨rfl, rfl⟩

section PrintedCall

variable {indent name : Text} (hi : ∀ c ∈ indent, isSpacing c = true)
  (hn : isIdentifier name = true)

include hi hn

theorem read?_printedCall (raw : Text) (opensBlock : Bool) :
    Call.read? (indent ++ printedCall name raw opensBlock) =
      Call.ofArguments? name (Arguments.read raw) opensBlock := by
  have htail : callTail? (raw ++ ')' :: if opensBlock then " \x7b".toList else []) =
      some (raw, opensBlock) := by
    cases opensBlock with
    | false => exact callTail?_leaf raw
    | true => exact callTail?_boundary raw
  unfold Call.read? printedCall
  rw [callHead?_printed hi hn]
  simp only [Option.bind_some, htail]
  rfl

theorem trim_printedCall (raw : Text) (opensBlock : Bool) :
    (indent ++ printedCall name raw opensBlock).trim = printedCall name raw opensBlock := by
  have hfirst : ∃ c, name.head? = some c ∧ isBlank c = false := by
    obtain ⟨c, r, rfl⟩ := List.exists_cons_of_ne_nil (ne_nil_of_isIdentifier hn)
    exact ⟨c, rfl, (isTrimmed_of_isIdentifier hn).first rfl⟩
  have hlast : ∃ c, List.getLast? (')' :: if opensBlock then " \x7b".toList else []) = some c ∧
      isBlank c = false := by
    cases opensBlock with
    | false => exact ⟨')', rfl, rfl⟩
    | true => exact ⟨'\x7b', rfl, rfl⟩
  rw [Text.trim_append_of_all fun c hc => isBlank_of_isSpacing (hi c hc)]
  apply Text.trim_eq_of_isTrimmed
  have := Text.isTrimmed_append (m := '(' :: raw) hfirst hlast
  rwa [List.append_assoc, List.cons_append] at this

theorem classify_printedCall
    (hmarks : ∀ rest, directiveMarks.any (fun mark => mark.isPrefixOf (name ++ rest)) = false)
    (raw : Text) (opensBlock : Bool) :
    classify (indent ++ printedCall name raw opensBlock) =
      ((Call.ofArguments? name (Arguments.read raw) opensBlock).map Line.call).getD .text := by
  have htrim := trim_printedCall hi hn raw opensBlock
  have hdirective : isDirective (indent ++ printedCall name raw opensBlock) = false := by
    unfold isDirective
    rw [htrim, printedCall, hmarks, Bool.or_false]
    simp
  have hend : isBlockEnd (indent ++ printedCall name raw opensBlock) = false := by
    unfold isBlockEnd
    rw [htrim, beq_eq_false_iff_ne]
    intro he
    have hparen : '(' ∈ printedCall name raw opensBlock := by simp [printedCall]
    rw [he] at hparen
    simp at hparen
  unfold classify
  rw [hdirective, if_neg Bool.false_ne_true, read?_printedCall hi hn]
  cases Call.ofArguments? name (Arguments.read raw) opensBlock with
  | some c => rfl
  | none => simp [hend]

end PrintedCall

theorem lineBreak_not_mem_printedCall {c : Char} (hc : IsLineBreak c) {name : Text}
    (hn : isIdentifier name = true) {ps : List (Text × Text)}
    (h : ∀ p ∈ ps, isIdentifier p.1 = true ∧ c ∉ p.2) (opensBlock : Bool) :
    c ∉ printedCall name
      (Text.join ", ".toList (ps.map fun p => namedArgument ('$' :: p.1) p.2)) opensBlock := by
  have hpunctuation : ∀ d ∈ ['(', ')', ',', ' ', '$', '=', '\x7b'], c ≠ d := by
    rcases hc with rfl | rfl <;> simp
  simp only [List.forall_mem_cons] at hpunctuation
  have hraw : c ∉ Text.join ", ".toList (ps.map fun p => namedArgument ('$' :: p.1) p.2) := by
    intro hmem
    rcases Text.mem_join hmem with hmem | ⟨a, ha, hmem⟩
    · simp [hpunctuation] at hmem
    · obtain ⟨p, hp, rfl⟩ := List.mem_map.1 ha
      obtain ⟨hkey, hvalue⟩ := h p hp
      have hno := hc.not_mem_of_isIdentifier hkey
      simp [namedArgument, hpunctuation, hno, hvalue] at hmem
  have hno := hc.not_mem_of_isIdentifier hn
  generalize Text.join ", ".toList (ps.map fun p => namedArgument ('$' :: p.1) p.2) = raw at hraw
  cases opensBlock <;> simp [printedCall, hpunctuation, hno, hraw]

theorem classify_blockEnd {indent : Text} (hi : ∀ c ∈ indent, isSpacing c = true) :
    classify (indent ++ ['}']) = .blockEnd := by
  have htrim : (indent ++ ['}']).trim = ['}'] := by
    rw [Text.trim_append_of_all fun c hc => isBlank_of_isSpacing (hi c hc)]
    rfl
  have hread : Call.read? (indent ++ ['}']) = none := by
    have hhead : callHead? (indent ++ ['}']) = none := by
      unfold callHead?
      rw [List.dropWhile_append_of_pos hi]
      rfl
    unfold Call.read?
    rw [hhead]
    rfl
  unfold classify isDirective isBlockEnd
  rw [htrim, hread]
  rfl

/-! The line of an element. -/

namespace ElementKind

theorem isIdentifier_name (k : ElementKind) : isIdentifier k.name = true := by cases k <;> decide

theorem no_directiveMark (k : ElementKind) (rest : Text) :
    directiveMarks.any (fun mark => mark.isPrefixOf (k.name ++ rest)) = false := by cases k <;> rfl

/-- No element is taken for a relation. -/
theorem isRelationName_name (k : ElementKind) : RelationKind.isRelationName k.name = false := by
  cases k <;> decide

/-- What an element is read back as is no relation either. -/
theorem isRelation_of_ofArguments? {k : ElementKind} {arguments : Arguments} {opensBlock : Bool}
    {c : Call} (h : Call.ofArguments? k.name arguments opensBlock = some c) :
    c.isRelation = false := by
  unfold Call.isRelation
  rw [(Call.of_ofArguments? h).1, k.isRelationName_name]

end ElementKind

namespace TechnologyArgument

def key : TechnologyArgument → Text
  | actorType => "type".toList
  | technology => "techn".toList

end TechnologyArgument

namespace NewElement

def furtherKeys : List Text := ["type".toList, "techn".toList, "descr".toList]

def furtherValues (e : NewElement) : List (Text × Text) :=
  (match e.kind.technologyArgument, present? e.technology with
    | some argument, some value => [(argument.key, quote value)]
    | _, _ => []) ++
  (present? e.description).toList.map fun v => ("descr".toList, quote v)

def namedValues (e : NewElement) : List (Text × Text) :=
  [("alias".toList, e.aliasName), ("label".toList, quote e.label.trim)] ++ e.furtherValues

theorem arguments_eq (e : NewElement) :
    e.arguments = e.namedValues.map fun p => namedArgument ('$' :: p.1) p.2 := by
  have hkey (a : TechnologyArgument) : a.written = '$' :: a.key := by cases a <;> rfl
  unfold arguments namedValues furtherValues
  simp only [List.map_append, List.map_map, List.append_assoc]
  cases e.kind.technologyArgument with
  | none => rfl
  | some argument =>
    cases present? e.technology with
    | none => rfl
    | some value =>
      simp only [hkey]
      rfl

theorem written_eq (e : NewElement) :
    e.written = printedCall e.kind.name (Text.join ", ".toList e.arguments) e.kind.isBoundary := by
  simp [written, printedCall]

def readBack (e : NewElement) : Arguments := Arguments.read (Text.join ", ".toList e.arguments)

theorem classify_written (e : NewElement) {indent : Text} (hi : ∀ c ∈ indent, isSpacing c = true) :
    classify (indent ++ e.written) =
      ((Call.ofArguments? e.kind.name e.readBack e.kind.isBoundary).map Line.call).getD .text := by
  rw [written_eq]
  exact classify_printedCall hi e.kind.isIdentifier_name e.kind.no_directiveMark _ _

/-- None of the values that are written in quotes holds the character. -/
structure Avoids (c : Char) (e : NewElement) : Prop where
  label : c ∉ e.label
  technology : ∀ t ∈ e.technology, c ∉ t
  description : ∀ d ∈ e.description, c ∉ d

theorem mem_furtherValues {e : NewElement} {p : Text × Text} (hp : p ∈ e.furtherValues) :
    p.1 ∈ furtherKeys ∧ ∃ t, p.2 = quote t.trim ∧ (t ∈ e.technology ∨ t ∈ e.description) := by
  unfold furtherValues at hp
  rcases List.mem_append.1 hp with hp | hp
  · split at hp
    · next argument value _ hvalue =>
      rw [List.mem_singleton] at hp
      subst hp
      have hkey : argument.key ∈ furtherKeys := by cases argument <;> decide
      obtain ⟨t, ht, rfl⟩ := mem_of_mem_present? hvalue
      exact ⟨hkey, t, rfl, .inl ht⟩
    · cases hp
  · obtain ⟨v, hv, rfl⟩ := List.mem_map.1 hp
    have hkey : "descr".toList ∈ furtherKeys := by decide
    obtain ⟨d, hd, rfl⟩ := mem_of_mem_present? (Option.mem_toList.1 hv)
    exact ⟨hkey, d, rfl, .inr hd⟩

/-- Every argument has an identifier for its name, and its value is the alias or a quoted value,
trimmed. -/
theorem mem_namedValues {e : NewElement} {p : Text × Text} (hp : p ∈ e.namedValues) :
    isIdentifier p.1 = true ∧
      (p.2 = e.aliasName ∨ ∃ t, p.2 = quote t.trim ∧
        (t = e.label ∨ t ∈ e.technology ∨ t ∈ e.description)) := by
  rcases List.mem_append.1 hp with hp | hp
  · rcases List.mem_cons.1 hp with rfl | hp
    · exact ⟨rfl, .inl rfl⟩
    · rw [List.mem_singleton.1 hp]
      exact ⟨rfl, .inr ⟨e.label, rfl, .inl rfl⟩⟩
  · have hkeys : ∀ key ∈ furtherKeys, isIdentifier key = true := by decide
    obtain ⟨hk, t, ht, hmem⟩ := mem_furtherValues hp
    exact ⟨hkeys _ hk, .inr ⟨t, ht, .inr hmem⟩⟩

theorem Avoids.not_mem {c : Char} {e : NewElement} (h : e.Avoids c) {t : Text}
    (ht : t = e.label ∨ t ∈ e.technology ∨ t ∈ e.description) : c ∉ t := by
  rcases ht with rfl | ht | ht
  · exact h.label
  · exact h.technology t ht
  · exact h.description t ht

theorem Avoids.not_mem_trim {c : Char} {e : NewElement} (h : e.Avoids c) {t : Text}
    (ht : t = e.label ∨ t ∈ e.technology ∨ t ∈ e.description) : c ∉ t.trim := by
  intro hc
  exact h.not_mem ht (Text.mem_of_mem_trim hc)

theorem lineBreak_not_mem_written {c : Char} (hc : IsLineBreak c) {e : NewElement} (h : e.Avoids c)
    (ha : isIdentifier e.aliasName = true) : c ∉ e.written := by
  rw [written_eq, arguments_eq]
  refine lineBreak_not_mem_printedCall hc e.kind.isIdentifier_name (fun p hp => ?_) _
  obtain ⟨hkey, hv | ⟨t, hv, ht⟩⟩ := mem_namedValues hp
  · exact ⟨hkey, hv ▸ hc.not_mem_of_isIdentifier ha⟩
  · exact ⟨hkey, hv ▸ lineBreak_not_mem_quote_trim hc (h.not_mem ht)⟩

theorem readBack_of_quoteFree {e : NewElement} (h : e.Avoids '"')
    (ha : isIdentifier e.aliasName = true) :
    e.readBack = ⟨[], e.namedValues.map fun p => (p.1.map lowerLetter, unquote p.2)⟩ := by
  unfold readBack
  rw [arguments_eq]
  refine read_join_namedArgument fun p hp => ?_
  obtain ⟨hkey, hv | ⟨t, hv, ht⟩⟩ := mem_namedValues hp
  · exact ⟨hkey, hv ▸ isValue_of_isIdentifier ha⟩
  · exact ⟨hkey, hv ▸ isValue_quote (h.not_mem_trim ht)⟩

/-- The further arguments are in the way of neither alias nor label. -/
theorem value?_furtherValues (e : NewElement) {name : Text}
    (hname : name = "alias".toList ∨ name = "label".toList) :
    Arguments.value? ⟨[], e.furtherValues.map fun p => (p.1.map lowerLetter, unquote p.2)⟩ name =
      none := by
  have hkeys : ∀ key ∈ furtherKeys, key.map lowerLetter ≠ argumentKey "alias".toList ∧
      key.map lowerLetter ≠ argumentKey "label".toList := by decide
  refine Arguments.value?_eq_none fun q hq => ?_
  obtain ⟨p, hp, rfl⟩ := List.mem_map.1 hq
  obtain ⟨ha, hl⟩ := hkeys _ (mem_furtherValues hp).1
  rcases hname with rfl | rfl
  · exact ha
  · exact hl

/-- A quote-free element reads back with its own alias and its label as it is escaped. -/
theorem resolve_of_quoteFree {e : NewElement} (h : e.Avoids '"')
    (ha : isIdentifier e.aliasName = true) :
    e.readBack.resolve "alias".toList 0 = e.aliasName ∧
      e.readBack.resolve "label".toList 1 = withBackslashesDoubled e.label.trim := by
  have hfirst : (e.namedValues.map fun p => (p.1.map lowerLetter, unquote p.2)) =
      [("alias".toList, e.aliasName), ("label".toList, withBackslashesDoubled e.label.trim)] ++
        e.furtherValues.map fun p => (p.1.map lowerLetter, unquote p.2) := by
    unfold namedValues
    rw [List.map_append, List.map_cons, List.map_cons, List.map_nil, unquote_of_isIdentifier ha,
      unquote_quote, escaped_of_quoteFree (h.not_mem_trim (.inl rfl))]
    rfl
  rw [readBack_of_quoteFree h ha, hfirst]
  unfold Arguments.resolve
  rw [Arguments.value?_append, Arguments.value?_append, value?_furtherValues e (.inl rfl),
    value?_furtherValues e (.inr rfl), Option.none_or, Option.none_or]
  exact ⟨rfl, rfl⟩

end NewElement
end C4Diagram
