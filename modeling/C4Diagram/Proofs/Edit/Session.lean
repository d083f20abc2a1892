import C4Diagram.Proofs.Edit.AddElement
import C4Diagram.Proofs.Edit.AddRelation

/-! Sessions of edits on a text that passes the check. The editor looks at the alias it is
given, and the outline looks at the alias that is read back from the whole printed call. As long
as the two agree, each accepted edit keeps the check passing with as many warnings; the first
one where they differ leaves an alias undeclared that the editor has accepted. -/

namespace C4Diagram

inductive Edit where
  | element (e : NewElement)
  | relation (r : NewRelation)
deriving DecidableEq

namespace NewElement

/-- The printed call is read back with the alias of the element and with some label. -/
def ReadsBack (e : NewElement) : Prop :=
  e.readBack.resolve "alias".toList 0 = e.aliasName ∧ e.readBack.resolve "label".toList 1 ≠ []

instance (e : NewElement) : Decidable e.ReadsBack := inferInstanceAs (Decidable (_ ∧ _))

theorem readsBack_iff {e : NewElement} (ha : e.aliasName ≠ []) : e.ReadsBack ↔
    ∃ c, Call.ofArguments? e.kind.name e.readBack e.kind.isBoundary = some c ∧
      c.aliasName = e.aliasName := by
  unfold Call.ofArguments? ReadsBack
  refine ⟨?_, ?_⟩
  · intro hback
    obtain ⟨halias, hlabel⟩ := hback
    rw [if_neg]
    · exact ⟨_, rfl, halias⟩
    · rw [Bool.or_eq_true, List.isEmpty_iff, List.isEmpty_iff, not_or]
      exact ⟨halias ▸ ha, hlabel⟩
  · intro hcall
    obtain ⟨c, hc, halias⟩ := hcall
    split at hc
    · cases hc
    · next hne =>
      cases hc
      rw [Bool.or_eq_true, List.isEmpty_iff, List.isEmpty_iff, not_or] at hne
      exact ⟨halias, hne.2⟩

/-- The aliases that the lines of an element declare: one if its call is read back as a call. -/
theorem declared?_lines (e : NewElement) {indent : Text} (hi : ∀ c ∈ indent, isSpacing c = true) :
    ((e.lines.map (indent ++ ·)).map classify).filterMap Line.declared? =
      ((Call.ofArguments? e.kind.name e.readBack e.kind.isBoundary).map Call.aliasName).toList := by
  have hend : (classify (indent ++ ['}'])).declared? = none := by
    rw [classify_blockEnd hi, Line.declared?]
  have hcall : (classify (indent ++ e.written)).declared? =
      (Call.ofArguments? e.kind.name e.readBack e.kind.isBoundary).map Call.aliasName := by
    rw [classify_written e hi]
    cases hc : Call.ofArguments? e.kind.name e.readBack e.kind.isBoundary with
    | none => rfl
    | some c =>
      have hrelation := ElementKind.isRelation_of_ofArguments? hc
      rw [Option.map_some, Option.getD_some, Line.declared?, hrelation, if_neg Bool.false_ne_true,
        Option.map_some]
  unfold lines
  split
  · simp only [List.map_cons, List.map_nil, List.filterMap_cons, List.filterMap_nil, hcall, hend]
    cases (Call.ofArguments? e.kind.name e.readBack e.kind.isBoundary).map Call.aliasName <;> rfl
  · simp only [List.map_cons, List.map_nil, List.filterMap_cons, List.filterMap_nil, hcall]
    cases (Call.ofArguments? e.kind.name e.readBack e.kind.isBoundary).map Call.aliasName <;> rfl

end NewElement

/-! What lines put in between do to the check. -/

section Splice

variable {source : Text} {inserted : List Text} {index : Nat} (hfeed : ∀ l ∈ inserted, '\n' ∉ l)
  (hne : inserted ≠ [])

include hfeed hne

theorem declared_splice : (Placement.splice source.lines index inserted).declared.Perm
    ((inserted.map classify).filterMap Line.declared? ++ source.declared) := by
  have hclasses := Placement.map_classify_splice source index hfeed hne
  have hold : source.declared = (source.classes.take index).filterMap Line.declared? ++
      (source.classes.drop index).filterMap Line.declared? := by
    rw [← List.filterMap_append, List.take_append_drop]
    rfl
  unfold Text.declared Text.classes at hold ⊢
  rw [hclasses, hold, List.filterMap_append, List.filterMap_append, ← List.append_assoc]
  exact List.perm_append_comm.append_right _

theorem mem_declared_splice {a : Text} :
    a ∈ (Placement.splice source.lines index inserted).declared ↔
    a ∈ (inserted.map classify).filterMap Line.declared? ∨ a ∈ source.declared := by
  rw [(declared_splice hfeed hne).mem_iff, List.mem_append]

theorem check_splice {warnings : List Finding} {extra : List Node}
    (h : (Outline.read source).check = .ok warnings) (hindex : index ≤ source.lines.length)
    (ha : Nesting.Adds extra (Nesting.empty.run 0 (source.classes.take index))
      ((Nesting.empty.run 0 (source.classes.take index)).run index (inserted.map classify)))
    (hnew : ((inserted.map classify).filterMap Line.declared? ++ source.declared).Nodup) :
    ∃ after, (Outline.read (Placement.splice source.lines index inserted)).check = .ok after ∧
      after.length = warnings.length := by
  obtain ⟨hopen, -, rfl⟩ := Outline.check_eq_ok_iff.1 h
  have hle : index ≤ source.classes.length := by
    unfold Text.classes
    rwa [List.length_map]
  have hr := Nesting.renamed_splice hle ha
  have hclasses : (Placement.splice source.lines index inserted).classes = _ :=
    Placement.map_classify_splice source index hfeed hne
  refine ⟨_, Outline.check_eq_ok_iff.2 ⟨?_, (declared_splice hfeed hne).nodup_iff.2 hnew, rfl⟩, ?_⟩
  · unfold Text.nesting
    rw [hclasses]
    exact hr.openPositions.trans (congrArg (List.map _) hopen)
  · unfold Text.nesting
    rw [List.length_map, List.length_map, hclasses]
    exact (congrArg List.length hr.strayClosings).trans (List.length_map _)

end Splice

namespace Editor

/-! One accepted edit. -/

section Accepted

variable {level : Level} {source result : Text} {warnings : List Finding}

theorem declared_addRelation {r : NewRelation} (h : addRelation source r = .ok result) :
    result.declared.Perm source.declared := by
  obtain ⟨hfeed, rfl⟩ := addRelation_lines h
  have hperm : (Placement.splice source.lines (Placement.relationIndex source.lines)
      [(trimmedRelation r).written]).declared.Perm
      (([(trimmedRelation r).written].map classify).filterMap Line.declared? ++ source.declared) :=
    declared_splice (List.forall_mem_singleton.2 hfeed) (List.cons_ne_nil _ _)
  rw [NewRelation.declared_written] at hperm
  exact hperm

theorem check_addRelation {r : NewRelation} (hcheck : (Outline.read source).check = .ok warnings)
    (h : addRelation source r = .ok result) :
    ∃ after, (Outline.read result).check = .ok after ∧ after.length = warnings.length := by
  obtain ⟨hfeed, rfl⟩ := addRelation_lines h
  refine check_splice (List.forall_mem_singleton.2 hfeed) (List.cons_ne_nil _ _) hcheck
    (Placement.relationIndex_le _) (NewRelation.adds_written _ _ _) ?_
  rw [NewRelation.declared_written, List.nil_append]
  exact (Outline.check_eq_ok_iff.1 hcheck).2.1

theorem mem_declared_addElement {e : NewElement} (h : addElement level source e = .ok result)
    {a : Text} :
    a ∈ result.declared ↔
      (∃ c, Call.ofArguments? e.kind.name (trimmedElement e).readBack e.kind.isBoundary = some c ∧
      c.aliasName = a) ∨ a ∈ source.declared := by
  obtain ⟨index, indent, -, -, hindent, hfeed, rfl⟩ := addElement_lines h
  rw [mem_declared_splice hfeed (NewElement.map_lines_ne_nil _ _), NewElement.declared?_lines _ hindent,
    Option.mem_toList, Option.map_eq_some_iff]
  rfl

theorem alias_not_declared {e : NewElement} (h : addElement level source e = .ok result) :
    (trimmedElement e).aliasName ∉ source.declared := by
  obtain ⟨-, -, -, -, hfresh⟩ := validateElement_eq_ok_iff.1 (addElement_eq_ok_iff.1 h).1
  rw [← Outline.containsAlias_read]
  exact Bool.eq_false_iff.1 hfresh

/-- The new text declares the alias of the element iff the printed call is read back with it. -/
theorem alias_declared_iff {e : NewElement} (h : addElement level source e = .ok result) :
    e.aliasName.trim ∈ result.declared ↔ (trimmedElement e).ReadsBack := by
  have ha := (validateElement_eq_ok_iff.1 (addElement_eq_ok_iff.1 h).1).1
  rw [mem_declared_addElement h, NewElement.readsBack_iff (ne_nil_of_isIdentifier ha)]
  exact or_iff_left (alias_not_declared h)

theorem check_addElement {e : NewElement} (hcheck : (Outline.read source).check = .ok warnings)
    (h : addElement level source e = .ok result) (hback : (trimmedElement e).ReadsBack) :
    ∃ after, (Outline.read result).check = .ok after ∧ after.length = warnings.length := by
  have ha := (validateElement_eq_ok_iff.1 (addElement_eq_ok_iff.1 h).1).1
  obtain ⟨c, hc, halias⟩ := (NewElement.readsBack_iff (ne_nil_of_isIdentifier ha)).1 hback
  obtain ⟨index, indent, -, hindex, hindent, hfeed, rfl⟩ := addElement_lines h
  have hblock := NewElement.map_classify_lines hindent hc
  have hrelation := ElementKind.isRelation_of_ofArguments? (k := e.kind) hc
  have hdeclared := NewElement.declared?_lines (trimmedElement e) hindent
  rw [hc] at hdeclared
  have hadds :=
    Nesting.adds_blockOf (Nesting.empty.run 0 (source.classes.take index)) index hrelation
  rw [← hblock] at hadds
  apply check_splice hfeed (NewElement.map_lines_ne_nil _ _) hcheck hindex hadds
  rw [hdeclared, Option.map_some, halias, Option.toList_some, List.singleton_append,
    List.nodup_cons]
  exact ⟨alias_not_declared h, (Outline.check_eq_ok_iff.1 hcheck).2.1⟩

theorem readsBack_of_quoteFree {e : NewElement} (h : addElement level source e = .ok result)
    (hq : e.Avoids '"') : (trimmedElement e).ReadsBack := by
  obtain ⟨ha, hlabel, -⟩ := validateElement_eq_ok_iff.1 (addElement_eq_ok_iff.1 h).1
  obtain ⟨halias, hresolve⟩ := NewElement.resolve_of_quoteFree (avoids_trimmedElement hq) ha
  refine ⟨halias, ?_⟩
  have htrim : (trimmedElement e).label.trim = e.label.trim := Text.trim_trim _
  rw [hresolve, htrim]
  exact withBackslashesDoubled_ne_nil hlabel

end Accepted

/-! Sessions. -/

def answer (level : Level) (source : Text) : Edit → Except EditError Text
  | .element e => addElement level source e
  | .relation r => addRelation source r

/-- The text after an edit. A rejected edit leaves it as it is. -/
def afterEdit (level : Level) (source : Text) (d : Edit) : Text :=
  match answer level source d with
  | .ok result => result
  | .error _ => source

def afterEdits (level : Level) (source : Text) (edits : List Edit) : Text :=
  edits.foldl (afterEdit level) source

def added? (level : Level) (source : Text) : Edit → Option NewElement
  | .element e => if (addElement level source e).isOk then some e else none
  | .relation _ => none

def addedElements (level : Level) (source : Text) : List Edit → List NewElement
  | [] => []
  | d :: ds => (added? level source d).toList ++ addedElements level (afterEdit level source d) ds

/-- After the session the check passes with so many warnings, and the alias of each element that
was added is declared. -/
structure KeepsClean (level : Level) (source : Text) (warnings : Nat) (edits : List Edit) :
    Prop where
  check : ∃ findings, (Outline.read (afterEdits level source edits)).check = .ok findings ∧
    findings.length = warnings
  declared : ∀ e ∈ addedElements level source edits,
    (Outline.read (afterEdits level source edits)).containsAlias e.aliasName.trim = true

section Session

variable {level : Level} {source : Text}

/-- An edit is rejected and changes nothing, or adds a relation, or adds an element. -/
theorem afterEdit_cases (level : Level) (source : Text) (d : Edit) :
    (afterEdit level source d = source ∧ added? level source d = none) ∨
    (∃ r, addRelation source r = .ok (afterEdit level source d) ∧ added? level source d = none) ∨
    ∃ e, addElement level source e = .ok (afterEdit level source d) ∧
      added? level source d = some e := by
  cases d with
  | element e =>
    cases h : addElement level source e with
    | error _ =>
      exact .inl ⟨by simp [afterEdit, answer, h], by simp [added?, h, Except.isOk, Except.toBool]⟩
    | ok result =>
      refine .inr (.inr ⟨e, ?_, by simp [added?, h, Except.isOk, Except.toBool]⟩)
      simp [afterEdit, answer, h]
  | relation r =>
    cases h : addRelation source r with
    | error _ => exact .inl ⟨by simp [afterEdit, answer, h], rfl⟩
    | ok result =>
      refine .inr (.inl ⟨r, ?_, rfl⟩)
      simp [afterEdit, answer, h]

theorem addElement_of_mem_added? {d : Edit} {e : NewElement} (he : e ∈ added? level source d) :
    addElement level source e = .ok (afterEdit level source d) := by
  rcases afterEdit_cases level source d with ⟨-, hnone⟩ | ⟨_, -, hnone⟩ | ⟨e', hadd, hsome⟩
  · rw [hnone] at he
    cases he
  · rw [hnone] at he
    cases he
  · rw [hsome] at he
    cases he
    exact hadd

theorem declared_afterEdit (level : Level) (source : Text) (d : Edit) :
    ∀ a ∈ source.declared, a ∈ (afterEdit level source d).declared := by
  intro a ha
  rcases afterEdit_cases level source d with ⟨h, -⟩ | ⟨r, h, -⟩ | ⟨e, h, -⟩
  · rwa [h]
  · exact (declared_addRelation h).mem_iff.2 ha
  · exact (mem_declared_addElement h).2 (.inr ha)

theorem declared_afterEdits (level : Level) (source : Text) (edits : List Edit) :
    ∀ a ∈ source.declared, a ∈ (afterEdits level source edits).declared := by
  induction edits generalizing source with
  | nil => exact fun a ha => ha
  | cons d ds ih =>
    intro a ha
    exact ih (afterEdit level source d) a (declared_afterEdit level source d a ha)

/-- What one edit keeps of a text that passes the check. -/
theorem keepsClean_singleton_iff {warnings : List Finding}
    (h : (Outline.read source).check = .ok warnings) (d : Edit) :
    KeepsClean level source warnings.length [d] ↔
      ∀ e ∈ added? level source d, (trimmedElement e).ReadsBack := by
  have hadded : addedElements level source [d] = (added? level source d).toList :=
    List.append_nil _
  refine ⟨fun hclean e he => ?_, fun hback => ⟨?_, fun e he => ?_⟩⟩
  · have hadd := addElement_of_mem_added? he
    refine (alias_declared_iff hadd).1 (Outline.containsAlias_read.1 (hclean.declared e ?_))
    rw [hadded]
    exact Option.mem_toList.2 he
  · change ∃ findings, (Outline.read (afterEdit level source d)).check = .ok findings ∧ _
    rcases afterEdit_cases level source d with ⟨hsame, -⟩ | ⟨r, hadd, -⟩ | ⟨e, hadd, hsome⟩
    · rw [hsame]
      exact ⟨warnings, h, rfl⟩
    · exact check_addRelation h hadd
    · exact check_addElement h hadd (hback e hsome)
  · rw [hadded, Option.mem_toList] at he
    have hadd := addElement_of_mem_added? he
    exact Outline.containsAlias_read.2 ((alias_declared_iff hadd).2 (hback e he))

/-- A session keeps the text clean if its first edit does and the rest of it does after that. -/
theorem keepsClean_cons {warnings : Nat} {d : Edit} {ds : List Edit}
    (hd : KeepsClean level source warnings [d])
    (hds : KeepsClean level (afterEdit level source d) warnings ds) :
    KeepsClean level source warnings (d :: ds) where
  check := hds.check
  declared e he := by
    rcases List.mem_append.1 he with he | he
    · have hmem := hd.declared e (List.mem_append_left _ he)
      rw [Outline.containsAlias_read] at hmem ⊢
      exact declared_afterEdits level (afterEdit level source d) ds _ hmem
    · exact hds.declared e he

theorem keepsClean_tail {warnings : Nat} {d : Edit} {ds : List Edit}
    (h : KeepsClean level source warnings (d :: ds)) :
    KeepsClean level (afterEdit level source d) warnings ds where
  check := h.check
  declared e he := h.declared e (List.mem_append_right _ he)

theorem keepsClean_nil {warnings : List Finding} (h : (Outline.read source).check = .ok warnings) :
    KeepsClean level source warnings.length [] :=
  ⟨⟨warnings, h, rfl⟩, fun _ he => absurd he List.not_mem_nil⟩

theorem keepsClean_take_iff {warnings : List Finding}
    (h : (Outline.read source).check = .ok warnings)
    (edits : List Edit) : (∀ n, KeepsClean level source warnings.length (edits.take n)) ↔
      ∀ e ∈ addedElements level source edits, (trimmedElement e).ReadsBack := by
  -- a prefix of the session is its first edit and a prefix of the rest on the text after that
  induction edits generalizing source warnings with
  | nil =>
    refine iff_of_true (fun n => ?_) fun e he => absurd he List.not_mem_nil
    rw [List.take_nil]
    exact keepsClean_nil h
  | cons d ds ih =>
    have hadded : addedElements level source (d :: ds) =
        (added? level source d).toList ++ addedElements level (afterEdit level source d) ds := rfl
    refine ⟨?_, ?_⟩
    · intro hall e he
      have hfirst : KeepsClean level source warnings.length [d] := hall 1
      obtain ⟨findings, hcheck, hlen⟩ := hfirst.check
      rw [hadded, List.mem_append] at he
      rcases he with he | he
      · exact (keepsClean_singleton_iff h d).1 hfirst e (Option.mem_toList.1 he)
      · refine (ih hcheck).1 (fun n => ?_) e he
        rw [hlen]
        exact keepsClean_tail (hall (n + 1))
    · intro hback n
      have hfirst : KeepsClean level source warnings.length [d] := by
        refine (keepsClean_singleton_iff h d).2 fun e he => hback e ?_
        rw [hadded]
        exact List.mem_append_left _ (Option.mem_toList.2 he)
      obtain ⟨findings, hcheck, hlen⟩ := hfirst.check
      cases n with
      | zero => exact keepsClean_nil h
      | succ n =>
        apply keepsClean_cons hfirst
        rw [← hlen]
        exact (ih hcheck).2 (fun e he => hback e (hadded ▸ List.mem_append_right _ he)) n

theorem exists_accepted {edits : List Edit} {e : NewElement}
    (he : e ∈ addedElements level source edits) :
    ∃ text result, addElement level text e = .ok result := by
  induction edits generalizing source with
  | nil => cases he
  | cons d ds ih =>
    rcases List.mem_append.1 he with he | he
    · exact ⟨_, _, addElement_of_mem_added? (Option.mem_toList.1 he)⟩
    · exact ih he

/-- A text that passes the check is kept clean by every prefix of a session iff each element
that the session adds is read back with its alias and some label. Without double quotes in its
values it is. -/
theorem session_clean_iff {warnings : List Finding} (h : (Outline.read source).check = .ok warnings)
    (edits : List Edit) :
    ((∀ n, KeepsClean level source warnings.length (edits.take n)) ↔
      ∀ e ∈ addedElements level source edits, (trimmedElement e).ReadsBack) ∧
    ∀ e ∈ addedElements level source edits, e.Avoids '"' → (trimmedElement e).ReadsBack := by
  refine ⟨keepsClean_take_iff h edits, fun e he hq => ?_⟩
  obtain ⟨text, result, hadd⟩ := exists_accepted he
  exact readsBack_of_quoteFree hadd hq

end Session

/-- A text with a stray block end, an element put into a boundary, a relation with quotes, and
an element whose label holds an alias of its own. -/
theorem session_clean_iff_with_warning :
    let source : Text := "Boundary(b, \"B\") \x7b\n\x7d\n\x7d\n".toList
    let edits : List Edit :=
      [.element ⟨.system, "s".toList, "S = 1, 2".toList, none, none, .boundary "b".toList⟩,
      .relation ⟨.rel, "s".toList, "b".toList, "\", $label=, \"".toList, none, none⟩,
      .element ⟨.systemBoundary, "u".toList, "\", $alias=v, \"".toList, none, none, .documentLevel⟩]
    ∃ warnings, (Outline.read source).check = .ok warnings ∧
      ((∀ n, KeepsClean .context source warnings.length (edits.take n)) ↔
        ∀ e ∈ addedElements .context source edits, (trimmedElement e).ReadsBack) ∧
      ∀ e ∈ addedElements .context source edits, e.Avoids '"' → (trimmedElement e).ReadsBack := by
  intro source edits
  have h : (Outline.read source).check = .ok (Outline.read source).lint := by decide +kernel
  exact ⟨_, h, session_clean_iff h edits⟩

/-- The label closes its quotes and gives an alias that is declared already. -/
theorem quoted_alias_breaks_check :
    (Outline.read "System(x, \"X\")".toList).check = .ok [] ∧
      ¬ KeepsClean .context "System(x, \"X\")".toList 0
        [.element
          ⟨.system, "u".toList, "\", $alias=x, \"".toList, none, none, .documentLevel⟩] := by
  refine ⟨by decide +kernel, fun h => ?_⟩
  obtain ⟨findings, hcheck, -⟩ := h.check
  have herror : (Outline.read (afterEdits .context "System(x, \"X\")".toList
      [.element ⟨.system, "u".toList, "\", $alias=x, \"".toList, none, none,
        .documentLevel⟩])).check.isOk = false := by
    decide +kernel
  rw [hcheck] at herror
  cases herror

end Editor
end C4Diagram
