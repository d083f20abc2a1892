import C4Diagram.Proofs.Edit.AddElement

/-! The printed call of an element, read as a line of its own. Every argument is named, and the
names differ, so each value without a double quote is found under its own name and nowhere else. -/

namespace C4Diagram

/-- What is read of a value that may be left out: nothing if it is blank, and else the trimmed value
with its backslashes doubled. -/
def readValue? (value : Option Text) : Option Text :=
  value.bind fun t => if t.all isBlank then none else some (withBackslashesDoubled t.trim)

theorem map_present? (value : Option Text) :
    (present? value).map withBackslashesDoubled = readValue? value := by
  cases value with
  | none => rfl
  | some t =>
    have hblank : t.trim.isEmpty = t.all isBlank := by
      rw [Bool.eq_iff_iff, List.isEmpty_iff, Text.trim_eq_nil_iff, List.all_eq_true]
    unfold present? readValue?
    rw [Option.map_some, Option.filter_some, hblank, Option.bind_some]
    cases t.all isBlank <;> rfl

theorem Arguments.value?_toList (positional : List Text) (key name : Text) (value : Option Text) :
    value? ⟨positional, (value.map fun v => (key, v)).toList⟩ name =
      if key = argumentKey name then value else none := by
  unfold value?
  cases value with
  | none => simp
  | some v => by_cases h : key = argumentKey name <;> simp [h]

theorem TechnologyArgument.key_eq_argumentKey_iff {a b : TechnologyArgument} :
    b.key = argumentKey a.written ↔ b = a := by
  cases a <;> cases b <;> decide

namespace NewElement

variable {e : NewElement}

/-- The arguments beside alias and label as they are read. -/
theorem map_furtherValues (h : e.Avoids '"') :
    (e.furtherValues.map fun p => (p.1.map lowerLetter, unquote p.2)) =
      (e.kind.technologyArgument.bind fun a =>
        (readValue? e.technology).map fun v => (a.key, v)).toList ++
      ((readValue? e.description).map fun v => ("descr".toList, v)).toList := by
  have hread {t : Option Text} (ht : ∀ v ∈ t, '"' ∉ v) {v : Text} (hv : v ∈ present? t) :
      unquote (quote v) = withBackslashesDoubled v := by
    obtain ⟨s, hs, rfl⟩ := mem_of_mem_present? hv
    rw [unquote_quote, escaped_of_quoteFree fun hm => ht s hs (Text.mem_of_mem_trim hm)]
  have hkey (a : TechnologyArgument) : a.key.map lowerLetter = a.key := by cases a <;> decide
  have hdescr : "descr".toList.map lowerLetter = "descr".toList := by decide
  unfold furtherValues
  rw [List.map_append, ← map_present?, ← map_present?]
  congr 1
  · cases e.kind.technologyArgument with
    | none => rfl
    | some a =>
      cases hv : present? e.technology with
      | none => rfl
      | some v => simp [hkey, hread h.technology hv]
  · cases hv : present? e.description with
    | none => rfl
    | some v => simp only [Option.toList_some, List.map_cons, List.map_nil, hread h.description hv,
        hdescr, Option.map_some]

/-- The value under a name that is neither the alias' nor the label's. -/
theorem value?_readBack (h : e.Avoids '"') (ha : isIdentifier e.aliasName = true) {name : Text}
    (hname : argumentKey name ≠ "alias".toList ∧ argumentKey name ≠ "label".toList) :
    e.readBack.value? name =
      (if "descr".toList = argumentKey name then readValue? e.description else none).or
        (e.kind.technologyArgument.bind fun a =>
          if a.key = argumentKey name then readValue? e.technology else none) := by
  have hfirst : Arguments.value? ⟨[], [("alias".toList, e.aliasName),
      ("label".toList, quote e.label.trim)].map fun p => (p.1.map lowerLetter, unquote p.2)⟩ name =
      none := by
    refine Arguments.value?_eq_none fun p hp => ?_
    rcases List.mem_cons.1 hp with rfl | hp
    · exact hname.1.symm
    · rw [List.mem_singleton.1 hp]
      exact hname.2.symm
  rw [readBack_of_quoteFree h ha, namedValues, List.map_append, Arguments.value?_append, hfirst,
    Option.or_none, map_furtherValues h, Arguments.value?_append, Arguments.value?_toList]
  congr 1
  cases e.kind.technologyArgument with
  | none => rfl
  | some a => exact Arguments.value?_toList [] a.key name _

/-- An element without double quotes in its values is printed as a call that is read back whole:
macro, alias, label and block, the technology under the name that the kind has for it, the
description, and no other argument without a name. -/
theorem classify_written_of_quoteFree (ha : isIdentifier e.aliasName = true)
    (hl : e.label.all isBlank = false) (h : e.Avoids '"') :
    ∃ c, classify e.written = .call c ∧ c.name = e.kind.name ∧ c.aliasName = e.aliasName ∧
      c.label = withBackslashesDoubled e.label.trim ∧ c.opensBlock = e.kind.isBoundary ∧
      c.isRelation = false ∧ c.arguments.positional = [] ∧
      (∀ a : TechnologyArgument, c.arguments.value? a.written =
        if e.kind.technologyArgument = some a then readValue? e.technology else none) ∧
      c.arguments.value? "descr".toList = readValue? e.description := by
  have htrim : e.label.trim ≠ [] := by
    rw [Ne, Text.trim_eq_nil_iff, ← List.all_eq_true, hl]
    exact Bool.false_ne_true
  have hclass := classify_written e fun c (hc : c ∈ ([] : Text)) => absurd hc List.not_mem_nil
  rw [List.nil_append, ofArguments?_of_quoteFree h ha htrim] at hclass
  refine ⟨_, hclass, rfl, rfl, rfl, rfl, e.kind.isRelationName_name, ?_, fun a => ?_, ?_⟩
  · exact congrArg Arguments.positional (readBack_of_quoteFree h ha)
  · have hnames : argumentKey a.written ≠ "alias".toList ∧ argumentKey a.written ≠ "label".toList ∧
        "descr".toList ≠ argumentKey a.written := by cases a <;> decide
    change e.readBack.value? a.written = _
    rw [value?_readBack h ha ⟨hnames.1, hnames.2.1⟩, if_neg hnames.2.2, Option.none_or]
    cases e.kind.technologyArgument with
    | none => rfl
    | some b => simp [TechnologyArgument.key_eq_argumentKey_iff]
  · have hnone : (e.kind.technologyArgument.bind fun a =>
        if a.key = argumentKey "descr".toList then readValue? e.technology else none) = none := by
      cases e.kind.technologyArgument with
      | none => rfl
      | some a => cases a <;> rfl
    change e.readBack.value? "descr".toList = _
    rw [value?_readBack h ha (by decide), hnone, if_pos (by decide), Option.or_none]

/-- The label looks like a further alias and the start of a block, and the description is blank. -/
theorem classify_written_of_quoteFree_punctuated :
    let e : NewElement :=
      ⟨.person, "u_1".toList, " a, $alias=b) \x7b = \\ ".toList, some "c, (d)".toList,
      some " \n".toList, .documentLevel⟩
    isIdentifier e.aliasName = true ∧ e.label.all isBlank = false ∧ e.Avoids '"' ∧
      ∃ c, classify e.written = .call c ∧ c.name = "Person".toList ∧ c.aliasName = "u_1".toList ∧
        c.label = "a, $alias=b) \x7b = \\\\".toList ∧ c.opensBlock = false ∧ c.isRelation = false ∧
        c.arguments.positional = [] ∧ c.arguments.value? "$type".toList = some "c, (d)".toList ∧
        c.arguments.value? "$techn".toList = none ∧ c.arguments.value? "descr".toList = none := by
  intro e
  have ha : isIdentifier e.aliasName = true := by decide +kernel
  have hl : e.label.all isBlank = false := by decide +kernel
  have hquote : e.Avoids '"' := ⟨by decide +kernel, by simp [e], by simp [e]⟩
  obtain ⟨c, hclass, hname, halias, hlabel, hopens, hrelation, hpositional, htech, hdescr⟩ :=
    classify_written_of_quoteFree ha hl hquote
  exact ⟨ha, hl, hquote, c, hclass, hname, halias, hlabel.trans (by decide +kernel), hopens,
    hrelation, hpositional, (htech .actorType).trans (by decide +kernel), htech .technology,
    hdescr.trans (by decide +kernel)⟩

end NewElement
end C4Diagram
