import C4Diagram.Proofs.Call.Bare
import C4Diagram.Proofs.Edit.AddRelation

/-! The ends of a relation, read back from its line. They are printed without quotes, and an end is
only asked to be an alias of the text, which may have stood in quotes there and hold anything. So
the line names the ends that were asked for, whatever the quoted values are, iff both ends can stand
without quotes. Where one cannot, a label of two commas brings it to light: if the ends leave a
quote open its commas separate arguments, and if not, the argument on lengths applies. -/

namespace C4Diagram

def Text.callArguments? (line : Text) : Option Arguments :=
  (callHead? line).bind fun head => (callTail? head.2).map fun tail => Arguments.read tail.1

namespace NewRelation

structure Avoids (c : Char) (r : NewRelation) : Prop where
  label : c ∉ r.label
  technology : ∀ t ∈ r.technology, c ∉ t
  description : ∀ d ∈ r.description, c ∉ d

/-- The arguments name the ends, and no argument is without a name. -/
structure NamedEnds (source target : Text) (arguments : Arguments) : Prop where
  positional : arguments.positional = []
  source : arguments.value? "from".toList = some source
  target : arguments.value? "to".toList = some target

structure NamedBy (r : NewRelation) (arguments : Arguments) : Prop
    extends NamedEnds r.source.trim r.target.trim arguments where
  label : arguments.value? "label".toList = some (withBackslashesDoubled r.label.trim)

theorem callArguments?_written (r : NewRelation) :
    r.written.callArguments? = some (Arguments.read (Text.join ", ".toList r.arguments)) := by
  have hhead := callHead?_printed (fun c (hc : c ∈ ([] : Text)) => absurd hc List.not_mem_nil)
    r.kind.isIdentifier_name (Text.join ", ".toList r.arguments ++ [')'])
  have hline : r.written =
      [] ++ (r.kind.name ++ '(' :: (Text.join ", ".toList r.arguments ++ [')'])) := by
    simp [written]
  rw [Text.callArguments?, hline, hhead, Option.bind_some, callTail?_leaf]
  rfl

/-! Bare ends are enough. -/

theorem Avoids.not_mem_trim {c : Char} {r : NewRelation} (h : r.Avoids c) {t : Text}
    (ht : t = r.label ∨ t ∈ r.technology ∨ t ∈ r.description) : c ∉ t.trim := by
  intro hc
  rcases ht with rfl | ht | ht
  · exact h.label (Text.mem_of_mem_trim hc)
  · exact h.technology t ht (Text.mem_of_mem_trim hc)
  · exact h.description t ht (Text.mem_of_mem_trim hc)

theorem Avoids.trimmed {c : Char} {r : NewRelation} (h : r.Avoids c) :
    (Editor.trimmedRelation r).Avoids c where
  label := h.not_mem_trim (.inl rfl)
  technology t ht := by
    obtain ⟨u, hu, rfl⟩ := Option.map_eq_some_iff.1 ht
    exact h.not_mem_trim (.inr (.inl hu))
  description t ht := by
    obtain ⟨u, hu, rfl⟩ := Option.map_eq_some_iff.1 ht
    exact h.not_mem_trim (.inr (.inr hu))

theorem read_arguments {r : NewRelation} (hsource : IsValue r.source) (htarget : IsValue r.target)
    (h : r.Avoids '"') : Arguments.read (Text.join ", ".toList r.arguments) =
      ⟨[], r.namedValues.map fun p => (p.1.map lowerLetter, unquote p.2)⟩ := by
  rw [arguments_eq]
  refine read_join_namedArgument fun p hp => ?_
  obtain ⟨hkey, hv | hv | ⟨t, hv, ht⟩⟩ := mem_namedValues hp
  · exact ⟨hkey, hv ▸ hsource⟩
  · exact ⟨hkey, hv ▸ htarget⟩
  · exact ⟨hkey, hv ▸ isValue_quote (h.not_mem_trim ht)⟩

/-- Technology and description are in the way of no other name. -/
theorem value?_namedValues (r : NewRelation) {name : Text}
    (hname : argumentKey name ≠ "techn".toList ∧ argumentKey name ≠ "descr".toList) :
    Arguments.value? ⟨[], r.namedValues.map fun p => (p.1.map lowerLetter, unquote p.2)⟩ name =
      Arguments.value? ⟨[], [("from".toList, unquote r.source), ("to".toList, unquote r.target),
        ("label".toList, escaped r.label.trim)]⟩ name := by
  have hnone (key : Text) (hkey : key.map lowerLetter ≠ argumentKey name) (vs : List Text) :
      Arguments.value? ⟨[], (vs.map fun v => (key, quote v)).map
        fun p => (p.1.map lowerLetter, unquote p.2)⟩ name = none := by
    refine Arguments.value?_eq_none fun p hp => ?_
    rw [List.map_map] at hp
    obtain ⟨v, -, rfl⟩ := List.mem_map.1 hp
    exact hkey
  unfold namedValues
  rw [List.map_append, List.map_append, Arguments.value?_append, Arguments.value?_append,
    hnone "descr".toList hname.2.symm, hnone "techn".toList hname.1.symm,
    Option.none_or, Option.none_or, ← unquote_quote]
  rfl

theorem namedBy_of_isBare {r : NewRelation} (hsource : IsBare r.source.trim)
    (htarget : IsBare r.target.trim) (hs : r.source.trim ≠ []) (ht : r.target.trim ≠ [])
    (h : r.Avoids '"') :
    r.NamedBy (Arguments.read (Text.join ", ".toList (Editor.trimmedRelation r).arguments)) := by
  rw [read_arguments (hsource.isValue (Text.isTrimmed_trim _) hs)
    (htarget.isValue (Text.isTrimmed_trim _) ht) h.trimmed]
  refine ⟨⟨rfl, ?_, ?_⟩, ?_⟩
  · rw [value?_namedValues _ (by decide)]
    exact congrArg some hsource.unquoted
  · rw [value?_namedValues _ (by decide)]
    exact congrArg some htarget.unquoted
  · rw [value?_namedValues _ (by decide)]
    change some (escaped r.label.trim.trim) = _
    rw [Text.trim_trim, escaped_of_quoteFree (h.not_mem_trim (.inl rfl))]

/-! A label of two commas. -/

def printedEnds (a b : Text) : Text :=
  namedArgument "$from".toList a ++ ',' :: ' ' :: namedArgument "$to".toList b

/-- The line goes on with a label of two commas. -/
def withCommas (a b : Text) : Text := printedEnds a b ++ ", $label=\",,\"".toList

variable {a b : Text}

theorem positional_not_mem {raw : Text} (h : (Arguments.read raw).positional = []) (v : Text) :
    Argument.positional v ∉ (splitArguments raw).map Argument.read := by
  intro hmem
  have hv : v ∈ (Arguments.read raw).positional := List.mem_filterMap.2 ⟨_, hmem, rfl⟩
  rw [h] at hv
  cases hv

/-- With an open quote the commas of the label stand outside quotes, and an empty argument is
between them. -/
theorem closed_of_positional (h : (Arguments.read (withCommas a b)).positional = []) :
    quotedAfter false (printedEnds a b) = false := by
  by_contra hopen
  rw [Bool.not_eq_false] at hopen
  have hsplit : splitArguments (withCommas a b) =
      (unquotedPieces ',' false (printedEnds a b ++ ", $label=\"".toList)).map Text.trim ++
        [[], ['"']] := by
    have hclosed : quotedAfter false (printedEnds a b ++ ", $label=\"".toList) = false := by
      rw [quotedAfter_append, hopen]
      rfl
    have happend := splitArguments_append hclosed ",\"".toList
    rw [List.append_assoc] at happend
    exact happend
  apply positional_not_mem h []
  rw [hsplit, List.map_append]
  exact List.mem_append_right _ List.mem_cons_self

theorem splitArguments_withCommas (h : quotedAfter false (printedEnds a b) = false) :
    splitArguments (withCommas a b) =
      (unquotedPieces ',' false (printedEnds a b)).map Text.trim ++ ["$label=\",,\"".toList] :=
  splitArguments_append h " $label=\",,\"".toList

theorem unquotedPieces_printedEnds (a b : Text) : ∃ w ws,
    unquotedPieces ',' false (a ++ ',' :: ' ' :: namedArgument "$to".toList b) = w :: ws ∧
      unquotedPieces ',' false (printedEnds a b) = ("$from=".toList ++ w) :: ws := by
  obtain ⟨w, ws, hpieces⟩ := List.exists_cons_of_ne_nil
    (unquotedPieces_ne_nil ',' false (a ++ ',' :: ' ' :: namedArgument "$to".toList b))
  refine ⟨w, ws, hpieces, ?_⟩
  have hname : Unsplit ',' false "$from=".toList := unsplit_of_not_mem (by decide)
  have happend := unquotedPieces_append_unsplit hname
    (a ++ ',' :: ' ' :: namedArgument "$to".toList b)
  rw [show quotedAfter false "$from=".toList = false by decide, hpieces] at happend
  exact happend

theorem named_of_positional (hclosed : quotedAfter false (printedEnds a b) = false)
    (h : (Arguments.read (withCommas a b)).positional = []) {x : Text}
    (hx : x ∈ unquotedPieces ',' false (printedEnds a b)) :
    ∃ k v, Argument.read x.trim = .named k v := by
  cases hread : Argument.read x.trim with
  | named k v => exact ⟨k, v, rfl⟩
  | positional v =>
    apply (positional_not_mem h v).elim
    rw [splitArguments_withCommas hclosed, ← hread]
    exact List.mem_map_of_mem (List.mem_append_left _ (List.mem_map_of_mem hx))

theorem exists_piece_of_value? (hclosed : quotedAfter false (printedEnds a b) = false)
    {name v : Text} (hname : argumentKey name ≠ "label".toList)
    (h : (Arguments.read (withCommas a b)).value? name = some v) :
    ∃ x ∈ unquotedPieces ',' false (printedEnds a b),
      Argument.read x.trim = .named (argumentKey name) v := by
  obtain ⟨argument, hmem, hnamed⟩ := List.mem_filterMap.1 (Arguments.mem_named_of_value? h)
  obtain ⟨written, hwritten, rfl⟩ := List.mem_map.1 hmem
  have hread : Argument.read written = .named (argumentKey name) v := by
    cases hread : Argument.read written with
    | positional _ => rw [hread] at hnamed; cases hnamed
    | named _ _ => rw [hread] at hnamed; cases hnamed; rfl
  rw [splitArguments_withCommas hclosed, List.mem_append] at hwritten
  rcases hwritten with hwritten | hwritten
  · obtain ⟨x, hx, rfl⟩ := List.mem_map.1 hwritten
    exact ⟨x, hx, hread⟩
  · have hlabel : Argument.read "$label=\",,\"".toList = .named "label".toList ",,".toList := by
      decide
    rw [List.mem_singleton.1 hwritten, hlabel, Argument.named.injEq] at hread
    exact absurd hread.1.symm hname

theorem read_trim_source (w : Text) : Argument.read (Text.trim (namedArgument "$from".toList w)) =
    .named "from".toList (unquote w.trimEnd) :=
  read_trim_namedArgument (show isIdentifier "from".toList = true by decide) w

theorem read_trim_target (w : Text) : Argument.read (Text.trim (namedArgument "$to".toList w)) =
    .named "to".toList (unquote w.trimEnd) :=
  read_trim_namedArgument (show isIdentifier "to".toList = true by decide) w

/-- The pieces of ends that are read back from the line. -/
theorem pieces_of_namedEnds (h : NamedEnds a b (Arguments.read (withCommas a b))) :
    unquotedPieces ',' false (a ++ ',' :: ' ' :: namedArgument "$to".toList b) =
        [a, ' ' :: namedArgument "$to".toList b] ∧
      unquotedPieces ',' false (printedEnds a b) =
        [namedArgument "$from".toList a, ' ' :: namedArgument "$to".toList b] := by
  obtain ⟨hpositional, hfrom, hto⟩ := h
  have hclosed := closed_of_positional hpositional
  obtain ⟨w, ws, hpieces, hends⟩ := unquotedPieces_printedEnds a b
  have hnamed : ∀ x ∈ ws, ∃ k v, Argument.read x.trim = .named k v := fun x hx =>
    named_of_positional hclosed hpositional (by rw [hends]; exact List.mem_cons_of_mem _ hx)
  have hfirst := exists_piece_of_value? hclosed (by decide) hfrom
  have hsecond := exists_piece_of_value? hclosed (by decide) hto
  have hread : Argument.read (Text.trim ("$from=".toList ++ w)) =
      .named "from".toList (unquote w.trimEnd) := read_trim_source w
  rw [hends] at hfirst hsecond
  simp only [List.exists_mem_cons_iff, hread] at hfirst hsecond
  have hb : ∃ x ∈ ws, Argument.read x.trim = .named "to".toList b := by
    rcases hsecond with hsecond | hsecond
    · cases hsecond
    · exact hsecond
  have ha : a.length ≤ w.length ∨
      ∃ x ∈ ws, ∃ other, other ≠ "to".toList ∧ Argument.read x.trim = .named other a := by
    rcases hfirst with hfirst | ⟨x, hx, hxa⟩
    · rw [Argument.named.injEq] at hfirst
      rw [← hfirst.2]
      exact .inl ((length_unquote_le _).trans (Text.dropEndWhile_isPrefix _ _).length_le)
    · exact .inr ⟨x, hx, _, by decide, hxa⟩
  obtain ⟨rfl, rfl⟩ := pieces_of_reads hpieces hnamed rfl hb ha
  exact ⟨hpieces, hends⟩

theorem unquote_of_namedEnds (ha : a.IsTrimmed) (hb : b.IsTrimmed)
    (h : NamedEnds a b (Arguments.read (withCommas a b))) : unquote a = a ∧ unquote b = b := by
  have hends := (pieces_of_namedEnds h).2
  have hclosed := closed_of_positional h.positional
  have hsource := read_trim_source a
  have htarget := read_trim_target b
  rw [Text.trimEnd_eq_of_isTrimmed ha] at hsource
  rw [Text.trimEnd_eq_of_isTrimmed hb, ← Text.trim_cons_blank (c := ' ') (by decide)] at htarget
  constructor
  · obtain ⟨x, hx, hread⟩ := exists_piece_of_value? hclosed (by decide) h.source
    rw [hends] at hx
    rcases List.mem_pair.1 hx with rfl | rfl
    · exact (Argument.named.inj (hsource.symm.trans hread)).2
    · exact absurd (Argument.named.inj (htarget.symm.trans hread)).1 (by decide)
  · obtain ⟨x, hx, hread⟩ := exists_piece_of_value? hclosed (by decide) h.target
    rw [hends] at hx
    rcases List.mem_pair.1 hx with rfl | rfl
    · exact absurd (Argument.named.inj (hsource.symm.trans hread)).1 (by decide)
    · exact (Argument.named.inj (htarget.symm.trans hread)).2

theorem sealed_of_namedEnds (h : NamedEnds a b (Arguments.read (withCommas a b))) :
    Sealed ',' a ∧ Sealed ',' b := by
  have hpieces := (pieces_of_namedEnds h).1
  have hclosed := closed_of_positional h.positional
  have hsource : Sealed ',' a :=
    ⟨unsplit_of_head_piece (p := []) (hpieces.trans (by rw [List.append_nil])),
      closed_of_head_piece hpieces⟩
  refine ⟨hsource, ?_, ?_⟩
  · rw [unquotedPieces_append hsource.unsplit hsource.closed, List.cons.injEq] at hpieces
    have hunsplit : Unsplit ',' false (" $to=".toList ++ b) :=
      unsplit_of_head_piece (t := []) (p := []) (by
        rw [List.append_nil]
        exact hpieces.2)
    exact (unsplit_append.1 hunsplit).2
  · have hline : printedEnds a b = "$from=".toList ++ (a ++ (", $to=".toList ++ b)) := by
      simp [printedEnds, namedArgument]
    have hname : quotedAfter false "$from=".toList = false := by decide
    rw [hline, quotedAfter_append, quotedAfter_append, quotedAfter_append, hname,
      hsource.closed] at hclosed
    exact hclosed

/-- Ends that are read back from the line are bare. -/
theorem isBare_of_namedEnds (ha : a.IsTrimmed) (hb : b.IsTrimmed)
    (h : NamedEnds a b (Arguments.read (withCommas a b))) : IsBare a ∧ IsBare b := by
  obtain ⟨hsource, htarget⟩ := sealed_of_namedEnds h
  obtain ⟨hunquoted, hunquoted'⟩ := unquote_of_namedEnds ha hb h
  exact ⟨⟨hsource, hunquoted⟩, ⟨htarget, hunquoted'⟩⟩

def labelledByCommas (r : NewRelation) : NewRelation :=
  { r with label := ",,".toList, technology := none, description := none }

theorem avoids_labelledByCommas (r : NewRelation) : r.labelledByCommas.Avoids '"' where
  label := show '"' ∉ ",,".toList by decide
  technology _ ht := by cases ht
  description _ hd := by cases hd

theorem join_arguments_labelledByCommas (r : NewRelation) :
    Text.join ", ".toList (Editor.trimmedRelation r.labelledByCommas).arguments =
      withCommas r.source.trim r.target.trim := by
  have harguments : (Editor.trimmedRelation r.labelledByCommas).arguments =
      [namedArgument "$from".toList r.source.trim, namedArgument "$to".toList r.target.trim,
        "$label=\",,\"".toList] := rfl
  rw [harguments]
  simp [withCommas, printedEnds, Text.join]

end NewRelation

namespace Editor

open NewRelation

/-- The line that the relation adds to the text names what was asked for. -/
def NamesEnds (source : Text) (r : NewRelation) (result : Text) : Prop :=
  let index := Placement.relationIndex source.lines
  ∃ line arguments,
    result.rawLines = source.lines.take index ++ [line] ++ source.lines.drop index ∧
      line.callArguments? = some arguments ∧ r.NamedBy arguments

theorem namesEnds_iff {source result : Text} {r : NewRelation}
    (h : addRelation source r = .ok result) : NamesEnds source r result ↔
      r.NamedBy (Arguments.read (Text.join ", ".toList (trimmedRelation r).arguments)) := by
  obtain ⟨hfeed, rfl⟩ := addRelation_lines h
  set index := Placement.relationIndex source.lines
  have hlines : (Placement.splice source.lines index [(trimmedRelation r).written]).rawLines = _ :=
    Placement.rawLines_splice source (List.forall_mem_singleton.2 hfeed) (List.cons_ne_nil _ _)
  refine ⟨fun hnames => ?_, fun hnamed => ⟨_, _, hlines, callArguments?_written _, hnamed⟩⟩
  obtain ⟨line, arguments, hresult, hread, hnamed⟩ := hnames
  rw [hlines] at hresult
  obtain rfl := List.singleton_inj.1 (List.append_cancel_left (List.append_cancel_right hresult))
  rw [callArguments?_written, Option.some.injEq] at hread
  rwa [hread]

/-- The ends do not change what else a relation may hold. -/
theorem exists_addRelation_labelledByCommas {source result : Text} {r : NewRelation}
    (h : addRelation source r = .ok result) :
    ∃ result', addRelation source r.labelledByCommas = .ok result' := by
  obtain ⟨hvalid, -⟩ := addRelation_eq_ok_iff.1 h
  obtain ⟨hs, ht, -, -, hsource, htarget⟩ := validateRelation_eq_ok_iff.1 hvalid
  refine ⟨_, addRelation_eq_ok_iff.2 ⟨validateRelation_eq_ok_iff.2 ?_, rfl⟩⟩
  exact ⟨hs, ht, show ",,".toList ≠ [] by decide,
    show oneLineEach ",,".toList none none = .ok () by decide, hsource, htarget⟩

/-- The ends of an accepted relation are named by its line, whatever values without double quotes
come with them, iff they can stand without quotes. -/
theorem addRelation_namesEnds_iff {source result : Text} {r : NewRelation}
    (h : addRelation source r = .ok result) :
    (∀ r' result', r'.source.trim = r.source.trim → r'.target.trim = r.target.trim →
      r'.Avoids '"' → addRelation source r' = .ok result' → NamesEnds source r' result') ↔
      IsBare r.source.trim ∧ IsBare r.target.trim := by
  obtain ⟨hvalid, -⟩ := addRelation_eq_ok_iff.1 h
  obtain ⟨hs, ht, -⟩ := validateRelation_eq_ok_iff.1 hvalid
  refine ⟨fun hall => ?_, fun hbare r' result' hsource htarget hquote haccepted => ?_⟩
  · obtain ⟨result', hresult⟩ := exists_addRelation_labelledByCommas h
    have hnames := hall r.labelledByCommas result' rfl rfl r.avoids_labelledByCommas hresult
    rw [namesEnds_iff hresult, join_arguments_labelledByCommas] at hnames
    exact isBare_of_namedEnds (Text.isTrimmed_trim _) (Text.isTrimmed_trim _) hnames.toNamedEnds
  · rw [namesEnds_iff haccepted]
    rw [← hsource, ← htarget] at hbare
    exact namedBy_of_isBare hbare.1 hbare.2 (hsource ▸ hs) (htarget ▸ ht) hquote

/-- A comma in quotes within the alias separates nothing. -/
theorem addRelation_namesEnds_iff_inner_quotes :
    let source : Text := "System($alias=x \"y, z\", $label=\"L\")".toList
    let r : NewRelation :=
      ⟨.rel, " x \"y, z\" ".toList, "x \"y, z\"".toList, "u".toList, none, none⟩
    ∃ result, addRelation source r = .ok result ∧ IsBare r.source.trim ∧ IsBare r.target.trim ∧
      ∀ r' result', r'.source.trim = r.source.trim → r'.target.trim = r.target.trim →
        r'.Avoids '"' → addRelation source r' = .ok result' → NamesEnds source r' result' := by
  intro source r
  have haccepted : addRelation source r = .ok ("System($alias=x \"y, z\", $label=\"L\")\n".toList ++
      "Rel($from=x \"y, z\", $to=x \"y, z\", $label=\"u\")".toList) := by decide +kernel
  have hbare : IsBare "x \"y, z\"".toList := by
    refine ⟨sealed_append (s := "x ".toList) ?_ ?_, by decide⟩
    · exact sealed_of_not_mem (by decide) (by decide)
    · exact sealed_quoted (t := "y, z".toList) (by decide) (by decide)
  have hsource : r.source.trim = "x \"y, z\"".toList := by decide +kernel
  have htarget : r.target.trim = "x \"y, z\"".toList := by decide +kernel
  have hends : IsBare r.source.trim ∧ IsBare r.target.trim := by
    rw [hsource, htarget]
    exact ⟨hbare, hbare⟩
  exact ⟨_, haccepted, hends.1, hends.2, (addRelation_namesEnds_iff haccepted).2 hends⟩

/-- An alias that stood in quotes is split at its comma, and half of it is an argument without a
name. -/
theorem quoted_alias_splits_ends :
    let source : Text := "System(\"a, b\", \"L\")".toList
    let r : NewRelation := ⟨.rel, "a, b".toList, "a, b".toList, "x".toList, none, none⟩
    let result : Text :=
      "System(\"a, b\", \"L\")\nRel($from=a, b, $to=a, b, $label=\"x\")".toList
    r.Avoids '"' ∧ addRelation source r = .ok result ∧ ¬ NamesEnds source r result := by
  intro source r result
  have hquote : r.Avoids '"' := ⟨by decide +kernel, by simp [r], by simp [r]⟩
  have haccepted : addRelation source r = .ok result := by decide +kernel
  refine ⟨hquote, haccepted, fun hnames => ?_⟩
  have hpositional := ((namesEnds_iff haccepted).1 hnames).positional
  have hread : (Arguments.read (Text.join ", ".toList (trimmedRelation r).arguments)).positional =
      ["b".toList, "b".toList] := by decide +kernel
  rw [hread] at hpositional
  cases hpositional

end Editor
end C4Diagram
