import C4Diagram.Proofs.Call.Shape
import C4Diagram.Proofs.Text.Search

/-! Argument lists are read as they were meant, whatever the values hold but double quotes, with or
without names, and with any blanks around commas and equals signs. Quotes keep a value together
through both splits, at commas and at the equals sign, and only the blanks outside them are dropped.
Names agree if their forms in lower case do, by any rule that does for letters beyond ASCII what the
standard one does. -/

namespace C4Diagram

/-! Lower case. -/

/-- The lower-case form of a text. A to Z and the Kelvin sign become the small letters of ASCII, and
the rest of ASCII stays. What any other character becomes may be several characters and depend on
those around it, but it is never ASCII as a whole. -/
inductive LowersTo : Text → Text → Prop
  | nil : LowersTo [] []
  | ascii {c : Char} {t u : Text} : c.toNat < 128 → LowersTo t u →
    LowersTo (c :: t) (c.toLower :: u)
  | kelvin {t u : Text} : LowersTo t u → LowersTo ('\u212A' :: t) ('k' :: u)
  | beyond {c : Char} {low t u : Text} : 128 ≤ c.toNat → c ≠ '\u212A' → (∃ d ∈ low, 128 ≤ d.toNat) →
    LowersTo t u → LowersTo (c :: t) (low ++ u)

def IsAscii (t : Text) : Prop := ∀ c ∈ t, c.toNat < 128

theorem isAscii_cons {c : Char} {t : Text} : IsAscii (c :: t) ↔ c.toNat < 128 ∧ IsAscii t :=
  List.forall_mem_cons

theorem toLower_of_beyond {c : Char} (h : 128 ≤ c.toNat) : c.toLower = c := by
  refine dif_neg fun hupper => ?_
  have hle : c.toNat ≤ 90 := UInt32.le_iff_toNat_le.1 hupper.2
  omega

theorem lowerLetter_of_ne {c : Char} (h : c ≠ '\u212A') : lowerLetter c = c.toLower := if_neg h

theorem ne_kelvin_of_ascii {c : Char} (h : c.toNat < 128) : c ≠ '\u212A' := by
  rintro rfl
  exact absurd h (by decide)

/-- Lower-casing letter by letter gives a text in ASCII iff the full rule does, and then both give
the same text. -/
theorem LowersTo.ascii_iff {t u : Text} (h : LowersTo t u) :
    (IsAscii u ↔ IsAscii (t.map lowerLetter)) ∧ (IsAscii u → u = t.map lowerLetter) := by
  induction h with
  | nil => exact ⟨Iff.rfl, fun _ => rfl⟩
  | ascii hc _ ih =>
    rw [List.map_cons, lowerLetter_of_ne (ne_kelvin_of_ascii hc), isAscii_cons, isAscii_cons]
    exact ⟨and_congr_right fun _ => ih.1, fun hu => congrArg _ (ih.2 hu.2)⟩
  | kelvin _ ih =>
    rw [List.map_cons, show lowerLetter '\u212A' = 'k' from rfl, isAscii_cons, isAscii_cons]
    exact ⟨and_congr_right fun _ => ih.1, fun hu => congrArg _ (ih.2 hu.2)⟩
  | @beyond c low _ u hc hk hlow _ ih =>
    obtain ⟨d, hd, hbeyond⟩ := hlow
    have hu : ¬ IsAscii (low ++ u) := fun hu =>
      absurd (hu d (List.mem_append_left _ hd)) hbeyond.not_gt
    rw [List.map_cons, lowerLetter_of_ne hk, toLower_of_beyond hc, isAscii_cons]
    exact ⟨iff_of_false hu fun ht => absurd ht.1 hc.not_gt, fun h => absurd h hu⟩

theorem isAscii_lowered_of_isIdentifier {t : Text} (h : isIdentifier t = true) :
    IsAscii (t.map lowerLetter) := by
  intro c hc
  obtain ⟨d, hd, rfl⟩ := List.mem_map.1 hc
  have hle := (isIdentifierChar_toNat (List.all_eq_true.1 (all_isIdentifierChar h) d hd)).2
  have hd : d.toNat < 128 := by omega
  rw [lowerLetter_of_ne (ne_kelvin_of_ascii hd)]
  exact Text.toNat_toLower_lt hd

/-- The keys of two names agree iff their lower-case forms do. -/
theorem lowersTo_eq_iff {s t u w : Text} (hs : isIdentifier s = true) (hu : LowersTo s u)
    (hw : LowersTo t w) : u = w ↔ s.map lowerLetter = t.map lowerLetter := by
  have hsu : u = s.map lowerLetter :=
    hu.ascii_iff.2 (hu.ascii_iff.1.2 (isAscii_lowered_of_isIdentifier hs))
  constructor
  · rintro rfl
    rw [← hsu]
    exact hw.ascii_iff.2 (by rw [hsu]; exact isAscii_lowered_of_isIdentifier hs)
  · intro he
    have hascii : IsAscii (t.map lowerLetter) := he ▸ isAscii_lowered_of_isIdentifier hs
    rw [hsu, he, hw.ascii_iff.2 (hw.ascii_iff.1.2 hascii)]

/-- Lower-casing letter by letter is one such rule. -/
theorem lowersTo_letters (t : Text) : LowersTo t (t.map lowerLetter) := by
  induction t with
  | nil => exact .nil
  | cons c t ih =>
    rw [List.map_cons]
    by_cases hk : c = '\u212A'
    · subst hk
      exact .kelvin ih
    · rw [lowerLetter_of_ne hk]
      rcases Nat.lt_or_ge c.toNat 128 with hc | hc
      · exact .ascii hc ih
      · rw [toLower_of_beyond hc]
        exact .beyond hc hk ⟨c, List.mem_singleton_self c, hc⟩ ih

/-! Arguments as they are written. -/

/-- A name and the equals sign behind it, with a dollar sign in front or not. -/
structure WrittenName where
  dollar : Bool
  name : Text
  beforeSign : Text
  afterSign : Text
  isIdentifier : isIdentifier name = true
  blank_beforeSign : ∀ c ∈ beforeSign, isBlank c = true
  blank_afterSign : ∀ c ∈ afterSign, isBlank c = true

/-- A value in double quotes, behind its name if it has one, between blanks. -/
structure WrittenArgument where
  before : Text
  name : Option WrittenName
  value : Text
  behind : Text
  blank_before : ∀ c ∈ before, isBlank c = true
  quoteFree : '"' ∉ value
  blank_behind : ∀ c ∈ behind, isBlank c = true

namespace WrittenName

def marked (w : WrittenName) : Text := if w.dollar then '$' :: w.name else w.name

def text (w : WrittenName) : Text := w.marked ++ (w.beforeSign ++ '=' :: w.afterSign)

end WrittenName

namespace WrittenArgument

def core (a : WrittenArgument) : Text := a.name.elim [] WrittenName.text ++ ('"' :: a.value ++ ['"'])

def text (a : WrittenArgument) : Text := a.before ++ (a.core ++ a.behind)

def listText (as : List WrittenArgument) : Text := Text.join [','] (as.map text)

def positionalValues (as : List WrittenArgument) : List Text :=
  (as.filter fun a => a.name.isNone).map value

/-- The value of the last argument whose name is the given one in lower case, where the given one is
trimmed and loses one dollar sign in front. -/
def lastNamed (lower : Text → Text) (as : List WrittenArgument) (name : Text) : Option Text :=
  ((as.filter fun a =>
    a.name.any fun w => lower w.name == lower (name.trim.dropLeading '$')).getLast?).map value

end WrittenArgument

/-! Reading one argument. -/

theorem sealed_blanks {sep : Char} (hsep : isBlank sep = false) {t : Text}
    (h : ∀ c ∈ t, isBlank c = true) : Sealed sep t :=
  sealed_of_not_mem (not_mem_blanks hsep h) (not_mem_blanks rfl h)

theorem unquote_blanks_append {s : Text} (h : ∀ c ∈ s, isBlank c = true) (t : Text) :
    unquote (s ++ t) = unquote t := by
  unfold unquote
  rw [Text.trim_append_of_all h]

namespace WrittenName

variable (w : WrittenName)

theorem dropLeading_marked : Text.dropLeading '$' w.marked = w.name := by
  have hdollar := not_mem_of_isIdentifier (c := '$') w.isIdentifier rfl
  unfold marked
  split
  · rfl
  · cases hname : w.name with
    | nil => rfl
    | cons c r =>
      rw [hname, List.mem_cons, not_or] at hdollar
      exact if_neg (Ne.symm hdollar.1)

theorem isTrimmed_marked : w.marked.IsTrimmed := by
  unfold marked
  split
  · exact isTrimmed_dollar w.isIdentifier
  · exact isTrimmed_of_isIdentifier w.isIdentifier

theorem marked_ne_nil : w.marked ≠ [] := by
  unfold marked
  split
  · exact List.cons_ne_nil _ _
  · exact ne_nil_of_isIdentifier w.isIdentifier

theorem sealed_marked {sep : Char} (hd : sep ≠ '$') (hsep : isIdentifierChar sep = false) :
    Sealed sep w.marked := by
  unfold marked
  split
  · exact sealed_name w.isIdentifier hd hsep
  · exact sealed_of_not_mem (not_mem_of_isIdentifier w.isIdentifier hsep)
      (not_mem_of_isIdentifier w.isIdentifier rfl)

theorem sealed_text : Sealed ',' w.text := by
  have hsign : Sealed ',' ['='] := sealed_of_not_mem (by decide) (by decide)
  exact sealed_append (w.sealed_marked (by decide) rfl) (sealed_append
    (sealed_blanks rfl w.blank_beforeSign) (sealed_append hsign (sealed_blanks rfl w.blank_afterSign)))

/-- What stands behind the name is its value, however it is written. -/
theorem read_text_append (value : Text) :
    Argument.read (w.text ++ value) = .named (w.name.map lowerLetter) (unquote value) := by
  have hname : (w.marked ++ w.beforeSign).trim.dropLeading '$' = w.name := by
    rw [Text.trim_append_blanks w.blank_beforeSign, Text.trim_eq_of_isTrimmed w.isTrimmed_marked,
      w.dropLeading_marked]
  have hsealed : Sealed '=' (w.marked ++ w.beforeSign) :=
    sealed_append (w.sealed_marked (by decide) rfl) (sealed_blanks rfl w.blank_beforeSign)
  have htext : w.text ++ value = (w.marked ++ w.beforeSign) ++ '=' :: (w.afterSign ++ value) := by
    simp [text]
  rw [htext, read_append_sign hsealed (by rw [hname]; exact w.isIdentifier), argumentKey, hname,
    unquote_blanks_append w.blank_afterSign]

end WrittenName

namespace WrittenArgument

variable (a : WrittenArgument)

def meaning : Argument :=
  a.name.elim (.positional a.value) fun w => .named (w.name.map lowerLetter) a.value

theorem isTrimmed_core : a.core.IsTrimmed := by
  unfold core
  cases a.name with
  | none => exact isTrimmed_quoted a.value
  | some w =>
    obtain ⟨c, r, hc⟩ := List.exists_cons_of_ne_nil w.marked_ne_nil
    have hfirst : ∃ c, w.marked.head? = some c ∧ isBlank c = false :=
      ⟨c, by rw [hc]; rfl, w.isTrimmed_marked.first (by rw [hc]; rfl)⟩
    have hlast : ∃ c, ('"' :: a.value ++ ['"']).getLast? = some c ∧ isBlank c = false :=
      ⟨'"', List.getLast?_concat, rfl⟩
    exact Text.isTrimmed_append hfirst hlast

theorem trim_text : a.text.trim = a.core := by
  rw [text, Text.trim_append_of_all a.blank_before, Text.trim_append_blanks a.blank_behind,
    Text.trim_eq_of_isTrimmed a.isTrimmed_core]

theorem core_ne_nil : a.core ≠ [] := by simp [core]

theorem sealed_text : Sealed ',' a.text := by
  have hquoted : Sealed ',' ('"' :: a.value ++ ['"']) := sealed_quoted (by decide) a.quoteFree
  have hcore : Sealed ',' a.core := by
    unfold core
    cases a.name with
    | none => exact hquoted
    | some w => exact sealed_append w.sealed_text hquoted
  exact sealed_append (sealed_blanks rfl a.blank_before)
    (sealed_append hcore (sealed_blanks rfl a.blank_behind))

theorem read_core : Argument.read a.core = a.meaning := by
  unfold core meaning
  cases a.name with
  | none =>
    have hsealed : Sealed '=' ('"' :: a.value ++ ['"']) := sealed_quoted (by decide) a.quoteFree
    unfold Argument.read
    rw [Option.elim_none, List.nil_append, splitUnquoted?_of_unsplit hsealed.unsplit]
    exact congrArg _ (unquote_quoted a.value)
  | some w =>
    have h := w.read_text_append ('"' :: a.value ++ ['"'])
    rwa [unquote_quoted] at h

/-- The list is read as what its arguments are meant as, one by one. -/
theorem read_listText (as : List WrittenArgument) :
    Arguments.read (listText as) = .ofList (as.map meaning) := by
  have hsplit : splitArguments (listText as) = as.map core := by
    have hargs : ∀ t ∈ as.map text, Sealed ',' t ∧ t.trim ≠ [] := by
      intro t ht
      obtain ⟨a, -, rfl⟩ := List.mem_map.1 ht
      exact ⟨a.sealed_text, by rw [a.trim_text]; exact a.core_ne_nil⟩
    rw [listText, splitArguments_join hargs, List.map_map]
    exact List.map_congr_left fun a _ => a.trim_text
  rw [Arguments.read, hsplit, List.map_map]
  exact congrArg _ (List.map_congr_left fun a _ => a.read_core)

/-! Looking up what was read. -/

theorem positional_ofList_meaning (as : List WrittenArgument) :
    (Arguments.ofList (as.map meaning)).positional = positionalValues as := by
  unfold Arguments.ofList positionalValues
  induction as with
  | nil => rfl
  | cons a as ih =>
    rw [List.map_cons, List.filterMap_cons, List.filter_cons]
    cases hname : a.name with
    | none => simpa [meaning, hname, Argument.positional?] using ih
    | some w => simpa [meaning, hname, Argument.positional?] using ih

variable {lower : Text → Text}

/-- A name is looked up by its lower-case form. -/
theorem key_eq_iff (hlower : ∀ t, LowersTo t (lower t)) (w : WrittenName) (name : Text) :
    w.name.map lowerLetter = argumentKey name ↔
      lower w.name = lower (name.trim.dropLeading '$') :=
  (lowersTo_eq_iff w.isIdentifier (hlower _) (hlower _)).symm

theorem value?_ofList_meaning (hlower : ∀ t, LowersTo t (lower t)) (as : List WrittenArgument)
    (name : Text) :
    (Arguments.ofList (as.map meaning)).value? name = lastNamed lower as name := by
  have hnamed (a : WrittenArgument) :
      (a.meaning.named?).any (fun e => e.1 == argumentKey name) =
        a.name.any fun w => lower w.name == lower (name.trim.dropLeading '$') := by
    unfold meaning
    cases a.name with
    | none => rfl
    | some w =>
      rw [Bool.eq_iff_iff]
      exact (beq_iff_eq.trans (key_eq_iff hlower w name)).trans beq_iff_eq.symm
  have hentries : (Arguments.ofList (as.map meaning)).named =
      as.filterMap fun a => a.meaning.named? := List.filterMap_map
  rw [Arguments.value?, hentries, ← List.filterMap_reverse, List.find?_filterMap, lastNamed,
    List.getLast?_filter]
  simp only [hnamed]
  cases hlast : as.reverse.find? fun a =>
      a.name.any fun w => lower w.name == lower (name.trim.dropLeading '$') with
  | none => rfl
  | some a =>
    have hfound := List.find?_some hlast
    cases hname : a.name with
    | none =>
      rw [hname] at hfound
      cases hfound
    | some w => simp [meaning, hname, Argument.named?]

/-- A list of arguments decodes to its values: those without a name in order, and under each name,
in any case and with or without a dollar sign, the one that was given last. -/
theorem listText_decodes (as : List WrittenArgument) (hlower : ∀ t, LowersTo t (lower t)) :
    let args := Arguments.read (listText as)
    args.positional = positionalValues as ∧
      (∀ name, args.value? name = lastNamed lower as name) ∧
      ∀ name position, args.resolve name position =
        (lastNamed lower as name).getD ((positionalValues as).getD position []) := by
  intro args
  have hargs : args = .ofList (as.map meaning) := read_listText as
  have hpositional : args.positional = positionalValues as := by
    rw [hargs, positional_ofList_meaning]
  have hvalue (name : Text) : args.value? name = lastNamed lower as name := by
    rw [hargs, value?_ofList_meaning hlower]
  refine ⟨hpositional, hvalue, fun name position => ?_⟩
  rw [Arguments.resolve, hvalue, hpositional]

/-- A name given twice, the second time in capitals, and looked up with a Kelvin sign; commas, an
equals sign and blanks inside the quotes, and an empty value at the end. -/
theorem listText_decodes_repeated_name :
    let as : List WrittenArgument :=
      [⟨[' '], none, "a, b".toList, [' '], List.all_eq_true.1 rfl, by decide, List.all_eq_true.1 rfl⟩,
        ⟨[], some ⟨false, "kind".toList, [' '], ['\t'], by decide, List.all_eq_true.1 rfl,
            List.all_eq_true.1 rfl⟩, "x=1".toList, [], nofun, by decide, nofun⟩,
        ⟨[], some ⟨true, "KIND".toList, [], [], by decide, nofun, nofun⟩, " last ".toList, [' '],
          nofun, by decide, List.all_eq_true.1 rfl⟩,
        ⟨[], none, [], [], nofun, nofun, nofun⟩]
    let args := Arguments.read (listText as)
    listText as = " \"a, b\" ,kind =\t\"x=1\",$KIND=\" last \" ,\"\"".toList ∧
      (∀ t, LowersTo t (t.map lowerLetter)) ∧ args.positional = ["a, b".toList, []] ∧
      args.value? " $\u212Aind".toList = some " last ".toList ∧ args.value? "techn".toList = none ∧
      args.resolve "label".toList 1 = [] ∧ args.resolve "kind".toList 0 = " last ".toList := by
  intro as args
  obtain ⟨hpositional, hvalue, hresolve⟩ := listText_decodes as lowersTo_letters
  refine ⟨by decide, lowersTo_letters, hpositional, ?_, ?_, ?_, ?_⟩
  · exact (hvalue _).trans (by decide)
  · exact (hvalue _).trans (by decide)
  · exact (hresolve _ _).trans (by decide)
  · exact (hresolve _ _).trans (by decide)

end WrittenArgument
end C4Diagram
