import C4Diagram.Proofs.Text.Lines
import C4Diagram.Proofs.Text.Search

/-! A carriage return in front of every line feed. All raw lines but the last then end in a carriage
return, the lines are the same, and a word without line ends stands where it stood. -/

namespace C4Diagram
namespace Text

/-- The text with a carriage return in front of every line feed. -/
def withReturns (t : Text) : Text := t.flatMap fun c => if c = '\n' then ['\r', '\n'] else [c]

def returned : List Text → List Text
  | [] => []
  | [l] => [l]
  | l :: ls => (l ++ ['\r']) :: returned ls

theorem withReturns_lineFeed (r : Text) :
    withReturns ('\n' :: r) = '\r' :: '\n' :: withReturns r := rfl

theorem withReturns_cons {c : Char} (hc : c ≠ '\n') (r : Text) :
    withReturns (c :: r) = c :: withReturns r := by
  simp [withReturns, hc]

theorem returned_cons (l : Text) {ls : List Text} (h : ls ≠ []) :
    returned (l :: ls) = (l ++ ['\r']) :: returned ls := by
  cases ls with
  | nil => exact absurd rfl h
  | cons m ms => rfl

theorem rawLines_withReturns (t : Text) : t.withReturns.rawLines = returned t.rawLines := by
  induction t with
  | nil => rfl
  | cons c r ih =>
    by_cases hc : c = '\n'
    · subst hc
      rw [withReturns_lineFeed, rawLines_cons (by decide) (rawLines_lineFeed _),
        rawLines_lineFeed, returned_cons _ (rawLines_ne_nil r), ih]
      rfl
    · obtain ⟨l, ls, hr⟩ := exists_rawLines r
      rw [hr] at ih
      rw [withReturns_cons hc, rawLines_cons hc hr]
      cases ls with
      | nil => exact rawLines_cons hc ih
      | cons m ms => exact rawLines_cons hc ih

/-- What takes the carriage returns off takes the added one off, too. -/
theorem map_returned {f : Text → Text} {ls : List Text} (h : ∀ l ∈ ls, f (l ++ ['\r']) = f l) :
    (returned ls).map f = ls.map f := by
  induction ls with
  | nil => rfl
  | cons l ls ih =>
    by_cases hls : ls = []
    · subst hls
      rfl
    · rw [returned_cons l hls, List.map_cons, List.map_cons, h l List.mem_cons_self,
        ih fun m hm => h m (List.mem_cons_of_mem _ hm)]

theorem withoutReturn_concat (l : Text) : (l ++ ['\r']).withoutReturn = l := by
  rw [withoutReturn, beforeLast?_concat, if_pos rfl, Option.getD_some]

theorem lines_withReturns {t : Text} (h : '\r' ∉ t) : t.withReturns.lines = t.lines := by
  rw [lines, lines, rawLines_withReturns]
  refine map_returned fun l hl => ?_
  rw [withoutReturn_concat, withoutReturn_eq_self]
  exact fun he => h (mem_of_mem_rawLines hl (List.mem_of_getLast? he))

/-! Where a word without line ends stands does not change. -/

theorem isPrefixOf_withReturns (f : Char → Char) {word : Text} (hn : f '\n' ∉ word)
    (hr : f '\r' ∉ word) (t : Text) :
    word.isPrefixOf (t.withReturns.map f) = word.isPrefixOf (t.map f) := by
  induction word generalizing t with
  | nil => rfl
  | cons d word ih =>
    rw [List.mem_cons, not_or] at hn hr
    cases t with
    | nil => rfl
    | cons c r =>
      by_cases hc : c = '\n'
      · subst hc
        change (d == f '\r' && _) = (d == f '\n' && _)
        rw [beq_false_of_ne (Ne.symm hn.1), beq_false_of_ne (Ne.symm hr.1), Bool.false_and,
          Bool.false_and]
      · rw [withReturns_cons hc, List.map_cons, List.map_cons, List.isPrefixOf, List.isPrefixOf,
          ih hn.2 hr.2]

theorem withReturns_append (s t : Text) :
    withReturns (s ++ t) = withReturns s ++ withReturns t := List.flatMap_append

theorem withReturns_eq_self {t : Text} (h : '\n' ∉ t) : withReturns t = t := by
  induction t with
  | nil => rfl
  | cons c r ih =>
    rw [List.mem_cons, not_or] at h
    rw [withReturns_cons (Ne.symm h.1), ih h.2]

theorem after?_withReturns {word : Text} (hn : '\n' ∉ word) (hr : '\r' ∉ word) (t : Text) :
    t.withReturns.after? word = (t.after? word).map withReturns := by
  have hpre := isPrefixOf_withReturns id hn hr t
  rw [List.map_id, List.map_id] at hpre
  cases h : t.after? word with
  | none =>
    rw [after?] at h ⊢
    rw [hpre]
    split at h
    · cases h
    · next hp => rw [if_neg hp, Option.map_none]
  | some rest =>
    rw [after?_eq_some_iff] at h
    rw [h, withReturns_append, withReturns_eq_self hn, Option.map_some, after?_eq_some_iff]

theorem startsWithLowered_withReturns {word : Text} (hn : '\n' ∉ word) (hr : '\r' ∉ word)
    (t : Text) : t.withReturns.startsWithLowered word = t.startsWithLowered word :=
  isPrefixOf_withReturns Char.toLower hn hr t

end Text
end C4Diagram
