import C4Diagram.Proofs.Call.Shape
import C4Diagram.Proofs.Text.Lines
import C4Diagram.Proofs.Text.Search
import C4Diagram.Proofs.Text.Trim

/-! The values of a call are made of characters of its line. Splitting, trimming and unquoting drop
characters and add none. -/

namespace C4Diagram

theorem mem_of_mem_unquote {x : Char} {value : Text} (hx : x ∈ unquote value) : x ∈ value := by
  apply Text.mem_of_mem_trim
  unfold unquote at hx
  split at hx
  · next r hr =>
    rw [hr]
    cases hb : Text.beforeLast? '"' r with
    | none =>
      rw [hb] at hx
      exact hx
    | some before =>
      rw [hb] at hx
      exact List.mem_cons_of_mem _ (Text.mem_of_mem_beforeLast? hb hx)
  · exact hx

theorem mem_of_mem_splitArguments {x : Char} {raw a : Text} (ha : a ∈ splitArguments raw)
    (hx : x ∈ a) : x ∈ raw := by
  have hparts : a ∈ (unquotedPieces ',' false raw).map Text.trim := by
    unfold splitArguments at ha
    simp only at ha
    split at ha
    · exact List.dropLast_subset _ ha
    · exact ha
  obtain ⟨p, hp, rfl⟩ := List.mem_map.1 hparts
  rw [← join_unquotedPieces ',' false raw]
  exact (Text.infix_join hp).subset (Text.mem_of_mem_trim hx)

def Argument.value : Argument → Text
  | positional v => v
  | named _ v => v

theorem mem_of_mem_argument {x : Char} {written : Text} (hx : x ∈ (Argument.read written).value) :
    x ∈ written := by
  unfold Argument.read at hx
  split at hx
  · next name value hsplit =>
    split at hx
    · rw [eq_of_splitUnquoted? hsplit]
      exact List.mem_append_right _ (List.mem_cons_of_mem _ (mem_of_mem_unquote hx))
    · exact mem_of_mem_unquote hx
  · exact mem_of_mem_unquote hx

theorem mem_of_mem_resolve {x : Char} {raw name : Text} {position : Nat}
    (hx : x ∈ (Arguments.read raw).resolve name position) : x ∈ raw := by
  have hvalue : ∀ a ∈ (splitArguments raw).map Argument.read, x ∈ a.value → x ∈ raw := by
    intro a ha hxa
    obtain ⟨w, hw, rfl⟩ := List.mem_map.1 ha
    exact mem_of_mem_splitArguments hw (mem_of_mem_argument hxa)
  unfold Arguments.resolve at hx
  cases hv : (Arguments.read raw).value? name with
  | some v =>
    rw [hv, Option.getD_some] at hx
    obtain ⟨entry, hentry, rfl⟩ := Option.map_eq_some_iff.1 hv
    have hmem := List.mem_reverse.1 (List.mem_of_find?_eq_some hentry)
    obtain ⟨a, ha, hnamed⟩ := List.mem_filterMap.1 hmem
    cases a with
    | positional _ => cases hnamed
    | named k v =>
      cases hnamed
      exact hvalue _ ha hx
  | none =>
    rw [hv, Option.getD_none, List.getD_eq_getElem?_getD] at hx
    cases hp : (Arguments.read raw).positional[position]? with
    | none =>
      rw [hp] at hx
      cases hx
    | some v =>
      rw [hp, Option.getD_some] at hx
      obtain ⟨a, ha, hpositional⟩ := List.mem_filterMap.1 (List.mem_of_getElem? hp)
      cases a with
      | positional _ =>
        cases hpositional
        exact hvalue _ ha hx
      | named _ _ => cases hpositional

theorem mem_of_mem_callHead? {x : Char} {line : Text} {head : Text × Text}
    (h : callHead? line = some head) (hx : x ∈ head.2) : x ∈ line := by
  obtain ⟨-, indent, gap, -, -, rfl⟩ := callHead?_eq_some_iff.1 h
  simp [hx]

theorem mem_of_mem_callTail? {x : Char} {rest : Text} {tail : Text × Bool}
    (h : callTail? rest = some tail) (hx : x ∈ tail.1) : x ∈ rest := by
  obtain ⟨ending, rfl, -, -⟩ := callTail?_eq_some_iff.1 h
  exact List.mem_append_left _ hx

/-- A call that starts a block has a brace to open it. -/
theorem brace_mem_of_opensBlock {line : Text} {c : Call} (h : Call.read? line = some c)
    (ho : c.opensBlock = true) : '{' ∈ line := by
  obtain ⟨head, hhead, h⟩ := Option.bind_eq_some_iff.1 h
  obtain ⟨tail, htail, h⟩ := Option.bind_eq_some_iff.1 h
  simp only at h
  split at h
  · cases h
  · cases h
    obtain ⟨ending, hrest, -, hopens⟩ := callTail?_eq_some_iff.1 htail
    refine mem_of_mem_callHead? hhead ?_
    rw [hrest]
    exact List.mem_append_right _ (List.mem_cons_of_mem _ (hopens.1 ho))

theorem mem_of_mem_aliasName {x : Char} {line : Text} {c : Call} (h : Call.read? line = some c)
    (hx : x ∈ c.aliasName) : x ∈ line := by
  obtain ⟨head, hhead, h⟩ := Option.bind_eq_some_iff.1 h
  obtain ⟨tail, htail, h⟩ := Option.bind_eq_some_iff.1 h
  simp only at h
  split at h
  · cases h
  · cases h
    exact mem_of_mem_callHead? hhead (mem_of_mem_callTail? htail (mem_of_mem_resolve hx))

end C4Diagram
