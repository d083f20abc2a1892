import C4Diagram.Outline.Build
import Mathlib.Data.List.Induction
import Mathlib.Order.Bounds.Basic

/-! The state of an outline run describes the brace nesting of the lines read so far. Openness at a
line is read off the closing lines that are written up to the end, so that every clause below speaks
about the final nodes only. One step keeps the description, and the run lemma follows. -/

namespace C4Diagram
namespace Nesting

/-- The node at `p` opens a block above line `i` that does not end above line `i`. -/
def OpenAt (nodes : List Node) (i p : Nat) : Prop :=
  ∃ b, nodes[p]? = some b ∧ b.opensBlock = true ∧ b.line < i ∧ ∀ c, b.closingLine = some c → i ≤ c

def ClosedAt (nodes : List Node) (i p : Nat) : Prop :=
  ∃ b, nodes[p]? = some b ∧ b.closingLine = some i

structure Declares (n : Node) (c : Call) : Prop where
  isElement : c.isRelation = false
  aliasName : n.aliasName = c.aliasName
  label : n.label = c.label
  macroName : n.macroName = c.name
  opensBlock : n.opensBlock = c.opensBlock

/-- The state is the brace nesting of the lines: a block end closes the greatest open position
and is stray if there is none, and a node lies under the greatest position that is open at its
line. -/
structure Describes (ls : List Line) (s : Nesting) : Prop where
  declared : ∀ {p : Nat} {n : Node}, s.nodes[p]? = some n →
    ∃ c, ls[n.line]? = some (.call c) ∧ Declares n c
  ordered : s.nodes.Pairwise (fun a b => a.line < b.line)
  boundaries : s.boundaryPositions =
    (List.range s.nodes.length).filter fun p => (s.nodes[p]?).any (·.opensBlock)
  openOrdered : s.openPositions.Pairwise (· > ·)
  mem_open : ∀ {p : Nat}, p ∈ s.openPositions ↔ OpenAt s.nodes ls.length p
  closed : ∀ {i p : Nat}, ClosedAt s.nodes i p ↔
    ls[i]? = some .blockEnd ∧ IsGreatest {q | OpenAt s.nodes i q} p
  strayOrdered : s.strayClosings.Pairwise (· < ·)
  mem_stray : ∀ {i : Nat}, i ∈ s.strayClosings ↔
    ls[i]? = some .blockEnd ∧ ∀ p, ¬ OpenAt s.nodes i p
  parents : ∀ {p : Nat} {n : Node}, s.nodes[p]? = some n → ∀ q, n.parentPosition = some q ↔
    IsGreatest {q | OpenAt s.nodes n.line q} q
  parentAlias : ∀ {p : Nat} {n : Node}, s.nodes[p]? = some n →
    n.parent = (n.parentPosition.bind (s.nodes[·]?)).map Node.aliasName

theorem describes_empty : Describes [] empty where
  declared h := by simp [empty] at h
  ordered := by simp [empty]
  boundaries := rfl
  openOrdered := by simp [empty]
  mem_open := by simp [empty, OpenAt]
  closed := by simp [empty, ClosedAt]
  strayOrdered := by simp [empty]
  mem_stray := by simp [empty]
  parents h := by simp [empty] at h
  parentAlias h := by simp [empty] at h

def nodeOf (s : Nesting) (line : Nat) (c : Call) : Node :=
  { aliasName := c.aliasName
    label := c.label
    macroName := c.name
    parent := (s.openPositions.head?.bind (s.nodes[·]?)).map Node.aliasName
    parentPosition := s.openPositions.head?
    line := line
    closingLine := none
    opensBlock := c.opensBlock }

theorem nodes_declare (s : Nesting) (line : Nat) (c : Call) :
    (s.declare line c).nodes = s.nodes ++ [s.nodeOf line c] := rfl

theorem openPositions_declare (s : Nesting) (line : Nat) (c : Call) :
    (s.declare line c).openPositions =
      if c.opensBlock then s.nodes.length :: s.openPositions else s.openPositions := rfl

namespace Describes

variable {ls : List Line} {s : Nesting} {l : Line}

theorem line_lt (h : Describes ls s) {p : Nat} {n : Node} (hn : s.nodes[p]? = some n) :
    n.line < ls.length := by
  obtain ⟨c, hc, -⟩ := h.declared hn
  exact (List.getElem?_eq_some_iff.1 hc).1

theorem closing_lt (h : Describes ls s) {p i : Nat} (hp : ClosedAt s.nodes i p) : i < ls.length :=
  (List.getElem?_eq_some_iff.1 (h.closed.1 hp).1).1

theorem stray_lt (h : Describes ls s) {i : Nat} (hi : i ∈ s.strayClosings) : i < ls.length :=
  (List.getElem?_eq_some_iff.1 (h.mem_stray.1 hi).1).1

theorem line_lt_line (h : Describes ls s) {p q : Nat} {a b : Node} (hp : s.nodes[p]? = some a)
    (hq : s.nodes[q]? = some b) (hpq : p < q) : a.line < b.line := by
  obtain ⟨hlp, rfl⟩ := List.getElem?_eq_some_iff.1 hp
  obtain ⟨hlq, rfl⟩ := List.getElem?_eq_some_iff.1 hq
  exact List.pairwise_iff_getElem.1 h.ordered p q hlp hlq hpq

/-- Past the last line, the open blocks are those without a closing line. -/
theorem openAt_iff (h : Describes ls s) {m p : Nat} (hm : ls.length ≤ m) :
    OpenAt s.nodes m p ↔
      ∃ b, s.nodes[p]? = some b ∧ b.opensBlock = true ∧ b.closingLine = none := by
  refine ⟨?_, ?_⟩
  · intro hopen
    obtain ⟨b, hb, ho, -, hc⟩ := hopen
    refine ⟨b, hb, ho, ?_⟩
    cases hcl : b.closingLine with
    | none => rfl
    | some c =>
      have := h.closing_lt ⟨b, hb, hcl⟩
      have := hc c hcl
      omega
  · intro hopen
    obtain ⟨b, hb, ho, hc⟩ := hopen
    exact ⟨b, hb, ho, by have := h.line_lt hb; omega, by simp [hc]⟩

theorem openAt_lt {nodes : List Node} {i p : Nat} (h : OpenAt nodes i p) : p < nodes.length := by
  obtain ⟨b, hb, -⟩ := h
  exact (List.getElem?_eq_some_iff.1 hb).1

/-- The innermost open block stands at the greatest open position. -/
theorem head?_open_iff (h : Describes ls s) {q : Nat} :
    s.openPositions.head? = some q ↔ IsGreatest {q | OpenAt s.nodes ls.length q} q := by
  have hset : {q | OpenAt s.nodes ls.length q} = {q | q ∈ s.openPositions} := by
    ext p; exact h.mem_open.symm
  rw [hset]
  have ho := h.openOrdered
  cases hs : s.openPositions with
  | nil => simp [IsGreatest]
  | cons p rest =>
    rw [hs, List.pairwise_cons] at ho
    have hp : IsGreatest {q | q ∈ p :: rest} p := by
      refine ⟨by simp, fun q hq => ?_⟩
      rcases List.mem_cons.1 hq with rfl | hq
      · exact le_rfl
      · exact (ho.1 q hq).le
    refine ⟨?_, ?_⟩
    · intro hq
      rw [← Option.some.inj hq]
      exact hp
    · intro hq
      rw [List.head?_cons, hp.unique hq]

theorem getElem?_concat_eq_some {α : Type} {xs : List α} {x y : α} {p : Nat} :
    (xs ++ [x])[p]? = some y ↔ xs[p]? = some y ∨ p = xs.length ∧ y = x := by
  rw [List.getElem?_append]
  split
  · next hp => simp; omega
  · next hp =>
    have hxs : xs[p]? = none := List.getElem?_eq_none (by omega)
    rw [List.getElem?_singleton, hxs]
    split
    · next h0 =>
      simp only [Option.some.injEq, reduceCtorEq, false_or]
      refine ⟨fun h => ⟨by omega, h.symm⟩, fun h => h.2.symm⟩
    · next h0 => simp; omega

theorem getElem?_concat_of {l' : Line} {i : Nat} (hi : ls[i]? = some l') :
    (ls ++ [l])[i]? = some l' :=
  getElem?_concat_eq_some.2 (.inl hi)

theorem blockEnd_concat {i : Nat} (hl : l ≠ .blockEnd) :
    (ls ++ [l])[i]? = some .blockEnd ↔ ls[i]? = some .blockEnd := by
  rw [getElem?_concat_eq_some]
  exact ⟨fun h => h.resolve_right fun h => hl h.2.symm, .inl⟩

/-- A line that declares nothing and ends nothing leaves the nesting as it is. -/
theorem skip (h : Describes ls s) (hl : l ≠ .blockEnd) : Describes (ls ++ [l]) s where
  declared hn := by
    obtain ⟨c, hc, hd⟩ := h.declared hn
    exact ⟨c, getElem?_concat_of hc, hd⟩
  ordered := h.ordered
  boundaries := h.boundaries
  openOrdered := h.openOrdered
  mem_open := by
    intro p
    rw [h.mem_open, h.openAt_iff le_rfl, h.openAt_iff (by simp)]
  closed := by
    intro i p
    rw [blockEnd_concat hl]
    exact h.closed
  strayOrdered := h.strayOrdered
  mem_stray := by
    intro i
    rw [blockEnd_concat hl]
    exact h.mem_stray
  parents := h.parents
  parentAlias := h.parentAlias

/-- A node that is declared on line `i` or below is open nowhere above. -/
theorem openAt_concat {nodes : List Node} {n : Node} {i p : Nat} (hi : i ≤ n.line) :
    OpenAt (nodes ++ [n]) i p ↔ OpenAt nodes i p := by
  refine ⟨?_, ?_⟩
  · intro hopen
    obtain ⟨b, hb, ho, hlt, hc⟩ := hopen
    rcases getElem?_concat_eq_some.1 hb with hb | ⟨-, rfl⟩
    · exact ⟨b, hb, ho, hlt, hc⟩
    · omega
  · intro hopen
    obtain ⟨b, hb, hrest⟩ := hopen
    exact ⟨b, getElem?_concat_eq_some.2 (.inl hb), hrest⟩

theorem closedAt_concat {nodes : List Node} {n : Node} {i p : Nat} (hn : n.closingLine = none) :
    ClosedAt (nodes ++ [n]) i p ↔ ClosedAt nodes i p := by
  refine ⟨?_, ?_⟩
  · intro hclosed
    obtain ⟨b, hb, hc⟩ := hclosed
    rcases getElem?_concat_eq_some.1 hb with hb | ⟨-, rfl⟩
    · exact ⟨b, hb, hc⟩
    · rw [hn] at hc; cases hc
  · intro hclosed
    obtain ⟨b, hb, hc⟩ := hclosed
    exact ⟨b, getElem?_concat_eq_some.2 (.inl hb), hc⟩

theorem parentAlias_concat {nodes : List Node} {n m : Node} {alias' : Option Text}
    (hn : ∀ q, n.parentPosition = some q → q < nodes.length)
    (ha : alias' = (n.parentPosition.bind (nodes[·]?)).map Node.aliasName) :
    alias' = (n.parentPosition.bind ((nodes ++ [m])[·]?)).map Node.aliasName := by
  rw [ha]
  cases hq : n.parentPosition with
  | none => rfl
  | some q => rw [Option.bind_some, Option.bind_some, List.getElem?_append_left (hn q hq)]

theorem parent_lt (h : Describes ls s) {p q : Nat} {n : Node} (hn : s.nodes[p]? = some n)
    (hq : n.parentPosition = some q) : q < s.nodes.length :=
  openAt_lt ((h.parents hn q).1 hq).1

theorem open_lt (h : Describes ls s) {q : Nat} (hq : q ∈ s.openPositions) : q < s.nodes.length :=
  openAt_lt (h.mem_open.1 hq)

theorem openAt_concat_succ (h : Describes ls s) {c : Call} {p : Nat} :
    OpenAt (s.nodes ++ [s.nodeOf ls.length c]) (ls.length + 1) p ↔
      p ∈ s.openPositions ∨ p = s.nodes.length ∧ c.opensBlock = true := by
  refine ⟨?_, ?_⟩
  · intro hopen
    obtain ⟨b, hb, ho, hlt, hc⟩ := hopen
    rcases getElem?_concat_eq_some.1 hb with hb | ⟨rfl, rfl⟩
    · refine .inl (h.mem_open.2 ((h.openAt_iff le_rfl).2 ?_))
      exact (h.openAt_iff (Nat.le_succ _)).1 ⟨b, hb, ho, hlt, hc⟩
    · exact .inr ⟨rfl, ho⟩
  · intro hopen
    rcases hopen with hp | ⟨rfl, ho⟩
    · obtain ⟨b, hb, ho, hlt, hc⟩ :=
        (h.openAt_iff (Nat.le_succ _)).2 ((h.openAt_iff le_rfl).1 (h.mem_open.1 hp))
      exact ⟨b, getElem?_concat_eq_some.2 (.inl hb), ho, hlt, hc⟩
    · exact ⟨_, getElem?_concat_eq_some.2 (.inr ⟨rfl, rfl⟩), ho, Nat.lt_succ_self _,
        by simp [nodeOf]⟩

theorem declare (h : Describes ls s) {c : Call} (hc : c.isRelation = false) :
    Describes (ls ++ [.call c]) (s.declare ls.length c) := by
  have hend {i : Nat} : (ls ++ [Line.call c])[i]? = some .blockEnd ↔ ls[i]? = some .blockEnd :=
    blockEnd_concat (by simp)
  have hopen {i p : Nat} (hi : i ≤ ls.length) :
      OpenAt (s.declare ls.length c).nodes i p ↔ OpenAt s.nodes i p := openAt_concat hi
  have hset {i : Nat} (hi : i ≤ ls.length) :
      {q | OpenAt (s.declare ls.length c).nodes i q} = {q | OpenAt s.nodes i q} := by
    ext p; exact hopen hi
  constructor
  case declared =>
    intro p n hn
    rcases getElem?_concat_eq_some.1 hn with hn | ⟨-, rfl⟩
    · obtain ⟨d, hd, hdn⟩ := h.declared hn
      exact ⟨d, getElem?_concat_of hd, hdn⟩
    · exact ⟨c, by simp, hc, rfl, rfl, rfl, rfl⟩
  case ordered =>
    rw [nodes_declare, List.pairwise_append]
    refine ⟨h.ordered, by simp, fun a ha b hb => ?_⟩
    obtain ⟨p, hp⟩ := List.mem_iff_getElem?.1 ha
    rw [List.mem_singleton] at hb
    subst hb
    exact h.line_lt hp
  case boundaries =>
    have hold : ((List.range s.nodes.length).filter fun p =>
        ((s.declare ls.length c).nodes[p]?).any (·.opensBlock)) = s.boundaryPositions := by
      rw [h.boundaries]
      refine List.filter_congr fun p hp => ?_
      rw [nodes_declare, List.getElem?_append_left (List.mem_range.1 hp)]
    rw [nodes_declare, List.length_append, List.length_singleton, List.range_succ,
      List.filter_append, ← nodes_declare, hold, nodes_declare]
    cases hb : c.opensBlock <;> simp [Nesting.declare, nodeOf, hb]
  case openOrdered =>
    rw [openPositions_declare]
    split
    · exact List.pairwise_cons.2 ⟨fun q hq => h.open_lt hq, h.openOrdered⟩
    · exact h.openOrdered
  case mem_open =>
    intro p
    rw [List.length_append, List.length_singleton, nodes_declare, h.openAt_concat_succ,
      openPositions_declare]
    cases hb : c.opensBlock <;> simp [or_comm]
  case closed =>
    intro i p
    rw [hend, nodes_declare, closedAt_concat rfl, h.closed]
    refine and_congr_right fun hi => ?_
    rw [← nodes_declare, hset (List.getElem?_eq_some_iff.1 hi).1.le]
  case strayOrdered => exact h.strayOrdered
  case mem_stray =>
    intro i
    rw [hend]
    refine h.mem_stray.trans (and_congr_right fun hi => forall_congr' fun p => not_congr ?_)
    exact (hopen (List.getElem?_eq_some_iff.1 hi).1.le).symm
  case parents =>
    intro p n hn q
    rcases getElem?_concat_eq_some.1 hn with hn | ⟨-, rfl⟩
    · rw [hset (h.line_lt hn).le]
      exact h.parents hn q
    · show s.openPositions.head? = some q ↔
        IsGreatest {q | OpenAt (s.declare ls.length c).nodes ls.length q} q
      rw [hset le_rfl]
      exact h.head?_open_iff
  case parentAlias =>
    intro p n hn
    rcases getElem?_concat_eq_some.1 hn with hn | ⟨-, rfl⟩
    · exact parentAlias_concat (fun q hq => h.parent_lt hn hq) (h.parentAlias hn)
    · exact parentAlias_concat (fun q hq => h.open_lt (List.mem_of_mem_head? hq)) rfl

theorem blockEnd_concat_blockEnd {i : Nat} :
    (ls ++ [Line.blockEnd])[i]? = some .blockEnd ↔ ls[i]? = some .blockEnd ∨ i = ls.length := by
  simp [getElem?_concat_eq_some]

theorem strayOrdered_concat (h : Describes ls s) :
    (s.strayClosings ++ [ls.length]).Pairwise (· < ·) := by
  rw [List.pairwise_append]
  refine ⟨h.strayOrdered, by simp, fun i hi j hj => ?_⟩
  rw [List.mem_singleton] at hj
  exact hj ▸ h.stray_lt hi

/-- A block end while no block is open is stray. -/
theorem stray (h : Describes ls s) (hs : s.openPositions = []) :
    Describes (ls ++ [.blockEnd]) { s with strayClosings := s.strayClosings ++ [ls.length] } := by
  have hnone (p : Nat) : ¬ OpenAt s.nodes ls.length p :=
    fun hp => by simpa [hs] using h.mem_open.2 hp
  constructor
  case declared =>
    intro p n hn
    obtain ⟨c, hc, hd⟩ := h.declared hn
    exact ⟨c, getElem?_concat_of hc, hd⟩
  case ordered => exact h.ordered
  case boundaries => exact h.boundaries
  case openOrdered => exact h.openOrdered
  case mem_open =>
    intro p
    rw [h.mem_open, h.openAt_iff le_rfl, h.openAt_iff (by simp)]
  case closed =>
    intro i p
    rw [blockEnd_concat_blockEnd]
    refine ⟨?_, ?_⟩
    · intro hp
      obtain ⟨hi, hg⟩ := h.closed.1 hp
      exact ⟨.inl hi, hg⟩
    · intro hend
      rcases hend with ⟨hi | rfl, hg⟩
      · exact h.closed.2 ⟨hi, hg⟩
      · exact absurd hg.1 (hnone p)
  case strayOrdered => exact h.strayOrdered_concat
  case mem_stray =>
    intro i
    rw [List.mem_append, List.mem_singleton, blockEnd_concat_blockEnd, h.mem_stray]
    refine ⟨?_, ?_⟩
    · intro hstray
      rcases hstray with ⟨hi, ho⟩ | rfl
      · exact ⟨.inl hi, ho⟩
      · exact ⟨.inr rfl, hnone⟩
    · intro hend
      rcases hend with ⟨hi | rfl, ho⟩
      · exact .inl ⟨hi, ho⟩
      · exact .inr rfl
  case parents => exact h.parents
  case parentAlias => exact h.parentAlias

/-- The nodes after the block at `p` has ended on `line`. -/
theorem getElem?_ended {nodes : List Node} {p q line : Nat} {b' : Node} :
    (nodes.modify p fun n => { n with closingLine := some line })[q]? = some b' ↔
      ∃ b, nodes[q]? = some b ∧ b' = if q = p then { b with closingLine := some line } else b := by
  rw [List.getElem?_modify]
  by_cases hq : q = p
  · subst hq
    cases nodes[q]? <;> simp [eq_comm]
  · cases nodes[q]? <;> simp [hq, Ne.symm hq, eq_comm]

/-- Ending a block changes no node but for its closing line. -/
theorem getElem?_ended_map {α : Type} {nodes : List Node} {p q line : Nat} (f : Node → α)
    (hf : ∀ n : Node, f { n with closingLine := some line } = f n) :
    ((nodes.modify p fun n => { n with closingLine := some line })[q]?).map f =
      (nodes[q]?).map f := by
  rw [List.getElem?_modify]
  split
  · cases nodes[q]? <;> simp [hf]
  · cases nodes[q]? <;> simp

theorem map_ended {α : Type} {nodes : List Node} {p line : Nat} (f : Node → α)
    (hf : ∀ n : Node, f { n with closingLine := some line } = f n) :
    (nodes.modify p fun n => { n with closingLine := some line }).map f = nodes.map f := by
  refine List.ext_getElem? fun q => ?_
  rw [List.getElem?_map, List.getElem?_map, getElem?_ended_map f hf]

section Ended

variable {p : Nat} {nodes' : List Node}
  (hnodes : nodes' = s.nodes.modify p fun n => { n with closingLine := some ls.length })

include hnodes

theorem openAt_ended (h : Describes ls s) (hp : p ∈ s.openPositions) {i q : Nat}
    (hi : i ≤ ls.length) : OpenAt nodes' i q ↔ OpenAt s.nodes i q := by
  obtain ⟨b₀, hb₀, -, hc₀⟩ := (h.openAt_iff le_rfl).1 (h.mem_open.1 hp)
  subst hnodes
  refine ⟨?_, ?_⟩
  · intro hopen
    obtain ⟨b', hb', ho, hlt, hc⟩ := hopen
    obtain ⟨b, hb, rfl⟩ := getElem?_ended.1 hb'
    split at ho
    · next hq =>
      subst hq
      cases hb₀.symm.trans hb
      exact ⟨b₀, hb₀, ho, by simpa using hlt, by simp [hc₀]⟩
    · next hq => exact ⟨b, hb, ho, by simpa [hq] using hlt, by simpa [hq] using hc⟩
  · intro hopen
    obtain ⟨b, hb, ho, hlt, hc⟩ := hopen
    refine ⟨_, getElem?_ended.2 ⟨b, hb, rfl⟩, ?_⟩
    split
    · exact ⟨ho, hlt, by simpa using hi⟩
    · exact ⟨ho, hlt, hc⟩

theorem closedAt_ended (h : Describes ls s) (hp : p ∈ s.openPositions) {i q : Nat} :
    ClosedAt nodes' i q ↔ ClosedAt s.nodes i q ∨ i = ls.length ∧ q = p := by
  obtain ⟨b₀, hb₀, -, hc₀⟩ := (h.openAt_iff le_rfl).1 (h.mem_open.1 hp)
  subst hnodes
  refine ⟨?_, ?_⟩
  · intro hclosed
    obtain ⟨b', hb', hc⟩ := hclosed
    obtain ⟨b, hb, rfl⟩ := getElem?_ended.1 hb'
    split at hc
    · next hq => exact .inr ⟨by simpa using hc.symm, hq⟩
    · exact .inl ⟨b, hb, hc⟩
  · intro hclosed
    rcases hclosed with ⟨b, hb, hc⟩ | ⟨rfl, rfl⟩
    · have hq : q ≠ p := by
        rintro rfl
        cases hb₀.symm.trans hb
        rw [hc₀] at hc
        cases hc
      exact ⟨b, getElem?_ended.2 ⟨b, hb, by simp [hq]⟩, hc⟩
    · exact ⟨_, getElem?_ended.2 ⟨b₀, hb₀, rfl⟩, by simp⟩

theorem openAt_ended_succ (h : Describes ls s) {rest : List Nat} (hs : s.openPositions = p :: rest)
    {q : Nat} : OpenAt nodes' (ls.length + 1) q ↔ q ∈ rest := by
  have hne : ∀ q ∈ rest, q ≠ p := by
    have ho := h.openOrdered
    rw [hs, List.pairwise_cons] at ho
    exact fun q hq => (ho.1 q hq).ne
  have hmem : q ∈ rest ↔ OpenAt s.nodes (ls.length + 1) q ∧ q ≠ p := by
    rw [h.openAt_iff (Nat.le_succ _), ← h.openAt_iff le_rfl, ← h.mem_open, hs, List.mem_cons]
    exact ⟨fun hq => ⟨.inr hq, hne q hq⟩, fun ⟨hq, hqp⟩ => hq.resolve_left hqp⟩
  rw [hmem]
  subst hnodes
  refine ⟨?_, ?_⟩
  · intro hopen
    obtain ⟨b', hb', ho, hlt, hc⟩ := hopen
    obtain ⟨b, hb, rfl⟩ := getElem?_ended.1 hb'
    split at hc
    · next hq => exact absurd (hc _ rfl) (by simp)
    · next hq => exact ⟨⟨b, hb, by simpa [hq] using ho, by simpa [hq] using hlt, hc⟩, hq⟩
  · intro hopen
    obtain ⟨⟨b, hb, hrest⟩, hq⟩ := hopen
    exact ⟨b, getElem?_ended.2 ⟨b, hb, by simp [hq]⟩, hrest⟩

theorem greatest_ended (h : Describes ls s) (hp : p ∈ s.openPositions) {i q : Nat}
    (hi : i ≤ ls.length) :
    IsGreatest {q | OpenAt nodes' i q} q ↔ IsGreatest {q | OpenAt s.nodes i q} q := by
  have hset : {q | OpenAt nodes' i q} = {q | OpenAt s.nodes i q} := by
    ext q; exact openAt_ended hnodes h hp hi
  rw [hset]

/-- The line closes the head of the stack, the greatest position that is still open. -/
theorem closed_ended (h : Describes ls s) (hp : s.openPositions.head? = some p) {i q : Nat} :
    ClosedAt nodes' i q ↔
      (ls ++ [Line.blockEnd])[i]? = some .blockEnd ∧ IsGreatest {q | OpenAt nodes' i q} q := by
  have hmem := List.mem_of_mem_head? hp
  rw [closedAt_ended hnodes h hmem, blockEnd_concat_blockEnd]
  refine ⟨?_, ?_⟩
  · intro hclosed
    rcases hclosed with hq | ⟨rfl, rfl⟩
    · obtain ⟨hi, hg⟩ := h.closed.1 hq
      exact ⟨.inl hi, (greatest_ended hnodes h hmem (h.closing_lt hq).le).2 hg⟩
    · exact ⟨.inr rfl, (greatest_ended hnodes h hmem le_rfl).2 (h.head?_open_iff.1 hp)⟩
  · intro hend
    rcases hend with ⟨hi | rfl, hg⟩
    · have hlt := (List.getElem?_eq_some_iff.1 hi).1
      exact .inl (h.closed.2 ⟨hi, (greatest_ended hnodes h hmem hlt.le).1 hg⟩)
    · have hg := (greatest_ended hnodes h hmem le_rfl).1 hg
      exact .inr ⟨rfl, hg.unique (h.head?_open_iff.1 hp)⟩

theorem mem_stray_ended (h : Describes ls s) (hp : s.openPositions.head? = some p) {i : Nat} :
    i ∈ s.strayClosings ↔
      (ls ++ [Line.blockEnd])[i]? = some .blockEnd ∧ ∀ q, ¬ OpenAt nodes' i q := by
  have hmem := List.mem_of_mem_head? hp
  rw [blockEnd_concat_blockEnd, h.mem_stray]
  refine ⟨?_, ?_⟩
  · intro hstray
    obtain ⟨hi, hnone⟩ := hstray
    refine ⟨.inl hi, fun q => ?_⟩
    rw [openAt_ended hnodes h hmem (List.getElem?_eq_some_iff.1 hi).1.le]
    exact hnone q
  · intro hend
    rcases hend with ⟨hi | rfl, hnone⟩
    · refine ⟨hi, fun q => ?_⟩
      rw [← openAt_ended hnodes h hmem (List.getElem?_eq_some_iff.1 hi).1.le]
      exact hnone q
    · exact absurd ((openAt_ended hnodes h hmem le_rfl).2 (h.mem_open.1 hmem)) (hnone p)

/-- A node of the ended state is a node of the old one, but for its closing line. -/
theorem exists_of_ended {q : Nat} {n' : Node} (hn' : nodes'[q]? = some n') :
    ∃ n, s.nodes[q]? = some n ∧ n'.line = n.line ∧ n'.parent = n.parent ∧
      n'.parentPosition = n.parentPosition ∧ ∀ c, Declares n c → Declares n' c := by
  subst hnodes
  obtain ⟨n, hn, rfl⟩ := getElem?_ended.1 hn'
  refine ⟨n, hn, ?_⟩
  split
  · refine ⟨rfl, rfl, rfl, fun c hd => ?_⟩
    exact ⟨hd.isElement, hd.aliasName, hd.label, hd.macroName, hd.opensBlock⟩
  · exact ⟨rfl, rfl, rfl, fun c hd => hd⟩

end Ended

/-- A block end closes the innermost open block. -/
theorem ended (h : Describes ls s) {p : Nat} {rest : List Nat} (hs : s.openPositions = p :: rest) :
    Describes (ls ++ [.blockEnd])
      { s with
        nodes := s.nodes.modify p fun n => { n with closingLine := some ls.length }
        openPositions := rest } := by
  have hp : s.openPositions.head? = some p := by rw [hs, List.head?_cons]
  have hmem := List.mem_of_mem_head? hp
  have ho := h.openOrdered
  rw [hs, List.pairwise_cons] at ho
  constructor
  case declared =>
    intro q n' hn'
    obtain ⟨n, hn, hline, -, -, hdeclares⟩ := exists_of_ended rfl hn'
    obtain ⟨c, hc, hd⟩ := h.declared hn
    rw [hline]
    exact ⟨c, getElem?_concat_of hc, hdeclares c hd⟩
  case ordered =>
    rw [← List.pairwise_map (f := Node.line) (R := (· < ·)), map_ended Node.line fun _ => rfl,
      List.pairwise_map]
    exact h.ordered
  case boundaries =>
    rw [h.boundaries, List.length_modify]
    refine List.filter_congr fun q _ => ?_
    have hany (o : Option Node) : o.any (·.opensBlock) = (o.map Node.opensBlock).getD false := by
      cases o <;> rfl
    rw [hany, hany, getElem?_ended_map Node.opensBlock fun _ => rfl]
  case openOrdered => exact ho.2
  case mem_open =>
    intro q
    rw [List.length_append, List.length_singleton]
    exact (openAt_ended_succ rfl h hs).symm
  case closed => exact closed_ended rfl h hp
  case strayOrdered => exact h.strayOrdered
  case mem_stray => exact mem_stray_ended rfl h hp
  case parents =>
    intro q n' hn' r
    obtain ⟨n, hn, hline, -, hposition, -⟩ := exists_of_ended rfl hn'
    rw [hline, hposition, greatest_ended rfl h hmem (h.line_lt hn).le]
    exact h.parents hn r
  case parentAlias =>
    intro q n' hn'
    obtain ⟨n, hn, -, hparent, hposition, -⟩ := exists_of_ended rfl hn'
    rw [hparent, hposition, h.parentAlias hn]
    cases n.parentPosition with
    | none => rfl
    | some r => exact (getElem?_ended_map Node.aliasName fun _ => rfl).symm

/-- What one line does to a described nesting. -/
theorem step (h : Describes ls s) (l : Line) : Describes (ls ++ [l]) (s.step ls.length l) := by
  cases l with
  | call c =>
    rw [Nesting.step]
    split
    · exact h.skip (by simp)
    · next hc => exact h.declare (by simpa using hc)
  | blockEnd =>
    rw [Nesting.step, Nesting.close]
    split
    · next p rest hs => exact h.ended hs
    · next hs => exact h.stray hs
  | directive => exact h.skip (by simp)
  | text => exact h.skip (by simp)

end Describes

/-- Any lines, in any order, end in a state that is their brace nesting. -/
theorem describes_run (ls : List Line) : Describes ls (empty.run 0 ls) := by
  induction ls using List.reverseRecOn with
  | nil => exact describes_empty
  | append_singleton ls l ih =>
    rw [run_append, Nat.zero_add]
    exact ih.step l

end Nesting
end C4Diagram
