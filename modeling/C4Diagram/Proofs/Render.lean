import C4Diagram.Proofs.DiagramCode
import C4Diagram.Render

/-! The address of a rendered diagram carries its text. Extending a path drops at most the empty
segment behind a final slash, so the format and the code stand at the end of the path as two
segments of their own, and the code decodes to the normalized text. That takes no more of the
addresses and of the compression than a few laws, which those of this library keep. -/

namespace C4Diagram

namespace UrlOperations

variable {α : Type}

/-- Changing the end of the path leaves the other parts alone. At most one empty segment goes, and a
segment that needs no encoding is put there as it is. -/
structure Lawful (urls : UrlOperations α) : Prop where
  takesSegments (u : α) : urls.takesSegments u = !urls.isOpaque u
  exists_segments {u : α} : urls.isOpaque u = false → ∃ s, (urls.parts u).path = .segments s
  -- A path of two slashes may keep a dot that sets it apart from a host.
  popIfEmpty {u : α} {s : List Text} : (urls.parts u).path = .segments s →
    ∃ s', urls.parts (urls.popIfEmpty u) = { urls.parts u with path := .segments s' } ∧
      (s ≠ [[], []] → s' = Url.withoutTrailingSlash s)
  push {u : α} {s : List Text} {segment : Text} : (urls.parts u).path = .segments s →
    (∀ c ∈ segment, c ∈ sextetAlphabet) →
    urls.parts (urls.push u segment) =
      { urls.parts u with path := .segments (Url.pushSegment s segment) }

theorem isOpaque_of_serverUrl {urls : UrlOperations α} {settings : RenderSettings} {u : α}
    (h : urls.serverUrl settings = .ok u) : urls.isOpaque u = false := by
  unfold serverUrl at h
  split at h
  · cases h
  · split at h
    · cases h
    · next hsegments =>
      cases h
      exact Bool.eq_false_iff.2 hsegments

end UrlOperations

namespace Url

theorem mapSegments_of_path {u : Url} {s : List Text} (h : u.path = .segments s)
    (f : List Text → List Text) : u.mapSegments f = { u with path := .segments (f s) } := by
  rw [mapSegments, h]

theorem operations_lawful : operations.Lawful where
  takesSegments u := by
    change u.segments?.isSome = !u.isOpaque
    unfold segments? isOpaque
    cases u.path <;> rfl
  exists_segments {u} h := by
    change u.isOpaque = false at h
    change ∃ s, u.path = .segments s
    unfold isOpaque at h
    cases hpath : u.path with
    | opaqueText t => rw [hpath] at h; cases h
    | segments s => exact ⟨s, rfl⟩
  popIfEmpty h := ⟨_, mapSegments_of_path h _, fun hs => if_neg fun hu => hs hu.2⟩
  push h _ := mapSegments_of_path h _

def keptSegments (segments : List Text) : List Text := if segments = [[]] then [] else segments

/-- A path that ends in a slash and the same path without it keep the same segments. -/
theorem keptSegments_of_last {base : List Text} (h : base.getLast? ≠ some []) :
    keptSegments (withoutTrailingSlash base) = base ∧
      keptSegments (withoutTrailingSlash (base ++ [[]])) = base := by
  have hsingle : base ≠ [[]] := by rintro rfl; exact h rfl
  have hbase : withoutTrailingSlash base = base := by
    rw [withoutTrailingSlash, if_neg fun hu => h hu.2]
  refine ⟨by rw [keptSegments, hbase, if_neg hsingle], ?_⟩
  cases hb : base with
  | nil => rfl
  | cons s ss =>
    have hlong : 1 < (base ++ [[]]).length := by
      rw [hb, List.length_append, List.length_cons]
      simp
    have hslash : withoutTrailingSlash (base ++ [[]]) = base := by
      rw [withoutTrailingSlash, if_pos ⟨hlong, List.getLast?_concat⟩, List.dropLast_concat]
    rw [← hb, keptSegments, hslash, if_neg hsingle]

/-- Two segments, of which the first is not empty, are put behind the kept ones. -/
theorem pushSegment_pushSegment (segments : List Text) {a : Text} (ha : a ≠ []) (b : Text) :
    pushSegment (pushSegment segments a) b = keptSegments segments ++ [a, b] := by
  have hnext (front : List Text) : front ++ [a] ≠ [[]] := by
    intro he
    have hlast := congrArg List.getLast? he
    rw [List.getLast?_concat] at hlast
    exact ha (Option.some.inj hlast)
  have hfirst : pushSegment segments a = keptSegments segments ++ [a] := by
    rw [pushSegment, keptSegments]
    split <;> rfl
  rw [hfirst, pushSegment, if_neg (hnext _), List.append_assoc, List.singleton_append]

/-- The address is the one of the server but for its path, which ends in the format and a segment
that decodes to the text; before them stands the server's path, less one final slash. -/
structure Carries (z : Compression) (url server : Url) (format text : Text) : Prop where
  scheme : url.scheme = server.scheme
  authority : url.authority = server.authority
  query : url.query = server.query
  fragment : url.fragment = server.fragment
  path : ∃ before code, url.path = .segments (before ++ [format, code]) ∧
    (∀ c ∈ code, c ∈ sextetAlphabet) ∧ z.decode code = .ok text ∧
    ∀ base, base.getLast? ≠ some [] →
      server.path = .segments base ∨ server.path = .segments (base ++ [[]]) → before = base

end Url

namespace UrlOperations

variable {α : Type} {urls : UrlOperations α} {z : Compression}

theorem Lawful.parts_extend (hurls : urls.Lawful) {u : α} (h : urls.isOpaque u = false)
    {a b : Text} (ha : a ≠ []) (hletters : ∀ c ∈ a ++ b, c ∈ sextetAlphabet) :
    ∃ s s', (urls.parts u).path = .segments s ∧
      urls.parts (urls.extend u a b) =
        { urls.parts u with path := .segments (Url.keptSegments s' ++ [a, b]) } ∧
      (s ≠ [[], []] → s' = Url.withoutTrailingSlash s) := by
  obtain ⟨s, hs⟩ := hurls.exists_segments h
  obtain ⟨s', hpop, hs'⟩ := hurls.popIfEmpty hs
  rw [List.forall_mem_append] at hletters
  have hfirst : urls.parts (urls.push (urls.popIfEmpty u) a) =
      { urls.parts u with path := .segments (Url.pushSegment s' a) } := by
    rw [hurls.push (congrArg Url.path hpop) hletters.1, hpop]
  refine ⟨s, s', hs, ?_, hs'⟩
  rw [extend, hurls.push (congrArg Url.path hfirst) hletters.2, hfirst,
    Url.pushSegment_pushSegment s' ha]

theorem Lawful.carries_extend (hurls : urls.Lawful) (hz : z.Lawful) {server : α}
    (h : urls.isOpaque server = false) {format : Text} (hf : format ≠ [])
    (hletters : ∀ c ∈ format, c ∈ sextetAlphabet) (text : Text) :
    (urls.parts (urls.extend server format (z.encode text))).Carries z (urls.parts server)
      format text := by
  have hcode : ∀ c ∈ z.encode text, c ∈ sextetAlphabet := fun _ hc =>
    Compression.mem_alphabet_of_mem_encode hc
  obtain ⟨s, s', hs, hparts, hs'⟩ :=
    hurls.parts_extend h hf (List.forall_mem_append.2 ⟨hletters, hcode⟩)
  rw [hparts]
  refine ⟨rfl, rfl, rfl, rfl, _, _, rfl, hcode, Compression.decode_pack (hz _), ?_⟩
  intro base hbase hpath
  have hsingle : base ≠ [[]] := by rintro rfl; exact hbase rfl
  have hkept := Url.keptSegments_of_last hbase
  rw [hs] at hpath
  rcases hpath with he | he
  · cases he
    rw [hs' fun hpair => hbase (by rw [hpair]; rfl)]
    exact hkept.1
  · cases he
    rw [hs' fun hpair => hsingle (List.append_cancel_right hpair)]
    exact hkept.2

end UrlOperations

theorem ImageFormat.name_ne_nil (f : ImageFormat) : f.name ≠ [] := by cases f <;> decide

theorem ImageFormat.mem_alphabet_of_mem_name (f : ImageFormat) :
    ∀ c ∈ f.name, c ∈ sextetAlphabet := by
  have hletters : f.name.all (sextetAlphabet.contains ·) = true := by cases f <;> decide
  exact fun c hc => List.contains_iff_mem.1 (List.all_eq_true.1 hletters c hc)

namespace Libraries

variable {α : Type} {lib : Libraries α}

structure Lawful (lib : Libraries α) : Prop where
  urls : lib.urls.Lawful
  compression : lib.compression.Lawful

theorem own_lawful : own.Lawful := ⟨Url.operations_lawful, Deflate.compression_lawful⟩

/-- The path of a server that was accepted takes segments, so that asking again never fails. -/
theorem renderUrlInSteps_of_takesSegments
    (h : ∀ u, lib.urls.takesSegments u = !lib.urls.isOpaque u) (source : Text) (level : Level)
    (settings : RenderSettings) :
    lib.renderUrlInSteps source level settings =
      (lib.renderUrl source level settings).mapError .server := by
  unfold renderUrlInSteps renderUrl
  dsimp only
  split
  · rfl
  · cases hs : lib.urls.serverUrl settings with
    | error e => rfl
    | ok url =>
      have hsegments : lib.urls.isOpaque url = false := UrlOperations.isOpaque_of_serverUrl hs
      dsimp only [Except.mapError, Except.map, bind, Except.bind]
      rw [h, hsegments]
      rfl

/-- A text without content has no address, and no server is looked at; any other text has one iff
the server's address can be read, and that address carries the normalized text. -/
theorem Lawful.renderUrl (hlib : lib.Lawful) (source : Text) (level : Level)
    (settings : RenderSettings) :
    (lib.renderUrl source level settings = .ok none ↔ normalize source level = []) ∧
    (normalize source level ≠ [] →
      (∀ e, lib.renderUrl source level settings = .error e ↔
        lib.urls.serverUrl settings = .error e) ∧
      ∀ server, lib.urls.serverUrl settings = .ok server →
        ∃ url, lib.renderUrl source level settings = .ok (some url) ∧
          (lib.urls.parts url).Carries lib.compression (lib.urls.parts server)
            settings.format.name (normalize source level)) := by
  unfold Libraries.renderUrl
  dsimp only
  by_cases hempty : normalize source level = []
  · rw [hempty]
    exact ⟨iff_of_true rfl rfl, fun hne => absurd rfl hne⟩
  · rw [if_neg fun h => hempty (List.isEmpty_iff.1 h)]
    cases hs : lib.urls.serverUrl settings with
    | error e =>
      refine ⟨iff_of_false nofun hempty, fun _ => ⟨fun e' => ?_, nofun⟩⟩
      exact ⟨fun h => by cases h; rfl, fun h => by cases h; rfl⟩
    | ok server =>
      refine ⟨iff_of_false nofun hempty, fun _ => ⟨fun e => iff_of_false nofun nofun, ?_⟩⟩
      rintro server' ⟨⟩
      exact ⟨_, rfl, hlib.urls.carries_extend hlib.compression
        (UrlOperations.isOpaque_of_serverUrl hs) settings.format.name_ne_nil
        settings.format.mem_alphabet_of_mem_name _⟩

end Libraries

/-- The same of the addresses and the compression of this library. -/
theorem renderUrl_carries (source : Text) (level : Level) (settings : RenderSettings) :
    (renderUrl source level settings = .ok none ↔ normalize source level = []) ∧
    (normalize source level ≠ [] →
      (∀ e, renderUrl source level settings = .error e ↔ settings.serverUrl = .error e) ∧
      ∀ server, settings.serverUrl = .ok server →
        ∃ url, renderUrl source level settings = .ok (some url) ∧
          url.Carries Deflate.compression server settings.format.name (normalize source level)) :=
  Libraries.own_lawful.renderUrl source level settings

/-- A server with a port, a path that ends in a slash, a query and a fragment. -/
theorem renderUrl_carries_query :
    let source : Text := "Person(u, \"Ü\")".toList
    let settings : RenderSettings := ⟨"p://h:81/a%2Fb/?q=1#f".toList, .png⟩
    ∃ server, normalize source .context ≠ [] ∧ settings.serverUrl = .ok server ∧
      server.path = .segments (["a%2Fb".toList] ++ [[]]) ∧
      (∀ e, renderUrl source .context settings = .error e ↔ settings.serverUrl = .error e) ∧
      ∃ url, renderUrl source .context settings = .ok (some url) ∧
        url.Carries Deflate.compression server settings.format.name (normalize source .context) := by
  intro source settings
  have hne : normalize source .context ≠ [] := by decide +kernel
  have hserver : settings.serverUrl = .ok
      ⟨"p".toList, some ⟨[], none, .name "h".toList, some 81⟩,
        .segments ["a%2Fb".toList, []], some "q=1".toList, some "f".toList⟩ := by decide +kernel
  have hcarries := (renderUrl_carries source .context settings).2 hne
  exact ⟨_, hne, hserver, rfl, hcarries.1, hcarries.2 _ hserver⟩

end C4Diagram
