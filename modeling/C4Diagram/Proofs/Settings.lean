import C4Diagram.Proofs.Command
import C4Diagram.Proofs.Host
import C4Diagram.Proofs.Render

/-! Settings that were loaded can render. They come from the first place that counts, and whatever
place that is, it has been seen to that the server's address can be read: a file with another
address is refused, and the defaults name a server that can be asked. So no diagram and no level
fails for its server later on. -/

namespace C4Diagram

/-! The public server's address. Its host is written in ASCII, so that the tables for other domains
need not be searched. -/

namespace Url

def publicHost : Text := "www.plantuml.com".toList

theorem readSpecial_publicHost : Host.readSpecial publicHost = .ok (.name publicHost) := by
  have hread : Host.readSpecial publicHost = .ok (.name publicHost.lowered) :=
    readSpecial_of_isAscii (List.all_eq_true.1 (by decide)) (by decide) (by decide) (by decide)
      (by decide)
  have hlow : publicHost.lowered = publicHost := by decide
  rw [hlow] at hread
  exact hread

theorem readAuthority_publicHost :
    readAuthority (.special 443) (publicHost ++ "/plantuml".toList) true =
      .ok (⟨[], none, .name publicHost, none⟩, "/plantuml".toList) := by
  have hwhole : (publicHost ++ "/plantuml".toList).takeWhile (fun c => !endsAuthority true c) =
      publicHost := by decide
  have hsplit : splitLastAt? publicHost = none := by decide
  have hsize : hostLength false publicHost = publicHost.length := by decide
  unfold readAuthority
  simp only [SchemeType.isSpecial, hwhole, hsplit, Option.getD_none, hsize, List.take_length]
  rw [if_neg (by decide), readSpecial_publicHost]
  rfl

theorem readBody_publicHost :
    readBody (.special 443) ("//".toList ++ publicHost ++ "/plantuml".toList) true =
      .ok (some ⟨[], none, .name publicHost, none⟩, .segments ["plantuml".toList]) := by
  have hslashes : ("//".toList ++ publicHost ++ "/plantuml".toList).dropWhile (isSlash true) =
      publicHost ++ "/plantuml".toList := by decide
  have hpath : readPath (.special 443) "/plantuml".toList = ["plantuml".toList] := by decide
  unfold readBody
  simp only [SchemeType.isSpecial, hslashes, readAuthority_publicHost]
  rw [if_pos trivial]
  dsimp only [bind, Except.bind]
  rw [hpath]
  rfl

theorem read_publicServer : Url.read RenderSettings.publicServer =
    .ok ⟨"https".toList, some ⟨[], none, .name publicHost, none⟩, .segments ["plantuml".toList],
      none, none⟩ := by
  have hwhole : Text.dropEndWhile isControlOrSpace
      (RenderSettings.publicServer.dropWhile isControlOrSpace) = RenderSettings.publicServer := by
    decide
  have hscheme : scheme? (withoutBreaks RenderSettings.publicServer) = some "https".toList := by
    decide
  have htype : SchemeType.ofScheme "https".toList = .special 443 := by decide
  have htail : splitTail ((RenderSettings.publicServer.dropWhile (· ≠ ':')).drop 1) =
      ("//".toList ++ publicHost ++ "/plantuml".toList, none, none) := by decide
  have hbreaks : withoutBreaks ("//".toList ++ publicHost ++ "/plantuml".toList) =
      "//".toList ++ publicHost ++ "/plantuml".toList := by decide
  unfold Url.read
  simp only [hwhole, hscheme, htype, htail, hbreaks, Option.isNone_none, Bool.and_self]
  rw [if_neg (by decide), readBody_publicHost]
  rfl

end Url
theorem UrlOperations.serverUrl_of_read {α : Type} {urls : UrlOperations α} {s : RenderSettings}
    {url : α} (h : urls.read s.server = .ok url) (hsegments : urls.isOpaque url = false) :
    urls.serverUrl s = .ok url := by
  unfold serverUrl
  rw [h]
  exact if_neg (Bool.eq_false_iff.1 hsegments)

theorem exists_serverUrl_default : ∃ url, RenderSettings.default.serverUrl = .ok url :=
  ⟨_, UrlOperations.serverUrl_of_read Url.read_publicServer rfl⟩

/-! What a file of settings gives. -/

theorem FileReader.finds_of_readText {read : FileReader} {path t : Text}
    (h : read.readText path = .ok t) : read.finds path = true := by
  unfold readText at h
  cases hcontent : read.content path with
  | error e => rw [hcontent] at h; cases h
  | ok bytes => exact read.finds_of_content hcontent

namespace Libraries

variable {α : Type}

/-- What is made of the file at the path: it has to be there, to hold a text, to be of the right
form and to name a server that can be asked. -/
inductive GivesSettings (lib : Libraries α) (read : FileReader) (path : Text) :
    Except Failure Settings → Prop
  | missing : read.finds path = false →
    GivesSettings lib read path (.error (.settings (.missingFile path)))
  | unreadable {e : FileError} : read.finds path = true → read.readText path = .error e →
    GivesSettings lib read path (.error (.file e))
  | malformed {t : Text} : read.readText path = .ok t → lib.settings? t = none →
    GivesSettings lib read path (.error (.settings .malformed))
  | invalid {t : Text} {s : Settings} {e : ServerError} : read.readText path = .ok t →
    lib.settings? t = some s → lib.urls.serverUrl s.render = .error e →
    GivesSettings lib read path (.error (.settings (.invalid e)))
  | valid {t : Text} {s : Settings} {url : α} : read.readText path = .ok t →
    lib.settings? t = some s → lib.urls.serverUrl s.render = .ok url →
    GivesSettings lib read path (.ok s)

variable {lib : Libraries α} {read : FileReader} {path : Text} {result : Except Failure Settings}

/-- Once there is a text, its form is checked, and then the server. -/
theorem readSettings_of_readText {t : Text} (h : read.readText path = .ok t) :
    lib.readSettings read path =
      match lib.settings? t with
      | none => .error (.settings .malformed)
      | some s =>
        match lib.urls.serverUrl s.render with
        | .error e => .error (.settings (.invalid e))
        | .ok _ => .ok s := by
  unfold readSettings
  rw [FileReader.finds_of_readText h, h]
  rfl

theorem readSettings_eq_iff :
    lib.readSettings read path = result ↔ lib.GivesSettings read path result := by
  constructor
  · rintro rfl
    cases htext : read.readText path with
    | ok t =>
      rw [readSettings_of_readText htext]
      split
      · next hread => exact .malformed htext hread
      · next s hread =>
        split
        · next e hserver => exact .invalid htext hread hserver
        · next url hserver => exact .valid htext hread hserver
    | error e =>
      unfold readSettings
      cases hfinds : read.finds path with
      | false => exact .missing hfinds
      | true =>
        rw [htext]
        exact .unreadable hfinds htext
  · intro h
    cases h with
    | missing hfinds => rw [readSettings, hfinds]; rfl
    | unreadable hfinds htext => rw [readSettings, hfinds, htext]; rfl
    | malformed htext hread => rw [readSettings_of_readText htext, hread]
    | invalid htext hread hserver =>
      rw [readSettings_of_readText htext, hread]
      simp only [hserver]
    | valid htext hread hserver =>
      rw [readSettings_of_readText htext, hread]
      simp only [hserver]

end Libraries

/-! Where settings come from. -/

inductive SettingsPlace where
  | named (path : Text)
  | workingDirectory
  | platform (path : Text)
  | defaults

namespace SettingsPlace

def inOrder (named platform : Option Text) : List SettingsPlace :=
  named.toList.map .named ++ workingDirectory :: (platform.toList.map .platform ++ [defaults])

/-- The place is not passed over: a file that was named never is, and another one only if it does
not exist. -/
def counts (read : FileReader) : SettingsPlace → Bool
  | named _ => true
  | workingDirectory => read.finds localSettingsPath
  | platform path => read.finds path
  | defaults => true

def Gives {α : Type} (lib : Libraries α) (read : FileReader) (result : Except Failure Settings) :
    SettingsPlace → Prop
  | named path => lib.GivesSettings read path result
  | workingDirectory => lib.GivesSettings read localSettingsPath result
  | platform path => lib.GivesSettings read path result
  | defaults => result = .ok .default

structure IsFirst (read : FileReader) (named platform : Option Text) (place : SettingsPlace) :
    Prop where
  counts : place.counts read = true
  first : ∃ before after, inOrder named platform = before ++ place :: after ∧
    ∀ p ∈ before, p.counts read = false

variable {α : Type} {lib : Libraries α} {read : FileReader} {named platform : Option Text}
  {place : SettingsPlace} {result : Except Failure Settings}

theorem isFirst_iff : IsFirst read named platform place ↔
    (inOrder named platform).find? (counts read) = some place := by
  rw [List.find?_eq_some_iff_append]
  simp only [Bool.not_eq_true']
  exact ⟨fun h => ⟨h.counts, h.first⟩, fun h => ⟨h.1, h.2⟩⟩

theorem exists_find?_inOrder (lib : Libraries α) (read : FileReader)
    (named platform : Option Text) :
    ∃ place, (inOrder named platform).find? (counts read) = some place ∧
      ∀ result, lib.loadSettings read named platform = result ↔ place.Gives lib read result := by
  cases named with
  | some path => exact ⟨.named path, rfl, fun _ => Libraries.readSettings_eq_iff⟩
  | none =>
    unfold Libraries.loadSettings
    cases hlocal : read.finds localSettingsPath with
    | true =>
      exact ⟨.workingDirectory, List.find?_cons_of_pos hlocal,
        fun _ => Libraries.readSettings_eq_iff⟩
    | false =>
      have hpassed : (inOrder none platform).find? (counts read) =
          (platform.toList.map SettingsPlace.platform ++ [defaults]).find? (counts read) :=
        List.find?_cons_of_neg (by simp [counts, hlocal])
      rw [hpassed]
      cases platform with
      | none => exact ⟨.defaults, rfl, fun _ => eq_comm⟩
      | some path =>
        cases hpath : read.finds path with
        | true =>
          refine ⟨.platform path, List.find?_cons_of_pos hpath, fun _ => ?_⟩
          rw [Option.filter_some, if_pos hpath]
          exact Libraries.readSettings_eq_iff
        | false =>
          refine ⟨.defaults, by simp [counts, hpath], fun _ => ?_⟩
          rw [Option.filter_some, if_neg (Bool.eq_false_iff.1 hpath)]
          exact eq_comm

/-- What is loaded is what the first place gives, be it settings or a failure. -/
theorem loadSettings_eq_iff : lib.loadSettings read named platform = result ↔
    ∃ place, IsFirst read named platform place ∧ place.Gives lib read result := by
  obtain ⟨place, hfirst, hgives⟩ := exists_find?_inOrder lib read named platform
  constructor
  · exact fun h => ⟨place, isFirst_iff.2 hfirst, (hgives result).1 h⟩
  · rintro ⟨other, hother, h⟩
    cases (isFirst_iff.1 hother).symm.trans hfirst
    exact (hgives result).2 h

end SettingsPlace

/-! Rendering under loaded settings. -/

/-- Under these settings every diagram has its address or no content, at their own level and at any
other. -/
structure Settings.CanRender {α : Type} (lib : Libraries α) (s : Settings) : Prop where
  serverUrl : ∃ url, lib.urls.serverUrl s.render = .ok url
  renderUrl : ∀ (source : Text) (level : Option Level), ∃ address,
    lib.renderUrl source (s.withLevel level).level (s.withLevel level).render = .ok address

section

variable {α : Type} {lib : Libraries α} {read : FileReader} {named platform : Option Text}
  {s : Settings}

theorem Settings.canRender_of_serverUrl {url : α} (h : lib.urls.serverUrl s.render = .ok url) :
    s.CanRender lib := by
  refine ⟨⟨url, h⟩, fun source level => ?_⟩
  unfold Libraries.renderUrl
  rw [show (s.withLevel level).render = s.render from rfl, h]
  dsimp only
  split <;> exact ⟨_, rfl⟩

/-- Each place has seen to the server of the settings that it gives. -/
theorem SettingsPlace.canRender_of_gives
    (hdefault : ∃ url, lib.urls.serverUrl .default = .ok url) {place : SettingsPlace}
    (h : place.Gives lib read (.ok s)) : s.CanRender lib := by
  have hfile {path : Text} (hf : lib.GivesSettings read path (.ok s)) : s.CanRender lib := by
    cases hf with
    | valid _ _ hserver => exact Settings.canRender_of_serverUrl hserver
  cases place with
  | named path => exact hfile h
  | workingDirectory => exact hfile h
  | platform path => exact hfile h
  | defaults =>
    cases h
    obtain ⟨url, hurl⟩ := hdefault
    exact Settings.canRender_of_serverUrl hurl

theorem Libraries.canRender_of_loadSettings
    (hdefault : ∃ url, lib.urls.serverUrl .default = .ok url)
    (h : lib.loadSettings read named platform = .ok s) : s.CanRender lib := by
  obtain ⟨place, -, hgives⟩ := SettingsPlace.loadSettings_eq_iff.1 h
  exact SettingsPlace.canRender_of_gives hdefault hgives

end

/-! So no command is told late that its server cannot be asked. -/

theorem loadSettings_ne_server (read : FileReader) (named platform : Option Text)
    (e : ServerError) : loadSettings read named platform ≠ .error (.settings (.server e)) := by
  intro h
  obtain ⟨place, -, hgives⟩ := SettingsPlace.loadSettings_eq_iff.1 h
  cases place <;> cases hgives

namespace Invocation

theorem bind_ne_error {ε α β : Type} {x : Except ε α} {f : α → Except ε β} {e : ε}
    (hx : x ≠ .error e) (hf : ∀ a, x = .ok a → f a ≠ .error e) : (x >>= f) ≠ .error e := by
  cases x with
  | error e' =>
    rintro ⟨⟩
    exact hx rfl
  | ok a => exact hf a rfl

theorem mapError_ne_error {ε ε' α : Type} {x : Except ε α} {f : ε → ε'} {e : ε'}
    (h : ∀ e', f e' ≠ e) : x.mapError f ≠ .error e := by
  cases x with
  | error e' => exact fun he => h e' (Except.error.inj he)
  | ok a => nofun

/-- Only the address of a diagram is asked of a server, and then the settings have been loaded. -/
theorem effect_ne_server (read : FileReader) (platform : Option Text) (i : Invocation)
    (e : ServerError) : i.effect read platform ≠ .error (.settings (.server e)) := by
  obtain ⟨settingsPath, command⟩ := i
  have hread {input : Text} {next : Text → Settings → Except Failure Effect}
      (hnext : ∀ text settings, loadSettings read settingsPath platform = .ok settings →
        next text settings ≠ .error (.settings (.server e))) :
      ((read.readText input).mapError Failure.file >>= fun text =>
        loadSettings read settingsPath platform >>= next text) ≠
        .error (.settings (.server e)) :=
    bind_ne_error (mapError_ne_error nofun) fun text _ =>
      bind_ne_error (loadSettings_ne_server read settingsPath platform e) (hnext text)
  cases command with
  | new output => nofun
  | outline input => exact hread nofun
  | check input => exact hread fun _ _ _ => bind_ne_error (mapError_ne_error nofun) nofun
  | addElement input element level output =>
    exact hread fun _ _ _ => bind_ne_error (mapError_ne_error nofun) nofun
  | addRelation input relation output =>
    exact hread fun _ _ _ => bind_ne_error (mapError_ne_error nofun) nofun
  | normalize input level output => exact hread nofun
  | url input level =>
    refine hread fun text settings hs => ?_
    obtain ⟨address, haddress⟩ : ∃ address,
        renderUrl text (settings.withLevel level).level settings.render = .ok address :=
      (Libraries.canRender_of_loadSettings exists_serverUrl_default hs).renderUrl text level
    rw [haddress]
    cases address <;> nofun

end Invocation

theorem FileSystem.run_ne_server {σ : Type} (fs : FileSystem σ) (files : σ)
    (platform : Option Text) (i : Invocation) (e : ServerError) :
    (fs.run files platform i).failure ≠ some (.settings (.server e)) := by
  rw [run_eq]
  split
  · next f heffect =>
    rintro ⟨⟩
    exact i.effect_ne_server _ _ e heffect
  · nofun
  · split <;> nofun

/-- The text of the error that a path without segments would end in is that of no other error. -/
theorem RenderError.message_ne {e : RenderError} (h : e ≠ .noPathSegments) :
    e.message ≠ noPathSegments.message := by
  intro heq
  cases e with
  | noPathSegments => exact h rfl
  | server e =>
    cases e with
    | invalidUrl given e =>
      have hfirst : some 'I' = some 'R' := congrArg List.head? heq
      cases hfirst
    | noPathSegments given =>
      have hquote : some '\x60' = some 'c' := congrArg (fun t : Text => t[18]?) heq
      cases hquote

namespace Libraries

variable {α : Type} {lib : Libraries α}

theorem ne_noPathSegments_of_renderUrlInSteps
    (h : ∀ u, lib.urls.takesSegments u = !lib.urls.isOpaque u) {source : Text} {level : Level}
    {render : RenderSettings} {e : RenderError}
    (he : lib.renderUrlInSteps source level render = .error e) : e ≠ .noPathSegments := by
  rw [renderUrlInSteps_of_takesSegments h] at he
  cases hr : lib.renderUrl source level render with
  | ok address =>
    rw [hr] at he
    cases he
  | error server =>
    rw [hr] at he
    cases he
    nofun

/-- What is loaded comes from the first place that counts. Loaded settings name a server that can be
asked, so that under them every diagram has its address, at any level. Under any settings, the path
of a server that was accepted takes segments. All this is so for any reader of settings, and for any
addresses whose path takes segments unless it is opaque and among which is the public server. -/
theorem loadSettings_spec (h : ∀ u, lib.urls.takesSegments u = !lib.urls.isOpaque u)
    (hdefault : ∃ url, lib.urls.serverUrl .default = .ok url) (read : FileReader)
    (named platform : Option Text) :
    (∀ result, lib.loadSettings read named platform = result ↔
      ∃ place, SettingsPlace.IsFirst read named platform place ∧ place.Gives lib read result) ∧
    (∀ settings, lib.loadSettings read named platform = .ok settings →
      settings.CanRender lib) ∧
    ∀ (source : Text) (level : Level) (render : RenderSettings),
      lib.renderUrlInSteps source level render =
        (lib.renderUrl source level render).mapError .server ∧
      ∀ e, lib.renderUrlInSteps source level render = .error e →
        e ≠ .noPathSegments ∧ e.message ≠ RenderError.noPathSegments.message := by
  refine ⟨fun _ => SettingsPlace.loadSettings_eq_iff,
    fun _ hs => canRender_of_loadSettings hdefault hs, fun source level render =>
      ⟨renderUrlInSteps_of_takesSegments h source level render, fun e he => ?_⟩⟩
  have hne := ne_noPathSegments_of_renderUrlInSteps h he
  exact ⟨hne, RenderError.message_ne hne⟩

end Libraries

/-- The same of the settings and the addresses of this library. -/
theorem loadSettings_canRender (read : FileReader) (named platform : Option Text) :
    (∀ result, loadSettings read named platform = result ↔
      ∃ place, SettingsPlace.IsFirst read named platform place ∧
        place.Gives Libraries.own read result) ∧
    (∀ settings, loadSettings read named platform = .ok settings →
      settings.CanRender Libraries.own) ∧
    ∀ (source : Text) (level : Level) (render : RenderSettings),
      renderUrlInSteps source level render = (renderUrl source level render).mapError .server ∧
      ∀ e, renderUrlInSteps source level render = .error e →
        e ≠ .noPathSegments ∧ e.message ≠ RenderError.noPathSegments.message :=
  Libraries.loadSettings_spec Url.operations_lawful.takesSegments exists_serverUrl_default read
    named platform

/-- Settings of the platform that name a server and leave the rest to the defaults, where the
working directory has none. -/
theorem loadSettings_canRender_platform :
    let t : Text := "[render]\nserver_url = \"p://h/x\"\n".toList
    let files : Files := ⟨[(["p.toml".toList], .file t.utf8)], []⟩
    let settings : Settings := ⟨⟨"p://h/x".toList, .svg⟩, .default⟩
    loadSettings files.read none (some "/p.toml".toList) = .ok settings ∧
      settings.CanRender Libraries.own := by
  intro t files settings
  have hload : loadSettings files.read none (some "/p.toml".toList) = .ok settings := by
    decide +kernel
  exact ⟨hload, (loadSettings_canRender files.read none _).2.1 settings hload⟩

end C4Diagram
