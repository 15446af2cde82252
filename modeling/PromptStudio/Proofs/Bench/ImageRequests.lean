import PromptStudio.Proofs.Bench.Attempts

/-!
# Requests for an image

An order with a key and reference images that open is sent up to three times, each time with the same
contents and settings. The image of the last attempt is given back, and nothing if it failed.
-/

namespace PromptStudio.Generation

open Service (answers attemptCalls Ends makeClient persist isKeyRefused maxAttempts)

variable {lang : Language} {b : Bench}

theorem makeClient_apply (h : b.service.clientFault = none) (key : Value) :
    makeClient key b = (.ok (.client key), b.record (.clientMade key)) := by
  simp [makeClient, recordEvent, Step.bind_apply, Bench.record, h]

/-- The reference images that open. One that cannot be read is passed over, and loading breaks off at
one that fails in another way. -/
def loaded (files : FileTree) : List Value → Except Fault (List Picture)
  | [] => .ok []
  | path :: rest =>
    match files.pictureAt path with
    | .ok p => (loaded files rest).map (p :: ·)
    | .error fault => if fault.ofSystem then loaded files rest else .error fault

variable {paths : List Value} {pictures : List Picture}

theorem loaded_of_mapM {files : FileTree} (h : paths.mapM files.pictureAt = .ok pictures) :
    loaded files paths = .ok pictures := by
  induction paths generalizing pictures with
  | nil =>
    cases h
    rfl
  | cons path paths ih =>
    rw [List.mapM_cons] at h
    cases hfirst : files.pictureAt path with
    | error fault => simp [hfirst, bind, Except.bind] at h
    | ok picture =>
      cases hrest : paths.mapM files.pictureAt with
      | error fault => simp [hfirst, hrest, bind, Except.bind] at h
      | ok rest =>
        obtain rfl : picture :: rest = pictures := by
          simpa [hfirst, hrest, bind, Except.bind, pure, Except.pure] using h
        rw [loaded, hfirst, ih hrest]
        rfl

/-- Images are opened one by one, in order. -/
theorem openImages_apply (hb : lang.Ready b) (paths : List Value) :
    ∃ b', b.Quiet b' ∧
      openImages paths b = ((loaded b.files paths).map (·.map .picture), b') := by
  induction paths generalizing b with
  | nil => exact ⟨b, .refl b, rfl⟩
  | cons path paths ih =>
    rw [openImages, Step.get_bind, loaded]
    cases b.files.pictureAt path with
    | ok p =>
      obtain ⟨b', hquiet, hrest⟩ := ih hb
      refine ⟨b', hquiet, ?_⟩
      dsimp only
      rw [Step.bind_apply, hrest]
      cases loaded b.files paths <;> rfl
    | error fault =>
      cases hsystem : fault.ofSystem with
      | false => exact ⟨b, .refl b, by simp only [hsystem]; rfl⟩
      | true =>
        obtain ⟨b₁, hquiet₁, hlog⟩ := Language.log_bind_apply "api_log_skipImg"
          [("path", path), ("err", fault.toValue)] (by simp [Language.logTemplates])
          hb fun _ => openImages paths
        obtain ⟨b', hquiet, hrest⟩ := ih (hb.quiet hquiet₁)
        rw [hquiet₁.files_eq] at hrest
        refine ⟨b', hquiet₁.trans hquiet, ?_⟩
        simp only [hsystem, if_true]
        exact hlog.trans hrest

variable {order : Order}

theorem contents_apply (hb : lang.Ready b) (himages : order.images = .list paths) :
    ∃ b', b.Quiet b' ∧ contents order b = ((loaded b.files paths).map fun pictures =>
      (if order.prompt.truthy then [order.prompt] else []) ++ pictures.map .picture, b') := by
  rw [contents, himages]
  cases paths with
  | nil => exact ⟨b, .refl b, by simp [Value.truthy, loaded, Except.map]⟩
  | cons path paths =>
    obtain ⟨b₁, hquiet₁, hb₁⟩ := Language.log_bind_apply "api_log_loadingImgs"
      [("count", .int (path :: paths).length)] (by simp [Language.logTemplates])
      hb fun _ => do
        pure ((if order.prompt.truthy then [order.prompt] else []) ++ (← openImages (path :: paths)))
    obtain ⟨b', hquiet, hopen⟩ := openImages_apply (hb.quiet hquiet₁) (path :: paths)
    rw [hquiet₁.files_eq] at hopen
    refine ⟨b', hquiet₁.trans hquiet, hb₁.trans ?_⟩
    rw [Step.bind_apply, hopen]
    cases loaded b.files (path :: paths) <;> rfl

theorem exists_gives_config (model ratio resolution : String) :
    ∃ settings, lang.Gives (config (.text model) (.text ratio) (.text resolution)) (.ok settings) := by
  refine (Language.gives_orFail (.ok (Path.contains model "gemini-2.5"))).exists_bind ?_
  dsimp only
  split
  · exact (Language.gives_say _).exists_bind
      ((Language.gives_logText _).exists_bind ⟨_, Language.gives_pure _⟩)
  · exact ⟨_, Language.gives_pure _⟩

variable {model settings : Value}

section

variable (hb : lang.Ready b)
include hb

theorem dispatch_apply (himages : order.images = .list paths)
    (hsettings : lang.Gives (config model order.ratio order.resolution) (.ok settings))
    (contents : List Value) (ratioText : Value) (promptLength : Nat) :
    ∃ b', b.Quiet b' ∧ dispatch order model contents ratioText promptLength b =
      persist isKeyRefused (request model contents settings) b' := by
  rw [dispatch, himages]
  obtain ⟨b₁, hquiet₁, hb₁⟩ := Language.log_bind_apply "api_log_requestInfo"
    [("prompt_len", .int promptLength), ("img_count", .int paths.length)]
    (by simp [Language.logTemplates]) hb fun _ => do
      logValue (← Texts.sayWith "api_log_requestSent"
        [("model", model), ("ar", ratioText), ("res", order.resolution)])
      let config ← config model order.ratio order.resolution
      persist isKeyRefused (request model contents config)
  have hready₁ := hb.quiet hquiet₁
  obtain ⟨b₂, hquiet₂, hb₂⟩ := Language.log_bind_apply "api_log_requestSent"
    [("model", model), ("ar", ratioText), ("res", order.resolution)] (by simp [Language.logTemplates])
    hready₁ fun _ => do
      let config ← config model order.ratio order.resolution
      persist isKeyRefused (request model contents config)
  obtain ⟨b₃, hquiet₃, hb₃⟩ := hsettings.bind_apply (hready₁.quiet hquiet₂) fun config =>
    persist isKeyRefused (request model contents config)
  exact ⟨b₃, (hquiet₁.trans hquiet₂).trans hquiet₃, hb₁.trans (hb₂.trans hb₃)⟩

/-- An order with a key is sent, after a client has been made, images have been loaded and some lines
have been logged. -/
theorem generate_of_loaded {ratio : String} {contents : List Value}
    (hkey : order.key.truthy = true) (hclient : b.service.clientFault = none)
    (himages : order.images = .list paths) (hloaded : loaded b.files paths = .ok pictures)
    (hprompt : order.prompt.truthy = true → ∃ n, order.prompt.length = .ok n)
    (hratio : order.ratio = .text ratio)
    (hmodel : (if order.model.truthy then order.model else .text Options.defaultModel) = model)
    (hcontents : (if order.prompt.truthy then [order.prompt] else []) ++ pictures.map .picture = contents)
    (hsettings : lang.Gives (config model order.ratio order.resolution) (.ok settings)) :
    ∃ b', (b.record (.clientMade order.key)).Quiet b' ∧ generate order b =
      persist isKeyRefused (request model contents settings) b' := by
  have hready₁ := hb.record (.clientMade order.key)
  obtain ⟨b₂, hquiet₂, hb₂⟩ := contents_apply hready₁ himages
  have hfiles : (b.record (.clientMade order.key)).files = b.files := rfl
  rw [hfiles, hloaded, Except.map, hcontents] at hb₂
  have hready₂ := hready₁.quiet hquiet₂
  obtain ⟨ratioText, hlookup⟩ : ∃ text,
      lang.Gives (Texts.lookup order.ratio order.ratio []) (.ok text) := by
    rw [hratio]
    exact ⟨_, Language.gives_lookup ratio ratio⟩
  obtain ⟨b₃, hquiet₃, hb₃⟩ := hlookup.bind_apply hready₂ fun ratioText =>
    if order.prompt.truthy then
      orFail (order.prompt.length.mapError .value) >>= dispatch order model contents ratioText
    else pure 0 >>= dispatch order model contents ratioText
  have hquiet := hquiet₂.trans hquiet₃
  have hsend := dispatch_apply (hready₁.quiet hquiet) himages hsettings contents ratioText
  have hstart : generate order b = (if order.prompt.truthy then
      orFail (order.prompt.length.mapError .value) >>= dispatch order model contents ratioText
    else pure 0 >>= dispatch order model contents ratioText) b₃ := by
    rw [generate, if_neg (by simp [hkey]), Step.bind_of_ok (makeClient_apply hclient _),
      Step.bind_of_ok hb₂, hmodel]
    exact hb₃
  by_cases htruthy : order.prompt.truthy = true
  · obtain ⟨n, hn⟩ := hprompt htruthy
    obtain ⟨b', hquiet', hb'⟩ := hsend n
    rw [if_pos htruthy, hn] at hstart
    exact ⟨b', hquiet.trans hquiet', hstart.trans hb'⟩
  · obtain ⟨b', hquiet', hb'⟩ := hsend 0
    rw [if_neg htruthy] at hstart
    exact ⟨b', hquiet.trans hquiet', hstart.trans hb'⟩

theorem generate_of_not_loaded {fault : Fault} (hkey : order.key.truthy = true)
    (hclient : b.service.clientFault = none) (himages : order.images = .list paths)
    (hloaded : loaded b.files paths = .error fault) :
    ∃ b', (b.record (.clientMade order.key)).Quiet b' ∧ generate order b = (.error fault, b') := by
  obtain ⟨b', hquiet, hb'⟩ := contents_apply (hb.record (.clientMade order.key)) himages
  have hfiles : (b.record (.clientMade order.key)).files = b.files := rfl
  rw [hfiles, hloaded, Except.map] at hb'
  refine ⟨b', hquiet, ?_⟩
  rw [generate, if_neg (by simp [hkey]), Step.bind_of_ok (makeClient_apply hclient _)]
  exact Step.bind_of_error hb'

end

/-- The parts of a prompt: itself, unless it is missing or empty. -/
def promptParts : Option String → List Value
  | none => []
  | some s => if s = "" then [] else [.text s]

/-- An order for an image, made of texts. -/
def textOrder (prompt : Option String) (paths : List String) (key model ratio resolution : String) :
    Order where
  prompt := prompt.elim .null .text
  images := .list (paths.map .text)
  key := .text key
  model := .text model
  ratio := .text ratio
  resolution := .text resolution

theorem promptParts_eq (prompt : Option String) :
    (if (prompt.elim Value.null Value.text).truthy then [prompt.elim Value.null Value.text] else []) =
      promptParts prompt := by
  cases prompt with
  | none => rfl
  | some s => by_cases hs : s = "" <;> simp [promptParts, Value.truthy, hs]

/-- An order made of texts is sent with its prompt and the images that load. -/
theorem generate_textOrder (prompt : Option String) (model ratio resolution : String) {key : String}
    {paths : List String} {pictures : List Picture} (hb : lang.Ready b)
    (hclient : b.service.clientFault = none) (hkey : key ≠ "")
    (hloaded : loaded b.files (paths.map .text) = .ok pictures) :
    let model' := Value.text (if model = "" then Options.defaultModel else model)
    ∃ settings b', lang.Gives (config model' (.text ratio) (.text resolution)) (.ok settings) ∧
      (b.record (.clientMade (.text key))).Quiet b' ∧
      generate (textOrder prompt paths key model ratio resolution) b = persist isKeyRefused
        (request model' (promptParts prompt ++ pictures.map .picture) settings) b' := by
  intro model'
  let order := textOrder prompt paths key model ratio resolution
  obtain ⟨settings, hsettings⟩ : ∃ settings, lang.Gives
      (config model' (.text ratio) (.text resolution)) (.ok settings) := exists_gives_config _ _ _
  have hprompt : order.prompt.truthy = true → ∃ n, order.prompt.length = .ok n := by
    cases prompt with
    | none => nofun
    | some s => exact fun _ => ⟨s.length, rfl⟩
  have hkey' : order.key.truthy = true := by simp [order, textOrder, Value.truthy, hkey]
  obtain ⟨b', hsent⟩ := generate_of_loaded hb hkey' hclient rfl hloaded hprompt rfl
    (Value.text_or_default model _) (congrArg (· ++ _) (promptParts_eq prompt)) hsettings
  exact ⟨settings, b', hsettings, hsent⟩

/-- A service that is busy at first and then sends an image; a reference image lies on the disk. -/
def busyOnce : Bench where
  clock := .ofInt 1700000000
  files := { root := .folder [("w", .folder [("cat.png", .file (.encoded 4 4 "PNG") none)])] }
  catalog := { table := Catalog.ofPairs Catalog.english }
  service := { replies := [.fails "503 busy", .answers {
    parts := some [⟨some (.encoded 8 8 "PNG"), none, .missing⟩]
    candidates := none
    feedback := .none
    usage := none }] }

end PromptStudio.Generation
